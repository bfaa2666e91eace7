import Mathlib.Data.List.Perm.Basic
import Mathlib.Logic.Function.Iterate
import Mathlib.Order.Bounds.Basic
import Gamebook.Proofs.Story.Orphans
import Gamebook.Proofs.Story.WellFormed

/-!
The search for what links lead to, and the blocks that it reaches. Each turn of the search settles one
place, so it ends after as many turns as there are places to come by. What it leaves is the complement of
the least set of blocks that holds the first scene and all that its own links lead to.
-/

namespace Gamebook.Story

open Gamebook.Text Gamebook.Source

variable {story : Story} {checked : Checked} {text : Text} {place : Place} {entry : Entry} {blocks : Set Entry}

/-- How far a search has come: the places it has still to visit, and the stops not reached yet. -/
structure Search where
  places : List Place
  unreached : List Stop

namespace Search

/-- The next place is visited: its stops are reached, and what they lead to is visited last. -/
def turn : Search → Search
  | ⟨[], unreached⟩ => ⟨[], unreached⟩
  | ⟨place :: rest, unreached⟩ =>
    ⟨rest ++ (stopsAt place unreached).flatMap Stop.leadsTo, stopsElsewhere place unreached⟩

/-- The visits that a search may still make: to its places, and to all that unreached stops lead to. -/
def visits (search : Search) : Nat :=
  search.places.length + (search.unreached.flatMap Stop.leadsTo).length

theorem length_leadsTo_split (place : Place) (stops : List Stop) :
    ((stopsAt place stops).flatMap Stop.leadsTo).length +
        ((stopsElsewhere place stops).flatMap Stop.leadsTo).length =
      (stops.flatMap Stop.leadsTo).length := by
  have whole : (stopsAt place stops ++ stopsElsewhere place stops).Perm stops := by
    simpa [stopsAt, stopsElsewhere] using List.filter_append_perm (fun stop => stop.place = place) stops
  have same := (whole.flatMap_right Stop.leadsTo).length_eq
  rwa [List.flatMap_append, List.length_append] at same

/-- A turn makes one visit, whatever the stops lead to. -/
theorem visits_turn (place : Place) (rest : List Place) (stops : List Stop) :
    (turn ⟨place :: rest, stops⟩).visits + 1 = visits ⟨place :: rest, stops⟩ := by
  have split := length_leadsTo_split place stops
  simp only [turn, visits, List.length_append, List.length_cons]
  omega

theorem unreachedFrom_turn (search : Search) :
    unreachedFrom search.turn.places search.turn.unreached =
      unreachedFrom search.places search.unreached := by
  obtain ⟨places, unreached⟩ := search
  cases places with
  | nil => rfl
  | cons place rest =>
      rw [unreachedFrom.eq_def (place :: rest)]
      by_cases absent : stopsAt place unreached = []
      · simp [turn, absent, stopsElsewhere_of_stopsAt_nil absent]
      · simp [turn, absent]

/-- The search ends on every graph of links, after as many turns as it may make visits. -/
theorem iterate_turn (search : Search) :
    turn^[search.visits] search = ⟨[], unreachedFrom search.places search.unreached⟩ := by
  generalize count : search.visits = visits
  induction visits generalizing search with
  | zero =>
      obtain ⟨places, unreached⟩ := search
      cases places with
      | nil => simp [unreachedFrom]
      | cons place rest => simp [visits] at count
  | succ visits ih =>
      obtain ⟨places, unreached⟩ := search
      cases places with
      | nil =>
          rw [Function.iterate_fixed (rfl : turn ⟨[], unreached⟩ = _), unreachedFrom]
      | cons place rest =>
          have one := visits_turn place rest unreached
          rw [Function.iterate_succ_apply, ih _ (by omega), unreachedFrom_turn]

end Search

namespace Entry

/-- A block as the search sees it. -/
def toStop : Entry → Stop
  | .scene given => given.toStop
  | .action given => given.toStop

/-- The report that nothing leads to a block. -/
def orphan : Entry → Orphan
  | .scene given => ⟨given.name, .scene, given.line⟩
  | .action given => ⟨given.name, .action, given.line⟩

@[simp] theorem orphan_toStop (entry : Entry) : entry.toStop.orphan = entry.orphan := by
  cases entry <;> rfl

@[simp] theorem line_orphan (entry : Entry) : entry.orphan.line = entry.line := by
  cases entry <;> rfl

theorem leadsTo_toStop (entry : Entry) : entry.toStop.leadsTo = entry.links.flatMap Link.leadsTo := by
  cases entry <;> rfl

end Entry

@[simp] theorem scene_mem_entries {scene : Scene} :
    Entry.scene scene ∈ story.entries ↔ scene ∈ story.allScenes := by
  simp [entries]

@[simp] theorem action_mem_entries {action : Action} :
    Entry.action action ∈ story.entries ↔ action ∈ story.allActions := by
  simp [entries]

theorem stops_eq (story : Story) : story.stops = story.entries.map Entry.toStop := by
  rw [entries, List.map_append, List.map_map, List.map_map]
  rfl

/-- These blocks hold every variant of the first scene, and with each block all that its links lead to:
every variant of their scenes and the actions of their toggles. -/
structure HoldsLinked (story : Story) (blocks : Set Entry) : Prop where
  first : ∀ scene ∈ story.variants story.firstScene, Entry.scene scene ∈ blocks
  scenes : ∀ entry ∈ blocks, ∀ link ∈ entry.links, ∀ key, link.scene = some key →
    ∀ scene ∈ story.variants key, Entry.scene scene ∈ blocks
  actions : ∀ entry ∈ blocks, ∀ link ∈ entry.links, ∀ toggle ∈ link.toggles,
    ∀ action, story.action? toggle = some action → Entry.action action ∈ blocks

/-- The blocks that a path of links leads to. -/
def reached (story : Story) : Set Entry :=
  {entry | entry ∈ story.entries ∧ story.LeadsTo entry.toStop.place}

theorem leadsTo_of_link {link : Link} (inside : entry ∈ story.reached) (listed : link ∈ entry.links)
    (leads : place ∈ link.leadsTo) : story.LeadsTo place := by
  have known : entry.toStop ∈ story.stops := by
    rw [stops_eq]
    exact List.mem_map_of_mem inside.1
  apply inside.2.behind known
  rw [entry.leadsTo_toStop]
  exact List.mem_flatMap.mpr ⟨link, listed, leads⟩

theorem scene_mem_reached {scene : Scene} {key : Text} (keyed : story.WellKeyed)
    (led : story.LeadsTo (.scene key)) (variant : scene ∈ story.variants key) :
    Entry.scene scene ∈ story.reached := by
  constructor
  · exact scene_mem_entries.mpr (mem_allScenes_of_variants variant)
  · rw [← keyed.key_of_variants variant] at led
    exact led

theorem action_mem_reached {action : Action} {toggle : Text} (distinct : story.IsDistinct)
    (led : story.LeadsTo (.action toggle)) (found : story.action? toggle = some action) :
    Entry.action action ∈ story.reached := by
  constructor
  · exact action_mem_entries.mpr (mem_allActions_of_action? found)
  · rw [← distinct.key_of_action? found] at led
    exact led

theorem holdsLinked_reached (keyed : story.WellKeyed) (distinct : story.IsDistinct) :
    story.HoldsLinked story.reached where
  first scene variant := scene_mem_reached keyed (.here List.mem_cons_self) variant
  scenes entry inside link listed key target scene variant := by
    have leads : Place.scene key ∈ link.leadsTo := mem_leadsTo.mpr (.inl ⟨key, target, rfl⟩)
    exact scene_mem_reached keyed (leadsTo_of_link inside listed leads) variant
  actions entry inside link listed toggle set action found := by
    have leads : Place.action toggle ∈ link.leadsTo := mem_leadsTo.mpr (.inr ⟨toggle, set, rfl⟩)
    exact action_mem_reached distinct (leadsTo_of_link inside listed leads) found

/-- Blocks that hold what they lead to hold all blocks of a place that they lead to. -/
theorem HoldsLinked.mem_of_link (holds : story.HoldsLinked blocks) (keyed : story.WellKeyed)
    (distinct : story.IsDistinct) {link : Link} {other : Entry} (inside : other ∈ blocks)
    (listed : link ∈ other.links) (leads : entry.toStop.place ∈ link.leadsTo)
    (member : entry ∈ story.entries) : entry ∈ blocks := by
  cases entry with
  | scene scene =>
      rcases mem_leadsTo.mp leads with ⟨key, target, same⟩ | ⟨toggle, _, same⟩
      · obtain rfl : scene.key = key := Place.scene.inj same
        have variant := mem_variants_of_mem_allScenes keyed distinct (scene_mem_entries.mp member)
        exact holds.scenes other inside link listed _ target scene variant
      · cases same
  | action action =>
      rcases mem_leadsTo.mp leads with ⟨key, _, same⟩ | ⟨toggle, set, same⟩
      · cases same
      · obtain rfl : action.key = toggle := Place.action.inj same
        have found := distinct.action?_key (action_mem_entries.mp member)
        exact holds.actions other inside link listed _ set action found

theorem HoldsLinked.mem_of_leadsTo (holds : story.HoldsLinked blocks) (keyed : story.WellKeyed)
    (distinct : story.IsDistinct) (led : story.LeadsTo place) (member : entry ∈ story.entries)
    (there : entry.toStop.place = place) : entry ∈ blocks := by
  unfold LeadsTo at led
  induction led generalizing entry with
  | here first =>
      rw [List.mem_singleton.mp first] at there
      cases entry with
      | scene scene =>
          have variant := mem_variants_of_mem_allScenes keyed distinct (scene_mem_entries.mp member)
          rw [show scene.key = story.firstScene from Place.scene.inj there] at variant
          exact holds.first scene variant
      | action action => cases there
  | behind _ known leads ih =>
      rw [stops_eq] at known
      obtain ⟨other, listed, rfl⟩ := List.mem_map.mp known
      rw [other.leadsTo_toStop] at leads
      obtain ⟨link, inOther, leads⟩ := List.mem_flatMap.mp leads
      exact holds.mem_of_link keyed distinct (ih listed rfl) inOther (there ▸ leads) member

theorem isLeast_reached (keyed : story.WellKeyed) (distinct : story.IsDistinct) :
    IsLeast {blocks | story.HoldsLinked blocks} story.reached := by
  constructor
  · exact holdsLinked_reached keyed distinct
  · intro blocks holds entry inside
    exact holds.mem_of_leadsTo keyed distinct inside.2 inside.1 rfl

theorem mem_orphans_iff_entry {orphan : Orphan} : orphan ∈ story.orphans ↔
    ∃ entry ∈ story.entries, entry ∉ story.reached ∧ entry.orphan = orphan := by
  rw [mem_orphans, stops_eq]
  constructor
  · intro listed
    obtain ⟨stop, known, notLed, rfl⟩ := listed
    obtain ⟨entry, member, rfl⟩ := List.mem_map.mp known
    exact ⟨entry, member, fun inside => notLed inside.2, entry.orphan_toStop.symm⟩
  · intro listed
    obtain ⟨entry, member, missed, rfl⟩ := listed
    exact ⟨entry.toStop, List.mem_map_of_mem member, fun led => missed ⟨member, led⟩, entry.orphan_toStop⟩

/-- Since each block has a line of its own, no two reports stand in one line. -/
theorem pairwise_orphans (apart : (story.entries.map Entry.line).Nodup) :
    story.orphans.Pairwise fun left right => left.line < right.line := by
  have part := ((unreachedFrom_sublist [.scene story.firstScene] story.stops).map Stop.orphan).map Orphan.line
  have lines : (story.stops.map Stop.orphan).map Orphan.line = story.entries.map Entry.line := by
    simp [stops_eq]
  rw [lines] at part
  have apart : (story.orphans.map Orphan.line).Nodup := by
    apply ((List.mergeSort_perm _ _).map Orphan.line).nodup_iff.mpr
    exact apart.sublist part
  have ordered : story.orphans.Pairwise fun left right => left.line ≤ right.line := by
    have sorted : story.orphans.Pairwise fun left right => decide (left.line ≤ right.line) = true := by
      apply List.pairwise_mergeSort
      · intro first second third below above
        simp only [decide_eq_true_eq] at below above ⊢
        omega
      · intro left right
        simp only [Bool.or_eq_true, decide_eq_true_eq]
        omega
    exact sorted.imp of_decide_eq_true
  have different := List.pairwise_map.mp apart
  apply (ordered.and different).imp
  intro left right both
  omega

/-- The orphans are the complement of the least set of blocks that holds the variants of the first scene
and all that its own links lead to: each block outside stands among them once, with its kind, its name
and its line, no block inside does, and they are ordered by their lines. The search that finds them ends
on every graph of links. -/
theorem orphans_complement_reached (accepted : ofText text = .ok checked) :
    (∃ reached, IsLeast {blocks | checked.story.HoldsLinked blocks} reached ∧
      (∀ entry ∈ checked.story.entries, entry ∉ reached → checked.orphans.count entry.orphan = 1) ∧
      (∀ entry ∈ reached, entry.orphan ∉ checked.orphans) ∧
      ∀ orphan ∈ checked.orphans, ∃ entry ∈ checked.story.entries, entry ∉ reached ∧
        entry.orphan = orphan) ∧
    (checked.orphans.Pairwise fun left right => left.line < right.line) ∧
    ∀ search : Search, Search.turn^[search.visits] search =
      ⟨[], unreachedFrom search.places search.unreached⟩ := by
  obtain ⟨_, _, _, _, _, _, _, orphans, _⟩ := ofBlocks_eq_ok accepted
  rw [orphans]
  have apart := (isWellFormed_of_ofText accepted).lines
  have increasing := pairwise_orphans apart
  have least := isLeast_reached (wellKeyed_of_ofText accepted) (isDistinct_of_ofText accepted)
  refine ⟨⟨_, least, ?_, ?_, ?_⟩, increasing, Search.iterate_turn⟩
  · intro entry member missed
    have nodup : checked.story.orphans.Nodup := by
      apply increasing.imp
      intro left right before same
      rw [same] at before
      exact Nat.lt_irrefl _ before
    exact List.count_eq_one_of_mem nodup (mem_orphans_iff_entry.mpr ⟨entry, member, missed, rfl⟩)
  · intro entry inside listed
    obtain ⟨other, member, missed, same⟩ := mem_orphans_iff_entry.mp listed
    have line := congrArg Orphan.line same
    rw [other.line_orphan, entry.line_orphan] at line
    rw [List.inj_on_of_nodup_map apart member inside.1 line] at missed
    exact missed inside
  · intro orphan listed
    exact mem_orphans_iff_entry.mp listed

/-- A shore where a shell can be dug out, and a cave and a lake that lead to each other and to a song, but
that nothing else leads to. -/
def isleSource : Text :=
  "# [Isle](/shore)\n## Shore\n[Dig](#shell)\n### Shell\nWhite.\n## Cave\n[In](/lake)\n".toList
    ++ "## Lake\n[Out](/cave#song)\n### Song\nSoft.\n".toList

def isleStory : Story where
  name := "Isle"
  description := []
  firstScene := "shore"
  scenes := [
    ("shore", [⟨"shore", "Shore", "[Dig](#shell)", 2, .empty,
      [⟨⟨"Dig", "#shell"⟩, 3, 1, none, .empty, ["shell"]⟩]⟩]),
    ("cave", [⟨"cave", "Cave", "[In](/lake)", 6, .empty, [plainLink "In" "/lake" 7 1 "lake" []]⟩]),
    ("lake", [⟨"lake", "Lake", "[Out](/cave#song)", 8, .empty,
      [plainLink "Out" "/cave#song" 9 1 "cave" ["song"]]⟩])]
  actions := [("shell", ⟨"shell", "Shell", "White.", 4, []⟩), ("song", ⟨"song", "Song", "Soft.", 10, []⟩)]

def isleOrphans : List Orphan := [⟨"Cave", .scene, 6⟩, ⟨"Lake", .scene, 8⟩, ⟨"Song", .action, 10⟩]

theorem ofText_isleSource : ofText isleSource = .ok ⟨isleStory, isleOrphans, []⟩ := by
  have cut : Block.ofText (isleSource.dropWhile isByteOrderMark) = [
      ⟨⟨1, "[Isle](/shore)"⟩, 1, []⟩,
      ⟨⟨2, "Shore"⟩, 2, [⟨3, "[Dig](#shell)"⟩]⟩,
      ⟨⟨3, "Shell"⟩, 4, [⟨5, "White."⟩]⟩,
      ⟨⟨2, "Cave"⟩, 6, [⟨7, "[In](/lake)"⟩]⟩,
      ⟨⟨2, "Lake"⟩, 8, [⟨9, "[Out](/cave#song)"⟩]⟩,
      ⟨⟨3, "Song"⟩, 10, [⟨11, "Soft."⟩]⟩] := by decide +kernel
  have reached : isleStory.orphans = isleOrphans := by
    have left : (unreachedFrom [.scene isleStory.firstScene] isleStory.stops).map Stop.orphan =
        isleOrphans := by
      simp [unreachedFrom, isleStory, isleOrphans, stops, allScenes, allActions, stopsAt, stopsElsewhere,
        plainLink, Link.leadsTo, Stop.orphan]
    rw [orphans, left, List.mergeSort_of_pairwise (by decide)]
  have silent : isleStory.referenceWarnings = [] := referenceWarnings_eq_nil.mpr (by decide +kernel)
  rw [ofText, cut, ofBlocks_of_silent rfl (by decide +kernel) (by decide +kernel) rfl silent, reached]

theorem orphans_complement_reached_isle :
    ofText isleSource = .ok ⟨isleStory, isleOrphans, []⟩ ∧
      (∃ reached, IsLeast {blocks | isleStory.HoldsLinked blocks} reached ∧
        (∀ entry ∈ isleStory.entries, entry ∉ reached → isleOrphans.count entry.orphan = 1) ∧
        (∀ entry ∈ reached, entry.orphan ∉ isleOrphans) ∧
        ∀ orphan ∈ isleOrphans, ∃ entry ∈ isleStory.entries, entry ∉ reached ∧
          entry.orphan = orphan) ∧
      (isleOrphans.Pairwise fun left right => left.line < right.line) ∧
      ∀ search : Search, Search.turn^[search.visits] search =
        ⟨[], unreachedFrom search.places search.unreached⟩ :=
  ⟨ofText_isleSource, orphans_complement_reached ofText_isleSource⟩

end Gamebook.Story
