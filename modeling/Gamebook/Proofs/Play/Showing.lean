import Gamebook.Proofs.Play.Payload
import Gamebook.Proofs.Play.Resolution
import Gamebook.Proofs.Story.Distinct
import Gamebook.Proofs.Story.Orphans

/-!
What a reader can come to see, and the orphans of a story. Paths of links ignore conditions, while a
reader follows open links only and sees an action just behind the link that sets its toggle. Still
nothing that a reader can see is an orphan, and where there are no conditions a reader can see all
that is none.
-/

namespace Gamebook.Story

open Gamebook.Text Gamebook.Source Gamebook.Play

variable {story : Story} {state : State} {scene other : Scene} {action : Action} {link : Link}
  {key toggle : Text} {orphan : Orphan} {stop : Stop} {place : Place} {checked : Checked}
  {text : Text}

theorem action_eq_of_line_eq {other : Action} (accepted : ofText text = .ok checked)
    (leftIn : action ∈ checked.story.allActions) (rightIn : other ∈ checked.story.allActions)
    (same : action.line = other.line) : action = other := by
  have built := isBuiltFrom_of_ofText accepted
  obtain ⟨left, leftBlock, rfl⟩ := built.actions _ leftIn
  obtain ⟨right, rightBlock, rfl⟩ := built.actions _ rightIn
  rw [Block.eq_of_line_eq leftBlock rightBlock same]

/-- A block that links lead to is no orphan. -/
theorem line_ne_of_leadsTo_scene (accepted : ofText text = .ok checked)
    (member : scene ∈ checked.story.allScenes) (led : checked.story.LeadsTo (.scene scene.key))
    (listed : orphan ∈ checked.orphans) (ofScene : orphan.kind = .scene) :
    orphan.line ≠ scene.line := by
  obtain ⟨_, _, _, _, _, _, _, orphans, _⟩ := ofBlocks_eq_ok accepted
  rw [orphans] at listed
  obtain ⟨stop, known, notLed, rfl⟩ := mem_orphans.mp listed
  rcases mem_stops.mp known with ⟨other, inside, rfl⟩ | ⟨action, _, rfl⟩
  · intro same
    rw [eq_of_line_eq accepted inside member same] at notLed
    exact notLed led
  · cases ofScene

theorem line_ne_of_leadsTo_action (accepted : ofText text = .ok checked)
    (member : action ∈ checked.story.allActions) (led : checked.story.LeadsTo (.action action.key))
    (listed : orphan ∈ checked.orphans) (ofAction : orphan.kind = .action) :
    orphan.line ≠ action.line := by
  obtain ⟨_, _, _, _, _, _, _, orphans, _⟩ := ofBlocks_eq_ok accepted
  rw [orphans] at listed
  obtain ⟨stop, known, notLed, rfl⟩ := mem_orphans.mp listed
  rcases mem_stops.mp known with ⟨scene, _, rfl⟩ | ⟨other, inside, rfl⟩
  · cases ofAction
  · intro same
    rw [action_eq_of_line_eq accepted inside member same] at notLed
    exact notLed led

/-- Links lead to all that a state shows, whether they are open or not. -/
structure IsLedTo (story : Story) (state : State) : Prop where
  scene : story.LeadsTo (.scene state.scene)
  fresh : ∀ toggle ∈ state.fresh, story.LeadsTo (.action toggle)

theorem mem_freshActions : action ∈ story.freshActions state ↔
    ∃ toggle ∈ state.fresh, story.action? toggle = some action :=
  List.mem_filterMap

theorem IsLedTo.leadsTo (ledTo : story.IsLedTo state) (keyed : story.WellKeyed)
    (distinct : story.IsDistinct) (found : story.resolve state = .ok scene)
    (shown : link ∈ story.linksOf state scene) (leads : place ∈ link.leadsTo) :
    story.LeadsTo place := by
  rcases List.mem_append.mp shown with ofAction | ofScene
  · obtain ⟨action, fresh, listed⟩ := List.mem_flatMap.mp ofAction
    obtain ⟨toggle, set, known⟩ := mem_freshActions.mp fresh
    have led := ledTo.fresh toggle set
    rw [← distinct.key_of_action? known] at led
    have stop := mem_stops.mpr (.inr ⟨action, mem_allActions_of_action? known, rfl⟩)
    exact led.behind stop (List.mem_flatMap.mpr ⟨link, listed, leads⟩)
  · have variant := (mem_candidates.mp (resolve_mem found)).1
    have led := ledTo.scene
    rw [← keyed.key_of_variants variant] at led
    have stop := mem_stops.mpr (.inl ⟨scene, mem_allScenes_of_variants variant, rfl⟩)
    exact led.behind stop (List.mem_flatMap.mpr ⟨link, ofScene, leads⟩)

theorem IsLedTo.follow (ledTo : story.IsLedTo state)
    (leadsTo : ∀ place ∈ link.leadsTo, story.LeadsTo place) :
    story.IsLedTo (state.follow link) := by
  refine ⟨?_, fun toggle set => ?_⟩
  · rcases follow_scene state link with same | leads
    · rw [same]
      exact ledTo.scene
    · exact leadsTo _ (mem_leadsTo.mpr (.inl ⟨_, leads, rfl⟩))
  · have listed : toggle ∈ link.toggles := (List.mem_filter.mp set).1
    exact leadsTo _ (mem_leadsTo.mpr (.inr ⟨toggle, listed, rfl⟩))

theorem Reachable.isLedTo (keyed : story.WellKeyed) (distinct : story.IsDistinct)
    (reached : story.Reachable state) : story.IsLedTo state := by
  induction reached with
  | start => exact ⟨.here List.mem_cons_self, fun toggle set => absurd set List.not_mem_nil⟩
  | step _ leads member ih =>
      obtain ⟨scene, found, rfl⟩ := successors_eq_ok.mp leads
      obtain ⟨link, opened, rfl⟩ := List.mem_map.mp member
      have shown := (List.mem_filter.mp opened).1
      exact ih.follow fun place leads => ih.leadsTo keyed distinct found shown leads

/-- Nothing that a reader can see is reported as unreachable: neither the scene that a state shows
nor one of its fresh actions. -/
theorem shown_not_orphan (accepted : ofText text = .ok checked)
    (reached : checked.story.Reachable state) :
    (∀ scene, checked.story.resolve state = .ok scene →
      ∀ orphan ∈ checked.orphans, orphan.kind = .scene → orphan.line ≠ scene.line) ∧
    ∀ action ∈ checked.story.freshActions state,
      ∀ orphan ∈ checked.orphans, orphan.kind = .action → orphan.line ≠ action.line := by
  have keyed := wellKeyed_of_ofText accepted
  have distinct := isDistinct_of_ofText accepted
  have ledTo := reached.isLedTo keyed distinct
  refine ⟨fun scene found orphan listed ofScene => ?_, fun action shown orphan listed ofAction => ?_⟩
  · have variant := (mem_candidates.mp (resolve_mem found)).1
    have led := ledTo.scene
    rw [← keyed.key_of_variants variant] at led
    exact line_ne_of_leadsTo_scene accepted (mem_allScenes_of_variants variant) led listed ofScene
  · obtain ⟨toggle, set, known⟩ := mem_freshActions.mp shown
    have led := ledTo.fresh toggle set
    rw [← distinct.key_of_action? known] at led
    exact line_ne_of_leadsTo_action accepted (mem_allActions_of_action? known) led listed ofAction

/-- A coin that can be dropped again and again, a scene that no link leads to, and an action whose
toggle no link sets. -/
def wellSource : Text :=
  "# [Well](/yard)\n## Yard\n[Drop](#coin)\n## Cellar\nDark.\n### Coin\nSplash.\n".toList
    ++ "### Rope\nLong.\n".toList

def wellStory : Story where
  name := "Well"
  description := []
  firstScene := "yard"
  scenes := [
    ("yard", [⟨"yard", "Yard", "[Drop](#coin)", 2, .empty,
      [⟨⟨"Drop", "#coin"⟩, 3, 1, none, .empty, ["coin"]⟩]⟩]),
    ("cellar", [⟨"cellar", "Cellar", "Dark.", 4, .empty, []⟩])]
  actions := [("coin", ⟨"coin", "Coin", "Splash.", 6, []⟩), ("rope", ⟨"rope", "Rope", "Long.", 8, []⟩)]

def wellOrphans : List Orphan := [⟨"Cellar", .scene, 4⟩, ⟨"Rope", .action, 8⟩]

theorem ofText_wellSource : ofText wellSource = .ok ⟨wellStory, wellOrphans, []⟩ := by
  have cut : Block.ofText (wellSource.dropWhile isByteOrderMark) = [
      ⟨⟨1, "[Well](/yard)"⟩, 1, []⟩,
      ⟨⟨2, "Yard"⟩, 2, [⟨3, "[Drop](#coin)"⟩]⟩,
      ⟨⟨2, "Cellar"⟩, 4, [⟨5, "Dark."⟩]⟩,
      ⟨⟨3, "Coin"⟩, 6, [⟨7, "Splash."⟩]⟩,
      ⟨⟨3, "Rope"⟩, 8, [⟨9, "Long."⟩]⟩] := by decide +kernel
  have reached : wellStory.orphans = wellOrphans := by
    have left : (unreachedFrom [.scene wellStory.firstScene] wellStory.stops).map Stop.orphan =
        wellOrphans := by
      simp [unreachedFrom, wellStory, wellOrphans, stops, allScenes, allActions, stopsAt,
        stopsElsewhere, Link.leadsTo, Stop.orphan]
    rw [orphans, left, List.mergeSort_of_pairwise (by decide)]
  have silent : wellStory.referenceWarnings = [] :=
    referenceWarnings_eq_nil.mpr (by decide +kernel)
  rw [ofText, cut, ofBlocks_of_silent rfl (by decide +kernel) (by decide +kernel) rfl silent, reached]

/-- The state just behind the first drop. -/
def wellDropped : State := ⟨"yard", .ofList ["coin"], ["coin"]⟩

theorem reachable_wellDropped : wellStory.Reachable wellDropped := by
  have leads : wellStory.successors wellStory.start = .ok [wellDropped] := by rfl
  exact .step .start leads (List.mem_singleton_self _)

theorem shown_not_orphan_well :
    ofText wellSource = .ok ⟨wellStory, wellOrphans, []⟩ ∧ wellStory.Reachable wellDropped ∧
      (∀ scene, wellStory.resolve wellDropped = .ok scene →
        ∀ orphan ∈ wellOrphans, orphan.kind = .scene → orphan.line ≠ scene.line) ∧
      ∀ action ∈ wellStory.freshActions wellDropped,
        ∀ orphan ∈ wellOrphans, orphan.kind = .action → orphan.line ≠ action.line :=
  ⟨ofText_wellSource, reachable_wellDropped, shown_not_orphan ofText_wellSource reachable_wellDropped⟩

/-- No scene and no link of the story has a condition. -/
structure IsUnconditional (story : Story) : Prop where
  scenes : ∀ scene ∈ story.allScenes, scene.conditions.isEmpty = true
  links : ∀ link ∈ story.allLinks, link.conditions.isEmpty = true

/-- What a text keeps to in which nothing was found amiss and nothing has a condition. -/
structure IsPlain (story : Story) : Prop where
  closed : story.IsClosed
  keyed : story.WellKeyed
  distinct : story.IsDistinct
  separable : ∀ link ∈ story.allLinks, link.IsSeparable
  unconditional : story.IsUnconditional

theorem isPlain_of_ofText (accepted : ofText text = .ok checked) (silent : checked.warnings = [])
    (unconditional : checked.story.IsUnconditional) : checked.story.IsPlain where
  closed := isClosed_of_ofText accepted silent
  keyed := wellKeyed_of_ofText accepted
  distinct := isDistinct_of_ofText accepted
  separable := fun _ => (isBuiltFrom_of_ofText accepted).isSeparable
  unconditional := unconditional

/-- A reader can come to the scene, or to where the action is fresh. -/
def IsPlayed (story : Story) : Place → Prop
  | .scene key => ∃ state, story.Reachable state ∧ state.scene = key
  | .action key => ∃ state, story.Reachable state ∧ key ∈ state.fresh

/-- A toggle that is set was fresh where a reader came before. -/
theorem Reachable.isPlayed_of_toggle (reached : story.Reachable state)
    (set : state.toggles.contains toggle = true) : story.IsPlayed (.action toggle) := by
  induction reached with
  | start => cases set
  | @step before other next reached leads member ih =>
      obtain ⟨link, _, rfl⟩ := exists_link_of_successor leads member
      have held : ((before.follow link).fresh.contains toggle ||
          before.toggles.contains toggle) = true := by
        rw [← Toggles.contains_union]
        exact set
      rcases Bool.or_eq_true_iff.mp held with fresh | earlier
      · exact ⟨_, reached.step leads member, List.contains_iff_mem.mp fresh⟩
      · exact ih earlier

/-- All that a shown link names can be come to: a toggle that the link does not make fresh any more was
fresh before. -/
theorem IsPlain.isPlayed_of_link (plain : story.IsPlain) (reached : story.Reachable state)
    (found : story.resolve state = .ok scene) (shown : link ∈ story.linksOf state scene)
    (leads : place ∈ link.leadsTo) : story.IsPlayed place := by
  have known := mem_allLinks_of_mem_linksOf found shown
  have navigates : link.navigates = true := by
    rcases mem_leadsTo.mp leads with ⟨key, target, rfl⟩ | ⟨toggle, member, rfl⟩
    · simp [Link.navigates, target]
    · simp [Link.navigates, List.ne_nil_of_mem member]
  have allowed : state.allows link.conditions = true :=
    allows_of_isEmpty (plain.unconditional.links link known)
  have opened : link ∈ openLinks state (story.linksOf state scene) :=
    List.mem_filter.mpr ⟨shown, by rw [navigates, allowed]; rfl⟩
  have next : story.Reachable (state.follow link) :=
    reached.step (successors_eq_ok.mpr ⟨scene, found, rfl⟩) (List.mem_map_of_mem opened)
  rcases mem_leadsTo.mp leads with ⟨key, target, rfl⟩ | ⟨toggle, member, rfl⟩
  · have named : key ≠ [] := ((plain.separable link known).1 key target).nonempty
    exact ⟨_, next, by simp [State.follow, State.move, target, named]⟩
  · cases set : state.toggles.contains toggle with
    | true => exact reached.isPlayed_of_toggle set
    | false => exact ⟨_, next, List.mem_filter.mpr ⟨member, by rw [set]; rfl⟩⟩

theorem IsPlain.resolve_eq (plain : story.IsPlain) (reached : story.Reachable state)
    (member : scene ∈ story.allScenes) (there : state.scene = scene.key) :
    story.resolve state = .ok scene := by
  obtain ⟨shown, found⟩ := reached.resolve_exists plain.closed
  have variant := (mem_candidates.mp (resolve_mem found)).1
  rw [there] at variant
  have same := plain.distinct.eq_of_plain variant
    (mem_variants_of_mem_allScenes plain.keyed plain.distinct member)
    (plain.unconditional.scenes _ (mem_allScenes_of_variants variant))
    (plain.unconditional.scenes _ member)
  rw [found, same]

theorem IsPlain.isPlayed_of_stop (plain : story.IsPlain) (known : stop ∈ story.stops)
    (played : story.IsPlayed stop.place) (leads : place ∈ stop.leadsTo) : story.IsPlayed place := by
  rcases mem_stops.mp known with ⟨scene, inside, rfl⟩ | ⟨action, inside, rfl⟩
  · obtain ⟨link, listed, named⟩ := List.mem_flatMap.mp leads
    obtain ⟨state, reached, there⟩ := played
    have found := plain.resolve_eq reached inside there
    exact plain.isPlayed_of_link reached found (List.mem_append_right _ listed) named
  · obtain ⟨link, listed, named⟩ := List.mem_flatMap.mp leads
    obtain ⟨state, reached, fresh⟩ := played
    obtain ⟨scene, found⟩ := reached.resolve_exists plain.closed
    have seen := mem_freshActions.mpr ⟨_, fresh, plain.distinct.action?_key inside⟩
    have shown := List.mem_flatMap.mpr ⟨action, seen, listed⟩
    exact plain.isPlayed_of_link reached found (List.mem_append_left _ shown) named

/-- A path of links becomes a play, link by link. -/
theorem IsPlain.isPlayed_of_leadsTo (plain : story.IsPlain) (led : story.LeadsTo place) :
    story.IsPlayed place := by
  unfold LeadsTo at led
  induction led with
  | here first =>
      rw [List.mem_singleton.mp first]
      exact ⟨story.start, .start, rfl⟩
  | behind _ known leads ih => exact plain.isPlayed_of_stop known ih leads

theorem leadsTo_of_not_orphan (accepted : ofText text = .ok checked)
    (known : stop ∈ checked.story.stops) (unreported : stop.orphan ∉ checked.orphans) :
    checked.story.LeadsTo stop.place := by
  obtain ⟨_, _, _, _, _, _, _, orphans, _⟩ := ofBlocks_eq_ok accepted
  by_contra notLed
  rw [orphans] at unreported
  exact unreported (mem_orphans.mpr ⟨stop, known, notLed, rfl⟩)

/-- Where nothing has a condition, whatever is not reported as unreachable can be seen: each such scene
is what some state shows, and each such action is fresh in some state. These are all blocks from the
heading of the story on. -/
theorem shown_unless_orphan (accepted : ofText text = .ok checked) (silent : checked.warnings = [])
    (unconditional : checked.story.IsUnconditional) :
    (∀ scene ∈ checked.story.allScenes, ⟨scene.name, .scene, scene.line⟩ ∉ checked.orphans →
      ∃ state, checked.story.Reachable state ∧ checked.story.resolve state = .ok scene) ∧
    (∀ action ∈ checked.story.allActions, ⟨action.name, .action, action.line⟩ ∉ checked.orphans →
      ∃ state, checked.story.Reachable state ∧ action ∈ checked.story.freshActions state) ∧
    ∀ heading ∈ Block.ofText (text.dropWhile isByteOrderMark), heading.level = 1 →
      ∀ block ∈ Block.ofText (text.dropWhile isByteOrderMark), heading.line ≤ block.line →
        checked.story.Takes block := by
  have plain := isPlain_of_ofText accepted silent unconditional
  refine ⟨fun scene member unreported => ?_, fun action member unreported => ?_,
    fun heading headingIn first block inside behind => ?_⟩
  · have known : scene.toStop ∈ checked.story.stops := mem_stops.mpr (.inl ⟨scene, member, rfl⟩)
    have led : checked.story.LeadsTo (.scene scene.key) :=
      leadsTo_of_not_orphan accepted known unreported
    obtain ⟨state, reached, there⟩ := plain.isPlayed_of_leadsTo led
    exact ⟨state, reached, plain.resolve_eq reached member there⟩
  · have known : action.toStop ∈ checked.story.stops := mem_stops.mpr (.inr ⟨action, member, rfl⟩)
    have led : checked.story.LeadsTo (.action action.key) :=
      leadsTo_of_not_orphan accepted known unreported
    obtain ⟨state, reached, fresh⟩ := plain.isPlayed_of_leadsTo led
    exact ⟨state, reached, mem_freshActions.mpr ⟨_, fresh, plain.distinct.action?_key member⟩⟩
  · exact takes_of_ofText accepted silent headingIn first inside behind

theorem isUnconditional_wellStory : wellStory.IsUnconditional where
  scenes := by decide
  links := by decide

theorem shown_unless_orphan_well :
    ofText wellSource = .ok ⟨wellStory, wellOrphans, []⟩ ∧ wellStory.IsUnconditional ∧
      (∀ scene ∈ wellStory.allScenes, ⟨scene.name, .scene, scene.line⟩ ∉ wellOrphans →
        ∃ state, wellStory.Reachable state ∧ wellStory.resolve state = .ok scene) ∧
      (∀ action ∈ wellStory.allActions, ⟨action.name, .action, action.line⟩ ∉ wellOrphans →
        ∃ state, wellStory.Reachable state ∧ action ∈ wellStory.freshActions state) ∧
      ∀ heading ∈ Block.ofText (wellSource.dropWhile isByteOrderMark), heading.level = 1 →
        ∀ block ∈ Block.ofText (wellSource.dropWhile isByteOrderMark), heading.line ≤ block.line →
          wellStory.Takes block :=
  ⟨ofText_wellSource, isUnconditional_wellStory,
    shown_unless_orphan ofText_wellSource rfl isUnconditional_wellStory⟩

end Gamebook.Story
