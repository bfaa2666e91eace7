import Mathlib.Data.Set.Card
import Gamebook.Proofs.Effects
import Gamebook.Proofs.Play.Payload
import Gamebook.Proofs.Play.Resolution

/-!
The walk through a story. What it has found is reachable and listed once, and what it has gone
through leads nowhere new. So it ends with all reachable states, or stops because there are more
than allowed.
-/

namespace Gamebook

open Gamebook.Text Gamebook.Source Gamebook.Play Gamebook.Story

namespace Story.Found

variable {story : Story} {found next more : Found} {state : State} {states : List State}
  {bound : Int} {reason : Play.Error} {id : Text}

/-- What holds of the states found at any time. -/
structure Holds (story : Story) (found : Found) : Prop where
  first : found.order.toList.head? = some story.start
  reachable : ∀ state ∈ found.order, story.Reachable state
  seen : ∀ id, found.seen.contains id = true ↔ ∃ state ∈ found.order, state.pageId = id
  nodup : (found.order.toList.map State.pageId).Nodup

def IsFull (story : Story) (bound : Int) (found : Found) : Prop :=
  bound ≤ found.order.size ∧ ∃ state, story.Reachable state ∧
    ∀ other ∈ found.order, other.pageId ≠ state.pageId

theorem add_cases (bound : Int) (found : Found) (state : State) :
    (found.seen.contains state.pageId = true ∧ found.add bound state = .ok found) ∨
      found.seen.contains state.pageId = false ∧
        (bound ≤ found.order.size ∧ found.add bound state = .error (.tooManyStates bound) ∨
          found.order.size < bound ∧ found.add bound state =
            .ok ⟨found.order.push state, found.seen.insert state.pageId⟩) := by
  cases known : found.seen.contains state.pageId with
  | true => exact .inl ⟨rfl, by simp [add, known]⟩
  | false =>
      refine .inr ⟨rfl, ?_⟩
      by_cases full : bound ≤ found.order.size
      · exact .inl ⟨full, by simp [add, known, full]⟩
      · exact .inr ⟨by omega, by simp [add, known, full]⟩

theorem add_error (refused : found.add bound state = .error reason) :
    found.seen.contains state.pageId = false ∧ bound ≤ found.order.size ∧
      reason = .tooManyStates bound := by
  rcases add_cases bound found state with ⟨_, same⟩ | ⟨fresh, ⟨full, tooMany⟩ | ⟨_, pushed⟩⟩
  · rw [same] at refused
    cases refused
  · rw [tooMany] at refused
    cases refused
    exact ⟨fresh, full, rfl⟩
  · rw [pushed] at refused
    cases refused

theorem add_induction {motive : Found → Prop} (before : motive found)
    (push : found.seen.contains state.pageId = false →
      motive ⟨found.order.push state, found.seen.insert state.pageId⟩)
    (added : found.add bound state = .ok next) : motive next := by
  rcases add_cases bound found state with ⟨_, same⟩ | ⟨fresh, ⟨_, refused⟩ | ⟨_, pushed⟩⟩
  · rw [same] at added
    cases added
    exact before
  · rw [refused] at added
    cases added
  · rw [pushed] at added
    cases added
    exact push fresh

/-- What holds of the states found, and still holds whenever one of the states to add is put behind them,
holds when all are added. -/
theorem addAll_induction {motive : Found → Prop} (before : motive found)
    (push : ∀ found, motive found → ∀ state ∈ states, found.seen.contains state.pageId = false →
      motive ⟨found.order.push state, found.seen.insert state.pageId⟩)
    (added : found.addAll bound states = .ok more) : motive more := by
  induction states generalizing found with
  | nil =>
      cases added
      exact before
  | cons state states ih =>
      obtain ⟨next, first, added⟩ := bind_eq_ok.mp added
      apply ih _ (fun found held other member => push found held other (.tail _ member)) added
      exact add_induction before (push found before state List.mem_cons_self) first

/-- States are refused for want of room only, and where one of them is not known. -/
theorem addAll_stops {motive : Found → Prop} (before : motive found)
    (push : ∀ found, motive found → ∀ state ∈ states, found.seen.contains state.pageId = false →
      motive ⟨found.order.push state, found.seen.insert state.pageId⟩)
    (refused : found.addAll bound states = .error reason) :
    reason = .tooManyStates bound ∧ ∃ full, motive full ∧ bound ≤ full.order.size ∧
      ∃ state ∈ states, full.seen.contains state.pageId = false := by
  induction states generalizing found with
  | nil => cases refused
  | cons state states ih =>
      cases first : found.add bound state with
      | error cause =>
          simp only [addAll, first, bind, Except.bind] at refused
          cases refused
          obtain ⟨fresh, noRoom, same⟩ := add_error first
          exact ⟨same, found, before, noRoom, state, List.mem_cons_self, fresh⟩
      | ok next =>
          simp only [addAll, first, bind, Except.bind] at refused
          have held := add_induction before (push found before state List.mem_cons_self) first
          obtain ⟨same, full, held, noRoom, other, member, fresh⟩ :=
            ih held (fun found held other member => push found held other (.tail _ member)) refused
          exact ⟨same, full, held, noRoom, other, .tail _ member, fresh⟩

theorem Holds.push (holds : found.Holds story) (reached : story.Reachable state)
    (fresh : found.seen.contains state.pageId = false) :
    Holds story ⟨found.order.push state, found.seen.insert state.pageId⟩ := by
  have new : ∀ other ∈ found.order, other.pageId ≠ state.pageId := by
    intro other member same
    rw [(holds.seen _).mpr ⟨other, member, same⟩] at fresh
    contradiction
  refine ⟨?_, fun other member => ?_, fun id => ?_, ?_⟩
  · rw [Array.toList_push, List.head?_append, holds.first, Option.some_or]
  · rcases Array.mem_push.mp member with old | rfl
    · exact holds.reachable other old
    · exact reached
  · rw [Std.TreeSet.contains_insert, Bool.or_eq_true, holds.seen, beq_iff_eq,
      Std.compare_eq_iff_eq]
    constructor
    · rintro (same | ⟨other, member, same⟩)
      · exact ⟨state, Array.mem_push_self, same⟩
      · exact ⟨other, Array.mem_push_of_mem _ member, same⟩
    · rintro ⟨other, member, same⟩
      rcases Array.mem_push.mp member with old | rfl
      · exact .inr ⟨other, old, same⟩
      · exact .inl same
  · rw [Array.toList_push, List.map_append, List.map_singleton, List.nodup_append]
    refine ⟨holds.nodup, by simp, fun left leftIn right rightIn same => ?_⟩
    obtain ⟨other, member, rfl⟩ := List.mem_map.mp leftIn
    rw [List.mem_singleton.mp rightIn] at same
    exact new other (by simpa using member) same

/-- What one addition keeps: the states before stay in their places, and the page of the state added
is known. -/
theorem Holds.add (holds : found.Holds story) (reached : story.Reachable state)
    (added : found.add bound state = .ok next) :
    next.Holds story ∧ found.order.toList <+: next.order.toList ∧
      next.seen.contains state.pageId = true ∧
      ((found.order.size : Int) ≤ bound → (next.order.size : Int) ≤ bound) := by
  rcases add_cases bound found state with ⟨known, same⟩ | ⟨fresh, ⟨_, refused⟩ | ⟨room, pushed⟩⟩
  · rw [same] at added
    cases added
    exact ⟨holds, List.prefix_refl _, known, id⟩
  · rw [refused] at added
    cases added
  · rw [pushed] at added
    cases added
    have next := holds.push reached fresh
    refine ⟨next, by simp, (next.seen _).mpr ⟨state, Array.mem_push_self, rfl⟩, fun _ => ?_⟩
    simp only [Array.size_push]
    omega

theorem Holds.seen_of_prefix (holds : found.Holds story) (later : next.Holds story)
    (kept : found.order.toList <+: next.order.toList) (known : found.seen.contains id = true) :
    next.seen.contains id = true := by
  obtain ⟨state, member, same⟩ := (holds.seen id).mp known
  exact (later.seen id).mpr ⟨state, by simpa using kept.subset (by simpa using member), same⟩

theorem Holds.addAll (holds : found.Holds story) (reached : ∀ state ∈ states, story.Reachable state)
    (added : found.addAll bound states = .ok more) :
    more.Holds story ∧ found.order.toList <+: more.order.toList ∧
      (∀ state ∈ states, more.seen.contains state.pageId = true) ∧
      ((found.order.size : Int) ≤ bound → (more.order.size : Int) ≤ bound) := by
  induction states generalizing found with
  | nil =>
      cases added
      exact ⟨holds, List.prefix_refl _, by simp, id⟩
  | cons state states ih =>
      obtain ⟨next, first, added⟩ := bind_eq_ok.mp added
      obtain ⟨nextHolds, kept, known, fits⟩ := holds.add (reached state (by simp)) first
      obtain ⟨moreHolds, keptAll, knownAll, fitsAll⟩ :=
        ih nextHolds (fun other member => reached other (by simp [member])) added
      refine ⟨moreHolds, kept.trans keptAll, fun other member => ?_, fitsAll ∘ fits⟩
      rcases List.mem_cons.mp member with rfl | later
      · exact nextHolds.seen_of_prefix moreHolds keptAll known
      · exact knownAll other later

theorem Holds.addAll_error (holds : found.Holds story)
    (reached : ∀ state ∈ states, story.Reachable state)
    (refused : found.addAll bound states = .error reason) :
    reason = .tooManyStates bound ∧ ∃ full, Holds story full ∧ full.IsFull story bound := by
  obtain ⟨same, full, holds, noRoom, state, member, fresh⟩ :=
    addAll_stops (motive := Holds story) holds
      (fun _ holds state member fresh => holds.push (reached state member) fresh) refused
  refine ⟨same, full, holds, noRoom, state, reached state member, ?_⟩
  intro other listed known
  rw [(holds.seen _).mpr ⟨other, listed, known⟩] at fresh
  cases fresh

/-- The states in front of the given place lead to states whose pages are known. -/
def IsExpanded (story : Story) (found : Found) (place : Nat) : Prop :=
  ∀ state ∈ found.order.toList.take place, ∃ states, story.successors state = .ok states ∧
    ∀ other ∈ states, found.seen.contains other.pageId = true

theorem Holds.reachable_behind {place : Nat} (holds : found.Holds story)
    (inside : place < found.order.size) (leads : story.successors found.order[place] = .ok states) :
    ∀ other ∈ states, story.Reachable other :=
  fun _ member => .step (holds.reachable _ (Array.getElem_mem inside)) leads member

theorem IsExpanded.addAll {place : Nat} (expanded : found.IsExpanded story place)
    (holds : found.Holds story) (inside : place < found.order.size)
    (leads : story.successors found.order[place] = .ok states)
    (added : found.addAll bound states = .ok more) : more.IsExpanded story (place + 1) := by
  obtain ⟨moreHolds, kept, known, _⟩ := holds.addAll (holds.reachable_behind inside leads) added
  obtain ⟨rest, whole⟩ := kept
  intro state member
  rw [← whole, List.take_append_of_le_length (by simpa using inside),
    List.take_succ_eq_append_getElem (by simpa using inside)] at member
  rcases List.mem_append.mp member with before | here
  · obtain ⟨next, behind, seen⟩ := expanded state before
    refine ⟨next, behind, fun other inNext => ?_⟩
    exact holds.seen_of_prefix moreHolds ⟨rest, whole⟩ (seen other inNext)
  · rw [List.mem_singleton.mp here]
    exact ⟨states, by simpa using leads, known⟩

def atStart (story : Story) : Found :=
  ⟨#[story.start], Std.TreeSet.empty.insert story.start.pageId⟩

theorem holds_atStart (story : Story) : Holds story (atStart story) := by
  refine ⟨rfl, fun state member => ?_, fun id => ?_, List.nodup_singleton _⟩
  · rw [Array.mem_singleton.mp member]
    exact .start
  · simp [atStart, Std.TreeSet.contains_insert, Std.TreeSet.contains_emptyc]

end Story.Found

namespace Story

variable {story : Story} {found more : Found} {place : Nat} {bound : Int} {reason : Play.Error}

/-- What holds at a place of the walk, and is carried on to the next place when all that the state there
leads to is added, holds where the walk ends. -/
theorem walkFrom_induction {motive : Found → Nat → Prop} (before : motive found place)
    (turn : ∀ found place (inside : place < found.order.size), motive found place →
      ∀ states, story.successors found.order[place] = .ok states →
        ∀ more, found.addAll bound states = .ok more → motive more (place + 1))
    (walked : story.walkFrom bound found place = .ok more) :
    ∃ last, more.order.size ≤ last ∧ motive more last := by
  fun_induction walkFrom story bound found place with
  | case1 => cases walked
  | case2 => cases walked
  | case3 found place inside states leads next added ih =>
      exact ih (turn found place inside before states leads next added) walked
  | case4 found place outside =>
      cases walked
      exact ⟨place, Nat.le_of_not_lt outside, before⟩

theorem walkFrom_ok (holds : found.Holds story) (expanded : found.IsExpanded story place)
    (walked : story.walkFrom bound found place = .ok more) :
    more.Holds story ∧ more.IsExpanded story more.order.size ∧
      ((found.order.size : Int) ≤ bound → (more.order.size : Int) ≤ bound) := by
  have carried : ∃ last, more.order.size ≤ last ∧ more.Holds story ∧ more.IsExpanded story last ∧
      ((found.order.size : Int) ≤ bound → (more.order.size : Int) ≤ bound) := by
    apply walkFrom_induction (motive := fun next place => next.Holds story ∧ next.IsExpanded story place ∧
      ((found.order.size : Int) ≤ bound → (next.order.size : Int) ≤ bound)) ⟨holds, expanded, id⟩ _ walked
    intro next place inside kept states leads more added
    obtain ⟨holds, expanded, fits⟩ := kept
    obtain ⟨moreHolds, _, _, fitsMore⟩ := holds.addAll (holds.reachable_behind inside leads) added
    exact ⟨moreHolds, expanded.addAll holds inside leads added, fitsMore ∘ fits⟩
  obtain ⟨last, behind, moreHolds, allExpanded, fits⟩ := carried
  refine ⟨moreHolds, fun state member => allExpanded state ?_, fits⟩
  rw [List.take_of_length_le (by simp)] at member
  rwa [List.take_of_length_le (by simpa using behind)]

/-- A walk stops early where a state shows nothing, or where there are too many states. -/
theorem walkFrom_error (holds : found.Holds story)
    (stopped : story.walkFrom bound found place = .error reason) :
    (∃ state, story.Reachable state ∧ story.successors state = .error reason) ∨
      reason = .tooManyStates bound ∧ ∃ full, Found.Holds story full ∧ full.IsFull story bound := by
  fun_induction walkFrom story bound found place with
  | case1 found place inside cause blocked =>
      cases stopped
      exact .inl ⟨_, holds.reachable _ (Array.getElem_mem inside), blocked⟩
  | case2 found place inside states leads cause refused =>
      cases stopped
      exact .inr (holds.addAll_error (holds.reachable_behind inside leads) refused)
  | case3 found place inside states leads next added ih =>
      exact ih (holds.addAll (holds.reachable_behind inside leads) added).1 stopped
  | case4 => cases stopped

/-- One turn of the walk. -/
theorem walkFrom_of_inside (inside : place < found.order.size) :
    story.walkFrom bound found place = (story.successors found.order[place]).bind fun states =>
      (found.addAll bound states).bind fun more => story.walkFrom bound more (place + 1) := by
  rw [walkFrom, dif_pos inside]
  cases story.successors found.order[place] with
  | error reason => rfl
  | ok states =>
      dsimp only [Except.bind]
      split
      · rename_i refused
        rw [refused]
      · rename_i added
        rw [added]

/-- Pages of reachable states have one name only if the states have one written form. -/
def PagesAreApart (story : Story) : Prop :=
  ∀ left right, story.Reachable left → story.Reachable right →
    left.pageId = right.pageId → left.payload = right.payload

variable {text : Text} {checked : Checked} {states : List State}

theorem walk_eq (story : Story) (bound : Int) :
    story.walk bound =
      (story.walkFrom bound (.atStart story) 0).map fun found => found.order.toList := by
  rw [walk, ← Found.atStart]
  cases story.walkFrom bound (.atStart story) 0 with
  | ok found => rfl
  | error reason => rfl

theorem walk_eq_ok : story.walk bound = .ok states ↔
    ∃ found, story.walkFrom bound (.atStart story) 0 = .ok found ∧ found.order.toList = states := by
  rw [walk_eq, map_eq_ok]

theorem walk_ok (walked : story.walk bound = .ok states) :
    ∃ found, Found.Holds story found ∧ found.IsExpanded story found.order.size ∧
      found.order.toList = states ∧ (1 ≤ bound → (states.length : Int) ≤ bound) := by
  obtain ⟨found, ended, listed⟩ := walk_eq_ok.mp walked
  obtain ⟨holds, expanded, fits⟩ :=
    walkFrom_ok (Found.holds_atStart story) (by simp [Found.IsExpanded]) ended
  exact ⟨found, holds, expanded, listed, by simpa [← listed, Found.atStart] using fits⟩

theorem walk_stops (stopped : story.walk bound = .error reason) :
    (∃ state, story.Reachable state ∧ story.successors state = .error reason) ∨
      reason = .tooManyStates bound ∧ ∃ full, Found.Holds story full ∧ full.IsFull story bound := by
  rw [walk_eq] at stopped
  cases ended : story.walkFrom bound (.atStart story) 0 with
  | ok found => simp [ended, Except.map] at stopped
  | error cause =>
      simp only [ended, Except.map, Except.error.injEq] at stopped
      rw [← stopped]
      exact walkFrom_error (Found.holds_atStart story) ended

/-- In a closed story every state that can be reached shows something, so a walk through it stops early
only where there are too many states. -/
theorem walk_error (closed : story.IsClosed) (stopped : story.walk bound = .error reason) :
    reason = .tooManyStates bound ∧
      ∃ full, Found.Holds story full ∧ full.IsFull story bound := by
  rcases walk_stops stopped with ⟨state, reached, blocked⟩ | full
  · obtain ⟨scene, shown⟩ := reached.resolve_exists closed
    rw [successors_eq_ok.mpr ⟨scene, shown, rfl⟩] at blocked
    cases blocked
  · exact full

/-- Where nothing was found amiss, every state that a reader can come to shows the variant with the
most of its conditions, the earliest of several, and a walk fails only for want of room. -/
theorem shows_best_variant (accepted : ofText text = .ok checked) (silent : checked.warnings = []) :
    (∀ state, checked.story.Reachable state →
      ∃ scene, checked.story.resolve state = .ok scene ∧
        scene ∈ checked.story.variants state.scene ∧ state.allows scene.conditions = true ∧
        ∀ other ∈ checked.story.variants state.scene, state.allows other.conditions = true →
          other ≠ scene → other.conditions.size < scene.conditions.size ∨
            other.conditions.size = scene.conditions.size ∧ scene.line < other.line) ∧
      ∀ bound, (∃ states, checked.story.walk bound = .ok states) ∨
        checked.story.walk bound = .error (.tooManyStates bound) := by
  have closed := isClosed_of_ofText accepted silent
  constructor
  · intro state reached
    obtain ⟨scene, shown⟩ := reached.resolve_exists closed
    obtain ⟨listed, allowed⟩ := mem_candidates.mp (resolve_mem shown)
    refine ⟨scene, shown, listed, allowed, fun other otherListed otherAllowed different => ?_⟩
    rcases resolve_isPreferred shown (mem_candidates.mpr ⟨otherListed, otherAllowed⟩) with
      fewer | ⟨asMany, notBelow⟩
    · exact .inl fewer
    · refine .inr ⟨asMany, Nat.lt_of_le_of_ne notBelow fun same => different ?_⟩
      exact eq_of_line_eq accepted (mem_allScenes_of_variants otherListed)
        (mem_allScenes_of_variants listed) same.symm
  · intro bound
    cases walked : checked.story.walk bound with
    | ok states => exact .inl ⟨states, rfl⟩
    | error reason =>
        rw [(walk_error closed walked).1]
        exact .inr rfl

theorem shows_best_variant_key :
    ofText keySource = .ok ⟨keyStory, [], []⟩ ∧
      (∀ state, keyStory.Reachable state →
        ∃ scene, keyStory.resolve state = .ok scene ∧
          scene ∈ keyStory.variants state.scene ∧ state.allows scene.conditions = true ∧
          ∀ other ∈ keyStory.variants state.scene, state.allows other.conditions = true →
            other ≠ scene → other.conditions.size < scene.conditions.size ∨
              other.conditions.size = scene.conditions.size ∧ scene.line < other.line) ∧
        ∀ bound, (∃ states, keyStory.walk bound = .ok states) ∨
          keyStory.walk bound = .error (.tooManyStates bound) :=
  ⟨ofText_keySource, shows_best_variant ofText_keySource rfl⟩

theorem injOn_pageId (apart : story.PagesAreApart)
    (separable : ∀ state, story.Reachable state → state.IsSeparable) :
    Set.InjOn State.pageId {state | story.Reachable state} := by
  intro left leftReached right rightReached same
  exact State.eq_of_payload_eq (separable left leftReached) (separable right rightReached)
    (apart left right leftReached rightReached same)

theorem Found.Holds.mem_iff_seen (holds : Found.Holds story found) {state : State}
    (reached : story.Reachable state)
    (injective : Set.InjOn State.pageId {state | story.Reachable state}) :
    state ∈ found.order ↔ found.seen.contains state.pageId = true := by
  rw [holds.seen]
  constructor
  · exact fun member => ⟨state, member, rfl⟩
  · intro known
    obtain ⟨other, member, same⟩ := known
    rwa [← injective (holds.reachable other member) reached same]

theorem Found.Holds.nodup_order (holds : Found.Holds story found) : found.order.toList.Nodup :=
  holds.nodup.of_map _

theorem mem_of_reachable (holds : Found.Holds story found)
    (expanded : found.IsExpanded story found.order.size)
    (injective : Set.InjOn State.pageId {state | story.Reachable state}) {state : State}
    (reached : story.Reachable state) : state ∈ found.order := by
  induction reached with
  | start =>
      have first := List.mem_of_mem_head? (holds.first ▸ rfl : story.start ∈ found.order.toList.head?)
      simpa using first
  | @step state other next before leads member ih =>
      have inside : state ∈ found.order.toList.take found.order.size := by
        rw [List.take_of_length_le (by simp)]
        simpa using ih
      obtain ⟨next, alsoLeads, seen⟩ := expanded _ inside
      rw [leads] at alsoLeads
      cases alsoLeads
      exact (holds.mem_iff_seen (before.step leads member) injective).mpr (seen _ member)

theorem encard_eq_length {reached : Set State} (nodup : states.Nodup)
    (all : ∀ state, state ∈ states ↔ state ∈ reached) : reached.encard = states.length := by
  have same : reached = (states.toFinset : Set State) := by
    ext state
    simp [all]
  rw [same, Set.encard_coe_eq_coe_finsetCard, List.toFinset_card_of_nodup nodup]

theorem length_lt_encard {reached : Set State} {state : State} (nodup : (state :: states).Nodup)
    (all : ∀ other ∈ state :: states, other ∈ reached) : (states.length : ℕ∞) < reached.encard := by
  have count : ((state :: states).toFinset : Set State).encard = (state :: states).length :=
    encard_eq_length nodup (by simp)
  have within : ((state :: states).toFinset : Set State) ⊆ reached := by
    intro other member
    exact all other (by simpa using member)
  calc
    (states.length : ℕ∞) < ((state :: states).length : ℕ∞) := by
      exact_mod_cast Nat.lt_succ_self states.length
    _ = ((state :: states).toFinset : Set State).encard := count.symm
    _ ≤ reached.encard := Set.encard_le_encard within

theorem walk_ok_lists (apart : story.PagesAreApart)
    (separable : ∀ state, story.Reachable state → state.IsSeparable) (positive : 1 ≤ bound)
    (walked : story.walk bound = .ok states) :
    states.head? = some story.start ∧ states.Nodup ∧
      (∀ state, state ∈ states ↔ story.Reachable state) ∧
      {state | story.Reachable state}.encard ≤ bound.toNat := by
  obtain ⟨found, holds, expanded, rfl, fits⟩ := walk_ok walked
  have all : ∀ state, state ∈ found.order.toList ↔ story.Reachable state := by
    intro state
    constructor
    · exact fun member => holds.reachable state (by simpa using member)
    · intro reached
      have injective := injOn_pageId apart separable
      simpa using mem_of_reachable holds expanded injective reached
  refine ⟨holds.first, holds.nodup_order, all, ?_⟩
  have count : {state | story.Reachable state}.encard = found.order.toList.length :=
    encard_eq_length holds.nodup_order all
  rw [count]
  have room := fits positive
  exact_mod_cast (by omega : found.order.toList.length ≤ bound.toNat)

/-- Where the room does not suffice, more states can be reached than there is room for. -/
theorem Found.Holds.lt_encard (holds : found.Holds story) (full : found.IsFull story bound) :
    (bound.toNat : ℕ∞) < {state | story.Reachable state}.encard := by
  obtain ⟨noRoom, state, reached, new⟩ := full
  have notListed : state ∉ found.order.toList := fun member =>
    new state (by simpa using member) rfl
  have all : ∀ other ∈ state :: found.order.toList, other ∈ {state | story.Reachable state} := by
    intro other member
    rcases List.mem_cons.mp member with rfl | listed
    · exact reached
    · exact holds.reachable other (by simpa using listed)
  have more := length_lt_encard (List.nodup_cons.mpr ⟨notListed, holds.nodup_order⟩) all
  apply lt_of_le_of_lt _ more
  exact_mod_cast (by simpa using noRoom : bound.toNat ≤ found.order.toList.length)

theorem walk_error_exceeds {reason : Play.Error} (closed : story.IsClosed)
    (walked : story.walk bound = .error reason) :
    reason = .tooManyStates bound ∧ ¬ {state | story.Reachable state}.encard ≤ bound.toNat := by
  obtain ⟨same, _, holds, full⟩ := walk_error closed walked
  exact ⟨same, not_le.mpr (holds.lt_encard full)⟩

/-- Where nothing was found amiss and pages are told apart by their names, a walk lists exactly the
states that a reader can come to, or there are more of them than allowed. -/
theorem walk_lists_reachable (accepted : ofText text = .ok checked) (silent : checked.warnings = [])
    (positive : 1 ≤ bound) (apart : checked.story.PagesAreApart) :
    ((∃ states, checked.story.walk bound = .ok states) ↔
        {state | checked.story.Reachable state}.encard ≤ bound.toNat) ∧
      (∀ states, checked.story.walk bound = .ok states →
        states.head? = some checked.story.start ∧ states.Nodup ∧
          ∀ state, state ∈ states ↔ checked.story.Reachable state) ∧
      (¬ {state | checked.story.Reachable state}.encard ≤ bound.toNat →
        checked.story.walk bound = .error (.tooManyStates bound)) := by
  have closed := isClosed_of_ofText accepted silent
  have separable : ∀ state, checked.story.Reachable state → state.IsSeparable :=
    fun _ => Reachable.isSeparable (isBuiltFrom_of_ofText accepted)
      (firstScene_of_ofText accepted).1
  refine ⟨⟨fun ⟨states, walked⟩ => ?_, fun few => ?_⟩, fun states walked => ?_, fun many => ?_⟩
  · exact (walk_ok_lists apart separable positive walked).2.2.2
  · cases walked : checked.story.walk bound with
    | ok states => exact ⟨states, rfl⟩
    | error reason => exact absurd few (walk_error_exceeds closed walked).2
  · obtain ⟨first, nodup, all, _⟩ := walk_ok_lists apart separable positive walked
    exact ⟨first, nodup, all⟩
  · cases walked : checked.story.walk bound with
    | ok states => exact absurd (walk_ok_lists apart separable positive walked).2.2.2 many
    | error reason => rw [(walk_error_exceeds closed walked).1]

theorem Reachable.mem_of_closed {state : State} (reached : story.Reachable state)
    (first : story.start ∈ states)
    (behind : ∀ state ∈ states, ∀ next ∈ (story.successors state).toOption, next ⊆ states) :
    state ∈ states := by
  induction reached with
  | start => exact first
  | step _ leads member ih =>
      apply behind _ ih _ _ member
      rw [leads]
      rfl

/-- If what a walk lists leads nowhere else, no two states that can be reached have one page. -/
theorem injOn_pageId_of_closed (walked : story.walk bound = .ok states)
    (behind : ∀ state ∈ states, ∀ next ∈ (story.successors state).toOption, next ⊆ states) :
    Set.InjOn State.pageId {state | story.Reachable state} := by
  obtain ⟨found, holds, _, rfl, _⟩ := walk_ok walked
  have first : story.start ∈ found.order.toList := List.mem_of_mem_head? (holds.first ▸ rfl)
  intro left leftReached right rightReached
  exact List.inj_on_of_nodup_map holds.nodup (leftReached.mem_of_closed first behind)
    (rightReached.mem_of_closed first behind)

def keyStates : List State :=
  [keyStory.start, ⟨"den", .ofList ["key"], ["key"]⟩, ⟨"hall", .ofList ["key"], []⟩,
    ⟨"den", .ofList ["key"], []⟩]

theorem keyStates_closed : ∀ state ∈ keyStates, ∀ next ∈ (keyStory.successors state).toOption,
    next ⊆ keyStates := by decide +kernel

theorem keyStory_pagesAreApart : keyStory.PagesAreApart := by
  have apart : ∀ left ∈ keyStates, ∀ right ∈ keyStates, left.pageId = right.pageId →
      left.payload = right.payload := by decide +kernel
  intro left right leftReached rightReached
  exact apart left (leftReached.mem_of_closed (by decide) keyStates_closed) right
    (rightReached.mem_of_closed (by decide) keyStates_closed)

theorem walk_lists_reachable_key :
    ofText keySource = .ok ⟨keyStory, [], []⟩ ∧ keyStory.PagesAreApart ∧
      ((∃ states, keyStory.walk 4 = .ok states) ↔
          {state | keyStory.Reachable state}.encard ≤ (4 : Int).toNat) ∧
        (∀ states, keyStory.walk 4 = .ok states →
          states.head? = some keyStory.start ∧ states.Nodup ∧
            ∀ state, state ∈ states ↔ keyStory.Reachable state) ∧
        (¬ {state | keyStory.Reachable state}.encard ≤ (4 : Int).toNat →
          keyStory.walk 4 = .error (.tooManyStates 4)) :=
  ⟨ofText_keySource, keyStory_pagesAreApart,
    walk_lists_reachable ofText_keySource rfl (by decide) keyStory_pagesAreApart⟩

end Story

end Gamebook
