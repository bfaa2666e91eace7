import Mathlib.Data.List.Dedup
import Mathlib.Data.List.ProdSigma
import Mathlib.Data.List.Sort
import Mathlib.Data.List.Sublists
import Gamebook.Proofs.Play.Exploration

/-!
How many states a story can have. A reader stands in the first scene or in one that a link leads to, has
set toggles of links, and has just set some of those of one link, in its order. So there are finitely many
states, and a walk with room for all of them never runs out of it. A walk that does not run out of its room
goes the same way with any larger one.
-/

namespace Gamebook

open Gamebook.Text Gamebook.Play

namespace Play.Toggles

variable {left right toggles : Toggles} {names : List Text}

theorem contains_iff_mem {name : Text} : toggles.contains name = true ↔ name ∈ toggles.names :=
  List.contains_iff_mem

/-- Sets with the same members are equal, since names stand in their order. -/
theorem eq_of_contains (same : ∀ name, left.contains name = true ↔ right.contains name = true) :
    left = right := by
  have irreflexive : Std.Irrefl fun left right : Text => left < right := ⟨List.lt_irrefl⟩
  obtain ⟨leftNames, leftSorted⟩ := left
  obtain ⟨rightNames, rightSorted⟩ := right
  simp only [contains_iff_mem] at same
  obtain rfl := leftSorted.eq_of_mem_iff rightSorted same
  rfl

/-- A set is made of a sublist of any list that has all its members. -/
theorem exists_sublist (within : ∀ name, toggles.contains name = true → name ∈ names) :
    ∃ part, part.Sublist names ∧ ofList part = toggles := by
  refine ⟨names.filter toggles.contains, List.filter_sublist, eq_of_contains fun name => ?_⟩
  simp only [ofList, contains_union, contains_empty, Bool.or_false, List.contains_iff_mem, List.mem_filter]
  exact ⟨And.right, fun set => ⟨within name set, set⟩⟩

end Play.Toggles

namespace Story

variable {story : Story} {state : State} {states : List State} {found more : Found} {place : Nat}
  {bound larger : Int} {reason : Play.Error}

/-- The scenes that a reader can be in. -/
def sceneNames (story : Story) : List Text :=
  (story.firstScene :: story.allLinks.filterMap Link.scene).dedup

def toggleNames (story : Story) : List Text := (story.allLinks.flatMap Link.toggles).dedup

/-- The toggles that can be set at once: none at the start, then some of those of a link. -/
def freshLists (story : Story) : List (List Text) :=
  [] :: story.allLinks.flatMap fun link => link.toggles.sublists

/-- All states that the scenes and the toggles of a story allow. -/
def conceivable (story : Story) : List State :=
  (story.sceneNames ×ˢ (story.toggleNames.sublists ×ˢ story.freshLists)).map
    fun (scene, toggles, fresh) => ⟨scene, .ofList toggles, fresh⟩

def stateCount (story : Story) : Nat :=
  story.sceneNames.length * (2 ^ story.toggleNames.length *
    (1 + (story.allLinks.map fun link => 2 ^ link.toggles.length).sum))

theorem length_conceivable (story : Story) : story.conceivable.length = story.stateCount := by
  simp [conceivable, stateCount, freshLists, List.length_product, List.length_flatMap,
    List.length_sublists, Nat.add_comm]

theorem mem_conceivable : state ∈ story.conceivable ↔ state.scene ∈ story.sceneNames ∧
    (∃ part, part.Sublist story.toggleNames ∧ .ofList part = state.toggles) ∧
      state.fresh ∈ story.freshLists := by
  obtain ⟨scene, toggles, fresh⟩ := state
  simp only [conceivable, List.mem_map, Prod.exists, List.mem_product, List.mem_sublists, State.mk.injEq]
  constructor
  · intro made
    obtain ⟨_, part, _, ⟨named, within, listed⟩, rfl, rfl, rfl⟩ := made
    exact ⟨named, ⟨part, within, rfl⟩, listed⟩
  · intro parts
    obtain ⟨named, ⟨part, within, rfl⟩, listed⟩ := parts
    exact ⟨scene, part, fresh, ⟨named, within, listed⟩, rfl, rfl, rfl⟩

theorem Reachable.scene_mem_sceneNames (reached : story.Reachable state) :
    state.scene ∈ story.sceneNames := by
  apply reached.induction (motive := fun state => state.scene ∈ story.sceneNames)
  · exact List.mem_dedup.mpr List.mem_cons_self
  · intro state inside link known
    rcases follow_scene state link with same | leads
    · rw [same]
      exact inside
    · exact List.mem_dedup.mpr (List.mem_cons_of_mem _ (List.mem_filterMap.mpr ⟨link, known, leads⟩))

theorem Reachable.fresh_mem_freshLists (reached : story.Reachable state) :
    state.fresh ∈ story.freshLists := by
  apply reached.induction (motive := fun state => state.fresh ∈ story.freshLists)
  · exact List.mem_cons_self
  · intro state _ link known
    apply List.mem_cons_of_mem
    exact List.mem_flatMap.mpr ⟨link, known, List.mem_sublists.mpr List.filter_sublist⟩

theorem Reachable.mem_conceivable (reached : story.Reachable state) : state ∈ story.conceivable := by
  apply Story.mem_conceivable.mpr
  refine ⟨reached.scene_mem_sceneNames, Toggles.exists_sublist ?_, reached.fresh_mem_freshLists⟩
  intro name set
  obtain ⟨link, known, member⟩ := reached.exists_link_of_contains set
  exact List.mem_dedup.mpr (List.mem_flatMap.mpr ⟨link, known, member⟩)

theorem encard_reachable_le (story : Story) :
    {state | story.Reachable state}.encard ≤ story.stateCount := by
  have within : {state | story.Reachable state} ⊆ (story.conceivable.toFinset : Set State) := by
    intro state reached
    simpa using Reachable.mem_conceivable reached
  calc
    {state | story.Reachable state}.encard ≤ (story.conceivable.toFinset : Set State).encard :=
      Set.encard_le_encard within
    _ = story.conceivable.toFinset.card := Set.encard_coe_eq_coe_finsetCard _
    _ ≤ story.stateCount := by
      rw [← length_conceivable]
      exact_mod_cast List.toFinset_card_le _

theorem successors_error (blocked : story.successors state = .error reason) :
    reason = .noVariant state.scene state.toggles := by
  cases shown : story.resolve state with
  | ok scene =>
      rw [successors_eq_ok.mpr ⟨scene, shown, rfl⟩] at blocked
      cases blocked
  | error cause =>
      have same : cause = reason := by simpa [successors, shown, bind, Except.bind] using blocked
      unfold resolve at shown
      split at shown
      · cases shown
      · cases shown
        exact same.symm

/-- A walk with room for all states that a story can have does not run out of it. -/
theorem walk_of_stateCount_le (enough : (story.stateCount : Int) ≤ bound) (other : Int) :
    story.walk bound ≠ .error (.tooManyStates other) := by
  intro stopped
  rcases walk_stops stopped with ⟨state, _, blocked⟩ | ⟨_, full, holds, noRoom⟩
  · cases successors_error blocked
  · have more := lt_of_lt_of_le (holds.lt_encard noRoom) story.encard_reachable_le
    have tooMany : bound.toNat < story.stateCount := by exact_mod_cast more
    omega

namespace Found

theorem add_of_le (atMost : bound ≤ larger) (added : found.add bound state = .ok more) :
    found.add larger state = .ok more := by
  rw [← added]
  rcases add_cases bound found state with ⟨known, _⟩ | ⟨_, ⟨_, refused⟩ | ⟨room, pushed⟩⟩
  · simp [add, known]
  · rw [refused] at added
    cases added
  · rcases add_cases larger found state with ⟨known, same⟩ | ⟨_, ⟨full, _⟩ | ⟨_, alsoPushed⟩⟩
    · simp [add, known]
    · omega
    · rw [pushed, alsoPushed]

theorem addAll_of_le (atMost : bound ≤ larger) (added : found.addAll bound states = .ok more) :
    found.addAll larger states = .ok more := by
  induction states generalizing found with
  | nil => exact added
  | cons state states ih =>
      obtain ⟨next, first, added⟩ := bind_eq_ok.mp added
      exact bind_eq_ok.mpr ⟨next, add_of_le atMost first, ih added⟩

theorem addAll_error (refused : found.addAll bound states = .error reason) :
    reason = .tooManyStates bound :=
  (addAll_stops (motive := fun _ => True) trivial (fun _ _ _ _ _ => trivial) refused).1

end Found

/-- A walk that does not run out of its room goes the same way with more of it. -/
theorem walkFrom_of_le (atMost : bound ≤ larger)
    (enough : story.walkFrom bound found place ≠ .error (.tooManyStates bound)) :
    story.walkFrom larger found place = story.walkFrom bound found place := by
  fun_induction walkFrom story bound found place with
  | case1 found place inside reason blocked =>
      rw [walkFrom_of_inside inside, blocked]
      rfl
  | case2 found place inside states leads reason refused =>
      exact absurd (congrArg Except.error (Found.addAll_error refused)) enough
  | case3 found place inside states leads next added ih =>
      rw [walkFrom_of_inside inside, leads, Except.bind, Found.addAll_of_le atMost added]
      exact ih enough
  | case4 found place outside => rw [walkFrom, dif_neg outside]

theorem walk_of_le (atMost : bound ≤ larger) (enough : story.walk bound ≠ .error (.tooManyStates bound)) :
    story.walk larger = story.walk bound := by
  rw [walk_eq, walk_eq, walkFrom_of_le atMost]
  intro stopped
  rw [walk_eq, stopped] at enough
  exact enough rfl

/-- The bound of a walk settles nothing but whether it fails for want of room. No story has more states
than a number told from its links, and with room for so many no walk fails for it. Whatever else a walk
ends with, it ends with the same for each larger bound. -/
theorem walk_bound_only_stops (story : Story) :
    {state | story.Reachable state}.encard ≤ story.stateCount ∧
      (∀ bound : Int, story.stateCount ≤ bound → ∀ other,
        story.walk bound ≠ .error (.tooManyStates other)) ∧
      ∀ bound larger : Int, bound ≤ larger →
        (∀ states, story.walk bound = .ok states → story.walk larger = .ok states) ∧
          ∀ scene toggles, story.walk bound = .error (.noVariant scene toggles) →
            story.walk larger = .error (.noVariant scene toggles) := by
  refine ⟨story.encard_reachable_le, fun bound enough => walk_of_stateCount_le enough, ?_⟩
  intro bound larger atMost
  constructor
  · intro states walked
    rw [walk_of_le atMost (by simp [walked]), walked]
  · intro scene toggles blocked
    rw [walk_of_le atMost (by simp [blocked]), blocked]

end Story

end Gamebook
