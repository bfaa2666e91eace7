import Mathlib.Order.Lattice.Nat
import Gamebook.Proofs.Play.Exploration

/-!
How far states are from the start, and in which order a walk finds them. While a state is gone through,
all that is found is at most one step farther, and whatever is nearer has been gone through before. So
each state is found in the order of the distances, and as near as it can be.
-/

namespace Gamebook.Story

open Gamebook.Text Gamebook.Play

variable {story : Story} {state other : State} {next states : List State}
  {steps farthest place : Nat} {found more : Found} {bound : Int}

/-- A reader can come to the state by this many steps. -/
inductive ReachableIn (story : Story) : Nat → State → Prop
  | start : ReachableIn story 0 story.start
  | step {steps : Nat} {state other : State} {next : List State} (before : ReachableIn story steps state)
      (leads : story.successors state = .ok next) (member : other ∈ next) :
      ReachableIn story (steps + 1) other

theorem ReachableIn.reachable (reached : story.ReachableIn steps state) : story.Reachable state := by
  induction reached with
  | start => exact .start
  | step _ leads member ih => exact ih.step leads member

theorem Reachable.exists_steps (reached : story.Reachable state) :
    ∃ steps, story.ReachableIn steps state := by
  induction reached with
  | start => exact ⟨0, .start⟩
  | step _ leads member ih =>
      obtain ⟨steps, before⟩ := ih
      exact ⟨steps + 1, before.step leads member⟩

/-- The least number of steps from the start to a state that can be reached. -/
noncomputable def distance (story : Story) (state : State) : Nat :=
  sInf {steps | story.ReachableIn steps state}

theorem Reachable.isLeast_distance (reached : story.Reachable state) :
    IsLeast {steps | story.ReachableIn steps state} (story.distance state) :=
  ⟨Nat.sInf_mem reached.exists_steps, fun _ => Nat.sInf_le⟩

theorem ReachableIn.distance_le (reached : story.ReachableIn steps state) :
    story.distance state ≤ steps :=
  Nat.sInf_le reached

theorem Reachable.distance_le_of_successor (reached : story.Reachable state)
    (leads : story.successors state = .ok next) (member : other ∈ next) :
    story.distance other ≤ story.distance state + 1 :=
  (ReachableIn.step reached.isLeast_distance.1 leads member).distance_le

/-- The last step of a shortest way. -/
theorem Reachable.exists_nearer (reached : story.Reachable state) (notStart : state ≠ story.start) :
    ∃ before, story.Reachable before ∧ story.distance state = story.distance before + 1 ∧
      ∃ next, story.successors before = .ok next ∧ state ∈ next := by
  have shortest : story.ReachableIn (story.distance state) state := reached.isLeast_distance.1
  generalize length : story.distance state = steps at shortest
  cases shortest with
  | start => contradiction
  | @step steps before _ next way leads member =>
      have atMost := way.distance_le
      have atLeast := way.reachable.distance_le_of_successor leads member
      exact ⟨before, way.reachable, by omega, next, leads, member⟩

/-- In a list that is ordered by a rank, what ranks below an item stands in front of it. -/
theorem mem_front_of_lt {α : Type} {rank : α → Nat} {before behind : List α} {item lower : α}
    (sorted : (before ++ item :: behind).Pairwise fun left right => rank left ≤ rank right)
    (member : lower ∈ before ++ item :: behind) (below : rank lower < rank item) : lower ∈ before := by
  rcases List.mem_append.mp member with inFront | fromItem
  · exact inFront
  · have later := (List.pairwise_cons.mp (List.pairwise_append.mp sorted).2.1).1
    rcases List.mem_cons.mp fromItem with same | behindItem
    · rw [same] at below
      exact absurd below (Nat.lt_irrefl _)
    · have above := later lower behindItem
      omega

namespace Found

/-- The states are found in the order of their distances, none farther than so many steps. -/
structure IsOrdered (story : Story) (found : Found) (farthest : Nat) : Prop where
  sorted : found.order.toList.Pairwise fun left right => story.distance left ≤ story.distance right
  within : ∀ state ∈ found.order.toList, story.distance state ≤ farthest

theorem IsOrdered.push (ordered : found.IsOrdered story farthest) (far : story.distance state = farthest) :
    IsOrdered story ⟨found.order.push state, found.seen.insert state.pageId⟩ farthest := by
  constructor
  · rw [Array.toList_push, List.pairwise_append]
    refine ⟨ordered.sorted, List.pairwise_singleton _ _, ?_⟩
    intro left inside right last
    rw [List.mem_singleton.mp last, far]
    exact ordered.within left inside
  · intro other member
    rw [Array.toList_push] at member
    rcases List.mem_append.mp member with old | last
    · exact ordered.within other old
    · rw [List.mem_singleton.mp last, far]

/-- Adding states keeps the order if each of them is known or as far as any. -/
theorem IsOrdered.addAll (ordered : found.IsOrdered story farthest)
    (each : ∀ state ∈ states, found.seen.contains state.pageId = true ∨ story.distance state = farthest)
    (added : found.addAll bound states = .ok more) : more.IsOrdered story farthest := by
  suffices more.IsOrdered story farthest ∧
    ∀ id, found.seen.contains id = true → more.seen.contains id = true from this.1
  apply addAll_induction (motive := fun next => next.IsOrdered story farthest ∧
    ∀ id, found.seen.contains id = true → next.seen.contains id = true) ⟨ordered, fun _ => id⟩ _ added
  intro next held state member fresh
  obtain ⟨ordered, kept⟩ := held
  have far : story.distance state = farthest := by
    rcases each state member with known | far
    · rw [kept _ known] at fresh
      cases fresh
    · exact far
  constructor
  · exact ordered.push far
  · intro id known
    rw [Std.TreeSet.contains_insert, kept id known, Bool.or_true]

/-- A state nearer than the one at a place has been gone through before that place. -/
theorem IsOrdered.mem_take (ordered : found.IsOrdered story farthest) (holds : found.Holds story)
    (expanded : found.IsExpanded story place) (inside : place < found.order.size)
    (injective : Set.InjOn State.pageId {state | story.Reachable state})
    (reached : story.Reachable state) (nearer : story.distance state < story.distance found.order[place]) :
    state ∈ found.order.toList.take place := by
  generalize length : story.distance state = steps at nearer
  induction steps using Nat.strong_induction_on generalizing state with
  | _ steps ih =>
    have listed : state ∈ found.order.toList := by
      by_cases first : state = story.start
      · rw [first]
        exact List.mem_of_mem_head? (holds.first ▸ rfl)
      · obtain ⟨before, beforeReached, closer, next, leads, member⟩ := reached.exists_nearer first
        have gone := ih (story.distance before) (by omega) beforeReached rfl (by omega)
        obtain ⟨again, alsoLeads, known⟩ := expanded before gone
        rw [leads] at alsoLeads
        cases alsoLeads
        have member := (holds.mem_iff_seen reached injective).mpr (known state member)
        simpa using member
    have cut : found.order.toList.take place ++ found.order[place] :: found.order.toList.drop (place + 1) =
        found.order.toList := by
      rw [← Array.getElem_toList inside, List.getElem_cons_drop, List.take_append_drop]
    rw [← cut] at listed
    exact mem_front_of_lt (cut.symm ▸ ordered.sorted) listed (by omega)

/-- What the state at a place leads to is known, or is one step farther. -/
theorem IsOrdered.seen_or_farther (ordered : found.IsOrdered story farthest) (holds : found.Holds story)
    (expanded : found.IsExpanded story place) (inside : place < found.order.size)
    (injective : Set.InjOn State.pageId {state | story.Reachable state})
    (leads : story.successors found.order[place] = .ok next) (member : state ∈ next) :
    found.seen.contains state.pageId = true ∨
      story.distance state = story.distance found.order[place] + 1 := by
  have here := holds.reachable _ (Array.getElem_mem inside)
  have reached := here.step leads member
  by_cases first : state = story.start
  · have listed : story.start ∈ found.order.toList := List.mem_of_mem_head? (holds.first ▸ rfl)
    exact .inl ((holds.seen _).mpr ⟨story.start, by simpa using listed, by rw [first]⟩)
  · have atMost := here.distance_le_of_successor leads member
    rcases Nat.lt_or_eq_of_le atMost with nearer | far
    · -- A way that is shorter leads through a state that has been gone through before.
      obtain ⟨before, beforeReached, closer, states, onward, inStates⟩ := reached.exists_nearer first
      have gone := ordered.mem_take holds expanded inside injective beforeReached (by omega)
      obtain ⟨again, alsoLeads, known⟩ := expanded before gone
      rw [onward] at alsoLeads
      cases alsoLeads
      exact .inl (known state inStates)
    · exact .inr far

/-- What holds while a walk goes through the states from a place on: all that is found stands in the order
of the distances, and is at most one step farther than the state at the place. -/
structure IsLayered (story : Story) (found : Found) (place : Nat) : Prop where
  holds : found.Holds story
  expanded : found.IsExpanded story place
  sorted : found.order.toList.Pairwise fun left right => story.distance left ≤ story.distance right
  within : ∀ inside : place < found.order.size, ∀ state ∈ found.order.toList,
    story.distance state ≤ story.distance found.order[place] + 1

theorem IsLayered.addAll (layered : found.IsLayered story place) (inside : place < found.order.size)
    (injective : Set.InjOn State.pageId {state | story.Reachable state})
    (leads : story.successors found.order[place] = .ok states)
    (added : found.addAll bound states = .ok more) : more.IsLayered story (place + 1) := by
  obtain ⟨holds, expanded, sorted, within⟩ := layered
  have ordered : found.IsOrdered story (story.distance found.order[place] + 1) :=
    ⟨sorted, within inside⟩
  have later := ordered.addAll
    (fun state member => ordered.seen_or_farther holds expanded inside injective leads member) added
  obtain ⟨moreHolds, kept, _⟩ := holds.addAll (holds.reachable_behind inside leads) added
  refine ⟨moreHolds, expanded.addAll holds inside leads added, later.sorted, ?_⟩
  intro behind state member
  have same : more.order[place] = found.order[place] := by
    have inList : place < found.order.toList.length := by simpa using inside
    simpa using (kept.getElem inList).symm
  have onward : story.distance more.order[place] ≤ story.distance more.order[place + 1] :=
    List.pairwise_iff_getElem.mp later.sorted place (place + 1) (Nat.lt_of_succ_lt behind) behind
      (Nat.lt_succ_self place)
  have atMost := later.within state member
  rw [same] at onward
  omega

end Found

theorem isLayered_atStart (story : Story) : (Found.atStart story).IsLayered story 0 := by
  refine ⟨Found.holds_atStart story, by simp [Found.IsExpanded], List.pairwise_singleton _ _, ?_⟩
  intro inside state member
  rw [List.mem_singleton.mp member]
  exact Nat.le_succ _

theorem walk_sorted (injective : Set.InjOn State.pageId {state | story.Reachable state})
    (walked : story.walk bound = .ok states) :
    states.Pairwise fun earlier later => story.distance earlier ≤ story.distance later := by
  obtain ⟨found, ended, rfl⟩ := walk_eq_ok.mp walked
  have layered : ∃ last, found.order.size ≤ last ∧ found.IsLayered story last := by
    apply walkFrom_induction (isLayered_atStart story) _ ended
    intro found place inside layered states leads more added
    exact layered.addAll inside injective leads added
  obtain ⟨_, _, layered⟩ := layered
  exact layered.sorted

/-- If no two states that can be reached have one page, a walk is breadth-first: the least numbers of steps
from the start never decrease along its list, and each state but the first is one that an earlier state
leads to, which is one step nearer. -/
theorem walk_is_breadth_first (walked : story.walk bound = .ok states)
    (injective : Set.InjOn State.pageId {state | story.Reachable state}) :
    (∀ state ∈ states, IsLeast {steps | story.ReachableIn steps state} (story.distance state)) ∧
      (states.Pairwise fun earlier later => story.distance earlier ≤ story.distance later) ∧
      ∀ front state rest, states = front ++ state :: rest → front ≠ [] →
        ∃ earlier ∈ front, story.distance state = story.distance earlier + 1 ∧
          ∃ next, story.successors earlier = .ok next ∧ state ∈ next := by
  have sorted := walk_sorted injective walked
  obtain ⟨found, holds, expanded, rfl, _⟩ := walk_ok walked
  have reachable : ∀ state ∈ found.order.toList, story.Reachable state := by
    intro state member
    exact holds.reachable state (by simpa using member)
  refine ⟨fun state member => (reachable state member).isLeast_distance, sorted, ?_⟩
  intro front state rest whole notFirst
  have member : state ∈ found.order.toList := by simp [whole]
  have notStart : state ≠ story.start := by
    intro same
    obtain ⟨first, others, rfl⟩ := List.exists_cons_of_ne_nil notFirst
    have head := holds.first
    rw [whole] at head
    obtain rfl : first = story.start := by simpa using head
    have apart := holds.nodup_order
    rw [whole, List.nodup_append] at apart
    exact apart.2.2 _ List.mem_cons_self _ List.mem_cons_self same.symm
  obtain ⟨before, reached, closer, next, leads, inNext⟩ := (reachable state member).exists_nearer notStart
  refine ⟨before, ?_, closer, next, leads, inNext⟩
  have listed : before ∈ found.order.toList := by
    simpa using mem_of_reachable holds expanded injective reached
  rw [whole] at sorted listed
  exact mem_front_of_lt sorted listed (by omega)

/-- A hall with two doors, one of which leads on to a garden. -/
def forkStory : Story where
  name := "Fork"
  description := []
  firstScene := "hall"
  scenes := [
    ("hall", [⟨"hall", "Hall", "[L](/west) [R](/east)", 2, .empty,
      [plainLink "L" "/west" 3 1 "west" [], plainLink "R" "/east" 3 12 "east" []]⟩]),
    ("west", [⟨"west", "West", "Dark.", 4, .empty, []⟩]),
    ("east", [⟨"east", "East", "[On](/garden)", 6, .empty, [plainLink "On" "/garden" 7 1 "garden" []]⟩]),
    ("garden", [⟨"garden", "Garden", "Green.", 8, .empty, []⟩])]

def forkStates : List State :=
  [forkStory.start, { scene := "west" }, { scene := "east" }, { scene := "garden" }]

theorem walk_forkStory : forkStory.walk 4 = .ok forkStates := by decide +kernel

theorem forkStates_closed : ∀ state ∈ forkStates, ∀ next ∈ (forkStory.successors state).toOption,
    next ⊆ forkStates := by decide +kernel

theorem injOn_pageId_forkStory : Set.InjOn State.pageId {state | forkStory.Reachable state} :=
  injOn_pageId_of_closed walk_forkStory forkStates_closed

theorem walk_is_breadth_first_fork :
    forkStory.walk 4 = .ok forkStates ∧ Set.InjOn State.pageId {state | forkStory.Reachable state} ∧
      (∀ state ∈ forkStates,
        IsLeast {steps | forkStory.ReachableIn steps state} (forkStory.distance state)) ∧
      (forkStates.Pairwise fun earlier later => forkStory.distance earlier ≤ forkStory.distance later) ∧
      ∀ front state rest, forkStates = front ++ state :: rest → front ≠ [] →
        ∃ earlier ∈ front, forkStory.distance state = forkStory.distance earlier + 1 ∧
          ∃ next, forkStory.successors earlier = .ok next ∧ state ∈ next :=
  ⟨walk_forkStory, injOn_pageId_forkStory, walk_is_breadth_first walk_forkStory injOn_pageId_forkStory⟩

end Gamebook.Story
