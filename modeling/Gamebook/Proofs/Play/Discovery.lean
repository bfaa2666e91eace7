import Gamebook.Proofs.Play.Exploration

/-!
How a walk comes to its states: a state in front of each but the first leads to it.
-/

namespace Gamebook.Story

open Gamebook.Play

variable {story : Story} {state earlier : State} {front rest states : List State} {found more : Found}
  {bound : Int}

/-- Each state but the first, which is the start, is listed behind one that leads to it. -/
inductive IsDiscovered (story : Story) : List State → Prop
  | start : IsDiscovered story [story.start]
  | add {states next : List State} {earlier state : State} (before : IsDiscovered story states)
      (listed : earlier ∈ states) (leads : story.successors earlier = .ok next)
      (member : state ∈ next) : IsDiscovered story (states ++ [state])

theorem IsDiscovered.earlier_exists (discovered : story.IsDiscovered (front ++ state :: rest))
    (notFirst : front ≠ []) :
    ∃ earlier ∈ front, ∃ next, story.successors earlier = .ok next ∧ state ∈ next := by
  generalize whole : front ++ state :: rest = states at discovered
  induction discovered generalizing rest with
  | start =>
      rw [List.append_eq_singleton_iff] at whole
      rcases whole with ⟨empty, _⟩ | ⟨_, absurd⟩
      · exact (notFirst empty).elim
      · cases absurd
  | @add states next earlier last before listed leads member ih =>
      rcases List.eq_nil_or_concat rest with rfl | ⟨middle, other, rfl⟩
      · obtain ⟨rfl, same⟩ := List.append_inj' whole rfl
        obtain rfl := (List.cons.inj same).1
        exact ⟨earlier, listed, next, leads, member⟩
      · rw [List.concat_eq_append, ← List.cons_append, ← List.append_assoc] at whole
        exact ih (List.append_inj' whole rfl).1

theorem Found.addAll_isDiscovered (before : story.IsDiscovered found.order.toList)
    (listed : earlier ∈ found.order.toList) (leads : story.successors earlier = .ok states)
    (added : found.addAll bound states = .ok more) : story.IsDiscovered more.order.toList := by
  suffices story.IsDiscovered more.order.toList ∧ earlier ∈ more.order.toList from this.1
  apply addAll_induction (motive := fun found =>
    story.IsDiscovered found.order.toList ∧ earlier ∈ found.order.toList) ⟨before, listed⟩ _ added
  intro found held state member _
  rw [Array.toList_push]
  exact ⟨.add held.1 held.2 leads member, List.mem_append_left _ held.2⟩

theorem walk_isDiscovered (walked : story.walk bound = .ok states) : story.IsDiscovered states := by
  obtain ⟨found, ended, rfl⟩ := walk_eq_ok.mp walked
  have carried : ∃ last, found.order.size ≤ last ∧ story.IsDiscovered found.order.toList := by
    apply walkFrom_induction (motive := fun found _ => story.IsDiscovered found.order.toList) .start _ ended
    intro found place inside before states leads more added
    exact Found.addAll_isDiscovered before (by simp) leads added
  obtain ⟨_, _, discovered⟩ := carried
  exact discovered

end Gamebook.Story
