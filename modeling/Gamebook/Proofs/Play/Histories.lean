import Gamebook.Proofs.Play.Reachable
import Gamebook.Proofs.Story.Distinct

/-!
What a reader has set in the course of a play. Every link adds its fresh toggles to those that were
set before it. So a toggle is fresh in one state of a play at most, and the action that it brings is
shown there and never again.
-/

namespace Gamebook.Story

open Gamebook.Text Gamebook.Play

variable {story : Story} {play : Nat → State} {last place early late : Nat} {state : State} {link : Link}
  {name : Text} {action : Action}

/-- A play from the start to a last state, in which each state leads to the one behind it. -/
structure IsPlay (story : Story) (play : Nat → State) (last : Nat) : Prop where
  first : play 0 = story.start
  leads : ∀ place < last, ∃ next, story.successors (play place) = .ok next ∧ play (place + 1) ∈ next

theorem not_contains_of_fresh (fresh : name ∈ (state.follow link).fresh) :
    state.toggles.contains name = false := by
  have unset := (List.mem_filter.mp fresh).2
  simpa using unset

namespace IsPlay

theorem exists_link (plays : story.IsPlay play last) (inside : place < last) :
    ∃ link ∈ story.allLinks, play (place + 1) = (play place).follow link := by
  obtain ⟨next, leads, member⟩ := plays.leads place inside
  exact exists_link_of_successor leads member

/-- What is set is what was fresh on the way. -/
theorem contains_iff (plays : story.IsPlay play last) (inside : place ≤ last) (name : Text) :
    (play place).toggles.contains name = true ↔
      ∃ earlier, 0 < earlier ∧ earlier ≤ place ∧ name ∈ (play earlier).fresh := by
  induction place with
  | zero =>
      rw [plays.first]
      constructor
      · exact fun set => absurd set (by simp [Story.start])
      · rintro ⟨earlier, positive, notLater, _⟩
        omega
  | succ place ih =>
      obtain ⟨link, _, follows⟩ := plays.exists_link inside
      rw [follows, contains_follow, ← follows, ih (Nat.le_of_lt inside)]
      constructor
      · rintro (⟨earlier, positive, notLater, fresh⟩ | fresh)
        · exact ⟨earlier, positive, Nat.le_succ_of_le notLater, fresh⟩
        · exact ⟨place + 1, Nat.succ_pos place, Nat.le_refl _, fresh⟩
      · rintro ⟨earlier, positive, notLater, fresh⟩
        rcases Nat.le_succ_iff.mp notLater with before | rfl
        · exact .inl ⟨earlier, positive, before, fresh⟩
        · exact .inr fresh

theorem contains_later (plays : story.IsPlay play last) (ordered : early ≤ late) (inside : late ≤ last)
    (set : (play early).toggles.contains name = true) : (play late).toggles.contains name = true := by
  obtain ⟨earlier, positive, before, fresh⟩ :=
    (plays.contains_iff (Nat.le_trans ordered inside) name).mp set
  exact (plays.contains_iff inside name).mpr ⟨earlier, positive, Nat.le_trans before ordered, fresh⟩

theorem not_contains_before (plays : story.IsPlay play last) (inside : place < last)
    (fresh : name ∈ (play (place + 1)).fresh) : (play place).toggles.contains name = false := by
  obtain ⟨link, _, follows⟩ := plays.exists_link inside
  rw [follows] at fresh
  exact not_contains_of_fresh fresh

theorem positive_of_fresh (plays : story.IsPlay play last) (fresh : name ∈ (play place).fresh) :
    0 < place := by
  cases place with
  | zero =>
      rw [plays.first] at fresh
      cases fresh
  | succ place => exact Nat.succ_pos place

/-- Behind the state in which it is fresh a toggle is set, and therefore not fresh again. -/
theorem not_fresh_later (plays : story.IsPlay play last) (ordered : early < late)
    (inside : late ≤ last) (fresh : name ∈ (play early).fresh) : name ∉ (play late).fresh := by
  intro again
  obtain ⟨before, rfl⟩ := Nat.exists_eq_succ_of_ne_zero (Nat.ne_zero_of_lt ordered)
  have set : (play before).toggles.contains name = true :=
    (plays.contains_iff (Nat.le_of_lt inside) name).mpr
      ⟨early, plays.positive_of_fresh fresh, Nat.le_of_lt_succ ordered, fresh⟩
  rw [plays.not_contains_before inside again] at set
  cases set

theorem fresh_once (plays : story.IsPlay play last) (firstInside : early ≤ last)
    (secondInside : late ≤ last) (fresh : name ∈ (play early).fresh)
    (again : name ∈ (play late).fresh) : early = late := by
  rcases Nat.lt_trichotomy early late with before | same | behind
  · exact absurd again (plays.not_fresh_later before secondInside fresh)
  · exact same
  · exact absurd fresh (plays.not_fresh_later behind firstInside again)

/-- Two names never bring the same action, so an action is shown as often as its name is fresh. -/
theorem shown_once (plays : story.IsPlay play last) (distinct : story.IsDistinct)
    (firstInside : early ≤ last) (secondInside : late ≤ last)
    (shown : action ∈ story.freshActions (play early))
    (again : action ∈ story.freshActions (play late)) : early = late := by
  obtain ⟨name, fresh, found⟩ := List.mem_filterMap.mp shown
  obtain ⟨other, alsoFresh, alsoFound⟩ := List.mem_filterMap.mp again
  obtain rfl : name = other :=
    (distinct.key_of_action? found).symm.trans (distinct.key_of_action? alsoFound)
  exact plays.fresh_once firstInside secondInside fresh alsoFresh

end IsPlay

/-- In every play of every story the toggles set are those that were fresh on the way, none is ever
unset, and what is fresh was not set before. So no toggle is fresh in two states of a play, and of a
story that was read from a text no action is shown in two. -/
theorem play_frees_once (plays : story.IsPlay play last) :
    (∀ name, (play last).toggles.contains name = true ↔
      ∃ place, 0 < place ∧ place ≤ last ∧ name ∈ (play place).fresh) ∧
    (∀ early late, early ≤ late → late ≤ last → ∀ name,
      (play early).toggles.contains name = true → (play late).toggles.contains name = true) ∧
    (∀ place < last, ∀ name ∈ (play (place + 1)).fresh,
      (play place).toggles.contains name = false) ∧
    (∀ early ≤ last, ∀ late ≤ last, ∀ name ∈ (play early).fresh, name ∈ (play late).fresh →
      early = late) ∧
    ∀ text warnings orphans, ofText text = .ok ⟨story, warnings, orphans⟩ →
      ∀ early ≤ last, ∀ late ≤ last, ∀ action ∈ story.freshActions (play early),
        action ∈ story.freshActions (play late) → early = late := by
  refine ⟨plays.contains_iff (Nat.le_refl last), fun early late ordered inside name => ?_,
    fun place inside name => plays.not_contains_before inside,
    fun early firstInside late secondInside name => plays.fresh_once firstInside secondInside, ?_⟩
  · exact plays.contains_later ordered inside
  · intro text warnings orphans accepted early firstInside late secondInside action
    exact plays.shown_once (isDistinct_of_ofText accepted) firstInside secondInside

/-- Back and forth, the key being taken with the first link. -/
def keyPlay (place : Nat) : State :=
  match place with
  | 0 => keyStory.start
  | 1 => ⟨"den", .ofList ["key"], ["key"]⟩
  | 2 => ⟨"hall", .ofList ["key"], []⟩
  | _ => ⟨"den", .ofList ["key"], []⟩

theorem play_frees_once_key :
    keyStory.IsPlay keyPlay 3 ∧
      (∀ name, (keyPlay 3).toggles.contains name = true ↔
        ∃ place, 0 < place ∧ place ≤ 3 ∧ name ∈ (keyPlay place).fresh) ∧
      ∀ early ≤ 3, ∀ late ≤ 3, ∀ action ∈ keyStory.freshActions (keyPlay early),
        action ∈ keyStory.freshActions (keyPlay late) → early = late := by
  have plays : keyStory.IsPlay keyPlay 3 := by
    refine ⟨rfl, fun place inside => ⟨[keyPlay (place + 1)], ?_, List.mem_singleton_self _⟩⟩
    match place with
    | 0 => rfl
    | 1 => rfl
    | 2 => rfl
  obtain ⟨union, _, _, _, shown⟩ := play_frees_once plays
  exact ⟨plays, union, shown keySource [] [] ofText_keySource⟩

end Gamebook.Story
