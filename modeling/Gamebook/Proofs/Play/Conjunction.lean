import Gamebook.Play.State
import Gamebook.Proofs.Source.Grammar

/-!
What the conditions of a target ask for, next to what is written in it. Of several items with one
name the last is asked for, so a state that agrees with all items is let through, and no other is
unless a name is written both ways.
-/

namespace Gamebook

open Gamebook.Text Gamebook.Source Gamebook.Story

namespace Source.Destination

variable {target : Text} {destination : Destination}

/-- The items between the first question mark and the hash mark behind it. -/
def conditionItems (target : Text) : List Text :=
  match cutAt '?' target with
  | none => []
  | some (_, behind) => splitOn '&' (behind.takeWhile (· ≠ '#'))

/-- What each written item asks of a toggle, its name in small letters. -/
def writtenConditions (target : Text) : List (Text × Bool) :=
  (conditionItems target).map fun item => lowerItem (askedBy item)

theorem question_not_mem_marked {scene : Option Text} (fitting : IsPart isNameChar scene) :
    '?' ∉ marked '/' scene := by
  cases scene with
  | none => exact List.not_mem_nil
  | some name =>
      intro member
      rcases List.mem_cons.mp member with same | inside
      · contradiction
      · exact absurd ((fitting name rfl).2 _ inside) (by decide)

theorem question_not_mem_joined {names : List Text} (named : ∀ name ∈ names, isName name = true) :
    '?' ∉ marked '#' (joined '+' names) := by
  by_cases none : names = []
  · subst none
    exact List.not_mem_nil
  · rw [joined_eq_some none]
    intro member
    rcases List.mem_cons.mp member with same | inside
    · contradiction
    · rcases mem_intercalate inside with same | inName
      · contradiction
      · obtain ⟨name, listed, held⟩ := inName
        exact absurd ((isInName_of_isName (named name listed)).2 _ held) (by decide)

theorem conditionItems_of_none {scene toggles : Option Text} {ending : Text}
    (parts : IsReadInParts target destination scene none toggles ending) : conditionItems target = [] := by
  obtain ⟨names, namesFit, rfl, _⟩ := readsItems_toggles.exists_joined parts.toggles
  have absent : '?' ∉ target := by
    rw [parts.whole]
    simp only [List.mem_append, not_or]
    refine ⟨question_not_mem_marked parts.sceneFits, List.not_mem_nil,
      question_not_mem_joined fun name member => (namesFit name member).1, ?_⟩
    rcases parts.ending with none | broken
    · simp [none]
    · simp [broken]
  rw [conditionItems, cutAt_eq_none absent]

theorem conditionItems_of_some {scene toggles : Option Text} {text ending : Text}
    (parts : IsReadInParts target destination scene (some text) toggles ending) :
    conditionItems target = splitOn '&' text := by
  have whole : target = marked '/' scene ++ '?' :: (text ++ (marked '#' toggles ++ ending)) := parts.whole
  obtain ⟨took, _⟩ := takeWhile_append_of_head? (parts.conditionsFit text rfl).2
    fun c first => by rw [parts.stops text rfl c first]; decide
  rw [conditionItems, whole, cutAt_append_cons (question_not_mem_marked parts.sceneFits)]
  exact congrArg (splitOn '&') took

theorem conditions_of_read? (answers : read? target = some destination) :
    destination.conditions = .ofItems (writtenConditions target) := by
  obtain ⟨scene, conditions, toggles, ending, parts⟩ := exists_parts answers
  have conditionsRead := parts.conditions
  unfold writtenConditions
  cases conditions with
  | none =>
      rw [conditionItems_of_none parts]
      exact (Option.some.inj conditionsRead).symm
  | some text =>
      rw [conditionItems_of_some parts]
      exact ((readsItems_conditions.read text destination.conditions).mp conditionsRead).2

end Source.Destination

namespace Play.State

variable {target : Text} {destination : Destination}

/-- A state in which just the wanted toggles are set. -/
def agreeing (conditions : Conditions) : State where
  scene := []
  toggles := .ofList ((conditions.entries.filter Prod.snd).map Prod.fst)

theorem contains_agreeing (conditions : Conditions) (name : Text) :
    (agreeing conditions).toggles.contains name = true ↔ (name, true) ∈ conditions.entries := by
  simp [agreeing, Toggles.ofList]

theorem allows_agreeing (conditions : Conditions) : (agreeing conditions).allows conditions = true := by
  rw [allows, Conditions.met_iff]
  intro name wanted member
  rw [Bool.eq_iff_iff, contains_agreeing, Conditions.mem_entries_iff, Conditions.mem_entries_iff.mp member,
    Option.some.injEq]

/-- The conditions of a target ask for its last item with each name. So a state with which all items
agree is let through, and no other state is if and only if no name is written both ways. -/
theorem allows_isLastWritten (answers : Destination.read? target = some destination) :
    (∀ state : State, state.allows destination.conditions = true ↔
      ∀ name wanted, Conditions.lastWanted (Destination.writtenConditions target) name = some wanted →
        state.toggles.contains name = wanted) ∧
      (∀ state : State,
        (∀ item ∈ Destination.writtenConditions target, state.toggles.contains item.1 = item.2) →
          state.allows destination.conditions = true) ∧
      ((∀ state : State, state.allows destination.conditions = true →
          ∀ item ∈ Destination.writtenConditions target, state.toggles.contains item.1 = item.2) ↔
        ∀ name, ¬((name, true) ∈ Destination.writtenConditions target ∧
          (name, false) ∈ Destination.writtenConditions target)) := by
  have given := Destination.conditions_of_read? answers
  generalize Destination.writtenConditions target = items at given
  refine ⟨fun state => ?_, fun state all => ?_, fun conjoined name both => ?_, fun apart state met => ?_⟩
  · rw [allows, given, Conditions.met_ofItems]
  · rw [allows, given]
    exact Conditions.met_ofItems_of_all all
  -- whatever is asked for last can be met, so a name that is written both ways is let through
  · have all := conjoined (agreeing destination.conditions) (allows_agreeing destination.conditions)
    have set := all (name, true) both.1
    rw [all (name, false) both.2] at set
    contradiction
  · rw [allows, given] at met
    exact Conditions.all_of_met_ofItems apart met

/-- Asks for a key twice, and for an alarm that is not set. -/
def guarded : Text := "/vault?Key&!alarm&key"

def guardedDestination : Destination :=
  ⟨some "vault".toList, ⟨[("key", true), ("alarm", false)], by decide⟩, []⟩

theorem allows_isLastWritten_guarded :
    Destination.read? guarded = some guardedDestination ∧
      (⟨"hall", .ofList ["key"], []⟩ : State).allows guardedDestination.conditions = true := by
  have answers : Destination.read? guarded = some guardedDestination := by decide +kernel
  exact ⟨answers, (allows_isLastWritten answers).2.1 _ (by decide)⟩

/-- Asks for a key and then for its absence. -/
def undecided : Text := "/vault?key&!key"

def undecidedDestination : Destination := ⟨some "vault".toList, ⟨[("key", false)], by decide⟩, []⟩

theorem undecided_isAllowed :
    Destination.read? undecided = some undecidedDestination ∧
      ¬((⟨"hall", .empty, []⟩ : State).allows undecidedDestination.conditions = true ↔
        ∀ item ∈ Destination.writtenConditions undecided,
          (⟨"hall", .empty, []⟩ : State).toggles.contains item.1 = item.2) := by
  decide +kernel

end Play.State

end Gamebook
