import Gamebook.Proofs.Text.Joining
import Gamebook.Source.Destination

/-!
The parts of what a link's target says, each behind its mark. A part goes as far as its characters
do, so the parts of a target are told from one another by their marks alone.
-/

namespace Gamebook.Source.Destination

open Gamebook.Text Gamebook.Story

variable {mark : Char} {keep : Char → Bool} {target text rest : Text} {taken : Option Text}
  {destination : Destination}

/-- A part behind its mark, if there is one. -/
def marked (mark : Char) : Option Text → Text
  | none => []
  | some text => mark :: text

theorem part_some {taken : Text} (read : part mark keep text = (some taken, rest)) :
    taken ≠ [] ∧ ∀ c ∈ taken, keep c = true := by
  cases text with
  | nil => simp [part] at read
  | cons c text =>
      simp only [part] at read
      split at read
      · rename_i found
        simp only [Bool.and_eq_true, decide_eq_true_eq] at found
        obtain ⟨rfl, rfl⟩ := by simpa using read
        exact ⟨found.2, fun c member => List.mem_takeWhile_imp member⟩
      · simp at read

/-- What can be taken off the front of a text as one part. -/
def IsPart (keep : Char → Bool) (taken : Option Text) : Prop :=
  ∀ text, taken = some text → text ≠ [] ∧ ∀ c ∈ text, keep c = true

theorem isPart_part (mark : Char) (keep : Char → Bool) (text : Text) :
    IsPart keep (part mark keep text).1 :=
  fun _ found => part_some (Prod.ext found rfl)

theorem marked_part (mark : Char) (keep : Char → Bool) (text : Text) :
    marked mark (part mark keep text).1 ++ (part mark keep text).2 = text := by
  cases text with
  | nil => rfl
  | cons c text =>
      simp only [part]
      split
      · rename_i found
        simp only [Bool.and_eq_true, decide_eq_true_eq] at found
        simp [marked, found.1, List.takeWhile_append_dropWhile]
      · rfl

/-- A part that is taken goes as far as it can. -/
theorem part_stops (mark : Char) (keep : Char → Bool) (text : Text) :
    ∀ taken, (part mark keep text).1 = some taken →
      ∀ c, (part mark keep text).2.head? = some c → keep c = false := by
  intro taken found c first
  cases text with
  | nil => contradiction
  | cons d text =>
      simp only [part] at found first
      split at found
      · rename_i opened
        rw [if_pos opened] at first
        have stopped := List.head?_dropWhile_not keep text
        rw [first] at stopped
        simpa using stopped
      · contradiction

/-- A part is taken up to a text that starts with another mark. -/
theorem part_marked (mark : Char) (fitting : IsPart keep taken)
    (stops : ∀ c, rest.head? = some c → keep c = false ∧ c ≠ mark) :
    part mark keep (marked mark taken ++ rest) = (taken, rest) := by
  cases taken with
  | none =>
      cases rest with
      | nil => rfl
      | cons c rest => simp [marked, part, (stops c rfl).2]
  | some text =>
      obtain ⟨nonempty, kept⟩ := fitting text rfl
      obtain ⟨took, left⟩ := takeWhile_append_of_head? kept fun c first => (stops c first).1
      simp [marked, part, took, left, nonempty]

theorem head?_marked {c : Char} (first : (marked mark taken ++ rest).head? = some c) :
    c = mark ∨ rest.head? = some c := by
  cases taken with
  | none => exact .inr first
  | some text => exact .inl (by simpa [marked] using first.symm)

/-- How the parts of a target are read. -/
structure IsReadInParts (target : Text) (destination : Destination) (scene conditions toggles : Option Text)
    (ending : Text) : Prop where
  whole : target = marked '/' scene ++ (marked '?' conditions ++ (marked '#' toggles ++ ending))
  sceneFits : IsPart isNameChar scene
  conditionsFit : IsPart (· ≠ '#') conditions
  stops : ∀ text, conditions = some text →
    ∀ c, (marked '#' toggles ++ ending).head? = some c → c = '#'
  ending : ending = [] ∨ ending = ['\n']
  scene : destination.scene = scene.map lowerName
  conditions : readPart? readConditions? .empty conditions = some destination.conditions
  toggles : readPart? readToggles? [] toggles = some destination.toggles

theorem exists_parts (answers : read? target = some destination) :
    ∃ scene conditions toggles ending,
      IsReadInParts target destination scene conditions toggles ending := by
  have wholeTarget := marked_part '/' isNameChar target
  have sceneFits := isPart_part '/' isNameChar target
  simp only [read?] at answers
  -- each part is known by what it took, and the next one is taken from what it left
  generalize part '/' isNameChar target = scene at answers wholeTarget sceneFits
  obtain ⟨scene, behindScene⟩ := scene
  have wholeBehind := marked_part '?' (· ≠ '#') behindScene
  have conditionsFit := isPart_part '?' (· ≠ '#') behindScene
  have stops := part_stops '?' (· ≠ '#') behindScene
  generalize part '?' (· ≠ '#') behindScene = conditions at answers wholeBehind conditionsFit stops
  obtain ⟨conditions, behindConditions⟩ := conditions
  have wholeEnd := marked_part '#' (· ≠ '\n') behindConditions
  generalize part '#' (· ≠ '\n') behindConditions = toggles at answers wholeEnd
  obtain ⟨toggles, ending⟩ := toggles
  simp only at answers wholeTarget wholeBehind wholeEnd sceneFits conditionsFit stops
  subst wholeEnd wholeBehind wholeTarget
  refine ⟨scene, conditions, toggles, ending, ?_⟩
  split at answers
  · rename_i ends
    simp only [Option.bind_eq_bind, Option.bind_eq_some_iff, Option.pure_def, Option.some.injEq] at answers
    obtain ⟨said, conditionsRead, names, togglesRead, rfl⟩ := answers
    exact {
      whole := rfl
      sceneFits := sceneFits
      conditionsFit := conditionsFit
      stops := fun text found c first => by simpa using stops text found c first
      ending := by simpa using ends
      scene := rfl
      conditions := conditionsRead
      toggles := togglesRead }
  · contradiction

/-- Parts that fit their places are taken off again, each up to the mark of the next. -/
theorem read?_marked {scene conditions toggles : Option Text} {asked : Conditions} {names : List Text}
    (sceneFits : IsPart isNameChar scene) (conditionsFit : IsPart (· ≠ '#') conditions)
    (togglesFit : IsPart (· ≠ '\n') toggles)
    (conditionsRead : readPart? readConditions? .empty conditions = some asked)
    (togglesRead : readPart? readToggles? [] toggles = some names) :
    read? (marked '/' scene ++ (marked '?' conditions ++ marked '#' toggles)) =
      some ⟨scene.map lowerName, asked, names⟩ := by
  rw [← List.append_nil (marked '#' toggles)]
  have toggleMark : ∀ c, (marked '#' toggles ++ []).head? = some c → c = '#' := by
    intro c first
    rcases head?_marked first with same | nothing
    · exact same
    · contradiction
  have conditionMark : ∀ c, (marked '?' conditions ++ (marked '#' toggles ++ [])).head? = some c →
      c = '?' ∨ c = '#' :=
    fun c first => (head?_marked first).imp_right (toggleMark c)
  have scenePart := part_marked '/' sceneFits fun c first => by
    rcases conditionMark c first with rfl | rfl
    · decide
    · decide
  have conditionsPart := part_marked '?' conditionsFit fun c first => by
    rw [toggleMark c first]
    decide
  have nothing : ∀ c, List.head? ([] : Text) = some c → decide (c ≠ '\n') = false ∧ c ≠ '#' := nofun
  have togglesPart := part_marked '#' togglesFit nothing
  simp only [read?, scenePart, conditionsPart, togglesPart, conditionsRead, togglesRead]
  rfl

end Gamebook.Source.Destination
