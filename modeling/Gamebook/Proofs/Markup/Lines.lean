import Mathlib.Algebra.Order.BigOperators.Group.List
import Mathlib.Algebra.Order.Group.Nat
import Gamebook.Proofs.Markup.Rendering
import Gamebook.Proofs.Text.Lines

/-!
The lines of a text as markup sees them: what each kind of line looks like, and which texts of the
lines are rendered.
-/

namespace Gamebook.Markup

open Gamebook.Text

variable {line description : Text}

/-- What the kind of a line says of the line without the blanks around it. -/
def Line.Marks (text : Text) : Line → Prop
  | .blank => text = []
  | .heading title => text = "#### " ++ title
  | .rule => text ∈ rules
  | .item entry => text ∉ rules ∧ (text = "- " ++ entry ∨ text = "* " ++ entry)
  | .plain whole => text = whole ∧ text ≠ []

theorem Line.marks_ofText (line : Text) : (ofText line).Marks (strip line) := by
  unfold ofText
  generalize strip line = text
  dsimp only
  split
  · rfl
  · rfl
  · rename_i nonempty _
    split
    · assumption
    · rename_i notRule
      split
      · exact ⟨notRule, .inl rfl⟩
      · exact ⟨notRule, .inr rfl⟩
      · exact ⟨rfl, nonempty⟩

def Line.texts : Line → List Text
  | .blank => []
  | .heading text => [text]
  | .rule => []
  | .item text => [text]
  | .plain text => [text]

theorem flatMap_texts_ofLines (gathered : List Text) (lines : List Line) :
    (Block.ofLines gathered lines).flatMap Block.texts = gathered ++ lines.flatMap Line.texts := by
  have flushed : ∀ gathered, (Block.paragraph? gathered).flatMap Block.texts = gathered := by
    intro gathered
    cases gathered with
    | nil => rfl
    | cons first rest => simp [Block.paragraph?, Block.texts]
  induction lines generalizing gathered with
  | nil => simp [Block.ofLines, flushed]
  | cons line lines ih =>
      cases line <;> simp [Block.ofLines, flushed, ih, Block.texts, Line.texts]

theorem lineTexts_eq (description : Text) :
    lineTexts description = (lines description).flatMap fun line => (Line.ofText line).texts := by
  rw [lineTexts, Block.ofText, flatMap_texts_ofLines, List.nil_append, List.flatMap_map]

/-- What is rendered of a line is a part of it. -/
theorem flatten_texts_sublist (line : Text) : (Line.ofText line).texts.flatten.Sublist line := by
  have marks := Line.marks_ofText line
  refine List.Sublist.trans ?_ (trim_sublist isBlank line)
  change List.Sublist _ (strip line)
  cases kind : Line.ofText line with
  | blank => exact List.nil_sublist _
  | rule => exact List.nil_sublist _
  | heading text =>
      rw [kind] at marks
      rw [show strip line = "#### " ++ text from marks, Line.texts, List.flatten_singleton]
      exact List.sublist_append_right _ text
  | item text =>
      rw [kind] at marks
      rw [Line.texts, List.flatten_singleton]
      rcases marks.2 with mark | mark
      · exact mark ▸ List.sublist_append_right _ text
      · exact mark ▸ List.sublist_append_right _ text
  | plain text =>
      rw [kind] at marks
      rw [marks.1, Line.texts, List.flatten_singleton]

theorem sublist_of_mem_texts {text : Text} (member : text ∈ (Line.ofText line).texts) :
    text.Sublist line :=
  (List.sublist_flatten_of_mem member).trans (flatten_texts_sublist line)

theorem sum_texts_le (line : Text) :
    ((Line.ofText line).texts.map List.length).sum ≤ line.length := by
  rw [← List.length_flatten]
  exact (flatten_texts_sublist line).length_le

theorem mem_of_mem_lineTexts {text : Text} {c : Char} (listed : text ∈ lineTexts description)
    (member : c ∈ text) : c ∈ description := by
  rw [lineTexts_eq] at listed
  obtain ⟨line, known, inside⟩ := List.mem_flatMap.mp listed
  exact (mem_of_mem_lines known ((sublist_of_mem_texts inside).subset member)).1

theorem sum_lineTexts_le (description : Text) :
    ((lineTexts description).map List.length).sum ≤ description.length := by
  rw [lineTexts_eq]
  refine Nat.le_trans ?_ (sum_lines_le description)
  induction lines description with
  | nil => simp
  | cons line lines ih =>
      have first := sum_texts_le line
      simp only [List.flatMap_cons, List.map_append, List.sum_append, List.map_cons, List.sum_cons]
      omega

theorem length_le_of_mem_lineTexts {text : Text} (listed : text ∈ lineTexts description) :
    text.length ≤ description.length :=
  Nat.le_trans (List.le_sum_of_mem (List.mem_map_of_mem listed)) (sum_lineTexts_le description)

end Gamebook.Markup
