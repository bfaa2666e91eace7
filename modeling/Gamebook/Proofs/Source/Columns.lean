import Mathlib.Data.List.Pairwise
import Gamebook.Proofs.Source.Trimming

/-!
The links of a line with their columns: each link is a part of the line, and each has a column of its
own.
-/

namespace Gamebook.Source.WrittenLink

open Gamebook.Text

variable {line : Text} {column first : Nat} {link : WrittenLink} {pieces : List (Piece WrittenLink)}

theorem map_snd_placed (column : Nat) (pieces : List (Piece WrittenLink)) :
    (placed column pieces).map Prod.snd = pieces.filterMap Piece.token? := by
  induction pieces generalizing column with
  | nil => rfl
  | cons piece pieces ih =>
      cases piece with
      | plain c => exact ih (column + 1)
      | token written =>
          rw [placed, List.map_cons, ih]
          rfl

theorem eq_write_of_ofWhole? (whole : ofWhole? line = some link) : line = link.write := by
  unfold ofWhole? at whole
  split at whole
  · rename_i taken
    cases whole
    simpa using eq_write_of_read taken
  · contradiction

theorem target_sublist (link : WrittenLink) : link.target.Sublist link.write := by
  have opened : link.target.Sublist (']' :: '(' :: link.target) := ((List.Sublist.refl _).cons '(').cons ']'
  exact (opened.trans (List.sublist_append_right _ _)).trans (List.sublist_append_left _ _)

/-- The column of a link counts what stands in front of it. -/
theorem exists_of_mem_placed (member : (column, link) ∈ placed first pieces) :
    ∃ front behind, pieces = front ++ .token link :: behind ∧
      column = first + (front.flatMap pattern.text).length := by
  induction pieces generalizing first with
  | nil => contradiction
  | cons piece pieces ih =>
      cases piece with
      | plain c =>
          obtain ⟨front, behind, rfl, rfl⟩ := ih member
          refine ⟨.plain c :: front, behind, rfl, ?_⟩
          rw [List.flatMap_cons, List.length_append, ← Nat.add_assoc]
          rfl
      | token written =>
          rcases List.mem_cons.mp member with same | later
          · cases same
            exact ⟨[], pieces, rfl, rfl⟩
          · obtain ⟨front, behind, rfl, rfl⟩ := ih later
            refine ⟨.token written :: front, behind, rfl, ?_⟩
            rw [List.flatMap_cons, List.length_append, ← Nat.add_assoc]
            rfl

theorem column_le_of_mem_placed (member : (column, link) ∈ placed first pieces) : first ≤ column := by
  obtain ⟨front, _, _, rfl⟩ := exists_of_mem_placed member
  exact Nat.le_add_right first _

/-- A link of a line is written from its column on. -/
theorem exists_of_mem_ofLine (member : (column, link) ∈ ofLine line) :
    ∃ front behind, line = front ++ (link.write ++ behind) ∧ column = front.length + 1 := by
  obtain ⟨front, behind, cut, rfl⟩ := exists_of_mem_placed member
  have whole := pattern.flatMap_text_pieces line
  rw [cut, List.flatMap_append, List.flatMap_cons] at whole
  exact ⟨_, _, whole.symm, Nat.add_comm 1 _⟩

theorem write_sublist (member : (column, link) ∈ ofLine line) : link.write.Sublist line := by
  obtain ⟨front, behind, rfl, _⟩ := exists_of_mem_ofLine member
  exact (List.sublist_append_left _ behind).trans (List.sublist_append_right front _)

/-- The part of a line that a link takes is that link by itself. -/
theorem ofWhole?_of_mem_ofLine (member : (column, link) ∈ ofLine line) :
    ofWhole? link.write = some link := by
  obtain ⟨front, behind, cut, _⟩ := exists_of_mem_placed member
  have listed : .token link ∈ pattern.split none line := by
    rw [← Pattern.pieces, cut]
    simp
  obtain ⟨before, text, rest, taken⟩ := Pattern.exists_read_of_mem_split listed
  obtain ⟨_, _, label, target⟩ := read_eq_some.mp taken
  have alone : read none link.write = some (link, []) :=
    read_eq_some.mpr ⟨by simp, by simp, label, target⟩
  simp [ofWhole?, alone]

/-- A link ends before the next one begins. -/
theorem pairwise_spans_placed (first : Nat) (pieces : List (Piece WrittenLink)) :
    (placed first pieces).Pairwise fun left right => left.1 + left.2.write.length ≤ right.1 := by
  induction pieces generalizing first with
  | nil => exact .nil
  | cons piece pieces ih =>
      cases piece with
      | plain c => exact ih (first + 1)
      | token written =>
          exact List.pairwise_cons.mpr ⟨fun later member => column_le_of_mem_placed member, ih _⟩

end Gamebook.Source.WrittenLink
