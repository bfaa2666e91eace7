import Gamebook.Markup.Placeholder
import Gamebook.Proofs.Effects
import Gamebook.Proofs.Text.Digits
import Gamebook.Proofs.Text.Scanning

/-!
Placeholders are restored one by one, and what stands between them is left as it is.
-/

namespace Gamebook.Markup.Placeholder

open Gamebook.Text

variable {mark c : Char} {fragments : List Text} {text rest html fragment part : Text} {number : Nat}

/-- A control character that marks placeholders. -/
def IsMark (c : Char) : Prop := c = imageMark ∨ c = linkMark

instance : DecidablePred IsMark := fun _ => inferInstanceAs (Decidable (_ ∨ _))

theorem IsMark.not_digit (marks : IsMark mark) : isDigit mark = false := by
  rcases marks with rfl | rfl <;> decide

theorem mem_ofNumber (member : c ∈ ofNumber mark number) : c = mark ∨ c.isDigit = true := by
  simp only [ofNumber, write, List.cons_append, List.mem_cons, List.mem_append, List.not_mem_nil,
    or_false] at member
  rcases member with same | digit | same
  · exact .inl same
  · exact .inr (isDigit_of_mem_ofNat digit)
  · exact .inl same

theorem not_mem_ofNumber (other : c ≠ mark) (noDigit : c.isDigit = false) : c ∉ ofNumber mark number := by
  intro member
  rcases mem_ofNumber member with same | digit
  · exact other same
  · rw [noDigit] at digit
    cases digit

theorem isFree_pattern (mark : Char) : (pattern mark).IsFree := fun _ _ => rfl

theorem read_ofNumber (marks : IsMark mark) (number : Nat) (rest : Text) :
    read mark (ofNumber mark number ++ rest) = some (ofNat number, rest) := by
  have digits : ∀ c ∈ ofNat number, isDigit c = true := by
    intro c member
    rw [isDigit, digit?_of_isDigit (isDigit_of_mem_ofNat member)]
    rfl
  have taken : (ofNat number ++ mark :: rest).takeWhile isDigit = ofNat number := by
    rw [List.takeWhile_append_of_pos digits]
    simp [marks.not_digit]
  have left : (ofNat number ++ mark :: rest).dropWhile isDigit = mark :: rest := by
    rw [List.dropWhile_append_of_pos digits]
    simp [marks.not_digit]
  have whole : ofNumber mark number ++ rest = mark :: (ofNat number ++ mark :: rest) := by
    simp [ofNumber, write]
  rw [whole, read, if_pos rfl, taken, left]
  cases written : ofNat number with
  | nil => exact absurd written Nat.toDigits_ne_nil
  | cons d digits => simp

theorem restore_nil : restore mark fragments [] = .ok [] := by
  unfold restore Pattern.pieces
  rw [Pattern.split]
  rfl

theorem restore_of_pieces {piece : Piece Text}
    (cut : (pattern mark).pieces text = piece :: (pattern mark).pieces rest)
    (first : restorePiece fragments piece = .ok part)
    (others : restore mark fragments rest = .ok html) :
    restore mark fragments text = .ok (part ++ html) := by
  unfold restore at others ⊢
  obtain ⟨parts, restored, same⟩ := bind_eq_ok.mp others
  cases same
  rw [cut, List.mapM_cons, first, restored]
  rfl

theorem exists_of_restore {piece : Piece Text}
    (cut : (pattern mark).pieces text = piece :: (pattern mark).pieces rest)
    (restored : restore mark fragments text = .ok html) :
    ∃ part others, restorePiece fragments piece = .ok part ∧ restore mark fragments rest = .ok others ∧
      html = part ++ others := by
  unfold restore at restored ⊢
  rw [cut, List.mapM_cons] at restored
  obtain ⟨all, made, same⟩ := bind_eq_ok.mp restored
  obtain ⟨part, first, made⟩ := bind_eq_ok.mp made
  obtain ⟨parts, later, made⟩ := bind_eq_ok.mp made
  cases made
  cases same
  exact ⟨part, parts.flatten, first, bind_eq_ok.mpr ⟨parts, later, rfl⟩, rfl⟩

theorem pieces_cons (plain : c ≠ mark) (text : Text) :
    (pattern mark).pieces (c :: text) = .plain c :: (pattern mark).pieces text := by
  have passed : (pattern mark).read none (c :: text) = none := by
    change read mark (c :: text) = none
    simp [read, plain]
  exact (isFree_pattern mark).pieces_of_not_read passed

theorem pieces_ofNumber (marks : IsMark mark) (number : Nat) (text : Text) :
    (pattern mark).pieces (ofNumber mark number ++ text) =
      .token (ofNat number) :: (pattern mark).pieces text :=
  (isFree_pattern mark).pieces_of_read (read_ofNumber marks number text)

theorem restore_cons (plain : c ≠ mark) (others : restore mark fragments text = .ok html) :
    restore mark fragments (c :: text) = .ok (c :: html) := by
  have first : restorePiece fragments (.plain c) = .ok [c] := rfl
  exact restore_of_pieces (pieces_cons plain text) first others

theorem restore_ofNumber (marks : IsMark mark) (known : fragments[number]? = some fragment)
    (few : fragments.length ≤ 10 ^ maxDigits) (others : restore mark fragments text = .ok html) :
    restore mark fragments (ofNumber mark number ++ text) = .ok (fragment ++ html) := by
  have inside : number < fragments.length := (List.getElem?_eq_some_iff.mp known).1
  have first : restorePiece fragments (.token (ofNat number)) = .ok fragment := by
    have short := length_ofNat_le (Nat.lt_of_lt_of_le inside few)
    have notLong : ¬ (ofNat number).length > maxDigits := by omega
    rw [restorePiece, Placeholder.fragment, if_neg notLong, digitsValue_ofNat, known]
  exact restore_of_pieces (pieces_ofNumber marks number text) first others

/-- The number of any fragment that has an index can be read. -/
theorem indexLimit_le : indexLimit ≤ 10 ^ maxDigits := by
  have limit : indexLimit ≤ 10 ^ 20 := by decide
  exact Nat.le_trans limit (Nat.pow_le_pow_right (by decide) (by decide))

/-- A text all of whose placeholders with this mark have fragments, and the text with these in their
place. -/
inductive Restored (mark : Char) (fragments : List Text) : Text → Text → Prop
  | nil : Restored mark fragments [] []
  | char {c : Char} {text whole : Text} (plain : c ≠ mark) (others : Restored mark fragments text whole) :
      Restored mark fragments (c :: text) (c :: whole)
  | fragment {number : Nat} {fragment text whole : Text} (known : fragments[number]? = some fragment)
      (others : Restored mark fragments text whole) :
      Restored mark fragments (ofNumber mark number ++ text) (fragment ++ whole)

namespace Restored

variable {left right leftWhole rightWhole whole : Text} {more : List Text}

theorem append (first : Restored mark fragments left leftWhole)
    (second : Restored mark fragments right rightWhole) :
    Restored mark fragments (left ++ right) (leftWhole ++ rightWhole) := by
  induction first with
  | nil => exact second
  | char plain _ ih => exact .char plain ih
  | fragment known _ ih =>
      rw [List.append_assoc, List.append_assoc]
      exact .fragment known ih

theorem same (free : mark ∉ text) : Restored mark fragments text text := by
  induction text with
  | nil => exact .nil
  | cons c text ih =>
      exact .char (fun same => free (same ▸ List.mem_cons_self)) (ih fun member => free (.tail _ member))

theorem single (known : fragments[number]? = some fragment) :
    Restored mark fragments (ofNumber mark number) fragment := by
  simpa using @Restored.fragment mark _ _ _ _ _ known .nil

theorem eq_nil (restored : Restored mark fragments [] whole) : whole = [] := by
  generalize empty : ([] : Text) = text at restored
  cases restored with
  | nil => rfl
  | char => cases empty
  | fragment => cases empty

theorem eq_of_nil (restored : Restored mark [] text whole) : whole = text := by
  induction restored with
  | nil => rfl
  | char _ _ ih => rw [ih]
  | fragment known => cases known

/-- Fragments that are put aside later change nothing. -/
theorem extend (longer : fragments <+: more) (restored : Restored mark fragments text whole) :
    Restored mark more text whole := by
  induction restored with
  | nil => exact .nil
  | char plain _ ih => exact .char plain ih
  | fragment known _ ih =>
      obtain ⟨rest, rfl⟩ := longer
      have inside := (List.getElem?_eq_some_iff.mp known).1
      exact .fragment (by rw [List.getElem?_append_left inside, known]) ih

theorem restore_of_le (marks : IsMark mark) (few : fragments.length ≤ 10 ^ maxDigits)
    (restored : Restored mark fragments text whole) : restore mark fragments text = .ok whole := by
  induction restored with
  | nil => exact restore_nil
  | char plain _ ih => exact restore_cons plain ih
  | fragment known _ ih => exact restore_ofNumber marks known few ih

theorem restore_eq (marks : IsMark mark) (few : fragments.length ≤ indexLimit)
    (restored : Restored mark fragments text whole) : restore mark fragments text = .ok whole :=
  restored.restore_of_le marks (Nat.le_trans few indexLimit_le)

/-- Nothing else can be restored, however many fragments there are. -/
theorem eq_of_restore (marks : IsMark mark) (restored : Restored mark fragments text whole)
    (done : restore mark fragments text = .ok html) : html = whole := by
  induction restored generalizing html with
  | nil =>
      rw [restore_nil] at done
      cases done
      rfl
  | @char c text whole plain _ ih =>
      obtain ⟨part, others, first, later, rfl⟩ := exists_of_restore (pieces_cons plain text) done
      cases first
      rw [ih later]
      rfl
  | @fragment number fragment text whole known _ ih =>
      obtain ⟨part, others, first, later, rfl⟩ :=
        exists_of_restore (pieces_ofNumber marks number text) done
      rw [restorePiece, Placeholder.fragment] at first
      split at first
      · cases first
      · rw [digitsValue_ofNat, known] at first
        cases first
        rw [ih later]

end Restored

end Gamebook.Markup.Placeholder
