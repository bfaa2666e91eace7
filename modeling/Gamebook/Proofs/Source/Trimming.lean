import Gamebook.Source.Link
import Gamebook.Proofs.Text.Scanning
import Gamebook.Text.Blank

/-!
The links of a line are found in its trimmed text as well: blanks and the marks of headings and
lists start no link, end none and do not tell an image from a link.
-/

namespace Gamebook.Source.WrittenLink

open Gamebook.Text

variable {before : Option Char} {text rest left right : Text} {link : WrittenLink}

theorem read_eq_some : read before text = some (link, rest) ↔
    before ≠ some '!' ∧ text = link.write ++ rest ∧ ']' ∉ link.label ∧ ')' ∉ link.target := by
  constructor
  · intro taken
    have whole := eq_write_of_read taken
    unfold read at taken
    split at taken
    · split at taken
      · cases taken
      · rename_i allowed
        split at taken
        · split at taken
          · cases taken
            refine ⟨allowed, whole, fun member => ?_, fun member => ?_⟩
            · have inside := List.all_eq_true.mp List.all_takeWhile _ member
              simp at inside
            · have inside := List.all_eq_true.mp List.all_takeWhile _ member
              simp at inside
          · cases taken
        · cases taken
    · cases taken
  · rintro ⟨allowed, rfl, label, target⟩
    have written : link.write ++ rest =
        '[' :: (link.label ++ ']' :: '(' :: (link.target ++ ')' :: rest)) := by
      simp [write]
    rw [written, read, if_neg allowed, dropWhile_ne label, takeWhile_ne label]
    simp only [dropWhile_ne target, takeWhile_ne target]

/-- What stands in front of a line's text: no link starts there, and no image either. -/
def IsLead (text : Text) : Prop := ∀ c ∈ text, c ≠ '[' ∧ c ≠ '!'

theorem read_none {c : Char} (other : c ≠ '[') : read before (c :: text) = none := by
  unfold read
  split
  · rename_i same
    exact absurd (List.cons.inj same).1 other
  · rfl

theorem read_append_blank (blank : ∀ c ∈ right, isBlank c = true) :
    read before (text ++ right) = (read before text).map fun (link, rest) => (link, rest ++ right) := by
  cases taken : read before text with
  | some found =>
      obtain ⟨link, rest⟩ := found
      obtain ⟨allowed, whole, label, target⟩ := read_eq_some.mp taken
      exact read_eq_some.mpr ⟨allowed, by rw [whole, List.append_assoc], label, target⟩
  | none =>
      apply Option.eq_none_iff_forall_ne_some.mpr
      intro found again
      obtain ⟨link, rest⟩ := found
      obtain ⟨allowed, whole, label, target⟩ := read_eq_some.mp again
      rcases List.append_eq_append_iff.mp whole with ⟨extra, written, blanks⟩ | ⟨extra, short, _⟩
      · have last : link.write.getLast? = some ')' := by
          rw [write, List.getLast?_append]
          rfl
        rw [written, List.getLast?_append] at last
        cases extra with
        | nil =>
            have inside : read before text = some (link, []) :=
              read_eq_some.mpr ⟨allowed, by simp [written], label, target⟩
            rw [taken] at inside
            cases inside
        | cons c extra =>
            rw [List.getLast?_cons, Option.some_or, ← List.getLast?_cons] at last
            have member : ')' ∈ right := by
              rw [blanks]
              exact List.mem_append_left _ (List.mem_of_getLast? last)
            exact absurd (blank _ member) (by decide)
      · have inside : read before text = some (link, extra) :=
          read_eq_some.mpr ⟨allowed, short, label, target⟩
        rw [taken] at inside
        cases inside

theorem read_before (allowed : before ≠ some '!') (text : Text) :
    read before text = read none text := by
  cases taken : read none text with
  | some found =>
      obtain ⟨link, rest⟩ := found
      obtain ⟨_, conditions⟩ := read_eq_some.mp taken
      exact read_eq_some.mpr ⟨allowed, conditions⟩
  | none =>
      apply Option.eq_none_iff_forall_ne_some.mpr
      intro found again
      obtain ⟨_, conditions⟩ := read_eq_some.mp again
      have inside : read none text = some found := read_eq_some.mpr ⟨by simp, conditions⟩
      rw [taken] at inside
      cases inside

theorem split_before (allowed : before ≠ some '!') (text : Text) :
    pattern.split before text = pattern.pieces text := by
  cases text with
  | nil => rw [Pattern.pieces, Pattern.split, Pattern.split]
  | cons c text =>
      have same : pattern.read before (c :: text) = pattern.read none (c :: text) :=
        read_before allowed _
      unfold Pattern.pieces
      cases taken : pattern.read none (c :: text) with
      | none =>
          rw [taken] at same
          rw [Pattern.split_of_not_read taken, Pattern.split_of_not_read same]
      | some found =>
          rw [taken] at same
          rw [Pattern.split_of_read taken, Pattern.split_of_read same]

theorem split_lead (lead : IsLead left) (allowed : before ≠ some '!') (text : Text) :
    pattern.split before (left ++ text) = left.map .plain ++ pattern.pieces text := by
  induction left generalizing before with
  | nil => exact split_before allowed text
  | cons c left ih =>
      have first := lead c List.mem_cons_self
      have others : pattern.split (some c) (left ++ text) =
          left.map .plain ++ pattern.pieces text :=
        ih (fun d member => lead d (.tail _ member)) (by simp [first.2])
      rw [List.cons_append, Pattern.split_of_not_read (read_none first.1), others]
      rfl

theorem split_plain (noLink : '[' ∉ text) (before : Option Char) :
    pattern.split before text = text.map .plain := by
  induction text generalizing before with
  | nil => rw [Pattern.split]; rfl
  | cons c text ih =>
      have other : c ≠ '[' := fun same => noLink (by simp [same])
      rw [Pattern.split_of_not_read (read_none other), ih fun member => noLink (.tail _ member)]
      rfl

theorem isLead_of_blank (blank : ∀ c ∈ text, isBlank c = true) : IsLead text := by
  intro c member
  refine ⟨?_, ?_⟩ <;> rintro rfl <;> exact absurd (blank _ member) (by decide)

theorem split_blank (blank : ∀ c ∈ right, isBlank c = true) (before : Option Char) (text : Text) :
    pattern.split before (text ++ right) = pattern.split before text ++ right.map .plain := by
  fun_induction pattern.split before text with
  | case1 before =>
      exact split_plain (fun member => absurd (blank _ member) (by decide)) before
  | case2 before c cs token rest taken ih =>
      have more : pattern.read before (c :: cs ++ right) = some (token, rest ++ right) := by
        change read before (c :: cs ++ right) = _
        rw [read_append_blank blank, show read before (c :: cs) = some (token, rest) from taken]
        rfl
      rw [Pattern.split_of_read more, ih]
      rfl
  | case3 before c cs taken ih =>
      have none : pattern.read before (c :: (cs ++ right)) = none := by
        change read before (c :: cs ++ right) = _
        rw [read_append_blank blank, show read before (c :: cs) = none from taken]
        rfl
      rw [List.cons_append, Pattern.split_of_not_read none, ih]
      rfl

theorem tokens_between (lead : IsLead left) (blank : ∀ c ∈ right, isBlank c = true) (text : Text) :
    pattern.tokens (left ++ (text ++ right)) = pattern.tokens text := by
  have noLink : ∀ text : Text,
      (text.map (Piece.plain (α := WrittenLink))).filterMap Piece.token? = [] := by
    simp [Piece.token?]
  unfold Pattern.tokens
  rw [Pattern.pieces, split_lead lead (by simp), Pattern.pieces, split_blank blank]
  rw [List.filterMap_append, List.filterMap_append, noLink, noLink, List.nil_append, List.append_nil]
  rfl

end Gamebook.Source.WrittenLink
