import Gamebook.Text.Pattern

/-!
Links as they are written: `[label](target)`, the label with an optional alternate text behind a
bar. An image `![…](…)` is no link. A label may hold anything but a closing bracket, a target
anything but a closing parenthesis.
-/

namespace Gamebook.Source

open Gamebook.Text

structure WrittenLink where
  label : Text
  target : Text
deriving DecidableEq, Repr

namespace WrittenLink

def write (link : WrittenLink) : Text :=
  '[' :: link.label ++ ']' :: '(' :: link.target ++ [')']

def text (link : WrittenLink) : Text := link.label.takeWhile (· ≠ '|')

def alternate? (link : WrittenLink) : Option Text := (cutAt '|' link.label).map Prod.snd

def read (before : Option Char) : Text → Option (WrittenLink × Text)
  | '[' :: text =>
    if before = some '!' then none
    else
      match text.dropWhile (· ≠ ']') with
      | ']' :: '(' :: target =>
        match target.dropWhile (· ≠ ')') with
        | ')' :: rest => some (⟨text.takeWhile (· ≠ ']'), target.takeWhile (· ≠ ')')⟩, rest)
        | _ => none
      | _ => none
  | _ => none

theorem eq_write_of_read {before : Option Char} {text rest : Text} {link : WrittenLink}
    (taken : read before text = some (link, rest)) : text = link.write ++ rest := by
  unfold read at taken
  split at taken
  · rename_i inner
    split at taken
    · simp at taken
    · split at taken
      · rename_i target opened
        split at taken
        · rename_i tail closed
          simp only [Option.some.injEq, Prod.mk.injEq] at taken
          obtain ⟨rfl, rfl⟩ := taken
          have labelWhole :=
            List.takeWhile_append_dropWhile (p := fun x => decide (x ≠ ']')) (l := inner)
          have targetWhole :=
            List.takeWhile_append_dropWhile (p := fun x => decide (x ≠ ')')) (l := target)
          rw [closed] at targetWhole
          rw [opened] at labelWhole
          generalize List.takeWhile (fun x => decide (x ≠ ')')) target = written at targetWhole ⊢
          generalize List.takeWhile (fun x => decide (x ≠ ']')) inner = label at labelWhole ⊢
          simp [write, ← labelWhole, ← targetWhole]
        · simp at taken
      · simp at taken
  · simp at taken

def pattern : Pattern WrittenLink where
  read := read
  write := write
  write_ne_nil link := by simp [write]
  read_eq := eq_write_of_read

/-- Reads a text that is one link and nothing else. -/
def ofWhole? (text : Text) : Option WrittenLink :=
  match read none text with
  | some (link, []) => some link
  | _ => none

/-- The links of a line with their columns, counted from one; `column` is that of the first
piece. -/
def placed (column : Nat) : List (Piece WrittenLink) → List (Nat × WrittenLink)
  | [] => []
  | .plain _ :: pieces => placed (column + 1) pieces
  | .token link :: pieces => (column, link) :: placed (column + link.write.length) pieces

/-- The links of a line from left to right, each with its column. -/
def ofLine (line : Text) : List (Nat × WrittenLink) := placed 1 (pattern.pieces line)

end WrittenLink

end Gamebook.Source
