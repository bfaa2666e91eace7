import Gamebook.Text.Numeral
import Gamebook.Text.Pattern

/-!
Placeholders keep finished markup out of the way of later passes.

A fragment is put aside under its number, and the number, between two marks, stands in its place.
Restoring puts the fragments back in one pass. A text may hold such numbers on its own account; one
that names no fragment is an error.
-/

namespace Gamebook.Markup

open Gamebook.Text

namespace Placeholder

def imageMark : Char := '\x00'

def linkMark : Char := '\x01'

inductive Error where
  /-- The number names no fragment. -/
  | outOfRange
  /-- The number is too large for any index. -/
  | beyondIndices
  /-- The number has more digits than are ever read. -/
  | tooManyDigits (count : Nat)
deriving DecidableEq, Repr

def Error.message : Error → String
  | .outOfRange => "list index out of range"
  | .beyondIndices => "cannot fit 'int' into an index-sized integer"
  | .tooManyDigits count =>
    "Exceeds the limit (4300 digits) for integer string conversion: value has "
      ++ toString count ++ " digits; use sys.set_int_max_str_digits() to increase the limit"

def write (mark : Char) (digits : Text) : Text := mark :: digits ++ [mark]

def ofNumber (mark : Char) (number : Nat) : Text := write mark (Text.ofNat number)

def read (mark : Char) : Text → Option (Text × Text)
  | [] => none
  | c :: text =>
    if c = mark then
      match text.takeWhile isDigit, text.dropWhile isDigit with
      | d :: digits, m :: rest => if m = mark then some (d :: digits, rest) else none
      | _, _ => none
    else none

theorem eq_write_of_read {mark : Char} {text digits rest : Text}
    (taken : read mark text = some (digits, rest)) : text = write mark digits ++ rest := by
  cases text with
  | nil => simp [read] at taken
  | cons c text =>
    simp only [read] at taken
    split at taken
    · rename_i same
      split at taken
      · rename_i d ds m tail digitsEq tailEq
        split at taken
        · rename_i closed
          simp only [Option.some.injEq, Prod.mk.injEq] at taken
          obtain ⟨rfl, rfl⟩ := taken
          have whole := List.takeWhile_append_dropWhile (p := isDigit) (l := text)
          rw [digitsEq, tailEq, closed] at whole
          simp [write, same, ← whole]
        · simp at taken
      · simp at taken
    · simp at taken

def pattern (mark : Char) : Pattern Text where
  read _ text := read mark text
  write := write mark
  write_ne_nil _ := by simp [write]
  read_eq := eq_write_of_read

def indexLimit : Nat := 0x8000000000000000

def fragment (fragments : List Text) (digits : Text) : Except Error Text :=
  if digits.length > maxDigits then .error (.tooManyDigits digits.length)
  else
    match fragments[digitsValue digits]? with
    | some fragment => .ok fragment
    | none =>
      .error (if digitsValue digits < indexLimit then .outOfRange else .beyondIndices)

def restorePiece (fragments : List Text) : Piece Text → Except Error Text
  | .plain c => .ok [c]
  | .token digits => fragment fragments digits

/-- Puts the fragments back in the place of their numbers, from left to right. -/
def restore (mark : Char) (fragments : List Text) (text : Text) : Except Error Text := do
  let parts ← ((pattern mark).pieces text).mapM (restorePiece fragments)
  return parts.flatten

end Placeholder

/-- Fragments put aside so far, in the order of their numbers. -/
structure Stash where
  fragments : List Text := []

namespace Stash

/-- Puts a fragment aside; its placeholder stands for it. -/
def put (stash : Stash) (fragment : Text) : Text × Stash :=
  (Placeholder.ofNumber Placeholder.linkMark stash.fragments.length,
    ⟨stash.fragments ++ [fragment]⟩)

def restore (stash : Stash) (text : Text) : Except Placeholder.Error Text :=
  Placeholder.restore Placeholder.linkMark stash.fragments text

end Stash

end Gamebook.Markup
