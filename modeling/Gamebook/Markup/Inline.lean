import Gamebook.Markup.Placeholder
import Gamebook.Text.Blank
import Gamebook.Text.Escape
import Gamebook.Text.Word

/-!
Markup within a line: images `![alt](source)`, strong text `**…**` and emphasis `*…*`.

Images are put aside first, the rest is escaped, strong text and emphasis become tags, and the
images come back last. An asterisk opens or closes emphasis only where no word character and no
other asterisk touches it from outside, and no blank from inside.
-/

namespace Gamebook.Markup

open Gamebook.Text

structure Image where
  alt : Text
  source : Text
deriving DecidableEq, Repr

namespace Image

def write (image : Image) : Text :=
  '!' :: '[' :: image.alt ++ ']' :: '(' :: image.source ++ [')']

/-- A source ends at the first closing parenthesis or blank. -/
def inSource (c : Char) : Bool := c ≠ ')' && !isBlank c

def read : Text → Option (Image × Text)
  | '!' :: '[' :: text =>
    match text.dropWhile (· ≠ ']') with
    | ']' :: '(' :: source =>
      match source.takeWhile inSource, source.dropWhile inSource with
      | c :: cs, ')' :: rest => some (⟨text.takeWhile (· ≠ ']'), c :: cs⟩, rest)
      | _, _ => none
    | _ => none
  | _ => none

theorem eq_write_of_read {text rest : Text} {image : Image}
    (taken : read text = some (image, rest)) : text = image.write ++ rest := by
  unfold read at taken
  split at taken
  · rename_i inner
    split at taken
    · rename_i source opened
      split at taken
      · rename_i c cs tail sourceEq tailEq
        simp only [Option.some.injEq, Prod.mk.injEq] at taken
        obtain ⟨rfl, rfl⟩ := taken
        have altWhole :=
          List.takeWhile_append_dropWhile (p := fun x => decide (x ≠ ']')) (l := inner)
        have sourceWhole := List.takeWhile_append_dropWhile (p := inSource) (l := source)
        rw [sourceEq, tailEq] at sourceWhole
        rw [opened, ← sourceWhole] at altWhole
        generalize List.takeWhile (fun x => decide (x ≠ ']')) inner = alt at altWhole ⊢
        simp [write, ← altWhole]
      · simp at taken
    · simp at taken
  · simp at taken

def pattern : Pattern Image where
  read _ text := read text
  write := write
  write_ne_nil image := by simp [write]
  read_eq := eq_write_of_read

def html (image : Image) : Text :=
  "<img src=\"" ++ escape .inAttribute image.source ++ "\" alt=\""
    ++ escape .inAttribute image.alt ++ "\" />"

end Image

namespace Strong

def write (content : Text) : Text := '*' :: '*' :: content ++ ['*', '*']

def startsWithMark : Text → Bool
  | '*' :: '*' :: _ => true
  | _ => false

def read : Text → Option (Text × Text)
  | '*' :: '*' :: text =>
    match runUntil (fun _ rest => startsWithMark rest) text with
    | some (content, '*' :: '*' :: rest) => some (content, rest)
    | _ => none
  | _ => none

theorem eq_write_of_read {text content rest : Text}
    (taken : read text = some (content, rest)) : text = write content ++ rest := by
  unfold read at taken
  split at taken
  · split at taken
    · rename_i found
      simp only [Option.some.injEq, Prod.mk.injEq] at taken
      obtain ⟨rfl, rfl⟩ := taken
      simp [write, runUntil_eq found]
    · simp at taken
  · simp at taken

/-- The nearest two pairs of asterisks with something but a line feed between them. -/
def pattern : Pattern Text where
  read _ text := read text
  write := write
  write_ne_nil _ := by simp [write]
  read_eq := eq_write_of_read

def html (content : Text) : Text := "<strong>" ++ content ++ "</strong>"

end Strong

namespace Emphasis

def write (content : Text) : Text := '*' :: content ++ ['*']

/-- An asterisk next to this character from outside does not mark emphasis. -/
def clings (c : Char) : Bool := c = '*' || isWord c

def startsFree : Text → Bool
  | [] => true
  | c :: _ => !clings c

def startsBlank : Text → Bool
  | [] => false
  | c :: _ => isBlank c

/-- Emphasis may end behind `last` if the text goes on with a closing asterisk. -/
def closes (last : Char) : Text → Bool
  | '*' :: rest => !isBlank last && startsFree rest
  | _ => false

def opens : Option Char → Bool
  | none => true
  | some c => !clings c

def read (before : Option Char) : Text → Option (Text × Text)
  | '*' :: text =>
    if opens before && !startsBlank text then
      match runUntil closes text with
      | some (content, '*' :: rest) => some (content, rest)
      | _ => none
    else none
  | _ => none

theorem eq_write_of_read {before : Option Char} {text content rest : Text}
    (taken : read before text = some (content, rest)) : text = write content ++ rest := by
  unfold read at taken
  split at taken
  · split at taken
    · split at taken
      · rename_i found
        simp only [Option.some.injEq, Prod.mk.injEq] at taken
        obtain ⟨rfl, rfl⟩ := taken
        simp [write, runUntil_eq found]
      · simp at taken
    · simp at taken
  · simp at taken

def pattern : Pattern Text where
  read := read
  write := write
  write_ne_nil _ := by simp [write]
  read_eq := eq_write_of_read

def html (content : Text) : Text := "<em>" ++ content ++ "</em>"

end Emphasis

namespace Inline

/-- Writes the placeholder of each image in its place, counting from `number`. -/
def markImages : Nat → List (Piece Image) → Text
  | _, [] => []
  | number, .plain c :: pieces => c :: markImages number pieces
  | number, .token _ :: pieces =>
    Placeholder.ofNumber Placeholder.imageMark number ++ markImages (number + 1) pieces

def render (text : Text) : Except Placeholder.Error Text :=
  let escaped := escape .inText (markImages 0 (Image.pattern.pieces text))
  let strong := Strong.pattern.replace Strong.html escaped
  let emphasised := Emphasis.pattern.replace Emphasis.html strong
  Placeholder.restore Placeholder.imageMark ((Image.pattern.tokens text).map Image.html) emphasised

end Inline

end Gamebook.Markup
