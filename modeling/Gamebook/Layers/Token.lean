import Gamebook.Layers.Basic
import Gamebook.Text.Blank
import Gamebook.Text.Plain
import Gamebook.Text.Word

/-!
The words and signs of a source.

A statement ends at a line break, a semicolon or a colon, but not inside brackets. A backslash joins
a line to the next, a number sign begins a remark, and of quoted text only the quote in front is
kept. Blanks between words and signs do not matter.
-/

namespace Gamebook.Layers

open Gamebook.Text

inductive Token where
  | word (text : Text)
  | sign (c : Char)
  /-- The end of a statement. -/
  | ending
deriving DecidableEq

def Token.part? : Token → Option Text
  | .word text => some (plain text)
  | .sign c => if c = '*' then some ['*'] else none
  | .ending => none

def behindQuoted (quote : Text) : Text → Text
  | [] => []
  | '\\' :: _ :: rest => behindQuoted quote rest
  | c :: rest =>
    if quote.isPrefixOf (c :: rest) then (c :: rest).drop quote.length
    else behindQuoted quote rest

theorem length_behindQuoted (quote text : Text) :
    (behindQuoted quote text).length ≤ text.length := by
  fun_induction behindQuoted quote text with
  | case1 => simp
  | case2 escaped rest ih =>
    simp only [List.length_cons]
    omega
  | case3 c rest =>
    simp only [List.length_drop]
    omega
  | case4 c rest _ _ ih =>
    simp only [List.length_cons]
    omega

/-- The quote that a sign begins: three of them, or one. -/
def quoteFrom (c : Char) (rest : Text) : Text :=
  if [c, c].isPrefixOf rest then [c, c, c] else [c]

def depthBehind (depth : Nat) (c : Char) : Nat :=
  if c = '(' || c = '[' || c = '\x7b' then depth + 1
  else if c = ')' || c = ']' || c = '\x7d' then depth - 1
  else depth

def endsStatement (c : Char) : Bool := c = '\n' || c = ';' || c = ':'

def readTokens (depth : Nat) (source : Text) : List Token :=
  match source with
  | [] => []
  | c :: rest =>
    if depth = 0 && endsStatement c then .ending :: readTokens depth rest
    else if isBlank c then readTokens depth rest
    else if c = '\\' then readTokens depth (rest.drop 1)
    else if c = '#' then readTokens depth (rest.dropWhile (· ≠ '\n'))
    else if c = '"' || c = '\'' then
      let quote := quoteFrom c rest
      .sign c :: readTokens depth (behindQuoted quote (rest.drop (quote.length - 1)))
    else if isNameChar c then
      .word (c :: rest.takeWhile isNameChar) :: readTokens depth (rest.dropWhile isNameChar)
    else .sign c :: readTokens (depthBehind depth c) rest
termination_by source.length
decreasing_by
  · simp
  · simp
  · simp only [List.length_cons, List.length_drop]
    omega
  · have := (List.dropWhile_suffix (p := (· ≠ '\n')) (l := rest)).length_le
    simp only [List.length_cons]
    omega
  · have shorter := length_behindQuoted (quoteFrom c rest)
      (rest.drop ((quoteFrom c rest).length - 1))
    simp only [List.length_cons, List.length_drop] at shorter ⊢
    omega
  · have := (List.dropWhile_suffix (p := isNameChar) (l := rest)).length_le
    simp only [List.length_cons]
    omega
  · simp

end Gamebook.Layers
