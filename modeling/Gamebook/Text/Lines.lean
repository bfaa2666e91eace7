import Gamebook.Text.Basic

/-!
Lines of a text.

A line ends at any of eleven line breaks (`isBreak`), a carriage return with a line feed after it
counting once. A break at the very end starts no further line, so the empty text has no lines.
-/

namespace Gamebook.Text

/-- Line feed, vertical tab, form feed, carriage return, the three information separators of
files, groups and records, next line, line separator and paragraph separator. -/
def isBreak (c : Char) : Bool :=
  c = '\n' || c = '\x0b' || c = '\x0c' || c = '\r' || c = '\x1c' || c = '\x1d' || c = '\x1e'
    || c = '\u0085' || c = '\u2028' || c = '\u2029'

/-- The lines that follow when `current` is the line under way, written backwards. -/
def linesFrom : Text → Text → List Text
  | [], [] => []
  | current, [] => [current.reverse]
  | current, '\r' :: '\n' :: rest => current.reverse :: linesFrom [] rest
  | current, c :: rest =>
    if isBreak c then current.reverse :: linesFrom [] rest
    else linesFrom (c :: current) rest

/-- The lines of a text without their line breaks. -/
def lines (text : Text) : List Text := linesFrom [] text

/-- Writes each carriage return, with a line feed after it or alone, as one line feed. -/
def unifyBreaks : Text → Text
  | [] => []
  | '\r' :: '\n' :: rest => '\n' :: unifyBreaks rest
  | c :: rest => (if c = '\r' then '\n' else c) :: unifyBreaks rest

end Gamebook.Text
