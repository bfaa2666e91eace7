import Gamebook.Text.Case

/-!
Keys under which scenes and actions are found.

The key of a displayed name is its lower case with every run of other characters than ASCII letters
and digits written as one hyphen, and no hyphen at the ends. Names that differ only in case, blanks
and punctuation have one key.
-/

namespace Gamebook.Source.Key

open Gamebook.Text

def isKept (c : Char) : Bool := c.isLower || c.isDigit

/-- Writes each run of characters that are not kept as one hyphen; `gap` says that such a run has
begun. -/
def hyphenate (gap : Bool) : Text → Text
  | [] => if gap then ['-'] else []
  | c :: rest =>
    if isKept c then
      if gap then '-' :: c :: hyphenate false rest else c :: hyphenate false rest
    else hyphenate true rest

/-- The key of a displayed name; empty if the name has no letter or digit to keep. -/
def ofName (name : Text) : Text := trim (· = '-') (hyphenate false (lower name))

end Gamebook.Source.Key
