import Gamebook.Text.Quoted

/-!
Quoted texts of a template, and the escapes in them.

A backslash and what stands behind it may stand for a character: by a letter, by the digits of its
number to the base eight, or by `x`, `u` or `U` and two, four or eight digits to the base sixteen. A
backslash at the end of a line joins it to the next. Any other backslash stands for itself. A
character outside ASCII is its own numbered escape.
-/

namespace Gamebook.Template

open Gamebook.Text

inductive EscapeFault where
  /-- There are too few digits behind the letter. -/
  | truncated (letter : Char)
  /-- No character has this number. -/
  | noCharacter
  /-- A name in braces is missing. -/
  | noName
  | unknownName
deriving DecidableEq, Repr

def escapeWidth? (letter : Char) : Option Nat :=
  [('x', 2), ('u', 4), ('U', 8)].lookup letter

def EscapeFault.message : EscapeFault → String
  | .truncated letter =>
    let digits := List.replicate ((escapeWidth? letter).getD 0) 'X'
    "truncated \\" ++ String.ofList (letter :: digits) ++ " escape"
  | .noCharacter => "illegal Unicode character"
  | .noName => "malformed \\N character escape"
  | .unknownName => "unknown Unicode character name"

/-- What a backslash and a character of ASCII stand for; any other pair stands for itself. -/
def letterEscapes : List (Char × Text) := [
  ('\\', ['\\']),
  ('\'', ['\'']),
  ('"', ['"']),
  ('\n', []),
  ('a', ['\x07']),
  ('b', ['\x08']),
  ('f', ['\x0c']),
  ('n', ['\n']),
  ('r', ['\r']),
  ('t', ['\t']),
  ('v', ['\x0b'])]

def isOctalDigit (c : Char) : Bool := '0'.toNat ≤ c.toNat && c.toNat ≤ '7'.toNat

def hexDigit? (c : Char) : Option Nat :=
  if c.isDigit then some (c.toNat - '0'.toNat)
  else if 'a'.toNat ≤ c.toNat && c.toNat ≤ 'f'.toNat then some (c.toNat - 'a'.toNat + 10)
  else if 'A'.toNat ≤ c.toNat && c.toNat ≤ 'F'.toNat then some (c.toNat - 'A'.toNat + 10)
  else none

def ofDigits (base : Nat) (digits : List Nat) : Nat :=
  digits.foldl (fun number digit => number * base + digit) 0

def numberedChar (letter : Char) (width : Nat) (digits : Text) : Except EscapeFault Char :=
  match digits.mapM hexDigit? with
  | none => .error (.truncated letter)
  | some values =>
    if values.length ≠ width then .error (.truncated letter)
    else if (ofDigits 16 values).isValidChar then .ok (Char.ofNat (ofDigits 16 values))
    else .error .noCharacter

/-- What a backslash and a character stand for when no digits are read. A character outside ASCII
counts as its escape by number, whose own backslash makes a pair with the one in front. -/
def escapedLetter (c : Char) : Text :=
  if c.toNat < 128 then (letterEscapes.lookup c).getD ['\\', c] else numberEscape c

/-- Why a name is refused; no names are known. -/
def nameFault : Text → EscapeFault
  | '{' :: name => if name.dropWhile (· ≠ '}') = [] || name.head? = some '}' then .noName
    else .unknownName
  | _ => .noName

def unescape : Text → Except EscapeFault Text
  | [] => .ok []
  | '\\' :: c :: rest =>
    match escapeWidth? c with
    | some width => do
      let first ← numberedChar c width (rest.take width)
      return first :: (← unescape (rest.drop width))
    | none =>
      if c = 'N' then .error (nameFault rest)
      else if isOctalDigit c then do
        let digits := c :: (rest.take 2).takeWhile isOctalDigit
        let first := Char.ofNat (ofDigits 8 (digits.map fun digit => digit.toNat - '0'.toNat))
        return first :: (← unescape (rest.drop (digits.length - 1)))
      else do return escapedLetter c ++ (← unescape rest)
  | c :: rest => do return c :: (← unescape rest)
termination_by text => text.length
decreasing_by all_goals simp only [List.length_cons, List.length_drop]; omega

/-- The text up to a quote, escapes as they are written, and what stands behind it. -/
def readQuoted (quote : Char) : Text → Option (Text × Text)
  | [] => none
  | '\\' :: c :: rest =>
    (readQuoted quote rest).map fun (text, rest) => ('\\' :: c :: text, rest)
  | c :: rest =>
    if c = quote then some ([], rest)
    else (readQuoted quote rest).map fun (text, rest) => (c :: text, rest)

theorem length_readQuoted {quote : Char} {text quoted rest : Text}
    (found : readQuoted quote text = some (quoted, rest)) : rest.length < text.length := by
  fun_induction readQuoted quote text generalizing quoted rest with
  | case1 => simp at found
  | case2 c tail ih =>
    simp only [Option.map_eq_some_iff, Prod.mk.injEq] at found
    obtain ⟨⟨inner, innerRest⟩, read, _, rfl⟩ := found
    have := ih read
    simp only [List.length_cons]
    omega
  | case3 tail =>
    obtain ⟨rfl, rfl⟩ := by simpa using found
    simp
  | case4 c tail _ closed ih =>
    simp only [Option.map_eq_some_iff, Prod.mk.injEq] at found
    obtain ⟨⟨inner, innerRest⟩, read, _, rfl⟩ := found
    have := ih read
    simp only [List.length_cons]
    omega

end Gamebook.Template
