import Gamebook.Text.Lines

/-!
Blocks of a source: a heading of one to three number signs and the lines up to the next heading.
Lines in front of the first heading belong to no block.
-/

namespace Gamebook.Source

open Gamebook.Text

def isSpacing (c : Char) : Bool := c = ' ' || c = '\t'

structure Heading where
  level : Nat
  text : Text
deriving DecidableEq, Repr

namespace Heading

/-- The text of a heading: spacing behind the signs, then the text without spacing at its end. -/
def textOf? : Text → Option Text
  | [] => none
  | c :: rest => if isSpacing c then some (trim isSpacing rest) else none

def ofLine? (line : Text) : Option Heading :=
  let level := (line.takeWhile (· = '#')).length
  if 1 ≤ level && level ≤ 3 then (textOf? (line.dropWhile (· = '#'))).map (⟨level, ·⟩) else none

end Heading

structure NumberedLine where
  number : Nat
  text : Text
deriving DecidableEq, Repr

structure Block where
  heading : Heading
  line : Nat
  lines : List NumberedLine
deriving DecidableEq, Repr

namespace Block

def level (block : Block) : Nat := block.heading.level

/-- The text under the heading without the empty lines at both ends. -/
def body (block : Block) : Text :=
  trim (· = '\n') (join ['\n'] (block.lines.map NumberedLine.text))

def gather : List NumberedLine → List NumberedLine × List Block
  | [] => ([], [])
  | line :: rest =>
    let (before, blocks) := gather rest
    match Heading.ofLine? line.text with
    | some heading => ([], ⟨heading, line.number, before⟩ :: blocks)
    | none => (line :: before, blocks)

def numberFrom (number : Nat) : List Text → List NumberedLine
  | [] => []
  | line :: rest => ⟨number, line⟩ :: numberFrom (number + 1) rest

def ofText (text : Text) : List Block := (gather (numberFrom 1 (Text.lines text))).2

end Block

end Gamebook.Source
