import Gamebook.Layers.Token

/-!
Import statements, the modules that they name, and reading them from the tokens of a source.

A statement names modules outright, or names of a base, which may be modules of their own. A base
may be relative: one dot stands for the package of the importing module, and each further dot for
the package around that.
-/

namespace Gamebook.Layers

open Gamebook.Text

inductive Import where
  | modules (names : List ModuleName)
  /-- Names from a base with the given number of dots in front. -/
  | members (dots : Nat) (base : ModuleName) (names : List Text)
deriving DecidableEq

namespace Import

/-- A base seen from a package; none if it lies above the outermost package. -/
def resolve (package : ModuleName) (dots : Nat) (base : ModuleName) : Option ModuleName :=
  if dots = 0 then some base
  else if package.length < dots then none
  else some (package.take (package.length + 1 - dots) ++ base)

def named (package : ModuleName) : Import → List ModuleName
  | .modules names => names
  | .members dots base names =>
    match resolve package dots base with
    | none => []
    | some base => base :: names.map fun name => base ++ [name]

/-- The parts of the name that tokens spell, up to the word that gives it another one. -/
def nameOf (tokens : List Token) : ModuleName :=
  (tokens.takeWhile (· ≠ .word "as".toList)).filterMap Token.part?

def readMembers? (tokens : List Token) : Option Import :=
  let dots := tokens.takeWhile (· = .sign '.')
  let rest := tokens.dropWhile (· = .sign '.')
  let isImport : Token → Bool := (· = .word "import".toList)
  match rest.dropWhile fun token => !isImport token with
  | [] => none
  | _ :: items =>
    let names := (splitOn (.sign ',') items).filterMap fun item => (nameOf item).head?
    some (.members dots.length (nameOf (rest.takeWhile fun token => !isImport token)) names)

def ofStatement? : List Token → Option Import
  | .word word :: tokens =>
    if word = "import".toList then some (.modules ((splitOn (.sign ',') tokens).map nameOf))
    else if word = "from".toList then readMembers? tokens
    else none
  | _ => none

def ofSource (source : Text) : List Import :=
  (splitOn .ending (readTokens 0 source)).filterMap ofStatement?

end Import

end Gamebook.Layers
