import Gamebook.Text.Quoted

/-!
Paths of files, relative or from the root.

Empty parts and single dots are dropped when a path is read; two dots are kept, because what they
mean depends on the files that are there. A path from the root may start with two slashes, which
are then kept; any other number of slashes counts as one.
-/

namespace Gamebook.Files

open Gamebook.Text

inductive Anchor where
  | workingDirectory
  | root
  | doubleRoot
deriving DecidableEq, Repr

namespace Anchor

def print : Anchor → Text
  | .workingDirectory => []
  | .root => ['/']
  | .doubleRoot => ['/', '/']

def ofSlashes : Nat → Anchor
  | 0 => .workingDirectory
  | 2 => .doubleRoot
  | _ => .root

end Anchor

structure Path where
  anchor : Anchor := .workingDirectory
  parts : List Text := []
deriving DecidableEq

namespace Path

def isKept (part : Text) : Bool := part ≠ [] && part ≠ ['.']

def ofText (text : Text) : Path :=
  ⟨.ofSlashes (text.takeWhile (· = '/')).length, (splitOn '/' text).filter isKept⟩

/-- The written form; the working directory itself is a single dot. -/
def print (path : Path) : Text :=
  match path.anchor, path.parts with
  | .workingDirectory, [] => ['.']
  | anchor, parts => anchor.print ++ join ['/'] parts

instance : Coe String Path := ⟨fun text => ofText text.toList⟩

/-- The path without its last part; a path without parts is its own parent. -/
def parent (path : Path) : Path := { path with parts := path.parts.dropLast }

def name (path : Path) : Text := path.parts.getLast?.getD []

def below (path : Path) (names : List Text) : Path := { path with parts := path.parts ++ names }

def child (path : Path) (name : Text) : Path := path.below [name]

/-- The parts of a path below a base; none if it does not lie there. -/
def relativeTo? (path base : Path) : Option (List Text) :=
  if path.anchor = base.anchor && base.parts.isPrefixOf path.parts then
    some (path.parts.drop base.parts.length)
  else none

/-- One part further, two dots leading one part back. -/
def lexicalStep (parts : List Text) (part : Text) : List Text :=
  if part = ['.', '.'] then parts.dropLast else parts ++ [part]

/-- The path from the root, two dots taken back part by part. -/
def absolute (workingDirectory path : Path) : Path :=
  let start := match path.anchor with
    | .workingDirectory => workingDirectory.parts
    | _ => []
  ⟨.root, (start ++ path.parts).foldl lexicalStep []⟩

theorem length_parent {path : Path} (proper : path.parts ≠ []) :
    path.parent.parts.length < path.parts.length := by
  have := List.length_pos_iff.mpr proper
  simp only [parent, List.length_dropLast]
  omega

/-- The written form between quotes, with the word that marks it as a path. -/
def marked (path : Path) : Text := "PosixPath(" ++ quoted path.print ++ [')']

end Path

end Gamebook.Files
