import Gamebook.Template.Literal
import Gamebook.Text.Blank
import Gamebook.Text.Word

/-!
The parts of a template's source.

Two braces enclose an expression, a brace with a percent sign a condition or its end, and a brace
with a number sign a remark. A hyphen inside drops the white space next to it. Everything else is
text, braces that open nothing included.
-/

namespace Gamebook.Template

open Gamebook.Text

/-- A word, a quoted text or a sign of an expression. -/
inductive Token where
  | word (text : Text)
  | quoted (text : Text)
  | sign (c : Char)
deriving DecidableEq

inductive Part where
  | text (text : Text)
  | output (tokens : List Token)
  | tag (tokens : List Token)
deriving DecidableEq

/-- What stands behind the end of an expression or a tag that ends in `close` and a brace, the white
space dropped if a hyphen asks for it. -/
def behindEnd? (close : Char) : Text → Option Text
  | '-' :: c :: '}' :: rest => if c = close then some (rest.dropWhile isBlank) else none
  | c :: '}' :: rest => if c = close then some rest else none
  | _ => none

/-- The tokens up to the end of an expression or a tag, and what stands behind it. -/
def readTokens (close : Char) (text : Text) : Option (List Token × Text) :=
  match behindEnd? close text with
  | some rest => some ([], rest)
  | none =>
    match text with
    | [] => none
    | c :: tail =>
      if isBlank c then readTokens close tail
      else if c = '"' || c = '\'' then
        match _read : readQuoted c tail with
        | none => none
        | some (text, rest) =>
          (readTokens close rest).map fun (tokens, rest) => (.quoted text :: tokens, rest)
      else if isNameChar c then
        (readTokens close (tail.dropWhile isNameChar)).map fun (tokens, rest) =>
          (.word (c :: tail.takeWhile isNameChar) :: tokens, rest)
      else (readTokens close tail).map fun (tokens, rest) => (.sign c :: tokens, rest)
termination_by text.length
decreasing_by
  · simp
  · have := length_readQuoted _read
    simp only [List.length_cons]
    omega
  · have := (List.dropWhile_suffix (p := isNameChar) (l := tail)).length_le
    simp only [List.length_cons]
    omega
  · simp

theorem length_behindEnd {close : Char} {text rest : Text}
    (found : behindEnd? close text = some rest) : rest.length < text.length := by
  unfold behindEnd? at found
  split at found
  · rename_i tail
    split at found
    · have := (List.dropWhile_suffix (p := isBlank) (l := tail)).length_le
      obtain rfl := by simpa using found
      simp only [List.length_cons]
      omega
    · simp at found
  · split at found
    · obtain rfl := by simpa using found
      simp only [List.length_cons]
      omega
    · simp at found
  · simp at found

theorem length_readTokens {close : Char} {text rest : Text} {tokens : List Token}
    (found : readTokens close text = some (tokens, rest)) : rest.length < text.length := by
  fun_induction readTokens close text generalizing tokens rest with
  | case1 text behind ended =>
    obtain ⟨rfl, rfl⟩ := by simpa using found
    exact length_behindEnd ended
  | case2 => simp at found
  | case3 c tail _ blank ih =>
    have := ih found
    simp only [List.length_cons]
    omega
  | case4 => simp at found
  | case5 c tail _ _ quote text behind taken ih =>
    simp only [Option.map_eq_some_iff, Prod.mk.injEq] at found
    obtain ⟨⟨inner, innerRest⟩, more, _, rfl⟩ := found
    have := ih more
    have := length_readQuoted behind
    simp only [List.length_cons]
    omega
  | case6 c tail _ _ _ word ih =>
    simp only [Option.map_eq_some_iff, Prod.mk.injEq] at found
    obtain ⟨⟨inner, innerRest⟩, more, _, rfl⟩ := found
    have := ih more
    have := (List.dropWhile_suffix (p := isNameChar) (l := tail)).length_le
    simp only [List.length_cons]
    omega
  | case7 c tail _ _ _ _ ih =>
    simp only [Option.map_eq_some_iff, Prod.mk.injEq] at found
    obtain ⟨⟨inner, innerRest⟩, more, _, rfl⟩ := found
    have := ih more
    simp only [List.length_cons]
    omega

def behindRemark : Text → Option Text
  | [] => none
  | '-' :: '#' :: '}' :: rest => some (rest.dropWhile isBlank)
  | '#' :: '}' :: rest => some rest
  | _ :: rest => behindRemark rest

theorem length_behindRemark {text rest : Text} (found : behindRemark text = some rest) :
    rest.length < text.length := by
  fun_induction behindRemark text with
  | case1 => simp at found
  | case2 tail =>
    have := (List.dropWhile_suffix (p := isBlank) (l := tail)).length_le
    obtain rfl := by simpa using found
    simp only [List.length_cons]
    omega
  | case3 tail =>
    obtain rfl := by simpa using found
    simp only [List.length_cons]
    omega
  | case4 c tail _ _ ih =>
    have := ih found
    simp only [List.length_cons]
    omega

def isOpening (c : Char) : Bool := c = '{' || c = '%' || c = '#'

/-- Text in front of an opening; with `trimmed`, without the white space at its end. -/
def textPart (trimmed : Bool) (backwards : Text) : List Part :=
  let kept := if trimmed then backwards.dropWhile isBlank else backwards
  if kept = [] then [] else [.text kept.reverse]

def openingHyphen : Text → Bool × Text
  | '-' :: rest => (true, rest)
  | rest => (false, rest)

/-- What an opening of the given kind encloses, and what stands behind it. -/
def readEnclosed (opening : Char) (text : Text) : Option (List Part × Text) :=
  if opening = '{' then (readTokens '}' text).map fun (tokens, rest) => ([.output tokens], rest)
  else if opening = '%' then (readTokens '%' text).map fun (tokens, rest) => ([.tag tokens], rest)
  else (behindRemark text).map fun rest => ([], rest)

theorem length_readEnclosed {opening : Char} {text rest : Text} {parts : List Part}
    (found : readEnclosed opening text = some (parts, rest)) : rest.length < text.length := by
  unfold readEnclosed at found
  split at found
  · simp only [Option.map_eq_some_iff, Prod.mk.injEq] at found
    obtain ⟨⟨tokens, behind⟩, read, _, rfl⟩ := found
    exact length_readTokens read
  · split at found
    · simp only [Option.map_eq_some_iff, Prod.mk.injEq] at found
      obtain ⟨⟨tokens, behind⟩, read, _, rfl⟩ := found
      exact length_readTokens read
    · simp only [Option.map_eq_some_iff, Prod.mk.injEq] at found
      obtain ⟨behind, read, _, rfl⟩ := found
      exact length_behindRemark read

theorem length_openingHyphen (text : Text) : (openingHyphen text).2.length ≤ text.length := by
  unfold openingHyphen
  split <;> simp

def readParts (backwards : Text) : Text → Option (List Part)
  | [] => some (textPart false backwards)
  | '{' :: c :: rest =>
    if isOpening c then
      match _enclosed : readEnclosed c (openingHyphen rest).2 with
      | none => none
      | some (enclosed, behind) =>
        (readParts [] behind).map fun parts =>
          textPart (openingHyphen rest).1 backwards ++ enclosed ++ parts
    else readParts ('{' :: backwards) (c :: rest)
  | c :: rest => readParts (c :: backwards) rest
termination_by text => text.length
decreasing_by
  · have := length_readEnclosed _enclosed
    have := length_openingHyphen rest
    simp only [List.length_cons]
    omega
  · simp
  · simp

end Gamebook.Template
