import Gamebook.Text.Basic

/-!
Left-to-right scanning for one kind of token.

A `Pattern` reads a token at a place, given the character before it. `Pattern.split` cuts a text
into tokens and plain characters: at each place a token is taken if one can be read there, and
scanning goes on behind it. Nothing is lost, as `Pattern.flatMap_text_split` says.
-/

namespace Gamebook.Text

/-- One kind of token. Whatever `read` takes off the front of a text is what `write` writes. -/
structure Pattern (α : Type) where
  read : Option Char → Text → Option (α × Text)
  write : α → Text
  write_ne_nil : ∀ token, write token ≠ []
  read_eq : ∀ {before text token rest},
    read before text = some (token, rest) → text = write token ++ rest

/-- A token, or a character that belongs to none. -/
inductive Piece (α : Type) where
  | plain (c : Char)
  | token (value : α)
deriving DecidableEq, Repr

namespace Piece

def token? : Piece α → Option α
  | .plain _ => none
  | .token value => some value

end Piece

namespace Pattern

theorem length_lt_of_read (pattern : Pattern α) {before : Option Char} {text rest : Text}
    {token : α} (taken : pattern.read before text = some (token, rest)) :
    rest.length < text.length := by
  rw [pattern.read_eq taken, List.length_append]
  have := List.length_pos_iff.mpr (pattern.write_ne_nil token)
  omega

def text (pattern : Pattern α) : Piece α → Text
  | .plain c => [c]
  | .token value => pattern.write value

/-- The pieces of a text that stands behind the character `before`, if any. -/
def split (pattern : Pattern α) (before : Option Char) : Text → List (Piece α)
  | [] => []
  | c :: cs =>
    match _taken : pattern.read before (c :: cs) with
    | some (token, rest) => .token token :: pattern.split (pattern.write token).getLast? rest
    | none => .plain c :: pattern.split (some c) cs
termination_by text => text.length
decreasing_by
  · exact pattern.length_lt_of_read _taken
  · simp

def pieces (pattern : Pattern α) (text : Text) : List (Piece α) := pattern.split none text

def tokens (pattern : Pattern α) (text : Text) : List α :=
  (pattern.pieces text).filterMap Piece.token?

def replace (pattern : Pattern α) (f : α → Text) (text : Text) : Text :=
  (pattern.pieces text).flatMap fun
    | .plain c => [c]
    | .token value => f value

theorem flatMap_text_split (pattern : Pattern α) (before : Option Char) (text : Text) :
    (pattern.split before text).flatMap pattern.text = text := by
  fun_induction pattern.split before text with
  | case1 => rfl
  | case2 before c cs token rest taken ih =>
    rw [List.flatMap_cons, ih]
    exact (pattern.read_eq taken).symm
  | case3 before c cs taken ih =>
    rw [List.flatMap_cons, ih]
    rfl

theorem flatMap_text_pieces (pattern : Pattern α) (text : Text) :
    (pattern.pieces text).flatMap pattern.text = text :=
  pattern.flatMap_text_split none text

/-- Putting every token in its own place changes nothing. -/
theorem replace_write (pattern : Pattern α) (text : Text) :
    pattern.replace pattern.write text = text := by
  have same : (fun piece : Piece α => match piece with
      | .plain c => [c]
      | .token value => pattern.write value) = pattern.text := by
    funext piece
    cases piece <;> rfl
  rw [replace, same, flatMap_text_pieces]

end Pattern

/-- The shortest nonempty run without a line feed after which `stop` accepts, with what follows.
`stop` sees the last character of the run and the text behind it. -/
def runUntil (stop : Char → Text → Bool) : Text → Option (Text × Text)
  | [] => none
  | c :: rest =>
    if c = '\n' then none
    else if stop c rest then some ([c], rest)
    else (runUntil stop rest).map fun (run, tail) => (c :: run, tail)

theorem runUntil_eq {stop : Char → Text → Bool} {text run tail : Text}
    (found : runUntil stop text = some (run, tail)) : text = run ++ tail := by
  fun_induction runUntil stop text generalizing run tail with
  | case1 => simp at found
  | case2 => simp at found
  | case3 c rest _ _ =>
    obtain ⟨rfl, rfl⟩ := by simpa using found
    rfl
  | case4 c rest _ _ ih =>
    simp only [Option.map_eq_some_iff, Prod.mk.injEq] at found
    obtain ⟨⟨innerRun, innerTail⟩, inner, rfl, rfl⟩ := found
    rw [ih inner]
    rfl

end Gamebook.Text
