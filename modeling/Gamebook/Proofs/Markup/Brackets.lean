import Mathlib.Data.List.TakeWhile
import Gamebook.Markup.Inline
import Gamebook.Proofs.Text.Scanning

/-!
The tags of strong text and emphasis that a page holds, from left to right, and what they are where a
text is written piece by piece.
-/

namespace Gamebook.Markup

open Gamebook.Text

inductive Stress where
  | strong
  | emphasis
deriving DecidableEq

inductive Bracket where
  | opening (stress : Stress)
  | closing (stress : Stress)
deriving DecidableEq

namespace Bracket

def stress : Bracket → Stress
  | .opening stress => stress
  | .closing stress => stress

def write : Bracket → Text
  | .opening .strong => "<strong>"
  | .closing .strong => "</strong>"
  | .opening .emphasis => "<em>"
  | .closing .emphasis => "</em>"

def all : List Bracket :=
  [.opening .strong, .closing .strong, .opening .emphasis, .closing .emphasis]

end Bracket

/-- The tag that starts the text, if one does. -/
def bracketAt (text : Text) : Option Bracket :=
  Bracket.all.find? fun bracket => bracket.write.isPrefixOf text

def brackets : Text → List Bracket
  | [] => []
  | c :: text => (bracketAt (c :: text)).toList ++ brackets text

/-- A character of these tags behind their first one. -/
def inTag (c : Char) : Bool := "strong/em>".toList.contains c

/-- Wherever this markup stands, it has these tags and changes none behind it. -/
def HasBrackets (html : Text) (found : List Bracket) : Prop :=
  ∀ rest, brackets (html ++ rest) = found ++ brackets rest

variable {α : Type} {c : Char} {text rest other front html : Text} {found : List Bracket}

theorem isPrefixOf_takeWhile {word : Text} (inside : ∀ c ∈ word, inTag c = true) (text : Text) :
    word.isPrefixOf (text.takeWhile inTag) = word.isPrefixOf text := by
  induction word generalizing text with
  | nil => simp
  | cons d word ih =>
      cases text with
      | nil => rfl
      | cons e text =>
          by_cases same : d = e
          · subst same
            rw [List.takeWhile_cons_of_pos (inside d List.mem_cons_self)]
            simp [ih fun c member => inside c (.tail _ member)]
          · have different : (d == e) = false := by simpa using same
            cases passed : inTag e <;>
              simp [List.isPrefixOf_cons_cons, passed, different]

theorem Bracket.exists_write (bracket : Bracket) :
    ∃ tail, bracket.write = '<' :: tail ∧ ∀ c ∈ tail, inTag c = true := by
  cases bracket with
  | opening stress => cases stress <;> exact ⟨_, rfl, List.all_eq_true.mp (by decide)⟩
  | closing stress => cases stress <;> exact ⟨_, rfl, List.all_eq_true.mp (by decide)⟩

/-- Which tag starts at a place is settled where the characters of tags end. -/
theorem bracketAt_congr (same : rest.takeWhile inTag = other.takeWhile inTag) :
    bracketAt (c :: rest) = bracketAt (c :: other) := by
  unfold bracketAt
  congr 1
  funext bracket
  obtain ⟨tail, written, inside⟩ := bracket.exists_write
  rw [written, List.isPrefixOf_cons_cons, List.isPrefixOf_cons_cons, ← isPrefixOf_takeWhile inside rest, same,
    isPrefixOf_takeWhile inside other]

theorem bracketAt_none (opensNone : c ≠ '<') (text : Text) : bracketAt (c :: text) = none := by
  apply List.find?_eq_none.mpr
  intro bracket _
  obtain ⟨tail, written, _⟩ := bracket.exists_write
  simp [written, Ne.symm opensNone]

theorem takeWhile_append_stop {p : Char → Bool} (stop : p c = false) (front rest : Text) :
    (front ++ c :: rest).takeWhile p = front.takeWhile p := by
  induction front with
  | nil => simp [stop]
  | cons d front ih =>
      rw [List.cons_append, List.takeWhile_cons, List.takeWhile_cons, ih]

/-- No tag reaches over a character that cannot stand in it. -/
theorem brackets_append_stop (stop : inTag c = false) (front rest : Text) :
    brackets (front ++ c :: rest) = brackets front ++ brackets (c :: rest) := by
  induction front with
  | nil => rfl
  | cons d front ih =>
      rw [List.cons_append, brackets, brackets, ih,
        bracketAt_congr (takeWhile_append_stop stop front rest), List.append_assoc]

theorem hasBrackets_quiet (quiet : '<' ∉ html) : HasBrackets html [] := by
  induction html with
  | nil => exact fun _ => rfl
  | cons c html ih =>
      intro rest
      have first : c ≠ '<' := fun same => quiet (by simp [same])
      rw [List.cons_append, brackets, bracketAt_none first, ih fun member => quiet (.tail _ member)]
      rfl

theorem hasBrackets_write (bracket : Bracket) : HasBrackets bracket.write [bracket] := by
  intro rest
  obtain ⟨tail, written, inside⟩ := bracket.exists_write
  have quiet : HasBrackets tail [] := hasBrackets_quiet fun member => absurd (inside _ member) (by decide)
  have first : bracketAt (bracket.write ++ rest) = some bracket := by
    cases bracket with
    | opening stress => cases stress <;> rfl
    | closing stress => cases stress <;> rfl
  rw [written] at first ⊢
  rw [List.cons_append, brackets, quiet]
  rw [List.cons_append] at first
  rw [first]
  rfl

/-- The text that is written if this is written for the tokens. -/
def spell (chunk : α → Text) : Piece α → Text
  | .plain c => [c]
  | .token value => chunk value

theorem replace_eq_spell (pattern : Pattern α) (chunk : α → Text) (text : Text) :
    pattern.replace chunk text = (pattern.pieces text).flatMap (spell chunk) := by
  unfold Pattern.replace
  congr

theorem spell_write (pattern : Pattern α) (text : Text) :
    (pattern.pieces text).flatMap (spell pattern.write) = text := by
  rw [← replace_eq_spell, pattern.replace_write]

/-- The plain characters at the front of some pieces that may stand in a tag. -/
def plainFront : List (Piece α) → Text
  | .plain c :: pieces => if inTag c then c :: plainFront pieces else []
  | _ => []

/-- The tags of a text written piece by piece, `read` telling those of the tokens. -/
def bracketsOf (read : α → List Bracket) : List (Piece α) → List Bracket
  | [] => []
  | .plain c :: pieces => (bracketAt (c :: plainFront pieces)).toList ++ bracketsOf read pieces
  | .token value :: pieces => read value ++ bracketsOf read pieces

/-- What is written for a token has these tags, and continues none in front of it. -/
def Spells (chunk : Text) (found : List Bracket) : Prop :=
  HasBrackets chunk found ∧ ∃ c cs, chunk = c :: cs ∧ inTag c = false

theorem Bracket.spells (bracket : Bracket) : Spells bracket.write [bracket] := by
  refine ⟨hasBrackets_write bracket, ?_⟩
  obtain ⟨tail, written, _⟩ := bracket.exists_write
  exact ⟨'<', tail, written, by decide⟩

theorem brackets_append_of_spells {chunk : Text} (spells : Spells chunk found) (front rest : Text) :
    brackets (front ++ (chunk ++ rest)) = brackets front ++ (found ++ brackets rest) := by
  obtain ⟨has, c, cs, written, stop⟩ := spells
  rw [← has, written, List.cons_append, brackets_append_stop stop]

/-- A text between two tags. -/
theorem spells_between (opening closing : Bracket) (content : Text) :
    Spells (opening.write ++ content ++ closing.write) (opening :: brackets content ++ [closing]) := by
  obtain ⟨_, c, cs, written, stop⟩ := opening.spells
  refine ⟨fun rest => ?_, c, cs ++ content ++ closing.write, by rw [written]; rfl, stop⟩
  rw [List.append_assoc, List.append_assoc, opening.spells.1, brackets_append_of_spells closing.spells]
  simp

theorem brackets_quiet (quiet : '<' ∉ text) : brackets text = [] := by
  simpa [brackets] using hasBrackets_quiet quiet []

section Pieces

variable {pieces : List (Piece α)} {chunk : α → Text} {read : α → List Bracket}
  (spells : ∀ value, .token value ∈ pieces → Spells (chunk value) (read value))

include spells

theorem takeWhile_spell : (pieces.flatMap (spell chunk)).takeWhile inTag = plainFront pieces := by
  induction pieces with
  | nil => rfl
  | cons piece pieces ih =>
      cases piece with
      | plain c =>
          have behind := ih fun value member => spells value (.tail _ member)
          rw [List.flatMap_cons, spell, List.singleton_append, List.takeWhile_cons, behind]
          rfl
      | token value =>
          obtain ⟨_, c, cs, written, stop⟩ := spells value List.mem_cons_self
          rw [List.flatMap_cons, spell, written, List.cons_append, List.takeWhile_cons, stop]
          rfl

/-- The tags of a text are told from its pieces, whatever is written for the tokens. -/
theorem brackets_spell : brackets (pieces.flatMap (spell chunk)) = bracketsOf read pieces := by
  induction pieces with
  | nil => rfl
  | cons piece pieces ih =>
      have others : ∀ value, .token value ∈ pieces → Spells (chunk value) (read value) :=
        fun value member => spells value (.tail _ member)
      cases piece with
      | plain c =>
          have front := takeWhile_spell others
          have settled : bracketAt (c :: pieces.flatMap (spell chunk)) =
              bracketAt (c :: plainFront pieces) := by
            apply bracketAt_congr
            rw [← front, List.takeWhile_idem]
          rw [List.flatMap_cons, spell, List.singleton_append, brackets, ih others, settled, bracketsOf]
      | token value =>
          rw [List.flatMap_cons, spell, (spells value List.mem_cons_self).1, ih others, bracketsOf]

end Pieces

end Gamebook.Markup
