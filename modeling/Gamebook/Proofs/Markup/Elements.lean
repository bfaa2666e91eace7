import Gamebook.Proofs.Markup.Tags

/-!
The elements of one name in a text, each with its attributes, as a reader of markup finds them. What a text
shows does not depend on what stands behind it, so a document is read piece by piece.
-/

namespace Gamebook.Text

variable {text : Text}

/-- Escaped text as it was before. There is nothing but the entities of attributes in it. -/
def unescape : Text → Option Text
  | [] => some []
  | '&' :: 'a' :: 'm' :: 'p' :: ';' :: text => (unescape text).map ('&' :: ·)
  | '&' :: 'l' :: 't' :: ';' :: text => (unescape text).map ('<' :: ·)
  | '&' :: 'g' :: 't' :: ';' :: text => (unescape text).map ('>' :: ·)
  | '&' :: 'q' :: 'u' :: 'o' :: 't' :: ';' :: text => (unescape text).map ('"' :: ·)
  | '&' :: '#' :: 'x' :: '2' :: '7' :: ';' :: text => (unescape text).map ('\'' :: ·)
  | c :: text => if c = '&' then none else (unescape text).map (c :: ·)

theorem unescape_cons {c : Char} (plain : c ≠ '&') (text : Text) :
    unescape (c :: text) = (unescape text).map (c :: ·) := by
  rw [unescape]
  · exact if_neg plain
  all_goals
    rintro _ rfl
    exact absurd rfl plain

theorem unescape_char (c : Char) (text : Text) :
    unescape (EscapeStyle.inAttribute.char c ++ text) = (unescape text).map (c :: ·) := by
  unfold EscapeStyle.char
  by_cases isAmp : c = '&'
  · rw [if_pos isAmp, isAmp]
    rfl
  rw [if_neg isAmp]
  by_cases isLt : c = '<'
  · rw [if_pos isLt, isLt]
    rfl
  rw [if_neg isLt]
  by_cases isGt : c = '>'
  · rw [if_pos isGt, isGt]
    rfl
  rw [if_neg isGt]
  by_cases isQuote : c = '"'
  · rw [if_pos isQuote, isQuote]
    rfl
  rw [if_neg isQuote]
  by_cases isApostrophe : c = '\''
  · rw [if_pos isApostrophe, isApostrophe]
    rfl
  rw [if_neg isApostrophe]
  exact unescape_cons isAmp text

theorem unescape_escape (text : Text) : unescape (escape .inAttribute text) = some text := by
  induction text with
  | nil => rfl
  | cons c text ih =>
      rw [escape_cons, unescape_char, ih]
      rfl

end Gamebook.Text

namespace Gamebook.Markup

open Gamebook.Text

namespace Element

variable {text rest key value name mark : Text} {pair : Text × Text}
  {found more list : List (List (Text × Text))}

def inKey (c : Char) : Bool := c.isAlphanum || c = '-' || c = ':'

/-- An attribute at the front, its value as it is written, and what follows. -/
def readAttribute (text : Text) : Option ((Text × Text) × Text) :=
  (behind some "=\"" (text.dropWhile inKey)).bind fun opened =>
    (Tag.readValue "\"" opened).map fun found => ((text.takeWhile inKey, found.1), found.2)

theorem length_lt_of_readAttribute (taken : readAttribute text = some (pair, rest)) :
    rest.length < text.length := by
  obtain ⟨opened, start, value⟩ := Option.bind_eq_some_iff.mp taken
  obtain ⟨found, read, same⟩ := Option.map_eq_some_iff.mp value
  obtain rfl : found.2 = rest := congrArg Prod.snd same
  have opened_eq := (Tag.readValue_eq_some read).1
  have shorter := (List.dropWhile_suffix inKey (l := text)).length_le
  rw [behind_some start, opened_eq] at shorter
  simp only [List.length_append] at shorter
  have : 0 < "=\"".toList.length := by decide
  omega

/-- The attributes at the front, each behind a blank or several. -/
def attributes (text : Text) : List (Text × Text) :=
  match _taken : readAttribute (text.dropWhile (· = ' ')) with
  | none => []
  | some (pair, rest) => pair :: attributes rest
termination_by text.length
decreasing_by
  exact Nat.lt_of_lt_of_le (length_lt_of_readAttribute _taken) (List.dropWhile_suffix _).length_le

/-- The attributes of each element of this name, in order. -/
def withName (name : Text) : Text → List (List (Text × Text))
  | [] => []
  | c :: text =>
    match behind some ('<' :: name ++ [' ']) (c :: text) with
    | some inside => attributes (' ' :: inside) :: withName name text
    | none => withName name text

/-- A text shows these elements wherever it stands. -/
def Shows (name text : Text) (found : List (List (Text × Text))) : Prop :=
  ∀ rest, withName name (text ++ rest) = found ++ withName name rest

theorem Shows.eq (shows : Shows name text found) : withName name text = found := by
  have whole := shows []
  rwa [List.append_nil, withName, List.append_nil] at whole

theorem shows_nil (name : Text) : Shows name [] [] := fun _ => rfl

theorem Shows.append {left right : Text} (first : Shows name left found) (second : Shows name right more) :
    Shows name (left ++ right) (found ++ more) := fun rest => by
  rw [List.append_assoc, first, second, List.append_assoc]

/-- The text and the mark do not meet: neither is a front part of the other at any place of the text. -/
def avoids (mark : Text) : Text → Bool
  | [] => true
  | c :: text => !mark.isPrefixOf (c :: text) && !(c :: text).isPrefixOf mark && avoids mark text

theorem shows_of_avoids (clear : avoids ('<' :: name ++ [' ']) text = true) : Shows name text [] := by
  intro rest
  induction text with
  | nil => rfl
  | cons c text ih =>
      simp only [avoids, Bool.and_eq_true, Bool.not_eq_true', List.isPrefixOf_iff_prefix,
        ← Bool.not_eq_true] at clear
      have missed : behind some ('<' :: name ++ [' ']) (c :: (text ++ rest)) = none := by
        refine Option.eq_none_iff_forall_ne_some.mpr fun inside taken => ?_
        have front : ('<' :: name ++ [' ']) <+: (c :: text) ++ rest := ⟨inside, (behind_some taken).symm⟩
        rcases List.prefix_or_prefix_of_prefix front (List.prefix_append _ rest) with within | longer
        · exact clear.1.1 within
        · exact clear.1.2 longer
      rw [List.cons_append, withName, missed]
      exact ih clear.2

theorem shows_of_not_mem (opensNone : '<' ∉ text) : Shows name text [] := by
  intro rest
  induction text with
  | nil => rfl
  | cons c text ih =>
      rw [List.mem_cons, not_or] at opensNone
      rw [List.cons_append, withName, List.cons_append, Tag.behind_cons fun same => opensNone.1 same.symm]
      exact ih opensNone.2

def writeAttribute (pair : Text × Text) : Text := pair.1 ++ ("=\"".toList ++ (pair.2 ++ ['"']))

/-- An element without content, as it is written. -/
def write (name : Text) (list : List (Text × Text)) : Text :=
  '<' :: name ++ ((list.flatMap fun pair => ' ' :: writeAttribute pair) ++ "/>".toList)

/-- A text that can be the key of an attribute. -/
def IsKey (text : Text) : Prop := text ≠ [] ∧ ∀ c ∈ text, inKey c = true

instance (text : Text) : Decidable (IsKey text) :=
  decidable_of_iff (text ≠ [] ∧ text.all inKey = true) (and_congr_right fun _ => List.all_eq_true)

structure IsAttribute (pair : Text × Text) : Prop where
  key : IsKey pair.1
  value : Tag.IsValue pair.2

theorem isAttribute (isKey : IsKey key) (isValue : Tag.IsValue value) : IsAttribute (key, value) :=
  ⟨isKey, isValue⟩

theorem readAttribute_append (fits : IsAttribute pair) (rest : Text) :
    readAttribute (writeAttribute pair ++ rest) = some (pair, rest) := by
  have whole : writeAttribute pair ++ rest =
      pair.1 ++ ("=\"".toList ++ (pair.2 ++ ("\"".toList ++ rest))) := by
    simp [writeAttribute]
  have taken : (pair.1 ++ ("=\"".toList ++ (pair.2 ++ ("\"".toList ++ rest)))).takeWhile inKey =
      pair.1 := by
    rw [List.takeWhile_append_of_pos fits.key.2]
    simp [inKey]
  have left : (pair.1 ++ ("=\"".toList ++ (pair.2 ++ ("\"".toList ++ rest)))).dropWhile inKey =
      "=\"".toList ++ (pair.2 ++ ("\"".toList ++ rest)) := by
    rw [List.dropWhile_append_of_pos fits.key.2]
    simp [inKey]
  have value : Tag.readValue "\"" (pair.2 ++ ("\"".toList ++ rest)) = some (pair.2, rest) :=
    Tag.readValue_append fits.value rest
  rw [whole, readAttribute, taken, left, Tag.behind_append, Option.bind_some]
  exact congrArg (Option.map _) value

theorem attributes_cons (fits : IsAttribute pair) (rest : Text) :
    attributes (' ' :: writeAttribute pair ++ rest) = pair :: attributes rest := by
  have start : (' ' :: writeAttribute pair ++ rest).dropWhile (· = ' ') = writeAttribute pair ++ rest := by
    obtain ⟨key, value⟩ := pair
    cases key with
    | nil => exact absurd rfl fits.key.1
    | cons c key =>
        have inside : inKey c = true := fits.key.2 c List.mem_cons_self
        have other : c ≠ ' ' := by
          rintro rfl
          exact absurd inside (by decide)
        simp [writeAttribute, other]
  rw [attributes, start]
  split
  · rename_i none
    rw [readAttribute_append fits] at none
    cases none
  · rename_i found
    rw [readAttribute_append fits] at found
    cases found
    rfl

theorem attributes_flatMap {list : List (Text × Text)} (fit : ∀ pair ∈ list, IsAttribute pair)
    (rest : Text) :
    attributes ((list.flatMap fun pair => ' ' :: writeAttribute pair) ++ rest) =
      list ++ attributes rest := by
  induction list with
  | nil => rfl
  | cons pair list ih =>
      rw [List.flatMap_cons, List.append_assoc, attributes_cons (fit pair List.mem_cons_self),
        ih fun other member => fit other (.tail _ member), List.cons_append]

theorem attributes_close (rest : Text) : attributes ("/>".toList ++ rest) = [] := by
  rw [attributes]
  split
  · rfl
  · rename_i taken
    simp [readAttribute, inKey, behind] at taken

theorem lt_not_mem_writeAttribute (fits : IsAttribute pair) : '<' ∉ writeAttribute pair := by
  have ofKey : '<' ∉ pair.1 := fun member => absurd (fits.key.2 _ member) (by decide)
  have between : '<' ∉ "=\"".toList := by decide
  simp only [writeAttribute, List.mem_append, not_or]
  exact ⟨ofKey, between, fits.value.not_mem.1, by decide⟩

/-- An element of another name shows nothing. -/
theorem shows_write_of_avoids {other : Text} {list : List (Text × Text)} (nonempty : list ≠ [])
    (clear : avoids ('<' :: name ++ [' ']) ('<' :: other ++ [' ']) = true)
    (fit : ∀ pair ∈ list, IsAttribute pair) : Shows name (write other list) [] := by
  obtain ⟨first, others, rfl⟩ := List.exists_cons_of_ne_nil nonempty
  have opensNone : '<' ∉ writeAttribute first ++
      ((others.flatMap fun pair => ' ' :: writeAttribute pair) ++ "/>".toList) := by
    have closing : '<' ∉ "/>".toList := by decide
    simp only [List.mem_append, not_or, List.mem_flatMap, not_exists, not_and]
    refine ⟨lt_not_mem_writeAttribute (fit first List.mem_cons_self), fun pair member => ?_, closing⟩
    rw [List.mem_cons, not_or]
    exact ⟨by decide, lt_not_mem_writeAttribute (fit pair (.tail _ member))⟩
  have whole : write other (first :: others) = ('<' :: other ++ [' ']) ++ (writeAttribute first ++
      ((others.flatMap fun pair => ' ' :: writeAttribute pair) ++ "/>".toList)) := by
    simp [write]
  rw [whole]
  exact (shows_of_avoids clear).append (shows_of_not_mem opensNone)

/-- An element shows itself. -/
theorem shows_write {list : List (Text × Text)} (named : '<' ∉ name) (nonempty : list ≠ [])
    (fit : ∀ pair ∈ list, IsAttribute pair) : Shows name (write name list) [list] := by
  obtain ⟨first, others, rfl⟩ := List.exists_cons_of_ne_nil nonempty
  intro rest
  obtain ⟨written, same⟩ : ∃ written, written =
      ((first :: others).flatMap fun pair => ' ' :: writeAttribute pair) := ⟨_, rfl⟩
  obtain ⟨inside, starts⟩ : ∃ inside, written = ' ' :: inside := ⟨_, same⟩
  have opensNone : '<' ∉ name ++ (written ++ "/>".toList) := by
    have closing : '<' ∉ "/>".toList := by decide
    simp only [List.mem_append, not_or, same, List.mem_flatMap, not_exists, not_and]
    refine ⟨named, fun pair member => ?_, closing⟩
    rw [List.mem_cons, not_or]
    exact ⟨by decide, lt_not_mem_writeAttribute (fit pair member)⟩
  have found : behind some ('<' :: name ++ [' ']) ('<' :: (name ++ (written ++ "/>".toList) ++ rest)) =
      some (inside ++ ("/>".toList ++ rest)) := by
    rw [show '<' :: (name ++ (written ++ "/>".toList) ++ rest) =
      ('<' :: name ++ [' ']) ++ (inside ++ ("/>".toList ++ rest)) by simp [starts], Tag.behind_append]
  have read : attributes (' ' :: (inside ++ ("/>".toList ++ rest))) = first :: others := by
    rw [← List.cons_append, ← starts, same, attributes_flatMap fit, attributes_close, List.append_nil]
  rw [write, ← same, List.cons_append, List.cons_append, withName, found]
  dsimp only
  rw [read, shows_of_not_mem opensNone rest]
  rfl

end Element

end Gamebook.Markup
