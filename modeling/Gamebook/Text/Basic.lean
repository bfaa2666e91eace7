/-!
Text as the list of its characters, with the cutting and joining that the whole library uses.

Lengths, columns and indices therefore count characters, and a text is compared, sorted and hashed
character by character.
-/

namespace Gamebook

/-- Text read from or written to a story, a page, a template or a file name. -/
abbrev Text := List Char

instance : Coe String Text := ⟨String.toList⟩

namespace Text

def str (text : Text) : String := String.ofList text

def trimEnd (drop : Char → Bool) (text : Text) : Text :=
  (text.reverse.dropWhile drop).reverse

def trim (drop : Char → Bool) (text : Text) : Text :=
  trimEnd drop (text.dropWhile drop)

/-- Cuts a list at every separator; there is always one piece more than separators. -/
def splitOn [DecidableEq α] (separator : α) : List α → List (List α)
  | [] => [[]]
  | c :: rest =>
    if c = separator then [] :: splitOn separator rest
    else
      match splitOn separator rest with
      | [] => [[c]]
      | piece :: pieces => (c :: piece) :: pieces

theorem splitOn_ne_nil [DecidableEq α] (separator : α) (items : List α) :
    splitOn separator items ≠ [] := by
  cases items with
  | nil => simp [splitOn]
  | cons c rest =>
    unfold splitOn
    split
    · simp
    · split <;> simp

def join (separator : Text) (pieces : List Text) : Text :=
  List.intercalate separator pieces

def ofNat (n : Nat) : Text := Nat.toDigits 10 n

/-- The first place of a character in a text, if it has one. -/
def cutAt (mark : Char) (text : Text) : Option (Text × Text) :=
  match text.dropWhile (· ≠ mark) with
  | [] => none
  | _ :: rest => some (text.takeWhile (· ≠ mark), rest)

end Text

end Gamebook
