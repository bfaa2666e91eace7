import Gamebook.Text.Basic

/-!
UTF-8, with the place and the reason where bytes are no UTF-8.

A fault is reported at the first character that cannot be read, and covers the bytes that could
still have begun one. `decode_encode` says that every text reads back.
-/

namespace Gamebook.Text.Utf8

inductive Reason where
  | badStart
  | badContinuation
  | truncated
deriving DecidableEq, Repr

/-- A row of `length` bytes from `position` on, `byte` first, that is no character. -/
structure Fault where
  byte : UInt8
  position : Nat
  length : Nat
  reason : Reason
deriving DecidableEq, Repr

/-- How many bytes follow a first byte, and the range of the first of them. -/
def continuation? (first : UInt8) : Option (Nat × UInt8 × UInt8) :=
  if first < 0x80 then some (0, 0x80, 0xbf)
  else if first < 0xc2 then none
  else if first < 0xe0 then some (1, 0x80, 0xbf)
  else if first = 0xe0 then some (2, 0xa0, 0xbf)
  else if first = 0xed then some (2, 0x80, 0x9f)
  else if first < 0xf0 then some (2, 0x80, 0xbf)
  else if first = 0xf0 then some (3, 0x90, 0xbf)
  else if first < 0xf4 then some (3, 0x80, 0xbf)
  else if first = 0xf4 then some (3, 0x80, 0x8f)
  else none

/-- How many of the next `need` bytes continue a character, the first within `low` and `high`. -/
def continued : Nat → UInt8 → UInt8 → List UInt8 → Nat
  | 0, _, _, _ => 0
  | _, _, _, [] => 0
  | need + 1, low, high, byte :: rest =>
    if low ≤ byte && byte ≤ high then continued need 0x80 0xbf rest + 1 else 0

def faultFrom (position : Nat) : List UInt8 → Option Fault
  | [] => none
  | first :: rest =>
    match continuation? first with
    | none => some ⟨first, position, 1, .badStart⟩
    | some (need, low, high) =>
      let taken := continued need low high rest
      if taken = need then faultFrom (position + need + 1) (rest.drop need)
      else
        some ⟨first, position, taken + 1,
          if taken = rest.length then .truncated else .badContinuation⟩
termination_by bytes => bytes.length
decreasing_by
  have := List.length_drop (i := need) (l := rest)
  rw [List.length_cons]
  omega

def encode (text : Text) : ByteArray := (String.ofList text).toUTF8

def decode (bytes : ByteArray) : Except Fault Text :=
  match String.fromUTF8? bytes with
  | some text => .ok text.toList
  | none => .error ((faultFrom 0 bytes.toList).getD ⟨0, 0, 0, .badStart⟩)

theorem decode_encode (text : Text) : decode (encode text) = .ok text := by
  have valid : (String.ofList text).toByteArray.IsValidUTF8 := (String.ofList text).isValidUTF8
  have same : String.fromUTF8 (String.ofList text).toByteArray valid = String.ofList text := rfl
  simp only [decode, encode, String.toUTF8, String.fromUTF8?, dif_pos valid, same,
    String.toList_ofList]

def mark : List UInt8 := [0xef, 0xbb, 0xbf]

/-- Reads bytes that may start with one byte order mark, which is dropped. A file that ends inside
the mark holds nothing. -/
def decodeMarked (bytes : ByteArray) : Except Fault Text :=
  if bytes.size < 3 && bytes.toList.isPrefixOf mark then .ok []
  else if mark.isPrefixOf bytes.toList then decode (bytes.extract 3 bytes.size)
  else decode bytes

namespace Fault

def reasonText : Reason → String
  | .badStart => "invalid start byte"
  | .badContinuation => "invalid continuation byte"
  | .truncated => "unexpected end of data"

def message (fault : Fault) : String :=
  let place :=
    if fault.length = 1 then
      "byte 0x" ++ Text.str (lowHex fault.byte) ++ " in position " ++ toString fault.position
    else
      "bytes in position " ++ toString fault.position ++ "-"
        ++ toString (fault.position + fault.length - 1)
  "'utf-8' codec can't decode " ++ place ++ ": " ++ reasonText fault.reason
where
  /-- Two hexadecimal digits. -/
  lowHex (byte : UInt8) : Text :=
    [Nat.digitChar (byte.toNat / 16), Nat.digitChar (byte.toNat % 16)]

end Fault

end Gamebook.Text.Utf8
