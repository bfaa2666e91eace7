import Gamebook.Text.Basic

/-!
Identifiers for books that have none of their own, drawn from random bytes.
-/

namespace Gamebook.Publish.Identifier

open Gamebook.Text

def hexByte (byte : UInt8) : Text :=
  [Nat.digitChar (byte.toNat / 16), Nat.digitChar (byte.toNat % 16)]

/-- Marks bytes as the fourth version, which is random, in the usual variant. -/
def marked (index : Nat) (byte : UInt8) : UInt8 :=
  if index = 6 then (byte &&& 0x0f) ||| 0x40
  else if index = 8 then (byte &&& 0x3f) ||| 0x80
  else byte

def hyphenated (index : Nat) : Bool := index = 4 || index = 6 || index = 8 || index = 10

def hexAt (index : Nat) (byte : UInt8) : Text :=
  if hyphenated index then '-' :: hexByte (marked index byte) else hexByte (marked index byte)

def ofRandom (bytes : List UInt8) : Text := "urn:uuid:".toList ++ (bytes.mapIdx hexAt).flatten

end Gamebook.Publish.Identifier
