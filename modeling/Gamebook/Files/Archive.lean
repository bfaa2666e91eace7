import Gamebook.Text.Utf8

/-!
Archives: named members packed into one file.

`Archive.toBytes` writes the common container format, in which every member stands behind a header
of its own and a directory of all members ends the file. Members are not made smaller; a member
marked as deflated is written as stored blocks of that method.
-/

namespace Gamebook.Files

open Gamebook.Text

instance bytesDecidableEq : DecidableEq ByteArray := ByteArray.instDecidableEq

inductive Method where
  | stored
  | deflated
deriving DecidableEq, Repr

structure Member where
  name : Text
  method : Method
  data : ByteArray
deriving DecidableEq

structure Archive where
  members : List Member
deriving DecidableEq

namespace Archive

def little (count n : Nat) : List UInt8 :=
  (List.range count).map fun i => (n >>> (8 * i)).toUInt8

/-- One step of the checksum, eight times for each byte. -/
def checksumBit (value : UInt32) : UInt32 :=
  if value &&& 1 = 1 then (value >>> 1) ^^^ 0xedb88320 else value >>> 1

def checksumByte (value : UInt32) (byte : UInt8) : UInt32 :=
  (List.range 8).foldl (fun value _ => checksumBit value) (value ^^^ byte.toUInt32)

def checksum (data : List UInt8) : UInt32 := (data.foldl checksumByte 0xffffffff) ^^^ 0xffffffff

/-- The largest stored block. -/
def blockLength : Nat := 65535

def storedBlocks (data : List UInt8) : List UInt8 :=
  if data.length ≤ blockLength then
    1 :: little 2 data.length ++ little 2 (blockLength - data.length) ++ data
  else
    0 :: little 2 blockLength ++ little 2 0 ++ data.take blockLength
      ++ storedBlocks (data.drop blockLength)
termination_by data.length
decreasing_by
  rename_i long
  rw [List.length_drop]
  unfold blockLength at *
  omega

def methodNumber : Method → Nat
  | .stored => 0
  | .deflated => 8

def pack (member : Member) : List UInt8 :=
  match member.method with
  | .stored => member.data.toList
  | .deflated => storedBlocks member.data.toList

/-- What a member's header and its directory entry have in common: version, flag of a name in
UTF-8, method, the first day of the calendar in use, checksum, sizes and the length of the name. -/
def description (member : Member) (packed : Nat) : List UInt8 :=
  little 2 20 ++ little 2 0x800 ++ little 2 (methodNumber member.method) ++ little 2 0
    ++ little 2 0x21 ++ little 4 (checksum member.data.toList).toNat ++ little 4 packed
    ++ little 4 member.data.size ++ little 2 (Utf8.encode member.name).size ++ little 2 0

def header (member : Member) (packed : Nat) : List UInt8 :=
  little 4 0x04034b50 ++ description member packed ++ (Utf8.encode member.name).toList

def directoryEntry (member : Member) (packed offset : Nat) : List UInt8 :=
  little 4 0x02014b50 ++ little 2 20 ++ description member packed ++ little 2 0 ++ little 2 0
    ++ little 2 0 ++ little 4 0 ++ little 4 offset ++ (Utf8.encode member.name).toList

/-- The members one behind the other, starting at `offset`, and their directory. -/
def layOut (offset : Nat) : List Member → List UInt8 × List UInt8
  | [] => ([], [])
  | member :: members =>
    let data := pack member
    let written := header member data.length ++ data
    let (rest, directory) := layOut (offset + written.length) members
    (written ++ rest, directoryEntry member data.length offset ++ directory)

def toBytes (archive : Archive) : ByteArray :=
  let (written, directory) := layOut 0 archive.members
  let count := archive.members.length
  ⟨(written ++ directory ++ little 4 0x06054b50 ++ little 2 0 ++ little 2 0 ++ little 2 count
    ++ little 2 count ++ little 4 directory.length ++ little 4 written.length
    ++ little 2 0).toArray⟩

end Archive

end Gamebook.Files
