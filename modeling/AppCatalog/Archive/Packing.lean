import AppCatalog.Archive.Crc32
import AppCatalog.Archive.Directory

/-!
# Writing archives

`Archive.pack` writes an archive that stores its members as they are: each behind a header of its
own, then the directory, then the end record. Names are written in UTF-8.
-/

namespace AppCatalog.Archive

/-- A number in `size` bytes, the least byte first. -/
def numberBytes : Nat → Nat → Bytes
  | 0, _ => []
  | size + 1, n => (n % 256).toUInt8 :: numberBytes size (n / 256)

/-- A member to be written. -/
structure Member where
  name : List Char
  bytes : Bytes
  deriving DecidableEq, Repr

namespace Member

/-- The fields that the header and the entry of a member share: version, flags, method, time, date,
check, both sizes, and the length of the name. -/
def sharedFields (m : Member) : Bytes :=
  numberBytes 2 20 ++ numberBytes 2 2048 ++ numberBytes 2 0 ++ numberBytes 2 0 ++
    numberBytes 2 33 ++ numberBytes 4 (Crc32.check m.bytes).toNat ++
    numberBytes 4 m.bytes.length ++ numberBytes 4 m.bytes.length ++
    numberBytes 2 (Utf8.encode m.name).length

def block (m : Member) : Bytes :=
  mark 3 4 ++ m.sharedFields ++ numberBytes 2 0 ++ Utf8.encode m.name ++ m.bytes

/-- The directory's entry for the member at an offset. -/
def entry (m : Member) (offset : Nat) : Bytes :=
  mark 1 2 ++ numberBytes 2 20 ++ m.sharedFields ++ numberBytes 2 0 ++ numberBytes 2 0 ++
    numberBytes 2 0 ++ numberBytes 2 0 ++ numberBytes 4 0 ++ numberBytes 4 offset ++
    Utf8.encode m.name

end Member

/-- The entries of members that are written behind each other, the first at an offset. -/
def entries : Nat → List Member → Bytes
  | _, [] => []
  | offset, m :: ms => m.entry offset ++ entries (offset + m.block.length) ms

/-- The record at the end of an archive. -/
def endBytes (count size offset : Nat) : Bytes :=
  mark 5 6 ++ numberBytes 2 0 ++ numberBytes 2 0 ++ numberBytes 2 count ++ numberBytes 2 count ++
    numberBytes 4 size ++ numberBytes 4 offset ++ numberBytes 2 0

def pack (ms : List Member) : Bytes :=
  let blocks := ms.flatMap Member.block
  let directory := entries 0 ms
  blocks ++ directory ++ endBytes ms.length directory.length blocks.length

end AppCatalog.Archive
