import AppCatalog.Archive.Bzip
import AppCatalog.Archive.Crc32
import AppCatalog.Archive.Directory
import AppCatalog.Archive.Lzma

/-!
# The members of an archive

`Archive.member?` gives the bytes of a member. The member's own header has to repeat the name that
the directory gives, the packed data has to end before the next member begins, and the check has to
fit the bytes that come out.
-/

namespace AppCatalog.Archive

/-- The length of a member's header without its texts. -/
def headerLength : Nat := 30

/-- Where the positions of a file end. -/
def positionLimit : Int := 9223372036854775808

/-- Whether the bytes of a member are to be found: its header is sound and repeats its name, its
data fits, and nothing locks it. The result is where its data begins. -/
def dataStart (data : Bytes) (e : Entry) (limit : Int) : Except Fault Nat := do
  if e.offset < 0 then .error .beforeStart
  if positionLimit ≤ e.offset then .error .beyondEnd
  let rest := data.drop e.offset.toNat
  let head := rest.take headerLength
  if head.length ≠ headerLength then .error .unsound
  if !hasMark head 3 4 then .error .unsound
  let nameEnd := headerLength + field head 26 2
  let start := min data.length (e.offset.toNat + nameEnd + field head 28 2)
  if e.flags.testBit 5 || e.flags.testBit 6 then .error .unknownMethod
  let name ← nameOf (field head 6 2) ((rest.take nameEnd).drop headerLength)
  if name ≠ e.fullName then .error .unsound
  if limit < ((start + e.packedSize : Nat) : Int) then .error .unsound
  if e.flags.testBit 0 then .error .locked
  .ok start

/-- What unpacking gives, or the fault of its method. -/
def unpacked (unpack? : Bytes → Option Bytes) (fault : Fault) (packed : Bytes) :
    Except Fault Bytes :=
  match unpack? packed with
  | some bytes => .ok bytes
  | none => .error fault

/-- The bytes that packed data stands for: it is stored as it is, deflated, in sorted blocks or by
likelihood. -/
def unpack (method : Nat) (packed : Bytes) : Except Fault Bytes :=
  match method with
  | 0 => .ok packed
  | 8 => unpacked Deflate.inflate? .badDeflate packed
  | 12 => unpacked Bzip.unpack? .badBzip packed
  | 14 => unpacked Lzma.unpack? .badLzma packed
  | _ => .error .unknownMethod

/-- The bytes of the member with an entry, which may take the room up to a position. -/
def extract (data : Bytes) (e : Entry) (limit : Int) : Except Fault Bytes := do
  let start ← dataStart data e limit
  let unpacked ← unpack e.method ((data.drop start).take e.packedSize)
  let bytes := unpacked.take e.size
  if (Crc32.check bytes).toNat ≠ e.check then .error .unsound
  .ok bytes

/-- The bytes of the member of a name, if the directory has one. -/
def member? (data : Bytes) (d : Directory) (name : List Char) : Except Fault (Option Bytes) :=
  match d.find? name with
  | none => .ok none
  | some (e, before) => (extract data e (d.endOf e before)).map some

/-- Whether some bytes end like an archive. -/
def isArchive (data : Bytes) : Except Fault Bool := (EndRecord.find data).map Option.isSome

end AppCatalog.Archive
