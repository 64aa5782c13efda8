import AppCatalog.Text.CodePage437

/-!
# The directory of an archive

An archive ends in a record that says where its directory is and how long. `EndRecord.find` looks
for that record and `Directory.ofBytes` reads the entries of the directory, in order. Positions are
counted from where the archive begins, which need not be where the bytes begin.
-/

namespace AppCatalog.Archive

/-- Why an archive or a member of it cannot be read. -/
inductive Fault where
  /-- The bytes are no sound archive. -/
  | unsound
  /-- A name is no UTF-8. -/
  | badName
  /-- The archive asks for more than is known. -/
  | unknownMethod
  /-- A member is locked by a password. -/
  | locked
  /-- The deflated data of a member is not well formed. -/
  | badDeflate
  /-- The data of a member in sorted blocks is not well formed. -/
  | badBzip
  /-- The data of a member by likelihood is not well formed. -/
  | badLzma
  /-- A member would begin before the archive. -/
  | beforeStart
  /-- A member would begin beyond all positions. -/
  | beyondEnd
  deriving DecidableEq, Repr

/-- The number in some bytes, the least byte first. -/
def numberOf (bs : Bytes) : Nat := bs.foldr (fun b n => b.toNat + 256 * n) 0

/-- The number in a field of `size` bytes that begins at an offset. -/
def field (bs : Bytes) (offset size : Nat) : Nat := numberOf ((bs.drop offset).take size)

/-- The mark of a record: two letters and two numbers. -/
def mark (a b : UInt8) : Bytes := [0x50, 0x4B, a, b]

/-- Whether a record begins with a mark. -/
def hasMark (bs : Bytes) (a b : UInt8) : Bool := bs.take 4 == mark a b

/-- The text of a name: UTF-8 if a flag says so. -/
def nameOf (flags : Nat) (bs : Bytes) : Except Fault (List Char) :=
  if flags.testBit 11 then
    match Utf8.decode? bs with
    | some name => .ok name
    | none => .error .badName
  else .ok (CodePage437.decode bs)

/-- What the end of an archive says: how long the directory is, where it would begin, and where the
record itself was found. -/
structure EndRecord where
  size : Nat
  offset : Nat
  location : Nat
  /-- Whether the wide form of the record was found as well. -/
  isWide : Bool
  deriving DecidableEq, Repr

namespace EndRecord

/-- The length of the record without its comment. -/
def length : Nat := 22

def wideLength : Nat := 56

/-- The length of the record that points to the wide one. -/
def pointerLength : Nat := 20

def maxComment : Nat := 65536

/-- The last position at which a run of bytes begins with a mark. -/
def lastMark? (a b : UInt8) (bs : Bytes) : Option Nat :=
  let rec go (i : Nat) (found : Option Nat) : Bytes → Option Nat
    | [] => found
    | c :: rest => go (i + 1) (if hasMark (c :: rest) a b then some i else found) rest
  go 0 none bs

/-- Where the end record begins: at the very end if there is no comment, or else where its mark
stands last. -/
def locate? (data : Bytes) : Option Nat :=
  let plain := data.length - length
  let tail := data.drop plain
  if tail.length = length && hasMark tail 5 6 && field tail 20 2 = 0 then some plain
  else
    let skipped := data.length - (maxComment + length)
    match lastMark? 5 6 (data.drop skipped) with
    | some i => if skipped + i + length ≤ data.length then some (skipped + i) else none
    | none => none

/-- The wide record before an end record, if there is one. -/
def wide? (data : Bytes) (location : Nat) : Except Fault (Option EndRecord) :=
  let pointer := (data.drop (location - pointerLength)).take pointerLength
  if !hasMark pointer 6 7 then .ok none
  else if field pointer 4 4 ≠ 0 || 1 < field pointer 16 4 then .error .unsound
  else
    let record := (data.drop (location - pointerLength - wideLength)).take wideLength
    if record.length = wideLength && hasMark record 6 6 then
      .ok (some ⟨field record 40 8, field record 48 8, location, true⟩)
    else .ok none

/-- The end record of an archive, if the bytes have one. -/
def find (data : Bytes) : Except Fault (Option EndRecord) :=
  match locate? data with
  | none => .ok none
  | some location =>
    match wide? data location with
    | .error fault => .error fault
    | .ok (some wide) => .ok (some wide)
    | .ok none =>
      let record := (data.drop location).take length
      .ok (some ⟨field record 12 4, field record 16 4, location, false⟩)

/-- How much of the end of the archive the end records take. -/
def extra (r : EndRecord) : Nat := if r.isWide then wideLength + pointerLength else 0

def start (r : EndRecord) : Int := (r.location : Int) - r.size - r.extra

/-- How far the archive begins behind the bytes. -/
def shift (r : EndRecord) : Int := r.start - r.offset

end EndRecord

/-- What the directory says of a member. -/
structure Entry where
  /-- The whole name; for looking up it ends before a NUL character. -/
  fullName : List Char
  flags : Nat
  method : Nat
  check : Nat
  packedSize : Nat
  size : Nat
  offset : Int
  deriving DecidableEq, Repr

namespace Entry

/-- The name that a member is looked up by. -/
def name (e : Entry) : List Char := e.fullName.takeWhile (· != '\x00')

/-- The number in the first eight bytes of a wide field, and what follows. -/
def wideNumber (bs : Bytes) : Except Fault (Nat × Bytes) :=
  if bs.length < 8 then .error .unsound else .ok (numberOf (bs.take 8), bs.drop 8)

/-- The number in four bytes that says that the wide field holds the true one. -/
def inWideField : Nat := 0xFFFFFFFF

/-- The entry with the numbers that its wide field holds. -/
def widened (e : Entry) (bs : Bytes) : Except Fault Entry := do
  let (size, bs) ←
    if e.size = inWideField || e.size = 0xFFFFFFFFFFFFFFFF then wideNumber bs
    else .ok (e.size, bs)
  let (packedSize, bs) ←
    if e.packedSize = inWideField then wideNumber bs else .ok (e.packedSize, bs)
  let (offset, _) ←
    if e.offset = inWideField then (wideNumber bs).map fun p => ((p.1 : Int), p.2)
    else .ok (e.offset, bs)
  .ok { e with size, packedSize, offset }

/-- The entry with what its extra fields say; each field gives its kind and its length. -/
def withExtra (e : Entry) (extra : Bytes) : Except Fault Entry :=
  if _h : extra.length < 4 then .ok e
  else
    let length := field extra 2 2
    if extra.length < length + 4 then .error .unsound
    else
      let body := (extra.drop 4).take length
      match (if field extra 0 2 = 1 then e.widened body else .ok e) with
      | .error fault => .error fault
      | .ok e => withExtra e (extra.drop (length + 4))
termination_by extra.length
decreasing_by
  simp only [List.length_drop]
  omega

/-- The length of an entry without its texts. -/
def fixedLength : Nat := 46

/-- The newest version of the format that is known. -/
def maxVersion : Nat := 63

/-- The entry at the start of some bytes, and what follows it. -/
def read (data : Bytes) : Except Fault (Entry × Bytes) := do
  let head := data.take fixedLength
  if head.length ≠ fixedLength then .error .unsound
  if !hasMark head 1 2 then .error .unsound
  let flags := field head 8 2
  let nameEnd := fixedLength + field head 28 2
  let extraEnd := nameEnd + field head 30 2
  let fullName ← nameOf flags ((data.take nameEnd).drop fixedLength)
  if maxVersion < field head 6 1 then .error .unknownMethod
  let e : Entry := {
    fullName, flags
    method := field head 10 2
    check := field head 16 4
    packedSize := field head 20 4
    size := field head 24 4
    offset := field head 42 4 }
  let e ← e.withExtra ((data.take extraEnd).drop nameEnd)
  .ok (e, data.drop (extraEnd + field head 32 2))

end Entry

/-- The directory of an archive: its entries in order, and where it begins. -/
structure Directory where
  entries : List Entry
  start : Nat
  deriving DecidableEq, Repr

namespace Directory

/-- The entries in some bytes, `fuel` of them at most. -/
def readEntries : Nat → Bytes → Except Fault (List Entry)
  | _, [] => .ok []
  | 0, _ => .error .unsound
  | fuel + 1, b :: bs => do
    let (e, rest) ← Entry.read (b :: bs)
    let es ← readEntries fuel rest
    .ok (e :: es)

/-- The directory that an end record points to. -/
def ofEndRecord (data : Bytes) (r : EndRecord) : Except Fault Directory := do
  if r.start < 0 then .error .unsound
  let start := r.start.toNat
  let entries ← readEntries data.length ((data.drop start).take r.size)
  .ok ⟨entries.map fun e => { e with offset := e.offset + r.shift }, start⟩

/-- The directory of the archive that some bytes are. -/
def ofBytes (data : Bytes) : Except Fault Directory := do
  match ← EndRecord.find data with
  | none => .error .unsound
  | some r => ofEndRecord data r

/-- The entry of a name and the entries before it; of several with one name the last one counts. -/
def find? (d : Directory) (name : List Char) : Option (Entry × List Entry) :=
  match d.entries.reverse.dropWhile fun e => e.name != name with
  | [] => none
  | e :: before => some (e, before)

/-- Where a member has to end: where the next one begins, or else where the directory begins. Of
members that begin at one place only the first has any room. -/
def endOf (d : Directory) (e : Entry) (before : List Entry) : Int :=
  if before.any fun b => b.offset = e.offset then e.offset
  else (((d.entries.map Entry.offset).filter (e.offset < ·)).min?).getD d.start

end Directory

end AppCatalog.Archive
