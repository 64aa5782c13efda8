import AppCatalog.Archive.Inflate

/-!
# Data in sorted blocks

A stream of sorted blocks is a run of bits, the greatest of each byte first. A block holds bytes
whose runs have been shortened, in the order of what stands behind them: each is given by its place
in a list that brings the last byte to the front, runs of the first place as numbers, and all of
this in up to six prefix codes. `unpack?` gives the bytes of the blocks that are whole: all of them
up to the end of the stream, or as many as there are when the stream breaks off, and nothing when it
is not well formed.
-/

namespace AppCatalog.Bzip

open AppCatalog.Deflate

/-- The bits of some bytes, the greatest of each byte first. -/
def bitsOf (bs : Bytes) : Bits :=
  bs.flatMap fun b => (List.range 8).map fun i => b.toNat.testBit (7 - i)

/-- The number in the next bits, greatest first, behind the bits that it begins with. -/
def numberAfter (high : Nat) : Nat → Reading Nat
  | 0 => pure high
  | n + 1 => do
    let bit ← Deflate.number 1
    numberAfter (2 * high + bit) n

def number (n : Nat) : Reading Nat := numberAfter 0 n

/-- Reads bytes that have to stand there. -/
def expect (bytes : List Nat) : Reading Unit :=
  bytes.forM fun b => do
    if (← number 8) ≠ b then throw .invalid

/-! ## Checks -/

def divisor : UInt32 := 0x04C11DB7

/-- The remainder moved on by one bit. -/
def shift (c : UInt32) : UInt32 := if 0x80000000 ≤ c then (c <<< 1) ^^^ divisor else c <<< 1

/-- The remainder moved on by one byte. -/
def step (c : UInt32) (b : UInt8) : UInt32 :=
  shift (shift (shift (shift (shift (shift (shift (shift (c ^^^ (b.toUInt32 <<< 24)))))))))

/-- The check of the bytes of a block. -/
def check (bs : Bytes) : UInt32 := ~~~(bs.foldl step (~~~0))

/-- The check of a stream and one block more. -/
def joinChecks (stream block : UInt32) : UInt32 := ((stream <<< 1) ||| (stream >>> 31)) ^^^ block

/-! ## The codes of a block -/

def flags : Nat → Reading (List Bool)
  | 0 => pure []
  | n + 1 => do
    let flag ← Deflate.number 1
    let rest ← flags n
    pure ((flag == 1) :: rest)

/-- The bytes that a block uses, in order: which sixteenths of them, and which of these. -/
def usedBytes : Reading Bytes := do
  let parts ← flags 16
  let used ← parts.mapM fun part => if part then flags 16 else pure (List.replicate 16 false)
  pure ((used.flatten.zipIdx.filter Prod.fst).map fun p => p.2.toUInt8)

/-- How many ones stand in front of a zero; there are fewer than a bound. -/
def onesBelow : Nat → Reading Nat
  | 0 => throw .invalid
  | n + 1 => do
    if (← Deflate.number 1) = 0 then pure 0
    else
      let more ← onesBelow n
      pure (more + 1)

/-- A list with the item of a place brought to the front. -/
def toFront {α : Type} (items : List α) (place : Nat) : List α :=
  (items[place]?).toList ++ items.eraseIdx place

/-- The places that some codes are given by, each brought to the front of the list. -/
def places : List Nat → Nat → Reading (List Nat)
  | _, 0 => pure []
  | order, n + 1 => do
    let order := toFront order (← onesBelow order.length)
    let rest ← places order n
    pure (order.head?.toList ++ rest)

/-- The length of a word, given by steps up and down from the one before it. -/
def wordLength : Nat → Nat → Reading Nat
  | 0, _ => throw .short
  | fuel + 1, length =>
    if length < 1 || 20 < length then throw .invalid
    else do
      if (← Deflate.number 1) = 0 then pure length
      else if (← Deflate.number 1) = 0 then wordLength fuel (length + 1)
      else wordLength fuel (length - 1)

def wordLengths (length : Nat) : Nat → Reading (List Nat)
  | 0 => pure []
  | n + 1 => do
    let length ← wordLength ((← get).bits.length + 1) length
    let rest ← wordLengths length n
    pure (length :: rest)

/-- The code whose words have the given lengths. No word is missed before its twenty-first bit. -/
def codeOf (lengths : List Nat) : Code :=
  let c := Code.ofLengths lengths
  { c with counts := c.counts ++ List.replicate (21 - c.counts.length) 0 }

/-- How many symbols of a block are in the same code. -/
def groupLength : Nat := 50

/-- How many groups of symbols are looked at. -/
def maxGroups : Nat := 18002

/-- The codes of a block with a number of symbols, each with the number of symbols in it. -/
def codes (symbolCount : Nat) : Reading (List (Code × Nat)) := do
  let codeCount ← number 3
  if codeCount < 2 || 6 < codeCount then throw .invalid
  let groupCount ← number 15
  if groupCount = 0 then throw .invalid
  let groups ← places (List.range codeCount) groupCount
  let tables ← (List.replicate codeCount ()).mapM fun _ => do
    wordLengths (← number 5) symbolCount
  let all := tables.map codeOf
  pure ((groups.take maxGroups).filterMap fun i => (all[i]?).map fun c => (c, groupLength))

/-- The next symbol of a block, and the codes of those behind it. -/
def symbol : List (Code × Nat) → Reading (Nat × List (Code × Nat))
  | [] => throw .invalid
  | (c, n) :: rest => do
    let s ← c.symbol
    pure (s, if n ≤ 1 then rest else (c, n - 1) :: rest)

/-! ## The column of a block -/

/-- The bytes of a block as they are given, latest first, and the order that the next one is given
in. -/
structure Column where
  order : Bytes
  size : Nat
  bytes : Bytes

/-- Puts the byte at the front of the order at the end, some times; a block has a bound. -/
def Column.push (c : Column) (bound n : Nat) : Reading Column :=
  if bound < c.size + n then throw .invalid
  else
    pure { c with
      size := c.size + n
      bytes := (c.order.head?.toList.flatMap fun b => List.replicate n b) ++ c.bytes }

/-- The greatest weight that a figure of the length of a run may have is below this. -/
def weightLimit : Nat := 2097152

/-- Reads the column of a block up to the symbol that ends it. The length of a run is given least
figure first, in figures one and two. -/
def column (bound ending : Nat) :
    Nat → List (Code × Nat) → Nat → Nat → Column → Reading Column
  | 0, _, _, _, _ => throw .short
  | fuel + 1, codes, run, weight, c => do
    let (s, codes) ← symbol codes
    if s < 2 then
      if weightLimit ≤ weight then throw .invalid
      else column bound ending fuel codes (run + (s + 1) * weight) (2 * weight) c
    else
      let c ← c.push bound run
      if s = ending then pure c
      else
        let c ← { c with order := toFront c.order (s - 1) }.push bound 1
        column bound ending fuel codes 0 1 c

/-- The bytes whose order has been given up for that of what stands behind them. Rows of the same
byte are in the same order on both sides, so that each row leads to the next. -/
def unsorted (column : Bytes) (start : Nat) : Bytes :=
  let rows := (column.zipIdx.mergeSort fun a b => a.1 ≤ b.1).toArray
  let rec walk : Nat → Nat → Bytes
    | 0, _ => []
    | n + 1, row =>
      match rows[row]? with
      | some (b, next) => b :: walk n next
      | none => []
  walk column.length start

/-- The bytes with runs written out: behind four equal bytes stands how many more there are. -/
def withRuns : Option UInt8 → Nat → Bytes → Option Bytes
  | _, _, [] => some []
  | last, run, b :: bs =>
    let run := if last = some b then run + 1 else 1
    if run = 4 then
      match bs with
      | [] => none
      | more :: bs => (withRuns none 0 bs).map fun rest =>
        b :: (List.replicate more.toNat b ++ rest)
    else (withRuns (some b) run bs).map (b :: ·)

/-! ## Scrambled blocks -/

/-- How many bytes lie from one byte of a scrambled block whose least bit is turned over to the
next. -/
def scrambleTable : List Nat := [
    619, 720, 127, 481, 931, 816, 813, 233, 566, 247, 985, 724, 205, 454, 863, 491, 741, 242,
    949, 214, 733, 859, 335, 708, 621, 574, 73, 654, 730, 472, 419, 436, 278, 496, 867, 210,
    399, 680, 480, 51, 878, 465, 811, 169, 869, 675, 611, 697, 867, 561, 862, 687, 507, 283,
    482, 129, 807, 591, 733, 623, 150, 238, 59, 379, 684, 877, 625, 169, 643, 105, 170, 607,
    520, 932, 727, 476, 693, 425, 174, 647, 73, 122, 335, 530, 442, 853, 695, 249, 445, 515,
    909, 545, 703, 919, 874, 474, 882, 500, 594, 612, 641, 801, 220, 162, 819, 984, 589, 513,
    495, 799, 161, 604, 958, 533, 221, 400, 386, 867, 600, 782, 382, 596, 414, 171, 516, 375,
    682, 485, 911, 276, 98, 553, 163, 354, 666, 933, 424, 341, 533, 870, 227, 730, 475, 186,
    263, 647, 537, 686, 600, 224, 469, 68, 770, 919, 190, 373, 294, 822, 808, 206, 184, 943,
    795, 384, 383, 461, 404, 758, 839, 887, 715, 67, 618, 276, 204, 918, 873, 777, 604, 560,
    951, 160, 578, 722, 79, 804, 96, 409, 713, 940, 652, 934, 970, 447, 318, 353, 859, 672, 112,
    785, 645, 863, 803, 350, 139, 93, 354, 99, 820, 908, 609, 772, 154, 274, 580, 184, 79, 626,
    630, 742, 653, 282, 762, 623, 680, 81, 927, 626, 789, 125, 411, 521, 938, 300, 821, 78, 343,
    175, 128, 250, 170, 774, 972, 275, 999, 639, 495, 78, 352, 126, 857, 956, 358, 619, 580,
    124, 737, 594, 701, 612, 669, 112, 134, 694, 363, 992, 809, 743, 168, 974, 944, 375, 748,
    52, 600, 747, 642, 182, 862, 81, 344, 805, 988, 739, 511, 655, 814, 334, 249, 515, 897, 955,
    664, 981, 649, 113, 974, 459, 893, 228, 433, 837, 553, 268, 926, 240, 102, 654, 459, 51,
    686, 754, 806, 760, 493, 403, 415, 394, 687, 700, 946, 670, 656, 610, 738, 392, 760, 799,
    887, 653, 978, 321, 576, 617, 626, 502, 894, 679, 243, 440, 680, 879, 194, 572, 640, 724,
    926, 56, 204, 700, 707, 151, 457, 449, 797, 195, 791, 558, 945, 679, 297, 59, 87, 824, 713,
    663, 412, 693, 342, 606, 134, 108, 571, 364, 631, 212, 174, 643, 304, 329, 343, 97, 430,
    751, 497, 314, 983, 374, 822, 928, 140, 206, 73, 263, 980, 736, 876, 478, 430, 305, 170,
    514, 364, 692, 829, 82, 855, 953, 676, 246, 369, 970, 294, 750, 807, 827, 150, 790, 288,
    923, 804, 378, 215, 828, 592, 281, 565, 555, 710, 82, 896, 831, 547, 261, 524, 462, 293,
    465, 502, 56, 661, 821, 976, 991, 658, 869, 905, 758, 745, 193, 768, 550, 608, 933, 378,
    286, 215, 979, 792, 961, 61, 688, 793, 644, 986, 403, 106, 366, 905, 644, 372, 567, 466,
    434, 645, 210, 389, 550, 919, 135, 780, 773, 635, 389, 707, 100, 626, 958, 165, 504, 920,
    176, 193, 713, 857, 265, 203, 50, 668, 108, 645, 990, 626, 197, 510, 357, 358, 850, 858,
    364, 936, 638]

/-- The bytes with the least bit turned over in some of them, the last but one of each stretch. -/
def scrambled (bs : Bytes) : Bytes :=
  let masks : Bytes := scrambleTable.flatMap fun n => List.replicate (n - 2) 0 ++ [1, 0]
  bs.zipWith (· ^^^ ·) (List.replicate (bs.length / masks.length + 1) masks).flatten

/-! ## Blocks -/

/-- Reads the bytes of a block of a bounded size. -/
def block (bound : Nat) : Reading Bytes := do
  let isScrambled := (← number 1) == 1
  let start ← number 24
  if bound + 10 < start then throw .invalid
  let used ← usedBytes
  if used = [] then throw .invalid
  let codes ← codes (used.length + 2)
  let c ← column bound (used.length + 1) ((← get).bits.length + 1) codes 0 1 ⟨used, 0, []⟩
  if c.size ≤ start then throw .invalid
  let bytes := unsorted c.bytes.reverse start
  match withRuns none 0 (if isScrambled then scrambled bytes else bytes) with
  | some bytes => pure bytes
  | none => throw .invalid

/-- Reads blocks up to the end of the stream; each has a check, and so have all of them. -/
def blocks (bound : Nat) : Nat → UInt32 → Reading Unit
  | 0, _ => throw .short
  | fuel + 1, all => do
    match ← number 8 with
    | 0x31 => do
      expect [0x41, 0x59, 0x26, 0x53, 0x59]
      let wanted ← number 32
      let bytes ← block bound
      if (check bytes).toNat ≠ wanted then throw .invalid
      bytes.forM emit
      blocks bound fuel (joinChecks all (check bytes))
    | 0x17 => do
      expect [0x72, 0x45, 0x38, 0x50, 0x90]
      if (← number 32) ≠ all.toNat then throw .invalid
    | _ => throw .invalid

/-- Reads a stream; it says how large its blocks may be, in hundreds of thousands of bytes. -/
def stream : Reading Unit := do
  expect [0x42, 0x5A, 0x68]
  let size ← number 8
  if size < 0x31 || 0x39 < size then throw .invalid
  blocks (100000 * (size - 0x30)) ((← get).bits.length + 1) 0

/-- The bytes of a stream of sorted blocks, as far as it goes.
-/
def unpack? (data : Bytes) : Option Bytes :=
  match stream.run.run ⟨bitsOf data, []⟩ with
  | (.error .invalid, _) => none
  | (_, s) => some s.out.reverse

end AppCatalog.Bzip
