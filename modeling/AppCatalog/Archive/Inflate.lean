import AppCatalog.Text.Utf8

/-!
# Deflated data

A deflated stream is a run of bits, the least of each byte first, in blocks of three kinds: plain
bytes, symbols in a fixed prefix code, and symbols in a code that the block describes. A symbol is a
byte, the end of the block, or a length that asks for a copy of what came out before. `inflate?`
gives the bytes of a stream: all of them up to its end, or as many as there are when the stream
breaks off, and nothing when the stream is not well formed.
-/

namespace AppCatalog.Deflate

/-- Bits in the order they are read in. -/
abbrev Bits := List Bool

/-- The bits of some bytes, the least of each byte first. -/
def bitsOf (bs : Bytes) : Bits :=
  bs.flatMap fun b => (List.range 8).map fun i => b.toNat.testBit i

/-- Why reading stops. -/
inductive Stop where
  /-- The bits break off. -/
  | short
  /-- The bits mean nothing. -/
  | invalid
  deriving DecidableEq, Repr

/-- What is still to be read, and what has come out, latest first. -/
structure Stream where
  bits : Bits
  out : Bytes

/-- A step of reading; what came out before it stops stays. -/
abbrev Reading (α : Type) := ExceptT Stop (StateM Stream) α

/-- The number in the next bits, least first. -/
def number : Nat → Reading Nat
  | 0 => pure 0
  | n + 1 => do
    let s ← get
    match s.bits with
    | [] => throw .short
    | b :: rest =>
      set { s with bits := rest }
      let high ← number n
      pure (b.toNat + 2 * high)

def emit (b : UInt8) : Reading Unit := modify fun s => { s with out := b :: s.out }

/-! ## Prefix codes -/

/-- A prefix code in canonical order: how many words there are of each length from one up, and the
symbols of the words, short words first. -/
structure Code where
  counts : List Nat
  symbols : List Nat
  deriving DecidableEq, Repr

namespace Code

/-- The code whose words have the given lengths; a symbol with no length has no word. There is at
least one length, so that one bit is read before a word is found missing. -/
def ofLengths (lengths : List Nat) : Code :=
  let longest := max 1 (lengths.foldl max 0)
  let ofLength := fun l => (List.range lengths.length).filter fun i => lengths[i]? == some l
  let rows := (List.range longest).map fun i => ofLength (i + 1)
  ⟨rows.map List.length, rows.flatten⟩

/-- What is left of the words of the greatest length; negative if there are too many. -/
def slack (c : Code) : Int := c.counts.foldl (fun (left : Int) (n : Nat) => 2 * left - n) 1

/-- Whether no word has been given out. -/
def isEmpty (c : Code) : Bool := c.symbols.isEmpty

/-- Whether the only word is a single bit. -/
def isSingle (c : Code) : Bool := c.counts == [1]

/-- Whether the code may describe lengths of words: every bit run has a meaning, or none has. -/
def isTight (c : Code) : Bool := c.slack == 0 || c.isEmpty

/-- Whether the code may be used for symbols; a code of a single word may leave half of the bit runs
without a meaning. -/
def isUsable (c : Code) : Bool := c.isTight || c.isSingle

/-- The symbol of the word that the next bits are. At each length the words are a run of numbers
behind `first`. -/
def next (word first : Nat) (symbols : List Nat) : List Nat → Reading Nat
  | [] => throw .invalid
  | n :: counts => do
    let bit ← number 1
    let word := 2 * word + bit
    let first := 2 * first
    if word < first + n then
      match symbols[word - first]? with
      | some s => pure s
      | none => throw .invalid
    else next word (first + n) (symbols.drop n) counts

def symbol (c : Code) : Reading Nat := next 0 0 c.symbols c.counts

end Code

/-! ## Blocks -/

/-- The lengths that a symbol stands for: the least one, and how many bits are added. -/
def lengthTable : List (Nat × Nat) :=
  [(3, 0), (4, 0), (5, 0), (6, 0), (7, 0), (8, 0), (9, 0), (10, 0), (11, 1), (13, 1), (15, 1),
    (17, 1), (19, 2), (23, 2), (27, 2), (31, 2), (35, 3), (43, 3), (51, 3), (59, 3), (67, 4),
    (83, 4), (99, 4), (115, 4), (131, 5), (163, 5), (195, 5), (227, 5), (258, 0)]

/-- The distances that a symbol stands for. -/
def distanceTable : List (Nat × Nat) :=
  [(1, 0), (2, 0), (3, 0), (4, 0)] ++
    (List.range 26).map fun i => ((2 + i % 2) * Nat.pow 2 (i / 2 + 1) + 1, i / 2 + 1)

/-- The number that a symbol of a table stands for. -/
def amount (table : List (Nat × Nat)) (symbol : Nat) : Reading Nat :=
  match table[symbol]? with
  | none => throw .invalid
  | some (least, extra) => do
    let more ← number extra
    pure (least + more)

/-- Puts out again what came out some bytes ago. -/
def copy (distance : Nat) : Nat → Reading Unit
  | 0 => pure ()
  | n + 1 => do
    match (← get).out[distance - 1]? with
    | none => throw .invalid
    | some b => do
      emit b
      copy distance n

/-- Reads symbols up to the end of the block. -/
def symbols (literals distances : Code) : Nat → Reading Unit
  | 0 => throw .short
  | fuel + 1 => do
    let s ← literals.symbol
    if s < 256 then
      emit s.toUInt8
      symbols literals distances fuel
    else if s = 256 then pure ()
    else do
      let length ← amount lengthTable (s - 257)
      let distance ← amount distanceTable (← distances.symbol)
      copy distance length
      symbols literals distances fuel

/-- The fixed code of bytes and lengths. -/
def fixedLiterals : Code :=
  .ofLengths (List.replicate 144 8 ++ List.replicate 112 9 ++ List.replicate 24 7 ++
    List.replicate 8 8)

def fixedDistances : Code := .ofLengths (List.replicate 32 5)

/-- The order in which the lengths of the length code are given. -/
def lengthOrder : List Nat := [16, 17, 18, 0, 8, 7, 9, 6, 10, 5, 11, 4, 12, 3, 13, 2, 14, 1, 15]

/-- The next symbol of the length code; a code without words gives zeros. -/
def lengthSymbol (c : Code) : Reading Nat :=
  if c.isEmpty then (fun _ => 0) <$> number 1 else c.symbol

/-- The lengths of words, `wanted` in all, in the length code. A run may not pass the last one. -/
def lengths (c : Code) (wanted : Nat) : Nat → List Nat → Reading (List Nat)
  | 0, _ => throw .short
  | fuel + 1, done =>
    if wanted ≤ done.length then pure done
    else do
      let s ← lengthSymbol c
      if s < 16 then lengths c wanted fuel (done ++ [s])
      else do
        let (least, extra) :=
          if s = 16 then (3, 2) else if s = 17 then (3, 3) else ((11 : Nat), (7 : Nat))
        let more ← number extra
        let length ←
          if s = 16 then
            match done.getLast? with
            | some l => pure l
            | none => throw .invalid
          else pure 0
        let done := done ++ List.replicate (least + more) length
        if wanted < done.length then throw .invalid
        lengths c wanted fuel done

def triples : Nat → Reading (List Nat)
  | 0 => pure []
  | n + 1 => do
    let first ← number 3
    let rest ← triples n
    pure (first :: rest)

def describedCodes : Reading (Code × Code) := do
  let literalCount := (← number 5) + 257
  let distanceCount := (← number 5) + 1
  let orderCount := (← number 4) + 4
  if 286 < literalCount || 30 < distanceCount then throw .invalid
  let given ← triples orderCount
  let lengthOf := fun s =>
    ((lengthOrder.zip given).find? fun p => p.1 == s).elim 0 Prod.snd
  let code := Code.ofLengths ((List.range 19).map lengthOf)
  if !code.isTight then throw .invalid
  let all ← lengths code (literalCount + distanceCount) (literalCount + distanceCount + 1) []
  if all[256]? == some 0 then throw .invalid
  let literals := Code.ofLengths (all.take literalCount)
  let distances := Code.ofLengths (all.drop literalCount)
  if !literals.isUsable || !distances.isUsable then throw .invalid
  pure (literals, distances)

def plainBytes : Nat → Reading Unit
  | 0 => pure ()
  | n + 1 => do
    let b ← number 8
    emit b.toUInt8
    plainBytes n

/-- Reads a block of plain bytes, which begins on a whole byte and gives its length twice. -/
def plainBlock : Reading Unit := do
  modify fun s => { s with bits := s.bits.drop (s.bits.length % 8) }
  let length ← number 16
  let turned ← number 16
  if length + turned ≠ 65535 then throw .invalid
  plainBytes length

/-- Reads blocks up to the last one. -/
def blocks : Nat → Reading Unit
  | 0 => throw .short
  | fuel + 1 => do
    let header ← number 3
    match header / 2 with
    | 0 => plainBlock
    | 1 => symbols fixedLiterals fixedDistances fuel
    | 2 => do
      let (literals, distances) ← describedCodes
      symbols literals distances fuel
    | _ => throw .invalid
    if header % 2 = 0 then blocks fuel

/-- The bytes of a deflated stream, as far as it goes. -/
def inflate? (data : Bytes) : Option Bytes :=
  let bits := bitsOf data
  match (blocks (bits.length + 1)).run.run ⟨bits, []⟩ with
  | (.error .invalid, _) => none
  | (_, s) => some s.out.reverse

end AppCatalog.Deflate
