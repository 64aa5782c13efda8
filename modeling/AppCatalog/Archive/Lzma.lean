import AppCatalog.Archive.Inflate

/-!
# Data by likelihood

A stream by likelihood is a fraction, of which more and more figures are read. Each decision divides
a range in two, in a ratio that is kept for the place the decision has in the format and moves with
every outcome; the fraction lies in one part or the other. From decisions come bytes, lengths and
distances of copies. `unpack?` gives the bytes of such a stream behind the header that it has in an
archive: all of them up to its end, or as many as there are when the stream breaks off, and nothing
when it is not well formed.
-/

namespace AppCatalog.Lzma

open AppCatalog.Deflate (Stop)

/-- What is still to be read, the range and where the fraction lies in it, how likely a zero is at
each place, and what has come out, latest first. -/
structure Stream where
  input : Bytes
  range : UInt32
  fraction : UInt32
  odds : Array Nat
  out : Bytes
  size : Nat

/-- A step of reading; what came out before it stops stays. -/
abbrev Reading (α : Type) := ExceptT Stop (StateM Stream) α

/-! ## Decisions -/

/-- How likely what is certain would be. -/
def certain : Nat := 2048

/-- Reads a figure more if the range has become small. -/
def refine : Reading Unit := do
  let s ← get
  if s.range < 0x1000000 then
    match s.input with
    | [] => throw .short
    | b :: rest => set { s with
        input := rest
        range := s.range <<< 8
        fraction := (s.fraction <<< 8) ||| b.toUInt32 }

/-- The decision at a place. -/
def decision (place : Nat) : Reading Nat := do
  refine
  let s ← get
  let odds := s.odds.getD place (certain / 2)
  let part := (s.range >>> 11) * odds.toUInt32
  if s.fraction < part then
    set { s with
      range := part
      odds := s.odds.setIfInBounds place (odds + (certain - odds) / 32) }
    pure 0
  else
    set { s with
      range := s.range - part
      fraction := s.fraction - part
      odds := s.odds.setIfInBounds place (odds - odds / 32) }
    pure 1

/-- A number from even decisions, greatest first, behind those that it begins with. -/
def even (high : Nat) : Nat → Reading Nat
  | 0 => pure high
  | n + 1 => do
    refine
    let s ← get
    let range := s.range >>> 1
    let fraction := s.fraction - range
    if 0x80000000 ≤ fraction then
      set { s with range }
      even (2 * high) n
    else
      set { s with range, fraction }
      even (2 * high + 1) n

/-- The path that decisions take through a tree whose places begin behind `base`, from a node. -/
def path (base : Nat) : Nat → Nat → Reading Nat
  | 0, node => pure node
  | n + 1, node => do
    let bit ← decision (base + node)
    path base n (2 * node + bit)

/-- A number of `n` decisions in a tree, greatest first. -/
def number (base n : Nat) : Reading Nat := do
  let node ← path base n 1
  pure (node - Nat.pow 2 n)

/-- A number of decisions in a tree, least first, from a node. -/
def numberBackwards (base : Nat) : Nat → Nat → Reading Nat
  | 0, _ => pure 0
  | n + 1, node => do
    let bit ← decision (base + node)
    let high ← numberBackwards base n (2 * node + bit)
    pure (bit + 2 * high)

/-! ## Places -/

/-- The places of decisions between a byte and a copy, of each kind of phase. -/
def copyPlace (phase turn : Nat) : Nat := 16 * phase + turn

def repeatPlace (phase : Nat) : Nat := 192 + phase

/-- The places of decisions that pass over the distance of a number of copies before. -/
def olderPlace (n phase : Nat) : Nat := 204 + 12 * n + phase

def longPlace (phase turn : Nat) : Nat := 240 + 16 * phase + turn

/-- The places for the class of a distance, by the length of its copy. -/
def classPlace (length : Nat) : Nat := 432 + 64 * min (length - 2) 3

def middlePlace : Nat := 688

def lowPlace : Nat := 802

/-- The places for the length of a copy at a new distance or at one before. -/
def lengthPlace (isRepeat : Bool) : Nat := if isRepeat then 1332 else 818

def bytePlace : Nat := 1846

/-! ## Bytes and copies -/

/-- How a stream is written: how many bits of the byte before a byte and of its place tell its
places apart, those of the place of a copy, and how far copies reach. -/
structure Form where
  before : Nat
  place : Nat
  turns : Nat
  reach : Nat
  deriving DecidableEq, Repr

/-- The form that five bytes describe. -/
def Form.ofBytes? : Bytes → Option Form
  | [b, d₀, d₁, d₂, d₃] =>
    let n := b.toNat
    let reach := max 4096
      (d₀.toNat + 256 * d₁.toNat + 65536 * d₂.toNat + 16777216 * d₃.toNat)
    if 225 ≤ n || 4 < n % 9 + n / 9 % 5 then none
    else some ⟨n % 9, n / 9 % 5, n / 45, (reach + 15) / 16 * 16⟩
  | _ => none

/-- What is remembered between symbols: the phase that the last ones lead to, and the last
distances, each less one. -/
structure Memory where
  phase : Nat
  last : Nat
  second : Nat
  third : Nat
  fourth : Nat

namespace Memory

def start : Memory := ⟨0, 0, 0, 0, 0⟩

/-- Whether the last symbol is a byte. -/
def isBehindByte (m : Memory) : Bool := m.phase < 7

def behindByte (m : Memory) : Memory :=
  { m with phase := if m.phase < 4 then 0 else if m.phase < 10 then m.phase - 3 else m.phase - 6 }

/-- The memory in one phase behind a byte and in another one behind a copy. -/
def inPhase (m : Memory) (afterByte afterCopy : Nat) : Memory :=
  { m with phase := if m.isBehindByte then afterByte else afterCopy }

def withDistance (m : Memory) (distance : Nat) : Memory :=
  { m with last := distance, second := m.last, third := m.second, fourth := m.third }

end Memory

def emit (b : UInt8) : Reading Unit :=
  modify fun s => { s with out := b :: s.out, size := s.size + 1 }

/-- The byte that came out some bytes before the last one. -/
def earlier (distance : Nat) : Reading UInt8 := do
  pure ((← get).out.getD distance 0)

/-- A byte as it is told apart from the one that a copy would give, as long as they agree. -/
def byteBeside (base : Nat) (other : UInt8) : Nat → Nat → Reading Nat
  | 0, node => pure node
  | n + 1, node => do
    let wanted := (other.toNat.testBit n).toNat
    let bit ← decision (base + 256 * (1 + wanted) + node)
    if bit = wanted then byteBeside base other n (2 * node + bit)
    else path base n (2 * node + bit)

def byte (form : Form) (m : Memory) : Reading UInt8 := do
  let before ← earlier 0
  let place := (← get).size % Nat.pow 2 form.place
  let base := bytePlace +
    768 * (place * Nat.pow 2 form.before + before.toNat / Nat.pow 2 (8 - form.before))
  let node ←
    if m.isBehindByte then path base 8 1
    else do
      byteBeside base (← earlier m.last) 8 1
  pure (node - 256).toUInt8

/-- The length of a copy. -/
def length (base turn : Nat) : Reading Nat := do
  if (← decision base) = 0 then
    let n ← number (base + 2 + 8 * turn) 3
    pure (2 + n)
  else if (← decision (base + 1)) = 0 then
    let n ← number (base + 130 + 8 * turn) 3
    pure (10 + n)
  else
    let n ← number (base + 258) 8
    pure (18 + n)

/-- A new distance, less one: a class gives its first two figures and how many follow. -/
def distance (length : Nat) : Reading Nat := do
  let kind ← number (classPlace length) 6
  if kind < 4 then pure kind
  else
    let count := kind / 2 - 1
    let least := (2 + kind % 2) * Nat.pow 2 count
    if kind < 14 then
      let low ← numberBackwards (middlePlace + least - kind) count 1
      pure (least + low)
    else
      let high ← even 0 (count - 4)
      let low ← numberBackwards lowPlace 4 1
      pure (least + 16 * high + low)

/-- Which of the last distances is meant, and the memory with that one in front. -/
def older (m : Memory) : Reading Memory := do
  if (← decision (olderPlace 1 m.phase)) = 0 then
    pure { m with last := m.second, second := m.last }
  else if (← decision (olderPlace 2 m.phase)) = 0 then
    pure { m with last := m.third, second := m.last, third := m.second }
  else pure (m.withDistance m.fourth)

def copy (distance : Nat) : Nat → Reading Unit
  | 0 => pure ()
  | n + 1 => do
    emit (← earlier distance)
    copy distance n

/-- What a symbol comes to: the memory behind it, or nothing at the end of the stream. -/
abbrev Outcome := Option Memory

/-- A copy at a new distance; the greatest one of all marks the end. -/
def newCopy (form : Form) (m : Memory) (turn : Nat) : Reading Outcome := do
  let length ← length (lengthPlace false) turn
  let distance ← distance length
  if distance = 0xFFFFFFFF then
    refine
    if (← get).fraction ≠ 0 then throw .invalid
    pure none
  else if min (← get).size form.reach ≤ distance then throw .invalid
  else
    copy distance length
    pure (some ((m.inPhase 7 10).withDistance distance))

/-- A copy at one of the last distances. -/
def repeatedCopy (m : Memory) (turn : Nat) : Reading Outcome := do
  if (← get).size = 0 then throw .invalid
  if (← decision (olderPlace 0 m.phase)) = 0 then
    if (← decision (longPlace m.phase turn)) = 0 then
      copy m.last 1
      pure (some (m.inPhase 9 11))
    else
      let length ← length (lengthPlace true) turn
      copy m.last length
      pure (some (m.inPhase 8 11))
  else
    let chosen ← older m
    let length ← length (lengthPlace true) turn
    copy chosen.last length
    pure (some (chosen.inPhase 8 11))

def symbol (form : Form) (m : Memory) : Reading Outcome := do
  let turn := (← get).size % Nat.pow 2 form.turns
  if (← decision (copyPlace m.phase turn)) = 0 then
    let b ← byte form m
    emit b
    pure (some m.behindByte)
  else if (← decision (repeatPlace m.phase)) = 0 then newCopy form m turn
  else repeatedCopy m turn

/-- Reads symbols up to the end of the stream. -/
def symbols (form : Form) : Nat → Memory → Reading Unit
  | 0, _ => throw .short
  | fuel + 1, m => do
    match ← symbol form m with
    | some m => symbols form fuel m
    | none => pure ()

/-- The first figures of the fraction, behind a zero. -/
def firstFigures : Nat → Reading Unit
  | 0 => pure ()
  | n + 1 => do
    let s ← get
    match s.input with
    | [] => throw .short
    | b :: rest =>
      set { s with input := rest, fraction := (s.fraction <<< 8) ||| b.toUInt32 }
      firstFigures n

def stream (form : Form) : Reading Unit := do
  if (← get).input.headD 0 ≠ 0 then throw .invalid
  firstFigures 5
  -- A figure lasts for fewer than 400 decisions, since even the likely outcome narrows the range.
  symbols form (400 * ((← get).input.length + 1)) .start

/-- The bytes of a stream behind its header, as far as it goes. The header has two bytes of a
version, two for the length of the form, and the form.
-/
def unpack? (data : Bytes) : Option Bytes :=
  let formLength := (data.getD 2 0).toNat + 256 * (data.getD 3 0).toNat
  if data.length ≤ 4 + formLength then some []
  else do
    let form ← Form.ofBytes? ((data.drop 4).take formLength)
    let places := bytePlace + 768 * Nat.pow 2 (form.before + form.place)
    let odds := Array.replicate places (certain / 2)
    match (stream form).run.run ⟨data.drop (4 + formLength), 0xFFFFFFFF, 0, odds, [], 0⟩ with
    | (.error .invalid, _) => none
    | (_, s) => some s.out.reverse

end AppCatalog.Lzma
