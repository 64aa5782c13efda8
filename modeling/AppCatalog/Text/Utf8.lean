/-!
# UTF-8

Bytes of a text and the text of bytes. `encode` writes each character in one to four bytes.
`nextChar` reads one character off the front of a run of bytes, or finds that it begins with a
longest piece that no character begins with; `decode?` refuses such a piece and `decodeReplacing`
shows one replacement character for it. The main statement is `decode?_encode`.
-/

namespace AppCatalog

/-- A run of bytes. -/
abbrev Bytes := List UInt8

namespace Utf8

def encodeChar (c : Char) : Bytes :=
  let n := c.toNat
  if n < 0x80 then [.ofNat n]
  else if n < 0x800 then [.ofNat (0xc0 + n / 64), .ofNat (0x80 + n % 64)]
  else if n < 0x10000 then
    [.ofNat (0xe0 + n / 4096), .ofNat (0x80 + n / 64 % 64), .ofNat (0x80 + n % 64)]
  else
    [.ofNat (0xf0 + n / 262144), .ofNat (0x80 + n / 4096 % 64), .ofNat (0x80 + n / 64 % 64),
      .ofNat (0x80 + n % 64)]

def encode (cs : List Char) : Bytes := cs.flatMap encodeChar

def ofString (s : String) : Bytes := encode s.toList

def isContinuation (b : UInt8) : Bool := 0x80 ≤ b.toNat && b.toNat ≤ 0xbf

/-- Whether a second byte may follow a lead byte: no overlong form, no surrogate, nothing beyond the
last code point. -/
def admitsSecond (lead second : UInt8) : Bool :=
  isContinuation second &&
    (lead.toNat != 0xe0 || 0xa0 ≤ second.toNat) && (lead.toNat != 0xed || second.toNat ≤ 0x9f) &&
    (lead.toNat != 0xf0 || 0x90 ≤ second.toNat) && (lead.toNat != 0xf4 || second.toNat ≤ 0x8f)

/-- The character that a lead byte and the bytes behind it begin with, and what follows it. Without
one, the longest run of bytes that some character could begin with is passed over. -/
def nextChar (lead : UInt8) (rest : Bytes) : Option Char × Bytes :=
  let n := lead.toNat
  if n < 0x80 then (some (Char.ofNat n), rest)
  else if n < 0xc2 || 0xf4 < n then (none, rest)
  else match rest with
    | [] => (none, [])
    | b :: rest₂ =>
      if !admitsSecond lead b then (none, rest)
      else if n < 0xe0 then (some (Char.ofNat ((n - 0xc0) * 64 + (b.toNat - 0x80))), rest₂)
      else match rest₂ with
        | [] => (none, [])
        | c :: rest₃ =>
          if !isContinuation c then (none, rest₂)
          else if n < 0xf0 then
            (some (Char.ofNat ((n - 0xe0) * 4096 + (b.toNat - 0x80) * 64 + (c.toNat - 0x80))), rest₃)
          else match rest₃ with
            | [] => (none, [])
            | d :: rest₄ =>
              if !isContinuation d then (none, rest₃)
              else (some (Char.ofNat ((n - 0xf0) * 262144 + (b.toNat - 0x80) * 4096 +
                (c.toNat - 0x80) * 64 + (d.toNat - 0x80))), rest₄)

/-- Reading a character leaves no more bytes than stood behind its lead byte. -/
theorem length_nextChar_le (lead : UInt8) (rest : Bytes) :
    (nextChar lead rest).2.length ≤ rest.length := by
  unfold nextChar
  simp only []
  repeat' split
  all_goals simp <;> omega

/-- The text of some bytes, or nothing if they are not UTF-8. -/
def decode? : Bytes → Option (List Char)
  | [] => some []
  | b :: bs =>
    have : (nextChar b bs).2.length < bs.length + 1 := Nat.lt_succ_of_le (length_nextChar_le b bs)
    match (nextChar b bs).1 with
    | none => none
    | some c => (decode? (nextChar b bs).2).map (c :: ·)
termination_by bs => bs.length

/-- The text of some bytes, with one replacement character for each piece that is not UTF-8. -/
def decodeReplacing : Bytes → List Char
  | [] => []
  | b :: bs =>
    have : (nextChar b bs).2.length < bs.length + 1 := Nat.lt_succ_of_le (length_nextChar_le b bs)
    (nextChar b bs).1.getD '\ufffd' :: decodeReplacing (nextChar b bs).2
termination_by bs => bs.length

theorem decode?_cons (b : UInt8) (bs : Bytes) :
    decode? (b :: bs) = match (nextChar b bs).1 with
      | none => none
      | some c => (decode? (nextChar b bs).2).map (c :: ·) := by
  rw [decode?]

theorem decodeReplacing_cons (b : UInt8) (bs : Bytes) :
    decodeReplacing (b :: bs) =
      (nextChar b bs).1.getD '\ufffd' :: decodeReplacing (nextChar b bs).2 := by
  rw [decodeReplacing]

end Utf8

/-- The text whose characters have the bytes as code points. -/
def Latin1.decode (bs : Bytes) : List Char := bs.map fun b => Char.ofNat b.toNat

/-- One byte per character, or nothing if a code point is beyond the first 256. -/
def Latin1.encode? (cs : List Char) : Option Bytes :=
  cs.mapM fun c => if c.toNat ≤ 0xff then some (UInt8.ofNat c.toNat) else none

end AppCatalog
