/-!
# UTF-16 code units

A character is one code unit, or two surrogates when its code point is beyond the first plane.
`unitsOf` gives the units of a character and `decodeUnits` reads a run of units back, joining each
high surrogate with the low one behind it; a surrogate without its partner becomes the replacement
character. The main statement is `decodeUnits_toUnits`: what `unitsOf` writes reads back.
-/

namespace AppCatalog.Text

/-- The character shown in place of what cannot be decoded. -/
def replacement : Char := '\ufffd'

def unitsOf (c : Char) : List Nat :=
  if c.toNat < 0x10000 then [c.toNat]
  else [0xd800 + (c.toNat - 0x10000) / 0x400, 0xdc00 + (c.toNat - 0x10000) % 0x400]

def toUnits (cs : List Char) : List Nat := cs.flatMap unitsOf

theorem toUnits_append (cs ds : List Char) : toUnits (cs ++ ds) = toUnits cs ++ toUnits ds :=
  List.flatMap_append

theorem toUnits_singleton (c : Char) : toUnits [c] = unitsOf c := List.flatMap_singleton unitsOf c

/-- A unit that opens a surrogate pair. -/
def isHighSurrogate (u : Nat) : Bool := 0xd800 ≤ u && u ≤ 0xdbff

/-- A unit that closes a surrogate pair. -/
def isLowSurrogate (u : Nat) : Bool := 0xdc00 ≤ u && u ≤ 0xdfff

def joinPair (high low : Nat) : Char :=
  Char.ofNat (0x10000 + (high - 0xd800) * 0x400 + (low - 0xdc00))

/-- The text of a run of code units; a surrogate without its partner is replaced. -/
def decodeUnits : List Nat → List Char
  | [] => []
  | [u] => [if isHighSurrogate u || isLowSurrogate u then replacement else Char.ofNat u]
  | u :: v :: us =>
    if isHighSurrogate u then
      if isLowSurrogate v then joinPair u v :: decodeUnits us
      else replacement :: decodeUnits (v :: us)
    else (if isLowSurrogate u then replacement else Char.ofNat u) :: decodeUnits (v :: us)

theorem char_toNat_lt (c : Char) : c.toNat < 0xd800 ∨ 0xdfff < c.toNat ∧ c.toNat < 0x110000 := by
  have h := c.valid
  simp only [UInt32.isValidChar, Nat.isValidChar] at h
  exact h

theorem joinPair_unitsOf {c : Char} (h : 0x10000 ≤ c.toNat) :
    joinPair (0xd800 + (c.toNat - 0x10000) / 0x400) (0xdc00 + (c.toNat - 0x10000) % 0x400) = c := by
  have : 0x10000 + (0xd800 + (c.toNat - 0x10000) / 0x400 - 0xd800) * 0x400 +
      (0xdc00 + (c.toNat - 0x10000) % 0x400 - 0xdc00) = c.toNat := by omega
  rw [joinPair, this, Char.ofNat_toNat]

theorem decodeUnits_unitsOf_append (c : Char) (us : List Nat) :
    decodeUnits (unitsOf c ++ us) = c :: decodeUnits us := by
  have hc := char_toNat_lt c
  by_cases h : c.toNat < 0x10000
  · have hh : isHighSurrogate c.toNat = false := by simp [isHighSurrogate]; omega
    have hl : isLowSurrogate c.toNat = false := by simp [isLowSurrogate]; omega
    cases us with
    | nil => simp [unitsOf, h, decodeUnits, hh, hl, Char.ofNat_toNat]
    | cons v us => simp [unitsOf, h, decodeUnits, hh, hl, Char.ofNat_toNat]
  · have hh : isHighSurrogate (0xd800 + (c.toNat - 0x10000) / 0x400) = true := by
      simp [isHighSurrogate]; omega
    have hl : isLowSurrogate (0xdc00 + (c.toNat - 0x10000) % 0x400) = true := by
      simp [isLowSurrogate]; omega
    simp [unitsOf, h, decodeUnits, hh, hl, joinPair_unitsOf (Nat.le_of_not_lt h)]

theorem decodeUnits_toUnits_append (cs : List Char) (us : List Nat) :
    decodeUnits (toUnits cs ++ us) = cs ++ decodeUnits us := by
  induction cs with
  | nil => rfl
  | cons c cs ih =>
    simp only [toUnits, List.flatMap_cons] at ih ⊢
    rw [List.append_assoc, decodeUnits_unitsOf_append, ih, List.cons_append]

/-- What `toUnits` writes reads back as the same text. -/
theorem decodeUnits_toUnits (cs : List Char) : decodeUnits (toUnits cs) = cs := by
  have happend := decodeUnits_toUnits_append cs []
  rwa [List.append_nil, decodeUnits, List.append_nil] at happend

end AppCatalog.Text
