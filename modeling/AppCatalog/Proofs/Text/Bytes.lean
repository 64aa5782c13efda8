import AppCatalog.Text.Utf8
import AppCatalog.Text.Utf16

/-!
# Bytes read back

The bytes that a text is written in read back as the text: always in UTF-8 (`Utf8.decode?_encode`),
and in Latin-1 whenever there are bytes at all (`Latin1.decode_of_encode?`), which is when no code
point is beyond the first 256. Each length that a character can have in UTF-8 has its own lemma; they
all come down to the quotients and remainders of the code point.
-/

namespace AppCatalog

theorem toNat_byte {n : Nat} (h : n < 256) : (UInt8.ofNat n).toNat = n := by
  rw [UInt8.toNat_ofNat', Nat.mod_eq_of_lt h]

namespace Utf8

theorem admitsSecond_iff {a b : UInt8} :
    admitsSecond a b = true ↔ (0x80 ≤ b.toNat ∧ b.toNat ≤ 0xbf) ∧
      (a.toNat = 0xe0 → 0xa0 ≤ b.toNat) ∧ (a.toNat = 0xed → b.toNat ≤ 0x9f) ∧
      (a.toNat = 0xf0 → 0x90 ≤ b.toNat) ∧ (a.toNat = 0xf4 → b.toNat ≤ 0x8f) := by
  simp only [admitsSecond, isContinuation, Bool.and_eq_true, Bool.or_eq_true, bne_iff_ne,
    decide_eq_true_eq, ne_eq, and_assoc]
  grind

theorem isContinuation_iff {b : UInt8} :
    isContinuation b = true ↔ 0x80 ≤ b.toNat ∧ b.toNat ≤ 0xbf := by
  rw [isContinuation, Bool.and_eq_true, decide_eq_true_eq, decide_eq_true_eq]

theorem isContinuation_ofNat {n : Nat} (h : n < 64) :
    isContinuation (.ofNat (0x80 + n)) = true := by
  rw [isContinuation_iff, toNat_byte (by omega)]
  omega

/-- A byte that leads more than one. -/
theorem leads_iff {n : Nat} :
    ¬ (decide (n < 0xc2) || decide (0xf4 < n)) = true ↔ 0xc2 ≤ n ∧ n ≤ 0xf4 := by
  simp only [Bool.or_eq_true, decide_eq_true_eq]
  omega

section NextChar

variable {c : Char} (rest : Bytes)

theorem nextChar_two (h : 0x80 ≤ c.toNat) (h' : c.toNat < 0x800) :
    nextChar (.ofNat (0xc0 + c.toNat / 64)) (.ofNat (0x80 + c.toNat % 64) :: rest) =
      (some c, rest) := by
  have ha := toNat_byte (n := 0xc0 + c.toNat / 64) (by omega)
  have hb := toNat_byte (n := 0x80 + c.toNat % 64) (by omega)
  have hs : admitsSecond (.ofNat (0xc0 + c.toNat / 64)) (.ofNat (0x80 + c.toNat % 64)) = true := by
    rw [admitsSecond_iff, ha, hb]
    omega
  have hv : (0xc0 + c.toNat / 64 - 0xc0) * 64 + (0x80 + c.toNat % 64 - 0x80) = c.toNat := by
    omega
  simp only [nextChar, ha, hb, hs, hv, Char.ofNat_toNat]
  rw [if_neg (by omega), if_neg (leads_iff.2 (by omega)), if_neg (by decide), if_pos (by omega)]

theorem nextChar_three (h : 0x800 ≤ c.toNat) (h' : c.toNat < 0x10000) :
    nextChar (.ofNat (0xe0 + c.toNat / 4096)) (.ofNat (0x80 + c.toNat / 64 % 64) ::
      .ofNat (0x80 + c.toNat % 64) :: rest) = (some c, rest) := by
  -- The lead bytes 0xe0 and 0xed restrict the second byte; no character is a surrogate.
  have hc := Text.char_toNat_lt c
  have ha := toNat_byte (n := 0xe0 + c.toNat / 4096) (by omega)
  have hb := toNat_byte (n := 0x80 + c.toNat / 64 % 64) (by omega)
  have hd := toNat_byte (n := 0x80 + c.toNat % 64) (by omega)
  have hs : admitsSecond (.ofNat (0xe0 + c.toNat / 4096))
      (.ofNat (0x80 + c.toNat / 64 % 64)) = true := by
    rw [admitsSecond_iff, ha, hb]
    omega
  have ht := isContinuation_ofNat (n := c.toNat % 64) (by omega)
  have hv : (0xe0 + c.toNat / 4096 - 0xe0) * 4096 + (0x80 + c.toNat / 64 % 64 - 0x80) * 64 +
      (0x80 + c.toNat % 64 - 0x80) = c.toNat := by omega
  simp only [nextChar, ha, hb, hd, hs, ht, hv, Char.ofNat_toNat]
  rw [if_neg (by omega), if_neg (leads_iff.2 (by omega)), if_neg (by decide), if_neg (by omega),
    if_neg (by decide), if_pos (by omega)]

theorem nextChar_four (h : 0x10000 ≤ c.toNat) :
    nextChar (.ofNat (0xf0 + c.toNat / 262144)) (.ofNat (0x80 + c.toNat / 4096 % 64) ::
      .ofNat (0x80 + c.toNat / 64 % 64) :: .ofNat (0x80 + c.toNat % 64) :: rest) =
        (some c, rest) := by
  have hc := Text.char_toNat_lt c
  have ha := toNat_byte (n := 0xf0 + c.toNat / 262144) (by omega)
  have hb := toNat_byte (n := 0x80 + c.toNat / 4096 % 64) (by omega)
  have hd := toNat_byte (n := 0x80 + c.toNat / 64 % 64) (by omega)
  have he := toNat_byte (n := 0x80 + c.toNat % 64) (by omega)
  have hs : admitsSecond (.ofNat (0xf0 + c.toNat / 262144))
      (.ofNat (0x80 + c.toNat / 4096 % 64)) = true := by
    rw [admitsSecond_iff, ha, hb]
    omega
  have ht := isContinuation_ofNat (n := c.toNat / 64 % 64) (by omega)
  have hu := isContinuation_ofNat (n := c.toNat % 64) (by omega)
  have hv : (0xf0 + c.toNat / 262144 - 0xf0) * 262144 +
      (0x80 + c.toNat / 4096 % 64 - 0x80) * 4096 + (0x80 + c.toNat / 64 % 64 - 0x80) * 64 +
      (0x80 + c.toNat % 64 - 0x80) = c.toNat := by omega
  simp only [nextChar, ha, hb, hd, he, hs, ht, hu, hv, Char.ofNat_toNat]
  rw [if_neg (by omega), if_neg (leads_iff.2 (by omega)), if_neg (by decide), if_neg (by omega),
    if_neg (by decide), if_neg (by omega), if_neg (by decide)]

end NextChar

/-- The bytes of a character are read back as that character. -/
theorem nextChar_encodeChar (c : Char) (rest : Bytes) :
    ∃ lead more, encodeChar c = lead :: more ∧ nextChar lead (more ++ rest) = (some c, rest) := by
  unfold encodeChar
  by_cases h₁ : c.toNat < 0x80
  · refine ⟨.ofNat c.toNat, [], by simp only [if_pos h₁], ?_⟩
    have ha := toNat_byte (n := c.toNat) (by omega)
    simp only [nextChar, ha, if_pos h₁, List.nil_append, Char.ofNat_toNat]
  by_cases h₂ : c.toNat < 0x800
  · refine ⟨_, _, by simp only [if_neg h₁, if_pos h₂]; rfl, ?_⟩
    exact nextChar_two rest (by omega) h₂
  by_cases h₃ : c.toNat < 0x10000
  · refine ⟨_, _, by simp only [if_neg h₁, if_neg h₂, if_pos h₃]; rfl, ?_⟩
    exact nextChar_three rest (by omega) h₃
  · refine ⟨_, _, by simp only [if_neg h₁, if_neg h₂, if_neg h₃]; rfl, ?_⟩
    exact nextChar_four rest (by omega)

theorem decode?_encodeChar_append (c : Char) (rest : Bytes) :
    decode? (encodeChar c ++ rest) = (decode? rest).map (c :: ·) := by
  obtain ⟨lead, more, hb, hn⟩ := nextChar_encodeChar c rest
  rw [hb, List.cons_append, decode?_cons, hn]

/-- What `encode` writes reads back as the same text. -/
theorem decode?_encode (cs : List Char) : decode? (encode cs) = some cs := by
  induction cs with
  | nil => rw [encode, List.flatMap_nil, decode?]
  | cons c cs ih =>
      rw [encode, List.flatMap_cons, decode?_encodeChar_append]
      rw [encode] at ih
      rw [ih, Option.map_some]

end Utf8

namespace Latin1

theorem ofNat_toNat_ofNat {c : Char} (h : c.toNat ≤ 0xff) :
    Char.ofNat (UInt8.ofNat c.toNat).toNat = c := by
  rw [toNat_byte (by omega), Char.ofNat_toNat]

/-- The bytes of a text read back as the text. -/
theorem decode_of_encode? {cs : List Char} {bs : Bytes} (h : encode? cs = some bs) :
    decode bs = cs := by
  induction cs generalizing bs with
  | nil =>
      cases h
      rfl
  | cons c cs ih =>
      rw [encode?, List.mapM_cons] at h
      obtain ⟨b, hb, h⟩ := Option.bind_eq_some_iff.1 h
      obtain ⟨bs', hbs, h⟩ := Option.bind_eq_some_iff.1 h
      cases h
      split at hb
      · next hc =>
          cases hb
          have hd : decode bs' = cs := ih hbs
          rw [decode, List.map_cons, ofNat_toNat_ofNat hc, ← decode, hd]
      · cases hb

/-- Text of the first 256 code points has bytes. -/
theorem exists_encode? {cs : List Char} (h : ∀ c ∈ cs, c.toNat ≤ 0xff) :
    ∃ bs, encode? cs = some bs := by
  induction cs with
  | nil => exact ⟨[], rfl⟩
  | cons c cs ih =>
      obtain ⟨bs, hb⟩ := ih fun d hd => h d (List.mem_cons_of_mem c hd)
      refine ⟨.ofNat c.toNat :: bs, ?_⟩
      rw [encode?] at hb ⊢
      rw [List.mapM_cons, if_pos (h c List.mem_cons_self), hb]
      rfl

theorem map_decode_encode? {cs : List Char} (h : ∀ c ∈ cs, c.toNat ≤ 0xff) :
    (encode? cs).map decode = some cs := by
  obtain ⟨bs, hb⟩ := exists_encode? h
  rw [hb, Option.map_some, decode_of_encode? hb]

end Latin1

end AppCatalog
