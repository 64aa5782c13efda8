import AppCatalog.Proofs.Text.Integer
import AppCatalog.Text.Utf16
import Mathlib.Algebra.Group.Nat.Defs

/-!
# Code units in hexadecimal

A code unit has sixteen bits, hence four hexadecimal digits, and each digit has the value that it was
written for. Read as an integer, the digits of a number are the number again: nothing in them is a
sign, a blank, an underscore or the announcement of a base (`readInteger?_hexDigits`).
-/

namespace AppCatalog.Text

theorem hexValue?_hexDigit {n : Nat} (h : n < 16) : hexValue? (hexDigit n) = some n := by
  rw [hexValue?, digitValue?_hexDigit h, Option.filter_some, if_pos (decide_eq_true h)]

theorem hexValue?_hexDigit_mod (n : Nat) : hexValue? (hexDigit (n % 16)) = some (n % 16) :=
  hexValue?_hexDigit (Nat.mod_lt n (by decide))

theorem hexValue?_lt {c : Char} {n : Nat} (h : hexValue? c = some n) : n < 16 := by
  rw [hexValue?, Option.filter_eq_some_iff] at h
  simpa using h.2

theorem hexDigit_lt {n : Nat} (h : n < 16) : (hexDigit n).toNat < 127 := by
  have : ∀ m < 16, (hexDigit m).toNat < 127 := by decide
  exact this n h

/-- Four digits, most significant first. -/
theorem hexDigits_four (u : Nat) :
    hexDigits 4 u = [hexDigit (u / 4096 % 16), hexDigit (u / 256 % 16), hexDigit (u / 16 % 16),
      hexDigit (u % 16)] := by
  simp only [hexDigits, Nat.div_div_eq_div_mul, List.nil_append, List.cons_append]

/-- The four digits of a code unit make it up. -/
theorem value_hexDigits {u : Nat} (h : u < 0x10000) :
    ((u / 4096 % 16 * 16 + u / 256 % 16) * 16 + u / 16 % 16) * 16 + u % 16 = u := by
  omega

theorem mem_hexDigits {width u : Nat} {c : Char} (h : c ∈ hexDigits width u) :
    ∃ n < 16, c = hexDigit n := by
  induction width generalizing u with
  | zero => cases h
  | succ width ih =>
      rw [hexDigits, List.mem_append, List.mem_singleton] at h
      rcases h with h | h
      · exact ih h
      · exact ⟨u % 16, Nat.mod_lt u (by decide), h⟩

/-- The digits of a number that fits in them stand for it. -/
theorem hexNumber_hexDigits {width n : Nat} (h : n < 16 ^ width) :
    hexNumber (hexDigits width n) = n := by
  induction width generalizing n with
  | zero =>
      rw [Nat.pow_zero, Nat.lt_one_iff] at h
      rw [h]
      rfl
  | succ width ih =>
      rw [Nat.pow_succ] at h
      have hfront : hexNumber (hexDigits width (n / 16)) = n / 16 :=
        ih (Nat.div_lt_of_lt_mul (by omega))
      rw [hexNumber] at hfront
      rw [hexDigits, hexNumber, List.foldl_append, hfront, List.foldl_cons, List.foldl_nil,
        hexValue?_hexDigit_mod, Option.getD_some]
      omega

/-- Numbers that fit in the digits are told apart by them. -/
theorem hexDigits_inj {width n m : Nat} (hn : n < 16 ^ width) (hm : m < 16 ^ width)
    (h : hexDigits width n = hexDigits width m) : n = m := by
  rw [← hexNumber_hexDigits hn, h, hexNumber_hexDigits hm]

theorem unitsOf_lt {c : Char} {u : Nat} (h : u ∈ unitsOf c) : u < 0x10000 := by
  have hc := char_toNat_lt c
  rw [unitsOf] at h
  split at h
  · rw [List.mem_singleton] at h
    omega
  · rw [List.mem_cons, List.mem_singleton] at h
    omega

/-- A character beyond the first 256 has no code unit among them. -/
theorem le_of_mem_unitsOf {c : Char} {u : Nat} (hc : 0xff < c.toNat) (h : u ∈ unitsOf c) :
    0x100 ≤ u := by
  rw [unitsOf] at h
  split at h
  · rw [List.mem_singleton] at h
    omega
  · rw [List.mem_cons, List.mem_singleton] at h
    omega

/-! ## Reading the digits -/

/-- The digits of a number are read as the number. -/
theorem readInteger?_hexDigits {width n : Nat} (hw : width ≠ 0) (h : n < 16 ^ width) :
    readInteger? 16 (hexDigits width n) = some (n : Int) := by
  have hne : hexDigits width n ≠ [] := by
    rwa [ne_eq, ← List.length_eq_zero_iff, length_hexDigits]
  rw [readInteger?_hexCharacters hne, hexNumber_hexDigits h]
  intro c hc
  obtain ⟨d, hd, rfl⟩ := mem_hexDigits hc
  exact isSome_hexValue?_iff.1 (by rw [hexValue?_hexDigit hd]; rfl)

end AppCatalog.Text
