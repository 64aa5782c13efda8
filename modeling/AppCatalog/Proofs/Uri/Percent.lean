import AppCatalog.Proofs.Text.Bytes
import AppCatalog.Uri.Percent

/-!
# Escapes read back

A text that is written with escapes reads back as the text, if the percent sign is not among the
characters that are left as they are (`Percent.decode_append_encode`). Every byte that is escaped
becomes a percent sign and two digits, which are read as the byte again, and the bytes together are
the UTF-8 form of the text.
-/

namespace AppCatalog

open AppCatalog.Text

theorem Utf8.decodeReplacing_encode (cs : List Char) : decodeReplacing (encode cs) = cs := by
  induction cs with
  | nil => rw [encode, List.flatMap_nil, decodeReplacing]
  | cons c cs ih =>
      obtain ⟨lead, more, hb, hn⟩ := nextChar_encodeChar c (encode cs)
      rw [encode, List.flatMap_cons, ← encode, hb, List.cons_append, decodeReplacing_cons, hn, ih]
      rfl

theorem Utf8.encode_append (cs ds : List Char) : encode (cs ++ ds) = encode cs ++ encode ds :=
  List.flatMap_append

namespace Percent

variable {isSafe : Char → Bool} {cs : List Char}

theorem bytes_cons {c : Char} (h : c ≠ '%') (cs : List Char) :
    bytes (c :: cs) = Utf8.encodeChar c ++ bytes cs := by
  rw [bytes]
  intro a b ds hc
  exact absurd hc h

theorem bytes_append {front : List Char} (h : '%' ∉ front) (cs : List Char) :
    bytes (front ++ cs) = Utf8.encode front ++ bytes cs := by
  induction front with
  | nil => rfl
  | cons c front ih =>
      rw [List.mem_cons, not_or] at h
      rw [List.cons_append, bytes_cons (Ne.symm h.1), ih h.2, ← List.append_assoc]
      rfl

theorem bytes_escape (b : UInt8) (cs : List Char) : bytes (escape b ++ cs) = b :: bytes cs := by
  have hdigits : ∀ n < 256, hexValue? (hexDigit (n / 16 % 16)).toUpper = some (n / 16) ∧
      hexValue? (hexDigit (n % 16)).toUpper = some (n % 16) := by decide +kernel
  obtain ⟨hhigh, hlow⟩ := hdigits b.toNat b.toNat_lt
  have hvalue : b.toNat / 16 * 16 + b.toNat % 16 = b.toNat := by omega
  rw [escape, hexDigits, hexDigits, hexDigits, List.nil_append]
  simp only [List.map_cons, List.map_nil, List.cons_append, List.nil_append]
  rw [bytes, hhigh, hlow]
  simp only [hvalue, UInt8.ofNat_toNat]

theorem bytes_escapes (bs : Bytes) (cs : List Char) :
    bytes (bs.flatMap escape ++ cs) = bs ++ bytes cs := by
  induction bs with
  | nil => rfl
  | cons b bs ih => rw [List.flatMap_cons, List.append_assoc, bytes_escape, ih, List.cons_append]

/-- The bytes of a text with escapes are those of the text. -/
theorem bytes_encode (h : isSafe '%' = false) : bytes (encode isSafe cs) = Utf8.encode cs := by
  induction cs with
  | nil => rfl
  | cons c cs ih =>
      rw [encode, List.flatMap_cons, ← encode, Utf8.encode, List.flatMap_cons, ← Utf8.encode, ← ih]
      split
      · next hc =>
          have hne : c ≠ '%' := by
            rintro rfl
            rw [h, Bool.and_false] at hc
            cases hc
          exact bytes_cons hne _
      · exact bytes_escapes _ _

theorem mem_escape {b : UInt8} {c : Char} (h : c ∈ escape b) :
    c = '%' ∨ c.isAlphanum = true := by
  have hall : ∀ n < 256, ('%' :: (hexDigits 2 n).map Char.toUpper).all
      (fun c => c == '%' || c.isAlphanum) = true := by
    decide +kernel
  simpa using List.all_eq_true.1 (hall b.toNat b.toNat_lt) c h

theorem isAscii_of_mem_escape {b : UInt8} {c : Char} (h : c ∈ escape b) : isAscii c = true := by
  have hall : ∀ n < 256, ('%' :: (hexDigits 2 n).map Char.toUpper).all isAscii = true := by
    decide +kernel
  exact List.all_eq_true.1 (hall b.toNat b.toNat_lt) c h

theorem isAscii_of_mem_encode {c : Char} (h : c ∈ encode isSafe cs) : isAscii c = true := by
  obtain ⟨d, -, hd⟩ := List.mem_flatMap.1 h
  split at hd
  · next hs =>
      rw [List.mem_singleton.1 hd]
      exact (Bool.and_eq_true_iff.1 hs).1
  · obtain ⟨b, -, hb⟩ := List.mem_flatMap.1 hd
    exact isAscii_of_mem_escape hb

theorem decode_of_isAscii (h : ∀ c ∈ cs, isAscii c = true) :
    decode cs = Utf8.decodeReplacing (bytes cs) := by
  have hruns : ∀ ascii, decodeRuns ascii cs = Utf8.decodeReplacing (bytes (ascii ++ cs)) := by
    induction cs with
    | nil =>
        intro ascii
        rw [decodeRuns, List.append_nil]
    | cons c cs ih =>
        intro ascii
        obtain ⟨hc, hcs⟩ := List.forall_mem_cons.1 h
        rw [decodeRuns, if_pos hc, ih hcs, List.append_assoc]
        rfl
  exact hruns []

/-- What is written with escapes holds nothing but safe characters, percent signs, digits and
letters. -/
theorem mem_encode {c : Char} (h : c ∈ encode isSafe cs) :
    isSafe c = true ∨ c = '%' ∨ c.isAlphanum = true := by
  obtain ⟨d, -, hd⟩ := List.mem_flatMap.1 h
  split at hd
  · next hs =>
      rw [List.mem_singleton.1 hd]
      exact Or.inl (Bool.and_eq_true_iff.1 hs).2
  · obtain ⟨b, -, hb⟩ := List.mem_flatMap.1 hd
    exact Or.inr (mem_escape hb)

/-- A text with escapes reads back as the text, also behind plain characters. -/
theorem decode_append_encode {front : List Char} (hf : ∀ c ∈ front, isAscii c = true)
    (hp : '%' ∉ front) (h : isSafe '%' = false) (cs : List Char) :
    decode (front ++ encode isSafe cs) = front ++ cs := by
  rw [decode_of_isAscii, bytes_append hp, bytes_encode h, ← Utf8.encode_append,
    Utf8.decodeReplacing_encode]
  intro c hc
  exact (List.mem_append.1 hc).elim (hf c) isAscii_of_mem_encode

end Percent

end AppCatalog
