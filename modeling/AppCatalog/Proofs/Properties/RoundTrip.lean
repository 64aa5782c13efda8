import AppCatalog.Proofs.Assoc
import AppCatalog.Proofs.Properties.Written
import AppCatalog.Proofs.Text.Bytes
import AppCatalog.Proofs.Text.Surrogate

/-!
# Listings read back

What is written of a listing reads back as the listing exactly if the listing is readable
(`Listing.parse_format_iff`). The reader ends lines and keys, and begins values, at some characters
that are written as they are; `Readable` says that none of them stands where it would. Nothing else
is lost: a listing that is written is always in the first 256 characters, so that it can be sent in
Latin-1.
-/

namespace AppCatalog

open AppCatalog.Text

namespace Properties

/-- No character of an entry is taken for the end of a line, for a blank in the key, or for a blank in
front of the value. -/
structure Readable (key value : List Char) : Prop where
  lineEnds : ∀ c ∈ key ++ value, c ∉ bareLineEnds
  blanks : ∀ c ∈ key, c ∉ bareBlanks
  lead : ∀ c ∈ value.head?, c ∉ bareBlanks

/-! ## What is read of written text -/

theorem splitKey_plain {c : Char} (hb : c ≠ '\\') (hc : (isSeparator c || isBlank c) = false)
    (cs : List Char) : splitKey (c :: cs) = (c :: (splitKey cs).1, (splitKey cs).2) := by
  rw [splitKey]
  · rw [hc, if_neg Bool.false_ne_true]
  · rintro _ _ rfl _
    exact hb rfl

theorem splitKey_cut {c : Char} (hb : c ≠ '\\') (hc : (isSeparator c || isBlank c) = true)
    (cs : List Char) : splitKey (c :: cs) = ([], c :: cs) := by
  rw [splitKey]
  · rw [if_pos hc]
  · rintro _ _ rfl _
    exact hb rfl

theorem splitKey_escaped (c : Char) (cs : List Char) :
    splitKey ('\\' :: c :: cs) = ('\\' :: c :: (splitKey cs).1, (splitKey cs).2) := by
  rw [splitKey]

/-- A token that is no separator and no blank belongs to the key. -/
theorem Token.splitKey {t : List Char} (h : Token t)
    (hcut : ∀ c, t = [c] → (isSeparator c || isBlank c) = false) (cs : List Char) :
    splitKey (t ++ cs) = (t ++ (splitKey cs).1, (splitKey cs).2) := by
  cases h with
  | plain hl hb => exact splitKey_plain hb (hcut _ rfl) cs
  | mark hd => exact splitKey_escaped _ cs
  | @unit u hu hu' =>
      have hplain : ∀ n < 16, hexDigit n ≠ '\\' ∧
          (isSeparator (hexDigit n) || isBlank (hexDigit n)) = false := by decide
      have hdigit : ∀ n, hexDigit (n % 16) ≠ '\\' ∧
          (isSeparator (hexDigit (n % 16)) || isBlank (hexDigit (n % 16))) = false :=
        fun n => hplain _ (Nat.mod_lt n (by decide))
      rw [hexDigits_four]
      simp only [List.cons_append, List.nil_append, splitKey_escaped]
      rw [splitKey_plain (hdigit _).1 (hdigit _).2, splitKey_plain (hdigit _).1 (hdigit _).2,
        splitKey_plain (hdigit _).1 (hdigit _).2, splitKey_plain (hdigit _).1 (hdigit _).2]

/-- The key of written text and the rest are written text, and there is no blank in the key. -/
theorem Written.splitKey {cs : List Char} (h : Written cs) :
    Written (splitKey cs).1 ∧ Written (splitKey cs).2 ∧ ∀ c ∈ (splitKey cs).1, c ∉ bareBlanks := by
  induction h with
  | nil => exact ⟨.nil, .nil, fun c hc => absurd hc List.not_mem_nil⟩
  | @token t cs ht h ih =>
      by_cases hcut : ∀ c, t = [c] → (isSeparator c || isBlank c) = false
      · obtain ⟨hkey, hrest, hblank⟩ := ih
        rw [ht.splitKey hcut]
        refine ⟨.token ht hkey, hrest, ?_⟩
        intro c hc
        rcases List.mem_append.1 hc with hc | hc
        · rcases (ht.mem hc).2 with he | he
          · exact notMem_bareBlanks (Bool.or_eq_false_iff.1 (hcut c he)).2
          · exact he.2
        · exact hblank c hc
      · push Not at hcut
        obtain ⟨c, rfl, hc⟩ := hcut
        rw [Bool.ne_false_iff] at hc
        have hb : c ≠ '\\' := by
          rintro rfl
          exact absurd hc (by decide)
        rw [List.singleton_append, splitKey_cut hb hc]
        exact ⟨.nil, .token ht h, fun c hc => absurd hc List.not_mem_nil⟩

theorem Written.tail {c : Char} {cs : List Char} (h : Written (c :: cs)) (hc : c ≠ '\\') :
    Written cs := by
  generalize he : c :: cs = ds at h
  cases h with
  | nil => cases he
  | token ht h =>
      cases ht with
      | plain hl hb =>
          cases he
          exact h
      | mark hd =>
          cases he
          exact absurd rfl hc
      | unit hu hu' =>
          cases he
          exact absurd rfl hc

/-- The value of written text is written text, and does not begin with a blank. -/
theorem Written.valuePart {cs : List Char} (h : Written cs) :
    Written (valuePart cs) ∧ (∀ c ∈ valuePart cs, c ∈ cs) ∧
      ∀ c ∈ (valuePart cs).head?, isBlank c = false := by
  have hhead : ∀ ds : List Char, ∀ c ∈ (Text.trimStart ds).head?, isBlank c = false := by
    intro ds c hc
    obtain ⟨r, hr⟩ := List.head?_eq_some_iff.1 hc
    exact isBlank_head_trimStart hr
  have hsub : ∀ ds : List Char, ∀ c ∈ Text.trimStart ds, c ∈ ds :=
    fun ds c hc => (List.dropWhile_sublist _).subset hc
  have ht := h.trimStart
  have hs := hsub cs
  have hb := hhead cs
  rw [Properties.valuePart]
  generalize Text.trimStart cs = ds at ht hs hb
  rcases ds with _ | ⟨c, r⟩
  · exact ⟨.nil, fun c hc => absurd hc List.not_mem_nil, fun c hc => by cases hc⟩
  · simp only
    by_cases hsep : isSeparator c = true
    · have hc : c ≠ '\\' := by
        rintro rfl
        exact absurd hsep (by decide)
      rw [if_pos hsep]
      exact ⟨(ht.tail hc).trimStart, fun d hd => hs d (List.mem_cons_of_mem c (hsub r d hd)),
        hhead r⟩
    · rw [if_neg hsep]
      exact ⟨ht, hs, hb⟩

/-- Where a unit comes from that is read of a token. -/
def OfToken (t : List Char) (u : Nat) : Prop :=
  0x100 ≤ u ∨ (∃ d ∈ marks, u = (escaped d).toNat) ∨ ∃ c, t = [c] ∧ u = c.toNat

/-- Each token is read as one code unit. -/
theorem Token.unescapeUnits {t : List Char} (h : Token t) :
    ∃ u < 0x10000, OfToken t u ∧ ∀ cs, unescapeUnits (t ++ cs) = u :: unescapeUnits cs := by
  have hone : ∀ c : Char, c.toNat ≤ 0xff → unitsOf c = [c.toNat] := by
    intro c hc
    rw [unitsOf, if_pos (by omega)]
  cases h with
  | @plain c hl hb =>
      refine ⟨c.toNat, by omega, Or.inr (Or.inr ⟨c, rfl, rfl⟩), ?_⟩
      intro cs
      rw [List.singleton_append, unescapeUnits_plain hb, hone c hl, List.singleton_append]
  | @mark d hd =>
      have hl : ∀ e ∈ marks, (escaped e).toNat ≤ 0xff := by simp [marks, escaped]
      refine ⟨(escaped d).toNat, by have := hl d hd; omega, Or.inr (Or.inl ⟨d, hd, rfl⟩), ?_⟩
      intro cs
      rw [List.cons_append, List.singleton_append, unescapeUnits_mark hd, hone _ (hl d hd),
        List.singleton_append]
  | @unit u hu hu' => exact ⟨u, hu', Or.inl hu, unescapeUnits_unit hu'⟩

theorem Written.unescapeUnits {cs : List Char} (h : Written cs) :
    ∀ u ∈ unescapeUnits cs, u < 0x10000 ∧ ∃ t, OfToken t u ∧ t ⊆ cs := by
  induction h with
  | nil =>
      intro u hu
      cases hu
  | @token t cs ht _ ih =>
      obtain ⟨v, hv, htoken, hread⟩ := ht.unescapeUnits
      intro u hu
      rw [hread, List.mem_cons] at hu
      rcases hu with rfl | hu
      · exact ⟨hv, t, htoken, List.subset_append_left t cs⟩
      · obtain ⟨hlt, s, hs, hsub⟩ := ih u hu
        exact ⟨hlt, s, hs, List.subset_append_of_subset_right t hsub⟩

/-- Characters that only stand for themselves: no escape is read as one of them. -/
structure Bare (bad : List Char) : Prop where
  low : ∀ b ∈ bad, b.toNat < 0x100
  unmarked : ∀ d ∈ marks, escaped d ∉ bad

theorem bare_lineEnds : Bare bareLineEnds := by
  constructor
  · simp [bareLineEnds]
  · simp [marks, escaped, bareLineEnds]

theorem bare_blanks : Bare bareBlanks := by
  constructor
  · simp [bareBlanks]
  · simp [marks, escaped, bareBlanks]

theorem OfToken.notMem {t : List Char} {c : Char} (h : 0x100 ≤ c.toNat ∨ OfToken t c.toNat)
    {bad : List Char} (hb : Bare bad) (ht : ∀ b ∈ t, b ∉ bad) : c ∉ bad := by
  intro hc
  rcases h with h | h | ⟨d, hd, h⟩ | ⟨b, rfl, h⟩
  · exact absurd (hb.low c hc) (Nat.not_lt.2 h)
  · exact absurd (hb.low c hc) (Nat.not_lt.2 h)
  · exact hb.unmarked d hd (Char.toNat_inj.1 h ▸ hc)
  · exact ht b List.mem_cons_self (Char.toNat_inj.1 h ▸ hc)

/-- What is read of written text that has none of some characters has none of them. -/
theorem Written.unescape_notMem {cs : List Char} (h : Written cs) {bad : List Char}
    (hbad : Bare bad) (hcs : ∀ c ∈ cs, c ∉ bad) : ∀ c ∈ unescape cs, c ∉ bad := by
  intro c hc
  rcases (joins_decodeUnits fun u hu => (h.unescapeUnits u hu).1).mem c hc with hc | hc
  · exact OfToken.notMem (Or.inl hc : _ ∨ OfToken [] _) hbad fun b hb => by cases hb
  · obtain ⟨-, t, ht, hsub⟩ := h.unescapeUnits _ hc
    exact OfToken.notMem (Or.inr ht) hbad fun b hb => hcs b (hsub hb)

/-- What is read of written text does not begin with a bare blank unless the text does. -/
theorem Written.unescape_head {cs : List Char} (h : Written cs)
    (hcs : ∀ c ∈ cs.head?, c ∉ bareBlanks) : ∀ c ∈ (unescape cs).head?, c ∉ bareBlanks := by
  intro c hc
  have hhead := (joins_decodeUnits fun u hu => (h.unescapeUnits u hu).1).head c hc
  cases h with
  | nil => cases hc
  | @token t cs ht h =>
      obtain ⟨u, -, htoken, hread⟩ := ht.unescapeUnits
      rw [hread, List.head?_cons, Option.some.injEq] at hhead
      refine OfToken.notMem (hhead.imp_right fun he => he ▸ htoken) bare_blanks ?_
      intro b hb
      rcases (ht.mem hb).2 with rfl | hb
      · exact hcs b rfl
      · exact hb.2

theorem Written.readable_entry {line : List Char} (h : Written line)
    (hn : ∀ c ∈ line, isLineEnd c = false) : Readable (entry line).1 (entry line).2 := by
  obtain ⟨hkey, hrest, hblank⟩ := h.splitKey
  obtain ⟨hvalue, hsub, hlead⟩ := hrest.valuePart
  have happend := splitKey_append line
  have hends : ∀ c ∈ line, c ∉ bareLineEnds := fun c hc => notMem_bareLineEnds (hn c hc)
  refine ⟨?_, ?_, ?_⟩
  · intro c hc
    rcases List.mem_append.1 hc with hc | hc
    · refine hkey.unescape_notMem bare_lineEnds (fun b hb => hends b ?_) c hc
      rw [← happend]
      exact List.mem_append_left _ hb
    · refine hvalue.unescape_notMem bare_lineEnds (fun b hb => hends b ?_) c hc
      rw [← happend]
      exact List.mem_append_right _ (hsub b hb)
  · exact hkey.unescape_notMem bare_blanks hblank
  · exact hvalue.unescape_head fun c hc => notMem_bareBlanks (hlead c hc)

/-! ## What is written of readable entries -/

theorem escapeChar_not_lineEnd {guarded : Bool} {c : Char} (hc : c ∉ bareLineEnds) :
    ∀ d ∈ escapeChar guarded c, isLineEnd d = false := by
  rcases escapeChar_cases guarded c with ⟨he, hcontrol, hl, -⟩ | ⟨e, hm, he, -⟩ | ⟨he, hl⟩
  · intro d hd
    rw [he, List.mem_singleton] at hd
    subst hd
    rw [← Bool.not_eq_true, isLineEnd_iff hl hcontrol]
    exact hc
  · intro d hd
    rw [he] at hd
    rcases ((Token.mark hm).mem hd).2 with h | h
    · cases h
    · exact h.1
  · intro d hd
    rw [he, unitEscape, List.mem_flatMap] at hd
    obtain ⟨u, hu, hd⟩ := hd
    rcases ((Token.unit (le_of_mem_unitsOf hl hu) (unitsOf_lt hu)).mem hd).2 with h | h
    · cases h
    · exact h.1

theorem splitKey_units {us : List Nat} (h : ∀ u ∈ us, 0x100 ≤ u ∧ u < 0x10000) (cs : List Char) :
    splitKey ((us.flatMap fun u => '\\' :: 'u' :: hexDigits 4 u) ++ cs) =
      ((us.flatMap fun u => '\\' :: 'u' :: hexDigits 4 u) ++ (splitKey cs).1,
        (splitKey cs).2) := by
  induction us with
  | nil => rfl
  | cons u us ih =>
      obtain ⟨hu, hu'⟩ := h u List.mem_cons_self
      rw [List.flatMap_cons, List.append_assoc, (Token.unit hu hu').splitKey,
        ih fun v hv => h v (List.mem_cons_of_mem u hv), List.append_assoc]
      intro d hd
      cases hd

/-- A guarded character is written so that it begins neither with a blank nor with a separator or a
comment mark, and belongs to the key that it is written in. -/
theorem escapeChar_guarded {c : Char} (hc : c ∉ bareLineEnds) (hb : c ∉ bareBlanks) :
    (∃ d r, escapeChar true c = d :: r ∧ isBlank d = false ∧ isSeparator d = false ∧
      (d == '#' || d == '!') = false) ∧
      ∀ cs, splitKey (escapeChar true c ++ cs) =
        (escapeChar true c ++ (splitKey cs).1, (splitKey cs).2) := by
  rcases escapeChar_cases true c with ⟨he, hcontrol, hl, hguard⟩ | ⟨e, hm, he, -⟩ | ⟨he, hl⟩
  · have hg := hguard rfl
    have hblank : isBlank c = false := by
      rw [← Bool.not_eq_true, isBlank_iff hl hcontrol]
      rintro (rfl | h | h)
      · exact hg (by decide)
      · exact hc h
      · exact hb h
    simp only [guards, List.mem_cons, List.not_mem_nil, or_false, not_or] at hg
    have hslash : c ≠ '\\' := by
      rintro rfl
      exact hcontrol (by decide)
    rw [he]
    refine ⟨⟨c, [], rfl, hblank, ?_, ?_⟩, ?_⟩
    · simp [isSeparator, hg]
    · simp [hg]
    · intro cs
      exact (Token.plain hl hslash).splitKey (fun d hd => by
        cases hd
        simp [isSeparator, hg, hblank]) cs
  · rw [he]
    refine ⟨⟨'\\', [e], rfl, by decide, by decide, by decide⟩, ?_⟩
    intro cs
    exact splitKey_escaped e cs
  · have hne : unitsOf c ≠ [] := by
      rw [unitsOf]
      split <;> exact List.cons_ne_nil _ _
    rw [he, unitEscape]
    refine ⟨?_, splitKey_units fun u hu => ⟨le_of_mem_unitsOf hl hu, unitsOf_lt hu⟩⟩
    obtain ⟨u, us, hus⟩ := List.exists_cons_of_ne_nil hne
    rw [hus, List.flatMap_cons]
    exact ⟨'\\', _, rfl, by decide, by decide, by decide⟩

/-- A key is cut out of a line in front of whatever cuts a line. -/
theorem splitKey_escapeKey {key : List Char} (hl : ∀ c ∈ key, c ∉ bareLineEnds)
    (hb : ∀ c ∈ key, c ∉ bareBlanks) {rest : List Char} (hr : splitKey rest = ([], rest)) :
    splitKey (escapeKey key ++ rest) = (escapeKey key, rest) := by
  induction key with
  | nil => exact hr
  | cons c key ih =>
      have hc := escapeChar_guarded (hl c List.mem_cons_self) (hb c List.mem_cons_self)
      rw [escapeKey, List.flatMap_cons, List.append_assoc, hc.2, ← escapeKey,
        ih (fun d hd => hl d (List.mem_cons_of_mem c hd))
          fun d hd => hb d (List.mem_cons_of_mem c hd)]

/-- A value is written so that it begins neither with a blank nor with a separator. -/
theorem head_escapeValue {value : List Char} (hl : ∀ c ∈ value, c ∉ bareLineEnds)
    (hb : ∀ c ∈ value.head?, c ∉ bareBlanks) :
    ∀ d ∈ (escapeValue value).head?, isBlank d = false ∧ isSeparator d = false := by
  cases value with
  | nil => exact fun d hd => by cases hd
  | cons c cs =>
      obtain ⟨⟨d, r, he, hd, hs, -⟩, -⟩ :=
        escapeChar_guarded (hl c List.mem_cons_self) (hb c rfl)
      rw [escapeValue, he, List.cons_append]
      intro e hde
      cases hde
      exact ⟨hd, hs⟩

section Readable

variable {key value : List Char} (h : Readable key value)
include h

theorem splitKey_readable {rest : List Char} (hr : splitKey rest = ([], rest)) :
    splitKey (escapeKey key ++ rest) = (escapeKey key, rest) :=
  splitKey_escapeKey (fun c hc => h.lineEnds c (List.mem_append_left value hc)) h.blanks hr

theorem head_readable :
    ∀ d ∈ (escapeValue value).head?, isBlank d = false ∧ isSeparator d = false :=
  head_escapeValue (fun c hc => h.lineEnds c (List.mem_append_right key hc)) h.lead

/-- The line of a readable entry is read as the entry. -/
theorem entry_lineOf : entry (lineOf key value) = (key, value) := by
  have hcut : splitKey ('=' :: escapeValue value) = ([], '=' :: escapeValue value) :=
    splitKey_cut (by decide) (by decide) _
  have hvalue : valuePart ('=' :: escapeValue value) = escapeValue value := by
    rw [valuePart, trimStart_cons_of_not_blank (by decide)]
    exact trimStart_eq_self fun d hd => (head_readable h d hd).1
  rw [entry, lineOf, splitKey_readable h hcut]
  simp only [hvalue, unescape_escapeKey, unescape_escapeValue]

theorem lineOf_not_lineEnd : ∀ c ∈ lineOf key value, isLineEnd c = false := by
  have hflat : ∀ (guarded : Bool) (cs : List Char), cs ⊆ key ++ value →
      ∀ c ∈ cs.flatMap (escapeChar guarded), isLineEnd c = false := by
    intro guarded cs hcs c hc
    obtain ⟨d, hd, hc⟩ := List.mem_flatMap.1 hc
    exact escapeChar_not_lineEnd (h.lineEnds d (hcs hd)) c hc
  intro c hc
  rcases List.mem_append.1 hc with hc | hc
  · exact hflat true key (List.subset_append_left key value) c hc
  · rcases List.mem_cons.1 hc with rfl | hc
    · decide
    · cases value with
      | nil => cases hc
      | cons d ds =>
          rcases List.mem_append.1 hc with hc | hc
          · exact escapeChar_not_lineEnd (h.lineEnds d (by simp)) c hc
          · refine hflat false ds ?_ c hc
            intro e he
            exact List.mem_append_right key (List.mem_cons_of_mem d he)

/-- What begins with a readable key is neither trimmed nor skipped. -/
theorem escapeKey_kept (hk : key ≠ []) (rest : List Char) :
    trimStart (escapeKey key ++ rest) = escapeKey key ++ rest ∧
      isSkipped (escapeKey key ++ rest) = false := by
  obtain ⟨c, cs, rfl⟩ := List.exists_cons_of_ne_nil hk
  obtain ⟨⟨d, r, he, hd, -, hcomment⟩, -⟩ :=
    escapeChar_guarded (h.lineEnds c (by simp)) (h.blanks c List.mem_cons_self)
  rw [escapeKey, List.flatMap_cons, he, List.cons_append, List.cons_append]
  exact ⟨trimStart_cons_of_not_blank hd _, hcomment⟩

/-- The line of a readable entry is neither trimmed nor skipped. -/
theorem lineOf_kept :
    trimStart (lineOf key value) = lineOf key value ∧ isSkipped (lineOf key value) = false := by
  by_cases hk : key = []
  · subst hk
    exact ⟨trimStart_cons_of_not_blank (by decide) _, rfl⟩
  · exact escapeKey_kept h hk _

end Readable

end Properties

namespace Listing

open AppCatalog.Properties

/-- Every entry of a listing is readable. -/
def IsReadable (m : Listing) : Prop := ∀ e ∈ m, Readable e.1 e.2

theorem nodup_keys_parse (text : List Char) : (Assoc.keys (parse text)).Nodup :=
  Assoc.nodup_keys_ofPairs _

/-- What is read of written text is readable, whatever was written. -/
theorem isReadable_parse_of_written {text : List Char} (h : Written text) :
    IsReadable (parse text) := by
  intro e he
  obtain ⟨line, hl, rfl⟩ := List.mem_map.1 (Assoc.mem_of_mem_ofPairs he)
  obtain ⟨hw, hn⟩ := h.logicalLines hl
  exact hw.readable_entry hn

theorem lines_format {m : Listing} (h : m.IsReadable) :
    lines m.format = m.map fun e => lineOf e.1 e.2 := by
  induction m with
  | nil => rfl
  | cons e m ih =>
      have he := lineOf_not_lineEnd (h e List.mem_cons_self)
      have hm := ih fun e' he' => h e' (List.mem_cons_of_mem e he')
      rw [format] at hm ⊢
      rw [List.flatMap_cons, List.append_assoc, List.singleton_append, lines_line he, hm,
        List.map_cons]

/-- The lines of a readable listing are read as its entries. -/
theorem entries_format {m : Listing} (h : m.IsReadable) : entries m.format = m := by
  have hkept : ∀ l ∈ m.map fun e => lineOf e.1 e.2, trimStart l = l ∧ isSkipped l = false := by
    intro l hl
    obtain ⟨e, he, rfl⟩ := List.mem_map.1 hl
    exact lineOf_kept (h e he)
  have hlogical : logicalLines m.format = m.map fun e => lineOf e.1 e.2 := by
    rw [logicalLines, joinLines_eq_filter, lines_format h]
    · rw [List.map_congr_left fun l hl => (hkept l hl).1, List.map_id']
      refine List.filter_eq_self.2 ?_
      intro l hl
      rw [(hkept l hl).2]
      rfl
    · intro l hl
      exact ((written_format m).lines l hl).1.trimStart.goesOn_eq_false
  rw [entries, hlogical, List.map_map]
  refine (List.map_congr_left ?_).trans (List.map_id m)
  intro e he
  exact entry_lineOf (h e he)

theorem parse_format_of_isReadable {m : Listing} (h : (Assoc.keys m).Nodup) (hr : m.IsReadable) :
    parse m.format = m := by
  rw [parse, entries_format hr, Assoc.ofPairs_eq_self h]

/-- What is written of a listing keeps to the first 256 characters, so that sending it in Latin-1
changes nothing, and it reads back as the listing, entry by entry in the same order, exactly if every
entry is readable. -/
theorem parse_format_iff {m : Listing} (h : (Assoc.keys m).Nodup) :
    (∀ c ∈ m.format, c.toNat ≤ 0xff) ∧
    (Latin1.encode? m.format).map Latin1.decode = some m.format ∧
    (parse m.format = m ↔
      (∀ e ∈ m, ∀ c ∈ e.1 ++ e.2, c ∉ ['\x0b', '\x0c', '\x1c', '\x1d', '\x1e', '\x85']) ∧
      (∀ e ∈ m, ∀ c ∈ e.1, c ∉ ['\x1f', '\xa0']) ∧
      ∀ e ∈ m, ∀ c ∈ e.2.head?, c ∉ ['\x1f', '\xa0']) := by
  have hlatin := (written_format m).toNat_le
  refine ⟨hlatin, Latin1.map_decode_encode? hlatin, ?_⟩
  constructor
  · intro he
    have hr := isReadable_parse_of_written (written_format m)
    rw [he] at hr
    exact ⟨fun e he => (hr e he).lineEnds, fun e he => (hr e he).blanks,
      fun e he => (hr e he).lead⟩
  · rintro ⟨hends, hblanks, hlead⟩
    exact parse_format_of_isReadable h fun e he => ⟨hends e he, hblanks e he, hlead e he⟩

theorem parse_format_awkward :
    let m : Listing := [("a key=with:stuff".toList, "# = 漢😀".toList), ([], []),
      (" \\\\u0041".toList, "\\".toList), ("!\t\r\n".toList, " \xa0".toList)]
    (Assoc.keys m).Nodup ∧ parse m.format = m := by
  intro m
  have h : (Assoc.keys m).Nodup := by decide
  refine ⟨h, (parse_format_iff h).2.2.2 ⟨?_, ?_, ?_⟩⟩
  · simp [m, or_imp, forall_and]
  · simp [m]
  · simp [m]

end Listing

end AppCatalog
