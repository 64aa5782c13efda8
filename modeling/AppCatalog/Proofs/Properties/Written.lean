import AppCatalog.Proofs.Properties.Escape
import AppCatalog.Proofs.Text.Lines
import AppCatalog.Properties.Listing

/-!
# Written text

What `Listing.format` writes is a run of tokens: plain characters of the first 256, a backslash and a
mark, or a code unit. Each pass of the reader keeps to the tokens. A line of written text is written
text, for no token but a plain character holds a line end; it does not go on, for backslashes come in
pairs; what is left after trimming is written, and so are the key and the rest that it is cut into.
Hence no character that the reader makes of it is one of those that it would have cut at.
-/

namespace AppCatalog.Properties

open AppCatalog.Text

/-- The line ends that are written as they are. -/
def bareLineEnds : List Char := ['\x0b', '\x0c', '\x1c', '\x1d', '\x1e', '\x85']

/-- The blanks that are written as they are and end no line. -/
def bareBlanks : List Char := ['\x1f', '\xa0']

theorem isLineEnd_iff {c : Char} (hl : c.toNat ≤ 0xff) (hc : c ∉ controls) :
    isLineEnd c = true ↔ c ∈ bareLineEnds := by
  simp only [controls, isLineEnd, bareLineEnds, List.mem_cons, List.not_mem_nil, or_false,
    ← Char.toNat_inj, Char.reduceToNat, Bool.or_eq_true, Bool.and_eq_true, decide_eq_true_eq,
    beq_iff_eq] at hc ⊢
  omega

theorem isBlank_iff {c : Char} (hl : c.toNat ≤ 0xff) (hc : c ∉ controls) :
    isBlank c = true ↔ c = ' ' ∨ c ∈ bareLineEnds ∨ c ∈ bareBlanks := by
  simp only [controls, isBlank, bareLineEnds, bareBlanks, List.mem_cons, List.not_mem_nil,
    or_false, ← Char.toNat_inj, Char.reduceToNat, Bool.or_eq_true, Bool.and_eq_true,
    decide_eq_true_eq, beq_iff_eq] at hc ⊢
  omega

theorem notMem_bareLineEnds {c : Char} (h : isLineEnd c = false) : c ∉ bareLineEnds := by
  intro hc
  have hall : ∀ b ∈ bareLineEnds, isLineEnd b = true := by
    simp [bareLineEnds, isLineEnd]
  have hend := hall c hc
  rw [h] at hend
  cases hend

theorem notMem_bareBlanks {c : Char} (h : isBlank c = false) : c ∉ bareBlanks := by
  intro hc
  have hall : ∀ b ∈ bareBlanks, isBlank b = true := by
    simp [bareBlanks, isBlank]
  have hblank := hall c hc
  rw [h] at hblank
  cases hblank

theorem notMem_bareLineEnds_of_not_blank {c : Char} (h : isBlank c = false) :
    c ∉ bareLineEnds := by
  apply notMem_bareLineEnds
  rw [← Bool.not_eq_true]
  intro hend
  rw [isBlank_of_isLineEnd hend] at h
  cases h

/-! ## Tokens -/

/-- What is written of a character, or of one of its code units. -/
inductive Token : List Char → Prop
  | plain {c : Char} (hl : c.toNat ≤ 0xff) (hb : c ≠ '\\') : Token [c]
  | mark {d : Char} (hd : d ∈ marks) : Token ['\\', d]
  | unit {u : Nat} (hu : 0x100 ≤ u) (hu' : u < 0x10000) : Token ('\\' :: 'u' :: hexDigits 4 u)

/-- A run of tokens. -/
inductive Written : List Char → Prop
  | nil : Written []
  | token {t cs : List Char} (ht : Token t) (h : Written cs) : Written (t ++ cs)

theorem Token.written {t : List Char} (h : Token t) : Written t := by
  rw [← List.append_nil t]
  exact .token h .nil

theorem Written.append {cs ds : List Char} (h : Written cs) (h' : Written ds) :
    Written (cs ++ ds) := by
  induction h with
  | nil => exact h'
  | token ht _ ih =>
      rw [List.append_assoc]
      exact .token ht ih

theorem Written.flatMap {α : Type} {f : α → List Char} {xs : List α}
    (h : ∀ x ∈ xs, Written (f x)) : Written (xs.flatMap f) := by
  induction xs with
  | nil => exact .nil
  | cons x xs ih =>
      rw [List.flatMap_cons]
      exact (h x List.mem_cons_self).append (ih fun y hy => h y (List.mem_cons_of_mem x hy))

theorem written_escapeChar (guarded : Bool) (c : Char) : Written (escapeChar guarded c) := by
  rcases escapeChar_cases guarded c with ⟨he, hc, hl, -⟩ | ⟨d, hd, he, -⟩ | ⟨he, hl⟩
  · rw [he]
    refine (Token.plain hl ?_).written
    rintro rfl
    exact hc (by decide)
  · rw [he]
    exact (Token.mark hd).written
  · rw [he, unitEscape]
    apply Written.flatMap
    intro u hu
    exact (Token.unit (le_of_mem_unitsOf hl hu) (unitsOf_lt hu)).written

theorem written_escapeKey (key : List Char) : Written (escapeKey key) :=
  Written.flatMap fun c _ => written_escapeChar true c

theorem written_escapeValue (value : List Char) : Written (escapeValue value) := by
  cases value with
  | nil => exact .nil
  | cons c cs =>
      exact (written_escapeChar true c).append
        (Written.flatMap fun d _ => written_escapeChar false d)

theorem written_lineOf (key value : List Char) : Written (lineOf key value) :=
  (written_escapeKey key).append
    (.token (.plain (by decide) (by decide)) (written_escapeValue value))

/-- What is written of a listing is written text. -/
theorem written_format (m : Listing) : Written m.format := by
  apply Written.flatMap
  intro e _
  exact (written_lineOf e.1 e.2).append (Token.plain (by decide) (by decide)).written

/-- The characters of a token: the plain one, or some that neither end a line nor are bare blanks. -/
theorem Token.mem {t : List Char} (h : Token t) {c : Char} (hc : c ∈ t) :
    c.toNat ≤ 0xff ∧ (t = [c] ∨ isLineEnd c = false ∧ c ∉ bareBlanks) := by
  cases h with
  | plain hl hb =>
      rw [List.mem_singleton] at hc
      subst hc
      exact ⟨hl, Or.inl rfl⟩
  | mark hd =>
      have hd' : ∀ e ∈ '\\' :: marks, e.toNat ≤ 0xff ∧ isLineEnd e = false ∧ e ∉ bareBlanks := by
        simp [marks, isLineEnd, bareBlanks]
      have he : c ∈ '\\' :: marks := by
        rcases List.mem_cons.1 hc with rfl | hc
        · exact List.mem_cons_self
        · rw [List.mem_singleton] at hc
          exact hc ▸ List.mem_cons_of_mem _ hd
      exact ⟨(hd' c he).1, Or.inr (hd' c he).2⟩
  | unit hu hu' =>
      have hn : ∀ n < 16, (hexDigit n).toNat ≤ 0xff ∧ isLineEnd (hexDigit n) = false ∧
          hexDigit n ∉ bareBlanks := by
        decide
      simp only [List.mem_cons] at hc
      rcases hc with rfl | rfl | hc
      · exact ⟨by decide, Or.inr (by decide)⟩
      · exact ⟨by decide, Or.inr (by decide)⟩
      · obtain ⟨n, hlt, rfl⟩ := mem_hexDigits hc
        exact ⟨(hn n hlt).1, Or.inr (hn n hlt).2⟩

theorem Token.ne_nil {t : List Char} (h : Token t) : t ≠ [] := by
  cases h <;> exact List.cons_ne_nil _ _

/-- Written text keeps to the first 256 characters. -/
theorem Written.toNat_le {cs : List Char} (h : Written cs) : ∀ c ∈ cs, c.toNat ≤ 0xff := by
  induction h with
  | nil =>
      intro c hc
      cases hc
  | token ht _ ih =>
      intro c hc
      rcases List.mem_append.1 hc with hc | hc
      · exact (ht.mem hc).1
      · exact ih c hc

/-! ## Lines -/

/-- A line of written text is written text, and there is no line end in it. -/
theorem Written.lines {cs : List Char} (h : Written cs) :
    ∀ l ∈ lines cs, Written l ∧ ∀ c ∈ l, isLineEnd c = false := by
  induction h with
  | nil =>
      intro l hl
      cases hl
  | @token t cs ht _ ih =>
      intro l hl
      by_cases hend : ∃ c ∈ t, isLineEnd c = true
      · obtain ⟨c, hc, he⟩ := hend
        have hplain : t = [c] := (ht.mem hc).2.resolve_right fun h => by
          rw [he] at h
          cases h.1
        subst hplain
        rcases mem_lines_cons he hl with rfl | hl
        · exact ⟨.nil, fun c hc => absurd hc List.not_mem_nil⟩
        · exact ih l hl
      · have hnot : ∀ c ∈ t, isLineEnd c = false := by
          intro c hc
          rw [← Bool.not_eq_true]
          exact fun he => hend ⟨c, hc, he⟩
        rw [lines_append hnot ht.ne_nil] at hl
        rcases hls : Text.lines cs with _ | ⟨l', ls⟩
        · rw [hls, List.mem_singleton] at hl
          subst hl
          exact ⟨ht.written, hnot⟩
        · rw [hls, List.mem_cons] at hl
          rw [hls] at ih
          rcases hl with rfl | hl
          · obtain ⟨hw, hn⟩ := ih l' List.mem_cons_self
            refine ⟨.token ht hw, ?_⟩
            intro c hc
            exact (List.mem_append.1 hc).elim (hnot c) (hn c)
          · exact ih l (List.mem_cons_of_mem l' hl)

theorem Token.trailingBackslashes_even {t : List Char} (h : Token t) :
    trailingBackslashes t % 2 = 0 := by
  cases h with
  | plain hl hb => simp [trailingBackslashes, hb]
  | mark hd =>
      have : ∀ d ∈ marks, trailingBackslashes ['\\', d] % 2 = 0 := by
        simp [marks, trailingBackslashes]
      exact this _ hd
  | @unit u hu hu' =>
      have hn : ∀ n < 16, (hexDigit n == '\\') = false := by decide
      simp [trailingBackslashes, hexDigits_four, hn (u % 16) (Nat.mod_lt u (by decide))]

/-- Written text ends in backslashes that stand for themselves, so that nothing goes on behind it. -/
theorem Written.goesOn_eq_false {cs : List Char} (h : Written cs) : goesOn cs = false := by
  have heven : trailingBackslashes cs % 2 = 0 := by
    induction h with
    | nil => rfl
    | @token t cs ht _ ih =>
        rcases trailingBackslashes_append t cs with he | he
        · rw [he]
          exact ih
        · rw [he, Nat.add_mod, ih, ht.trailingBackslashes_even]
  rw [goesOn, heven]
  rfl

theorem Written.trimStart {cs : List Char} (h : Written cs) : Written (trimStart cs) := by
  induction h with
  | nil => exact .nil
  | @token t cs ht h ih =>
      cases ht with
      | @plain c hl hb =>
          by_cases hc : isBlank c = true
          · rw [List.singleton_append, trimStart_cons_of_blank hc]
            exact ih
          · rw [Bool.not_eq_true] at hc
            rw [List.singleton_append, trimStart_cons_of_not_blank hc]
            exact .token (.plain hl hb) h
      | mark hd => exact .token (.mark hd) h
      | unit hu hu' => exact .token (.unit hu hu') h

/-- Lines that do not go on are trimmed, and the ones that hold nothing or a comment are skipped. -/
theorem joinLines_eq_filter {ls : List (List Char)}
    (h : ∀ l ∈ ls, goesOn (Text.trimStart l) = false) :
    joinLines [] ls = (ls.map Text.trimStart).filter fun l => !isSkipped l := by
  induction ls with
  | nil => rfl
  | cons l ls ih =>
      have hl := h l List.mem_cons_self
      have hls := ih fun l' hl' => h l' (List.mem_cons_of_mem l hl')
      rw [joinLines, List.map_cons]
      simp only [decide_true, Bool.true_and, hl, Bool.false_eq_true, if_false, List.nil_append]
      by_cases hs : isSkipped (Text.trimStart l) = true
      · rw [if_pos hs, List.filter_cons_of_neg (by rw [hs]; exact Bool.false_ne_true), hls]
      · rw [Bool.not_eq_true] at hs
        have hne : Text.trimStart l ≠ [] := by
          intro he
          rw [he] at hs
          cases hs
        rw [hs, if_neg Bool.false_ne_true, if_neg hne, List.filter_cons_of_pos (by rw [hs]; rfl),
          hls]

/-- A logical line of written text is written text, and there is no line end in it. -/
theorem Written.logicalLines {cs : List Char} (h : Written cs) {l : List Char}
    (hl : l ∈ logicalLines cs) : Written l ∧ ∀ c ∈ l, isLineEnd c = false := by
  rw [Properties.logicalLines, joinLines_eq_filter] at hl
  · obtain ⟨r, hr, rfl⟩ := List.mem_map.1 (List.mem_filter.1 hl).1
    obtain ⟨hw, hn⟩ := h.lines r hr
    exact ⟨hw.trimStart, fun c hc => hn c ((List.dropWhile_sublist _).subset hc)⟩
  · intro r hr
    exact (h.lines r hr).1.trimStart.goesOn_eq_false

end AppCatalog.Properties
