import AppCatalog.Proofs.Json.RoundTrip
import AppCatalog.Proofs.Yaml.Cursor
import AppCatalog.Yaml.Scalar

/-!
# Strings and words in a document

A JSON string whose escapes are whole is a scalar in quotation marks that stands for the same text:
both are read piece by piece, and each piece gives the same characters, as code units there and as
code points here (`flow_string`). A word without quotation marks ends in front of a comma or a
closing bracket, whatever gap is between (`plain_word`).
-/

namespace AppCatalog.Yaml.Scalar

open AppCatalog.Text
open Cursor (SameLine)
open Json (readUnits skipSpace isPortableChar hasWholeEscapes)

/-! ## Pieces of a string -/

/-- Between two cursors on a line stands a piece of a JSON string that is read as a text. -/
structure Spells (c : Cursor) (text : List Char) (d : Cursor) : Prop where
  sameLine : SameLine c d
  suffix : d.rest <:+ c.rest
  units : readUnits c.rest = (readUnits d.rest).map fun p => (toUnits text ++ p.1, p.2)
  whole : hasWholeEscapes c.rest = hasWholeEscapes d.rest

namespace Spells

variable {c d e : Cursor} {text more : List Char}

theorem refl (c : Cursor) : Spells c [] c := by
  refine ⟨.refl c, List.suffix_refl _, ?_, rfl⟩
  cases readUnits c.rest <;> rfl

theorem trans (h : Spells c text d) (h' : Spells d more e) : Spells c (text ++ more) e := by
  refine ⟨h.sameLine.trans h'.sameLine, h'.suffix.trans h.suffix, ?_, h.whole.trans h'.whole⟩
  rw [h.units, h'.units, toUnits_append]
  cases readUnits e.rest with
  | none => rfl
  | some p => simp only [Option.map_some, List.append_assoc]

theorem isSome (h : Spells c text d) (hc : (readUnits c.rest).isSome = true) :
    (readUnits d.rest).isSome = true := by
  rw [h.units, Option.isSome_map] at hc
  exact hc

/-- A character that is neither a quotation mark nor a backslash stands for itself. -/
theorem char {ch : Char} {cs : List Char} (h : c.rest = ch :: cs) (hq : ch ≠ '"') (hb : ch ≠ '\\')
    (hc : 0x20 ≤ ch.toNat) (hbreak : isBreak ch = false) : Spells c [ch] c.next := by
  have hnext : c.next.rest = cs := by rw [Cursor.next_rest, h, List.tail_cons]
  refine ⟨.next h hbreak, ?_, ?_, ?_⟩
  · rw [hnext, h]
    exact List.suffix_cons ch cs
  · rw [hnext, h, toUnits_singleton]
    exact Json.readUnits_plain hq hb hc cs
  · rw [hnext, h]
    exact Json.hasWholeEscapes_plain hq hb cs

/-- So does a run of such characters. -/
theorem run {p : Char → Bool} {c : Cursor} (h : ∀ ch ∈ c.rest.takeWhile p, ch ≠ '"' ∧ ch ≠ '\\' ∧
    0x20 ≤ ch.toNat ∧ isBreak ch = false) : Spells c (c.span p).1 (c.span p).2 := by
  suffices ∀ (cs : List Char) (c : Cursor), cs <+: c.rest → (∀ ch ∈ cs, ch ≠ '"' ∧ ch ≠ '\\' ∧
      0x20 ≤ ch.toNat ∧ isBreak ch = false) → Spells c cs (c.advance cs.length) from
    this _ c (List.takeWhile_prefix p) h
  intro cs
  induction cs with
  | nil => exact fun c _ _ => .refl c
  | cons ch cs ih =>
      intro c hprefix hcs
      obtain ⟨rest, hrest⟩ := hprefix
      obtain ⟨hq, hb, hc, hbreak⟩ := hcs ch List.mem_cons_self
      have hnext : cs <+: c.next.rest := by
        rw [Cursor.next_rest, ← hrest]
        exact List.prefix_append cs rest
      exact (char hrest.symm hq hb hc hbreak).trans
        (ih c.next hnext fun d hd => hcs d (List.mem_cons_of_mem ch hd))

end Spells

/-! ## Escapes -/

theorem isBreak_of_hexValue? {ch : Char} {n : Nat} (h : hexValue? ch = some n) :
    isBreak ch = false := by
  rw [Bool.eq_false_iff]
  intro hb
  have hbreaks : ∀ c ∈ ['\n', '\r', '\x85', '\u2028', '\u2029'], hexValue? c = none :=
    List.all_iff_forall_prop.1 (by decide)
  rw [hbreaks ch (by simpa [isBreak, or_assoc] using hb)] at h
  cases h

/-- Four hexadecimal digits are read as the same number. -/
theorem flowEscape_digits {c : Cursor} {x y z w : Char} {cs : List Char} {u : Nat}
    (h : c.rest = 'u' :: x :: y :: z :: w :: cs) (hu : Json.fourHex? x y z w = some u) :
    flowEscape c = .ok ([u], c.advance 5) ∧ SameLine c (c.advance 5) := by
  have hlt := Json.fourHex?_lt hu
  simp only [Json.fourHex?, Option.bind_eq_bind, Option.bind_eq_some_iff, pure] at hu
  obtain ⟨i, hi, j, hj, k, hk, l, hl, hu⟩ := hu
  have hdigits : (c.next.rest.take 4).filterMap hexValue? = [i, j, k, l] := by
    rw [Cursor.next_rest, h]
    simp only [List.tail_cons, List.take_succ_cons, List.take_zero, List.filterMap_cons, hi, hj, hk,
      hl, List.filterMap_nil]
  have hpoint : codePoint ([i, j, k, l].foldl (fun n d => n * 16 + d) 0) = .ok u := by
    have hvalue : [i, j, k, l].foldl (fun n d => n * 16 + d) 0 = u := by
      rw [← Option.some.inj hu]
      simp only [List.foldl_cons, List.foldl_nil, Nat.zero_mul, Nat.zero_add]
    rw [hvalue, codePoint, if_pos (Nat.lt_trans hlt (by decide))]
  constructor
  · have hescape : escape? 'u' = none := rfl
    have hwidth : escapeWidth? 'u' = some 4 := rfl
    rw [flowEscape, Cursor.peek_zero h]
    simp only [hescape, hwidth, hdigits, hpoint]
    rfl
  · apply SameLine.advance
    · rw [h]
      simp
    · intro ch hch
      rw [h] at hch
      simp only [List.take_succ_cons, List.take_zero, List.mem_cons, List.not_mem_nil,
        or_false] at hch
      rcases hch with rfl | rfl | rfl | rfl | rfl
      · decide
      · exact isBreak_of_hexValue? hi
      · exact isBreak_of_hexValue? hj
      · exact isBreak_of_hexValue? hk
      · exact isBreak_of_hexValue? hl

/-- An escape of one character that both formats know. -/
theorem flowEscape_char {c : Cursor} {e ch : Char} {cs : List Char} (h : c.rest = '\\' :: e :: cs)
    (he : escape? e = some ch) (hb : isBreak e = false)
    (hread : readUnits ('\\' :: e :: cs) =
      (readUnits cs).map fun p => (toUnits [ch] ++ p.1, p.2))
    (hwhole : hasWholeEscapes ('\\' :: e :: cs) = hasWholeEscapes cs) :
    ∃ text d, flowEscape c.next = .ok (text.map Char.toNat, d) ∧ Spells c text d ∧
      d.rest.length < c.rest.length := by
  have hnext : c.next.rest = e :: cs := by rw [Cursor.next_rest, h, List.tail_cons]
  have hlast : c.next.next.rest = cs := by rw [Cursor.next_rest, hnext, List.tail_cons]
  have hline : SameLine c c.next.next := (SameLine.next h (by decide)).trans (.next hnext hb)
  refine ⟨[ch], c.next.next, ?_, ⟨hline, ?_, ?_, ?_⟩, ?_⟩
  · rw [flowEscape, Cursor.peek_zero hnext]
    simp only [he]
    rfl
  · rw [hlast, h]
    exact (List.suffix_cons e cs).trans (List.suffix_cons '\\' _)
  · rw [hlast, h]
    exact hread
  · rw [hlast, h]
    exact hwhole
  · rw [hlast, h]
    exact Nat.lt_add_of_pos_right (n := cs.length) (k := 2) (by decide)

/-- A numbered escape that stands for a character of its own. -/
theorem flowEscape_unit {c : Cursor} {x y z w : Char} {cs : List Char} {u : Nat}
    (h : c.rest = '\\' :: 'u' :: x :: y :: z :: w :: cs) (hu : Json.fourHex? x y z w = some u)
    (hw : hasWholeEscapes c.rest = true) :
    ∃ text d, flowEscape c.next = .ok (text.map Char.toNat, d) ∧ Spells c text d ∧
      d.rest.length < c.rest.length := by
  have hnext : c.next.rest = 'u' :: x :: y :: z :: w :: cs := by
    rw [Cursor.next_rest, h, List.tail_cons]
  have hlast : (c.next.advance 5).rest = cs := by
    rw [Cursor.advance_rest, hnext]
    rfl
  obtain ⟨hescape, hline⟩ := flowEscape_digits hnext hu
  rw [h, hasWholeEscapes, hu, Option.any_some, Bool.and_eq_true, Bool.not_eq_true',
    Bool.or_eq_false_iff] at hw
  have hunits : toUnits [Char.ofNat u] = [u] := by
    rw [toUnits_singleton, unitsOf_ofNat (Json.fourHex?_lt hu) hw.1.1 hw.1.2]
  have hpoint := toNat_ofNat_unit (Json.fourHex?_lt hu) hw.1.1 hw.1.2
  refine ⟨[Char.ofNat u], c.next.advance 5, ?_,
    ⟨(SameLine.next h (by decide)).trans hline, ?_, ?_, ?_⟩, ?_⟩
  · rw [hescape, List.map_singleton, hpoint]
  · rw [Cursor.advance_rest, Cursor.next_rest]
    exact (List.drop_suffix 5 _).trans (List.tail_suffix _)
  · rw [hlast, h, readUnits, hu, hunits]
    rfl
  · rw [hlast, h, hasWholeEscapes, hu, hw.2, Option.any_some, hw.1.1, hw.1.2]
    rfl
  · rw [hlast, h]
    exact Nat.lt_add_of_pos_right (n := cs.length) (k := 6) (by decide)

/-- Every escape that JSON knows stands for the same in a document, if it is whole. -/
theorem flowEscape_ok {c : Cursor} {cs : List Char} (h : c.rest = '\\' :: cs)
    (hs : (readUnits c.rest).isSome = true) (hw : hasWholeEscapes c.rest = true) :
    ∃ text d, flowEscape c.next = .ok (text.map Char.toNat, d) ∧ Spells c text d ∧
      d.rest.length < c.rest.length := by
  rw [h] at hs
  unfold readUnits at hs
  split at hs
  · next he => cases he
  · next he => cases he
  · next x y z w rest he =>
      cases he
      split at hs
      · next u hu => exact flowEscape_unit h hu hw
      · cases hs
  · next he =>
      cases he
      simp only at hs
      split at hs
      · next ch hch =>
          split at hch
          all_goals first
            | exact flowEscape_char h rfl rfl (by simp [readUnits, toUnits_singleton, unitsOf]) rfl
            | cases hch
      · cases hs
  · next hb he =>
      cases he
      rcases cs with _ | ⟨e, cs⟩
      · cases hs
      · exact absurd rfl (hb e cs rfl)

/-! ## Strings -/

/-- A character of a word that stands for itself. -/
def isOrdinary (ch : Char) : Bool := !(isGapOrEnd ch || ch == '\'' || ch == '"' || ch == '\\')

theorem le_toNat_of_isPortableChar {ch : Char} (h : isPortableChar ch = true)
    (hg : isGapOrEnd ch = false) : 0x20 ≤ ch.toNat := by
  rw [isPortableChar, Bool.and_eq_true] at h
  by_contra hlt
  have hcontrol : ch.toNat = 9 ∨ ch.toNat = 10 ∨ ch.toNat = 13 := by
    have hdocument := h.1
    simp only [isDocumentChar, Bool.or_eq_true, Bool.and_eq_true, decide_eq_true_eq,
      beq_iff_eq] at hdocument
    omega
  rw [← Char.ofNat_toNat ch] at hg
  rcases hcontrol with h9 | h10 | h13
  · rw [h9] at hg
    cases hg
  · rw [h10] at hg
    cases hg
  · rw [h13] at hg
    cases hg

/-- What is left of a string begins with a character that stands for itself, a quotation mark, an
apostrophe, a backslash or a space. -/
theorem head_cases {ch : Char} {cs : List Char} (h : isPortableChar ch = true)
    (ho : isOrdinary ch = false) (hs : (readUnits (ch :: cs)).isSome = true) :
    ch = '"' ∨ ch = ' ' ∨ ch = '\'' ∨ ch = '\\' := by
  simp only [isOrdinary, isGapOrEnd_eq h, Bool.not_eq_false', Bool.or_eq_true, beq_iff_eq] at ho
  rcases ho with (((((rfl | rfl) | rfl) | rfl) | rfl) | rfl)
  · exact Or.inr (Or.inl rfl)
  · simp [readUnits] at hs
  · simp [readUnits] at hs
  · exact Or.inr (Or.inr (Or.inl rfl))
  · exact Or.inl rfl
  · exact Or.inr (Or.inr (Or.inr rfl))

theorem spells_ordinary {c : Cursor} (hc : ∀ ch ∈ c.rest, isPortableChar ch = true) :
    Spells c (c.span isOrdinary).1 (c.span isOrdinary).2 := by
  refine .run fun ch hch => ?_
  have hord : isOrdinary ch = true := List.all_eq_true.1 List.all_takeWhile ch hch
  have hport := hc ch (List.takeWhile_subset _ hch)
  rw [isOrdinary, Bool.not_eq_true', Bool.or_eq_false_iff, Bool.or_eq_false_iff,
    Bool.or_eq_false_iff, beq_eq_false_iff_ne, beq_eq_false_iff_ne, beq_eq_false_iff_ne] at hord
  obtain ⟨⟨⟨hgap, -⟩, hq⟩, hb⟩ := hord
  refine ⟨hq, hb, le_toNat_of_isPortableChar hport hgap, ?_⟩
  rw [isGapOrEnd, isSpaceOrEnd, isBreakOrEnd, Bool.or_eq_false_iff, Bool.or_eq_false_iff,
    Bool.or_eq_false_iff] at hgap
  exact hgap.2.2.2

theorem flowWord_succ (fuel : Nat) (c : Cursor) : flowWord true (fuel + 1) c = (do
    let head := (c.span isOrdinary).1.map Char.toNat
    let d := (c.span isOrdinary).2
    if d.peek 0 == '\'' then
      let (tail, e) ← flowWord true fuel d.next
      pure (head ++ (d.peek 0).toNat :: tail, e)
    else if d.peek 0 == '\\' then
      let (points, e) ← flowEscape d.next
      let (tail, e) ← flowWord true fuel e
      pure (head ++ points ++ tail, e)
    else pure (head, d)) := by
  simp only [flowWord, Bool.not_true, Bool.false_and, Bool.true_and, Bool.or_false,
    if_neg Bool.false_ne_true]
  rfl

/-- A word of a string, up to a space or the closing quotation mark. -/
theorem flowWord_ok {fuel : Nat} {c : Cursor} (hf : c.rest.length < fuel)
    (hc : ∀ ch ∈ c.rest, isPortableChar ch = true) (hs : (readUnits c.rest).isSome = true)
    (hw : hasWholeEscapes c.rest = true) :
    ∃ text d ch cs, flowWord true fuel c = .ok (text.map Char.toNat, d) ∧ Spells c text d ∧
      d.rest = ch :: cs ∧ (ch = '"' ∨ ch = ' ') := by
  induction fuel generalizing c with
  | zero => cases hf
  | succ fuel ih =>
      have hrun := spells_ordinary hc
      have hstop : ∀ ch ∈ (c.span isOrdinary).2.rest.head?, isOrdinary ch = false := by
        intro ch hch
        have hhead := List.head?_dropWhile_not isOrdinary c.rest
        rw [← Cursor.skip_rest, Cursor.skip, Option.mem_def.1 hch] at hhead
        exact hhead
      rw [flowWord_succ]
      generalize (c.span isOrdinary).1 = run at hrun
      generalize (c.span isOrdinary).2 = d at hrun hstop
      have hs' := hrun.isSome hs
      rcases hr : d.rest with _ | ⟨ch, cs⟩
      · rw [hr] at hs'
        cases hs'
      · have hport := hc ch (hrun.suffix.subset (by rw [hr]; exact List.mem_cons_self))
        have hlength := hrun.suffix.length_le
        rw [hr, List.length_cons] at hlength
        rw [hr] at hs' hstop
        -- The word goes on behind an apostrophe or an escape.
        have hgoes : ∀ piece e, Spells d piece e → e.rest.length < d.rest.length →
            ∃ text f ch cs, flowWord true fuel e = .ok (text.map Char.toNat, f) ∧
              Spells c (run ++ piece ++ text) f ∧ f.rest = ch :: cs ∧ (ch = '"' ∨ ch = ' ') := by
          intro piece e he hlt
          have hce := hrun.trans he
          have hfe : e.rest.length < fuel := by
            rw [hr, List.length_cons] at hlt
            omega
          obtain ⟨text, f, ch, cs, hword, hspells, hstops⟩ :=
            ih hfe (fun ch hch => hc ch (hce.suffix.subset hch)) (hce.isSome hs) (hce.whole ▸ hw)
          exact ⟨text, f, ch, cs, hword, hce.trans hspells, hstops⟩
        rcases head_cases hport (hstop ch rfl) hs' with rfl | rfl | rfl | rfl
        · refine ⟨run, d, '"', cs, ?_, hrun, hr, Or.inl rfl⟩
          simp only [Cursor.peek_zero hr]
          rfl
        · refine ⟨run, d, ' ', cs, ?_, hrun, hr, Or.inr rfl⟩
          simp only [Cursor.peek_zero hr]
          rfl
        · have hnext : d.next.rest.length < d.rest.length := by
            rw [Cursor.next_rest, hr]
            exact Nat.lt_succ_self cs.length
          obtain ⟨text, f, ch, cs, hword, hspells, hstops⟩ := hgoes _ d.next
            (.char hr (by decide) (by decide) (by decide) (by decide)) hnext
          refine ⟨_, f, ch, cs, ?_, hspells, hstops⟩
          simp only [Cursor.peek_zero hr, hword, List.map_append, List.append_assoc]
          rfl
        · obtain ⟨piece, e, hescape, he, hlt⟩ :=
            flowEscape_ok hr (by rw [hr]; exact hs') (hrun.whole ▸ hw)
          obtain ⟨text, f, ch, cs, hword, hspells, hstops⟩ := hgoes piece e he hlt
          refine ⟨_, f, ch, cs, ?_, hspells, hstops⟩
          simp only [Cursor.peek_zero hr, hescape, bind, Except.bind, hword, List.map_append]
          rfl

theorem flowGap_eq (c : Cursor) {isBlank : Char → Bool}
    (h : isBlank = fun ch => ch == ' ' || ch == '\t') :
    flowGap c = (let d := (c.span isBlank).2
      if d.peek 0 == '\x00' then .error .malformed
      else if isBreak (d.peek 0) then do
        let (b, d) := d.lineBreak
        let (breaks, d) ← flowBreaks (d.rest.length + 1) d
        pure (folded b breaks, d)
      else pure ((c.span isBlank).1, d)) := by
  rw [h]
  rfl

/-- The spaces in front of the next word of a string. -/
theorem flowGap_ok {c : Cursor} {cs : List Char} (h : c.rest = ' ' :: cs)
    (hc : ∀ ch ∈ c.rest, isPortableChar ch = true) (hs : (readUnits c.rest).isSome = true) :
    ∃ gap d, flowGap c = .ok (gap, d) ∧ Spells c gap d ∧
      d.rest.length < c.rest.length := by
  let isBlank := fun ch : Char => ch == ' ' || ch == '\t'
  have hrun : Spells c (c.span isBlank).1 (c.span isBlank).2 := by
    refine .run fun ch hch => ?_
    have hblank : isBlank ch = true := List.all_eq_true.1 List.all_takeWhile ch hch
    have hport := hc ch (List.takeWhile_subset _ hch)
    rcases Bool.or_eq_true_iff.1 hblank with he | he
    · rw [eq_of_beq he]
      decide
    · rw [eq_of_beq he] at hport
      cases hport
  have hlength : (c.span isBlank).2.rest.length < c.rest.length := by
    have hdrop : (c.span isBlank).2.rest = cs.dropWhile isBlank := by
      rw [← Cursor.skip, Cursor.skip_rest, h]
      rfl
    rw [hdrop, h]
    exact Nat.lt_succ_of_le (List.dropWhile_suffix isBlank).length_le
  rw [flowGap_eq c (rfl : isBlank = _)]
  generalize (c.span isBlank).1 = gap at *
  generalize (c.span isBlank).2 = d at *
  have hs' := hrun.isSome hs
  rcases hr : d.rest with _ | ⟨ch, ds⟩
  · rw [hr] at hs'
    cases hs'
  · have hport := hc ch (hrun.suffix.subset (by rw [hr]; exact List.mem_cons_self))
    have hnul : (ch == '\x00') = false := by
      rw [beq_eq_false_iff_ne]
      rintro rfl
      cases hport
    have hbreak : isBreak ch = false := by
      rw [isBreak_eq hport, Bool.or_eq_false_iff, beq_eq_false_iff_ne, beq_eq_false_iff_ne]
      rw [hr] at hs'
      constructor
      · rintro rfl
        simp [readUnits] at hs'
      · rintro rfl
        simp [readUnits] at hs'
    refine ⟨gap, d, ?_, hrun, hlength⟩
    simp only [Cursor.peek_zero hr, hnul, hbreak, if_neg Bool.false_ne_true]
    rfl

/-- A string up to its closing quotation mark. -/
theorem flowParts_ok {fuel : Nat} {c : Cursor} (hf : c.rest.length < fuel)
    (hc : ∀ ch ∈ c.rest, isPortableChar ch = true) (hs : (readUnits c.rest).isSome = true)
    (hw : hasWholeEscapes c.rest = true) :
    ∃ text d cs, flowParts true '"' fuel c = .ok (text.map Char.toNat, d.next) ∧ Spells c text d ∧
      d.rest = '"' :: cs := by
  induction fuel generalizing c with
  | zero => cases hf
  | succ fuel ih =>
      obtain ⟨word, d, ch, cs, hword, hd, hr, hstop⟩ := flowWord_ok (Nat.lt_succ_self _) hc hs hw
      rw [flowParts, hword]
      rcases hstop with rfl | rfl
      · refine ⟨word, d, cs, ?_, hd, hr⟩
        simp only [bind, Except.bind, Cursor.peek_zero hr]
        rfl
      · obtain ⟨gap, e, hgap, he, hlt⟩ := flowGap_ok hr
          (fun ch hch => hc ch (hd.suffix.subset hch)) (hd.isSome hs)
        have hce := hd.trans he
        have hfe : e.rest.length < fuel := by
          have := hd.suffix.length_le
          omega
        obtain ⟨text, f, cs, hparts, hf, hquote⟩ :=
          ih hfe (fun ch hch => hc ch (hce.suffix.subset hch)) (hce.isSome hs) (hce.whole ▸ hw)
        refine ⟨word ++ gap ++ text, f, cs, ?_, hce.trans hf, hquote⟩
        simp only [bind, Except.bind, Cursor.peek_zero hr, hgap, hparts, List.map_append]
        rfl

/-- A JSON string whose escapes are whole is a scalar of the same text. -/
theorem flow_string {c : Cursor} {cs rest text : List Char} (h : c.rest = '"' :: cs)
    (hc : ∀ ch ∈ c.rest, isPortableChar ch = true)
    (hread : readUnits cs = some (toUnits text, rest)) (hw : hasWholeEscapes cs = true) :
    ∃ d, flow c = .ok (.ofChars text, d) ∧ SameLine c d ∧ d.rest = rest ∧ rest <:+ cs := by
  have hnext : c.next.rest = cs := by rw [Cursor.next_rest, h, List.tail_cons]
  have hfuel : c.next.rest.length < c.rest.length + 1 := by
    rw [hnext, h, List.length_cons]
    omega
  have hcs : ∀ ch ∈ c.next.rest, isPortableChar ch = true := by
    intro ch hch
    rw [hnext] at hch
    rw [h] at hc
    exact hc ch (List.mem_cons_of_mem _ hch)
  obtain ⟨text', d, ds, hparts, hspells, hr⟩ :=
    flowParts_ok hfuel hcs (by rw [hnext, hread]; rfl) (by rw [hnext, hw])
  have hunits := hspells.units
  rw [hnext, hread, hr] at hunits
  obtain ⟨htext, rfl⟩ : toUnits text = toUnits text' ∧ rest = ds := by
    simpa [readUnits] using hunits
  obtain rfl : text = text' := by
    rw [← decodeUnits_toUnits text, htext, decodeUnits_toUnits]
  have hsuffix := hspells.suffix
  rw [hnext, hr] at hsuffix
  refine ⟨d.next, ?_, ?_, ?_, (List.suffix_cons '"' _).trans hsuffix⟩
  · rw [flow, Cursor.peek_zero h]
    simp only [beq_self_eq_true, hparts, bind, Except.bind]
    rfl
  · exact (SameLine.next h (by decide)).trans (hspells.sameLine.trans (.next hr (by decide)))
  · rw [Cursor.next_rest, hr, List.tail_cons]

/-! ## Words -/

/-- A character of the words and numbers of JSON. -/
def isBareChar (ch : Char) : Bool := ch.isAlphanum || ['+', '-', '.'].contains ch

/-- A text goes on as behind a value: with a comma, a closing bracket, or not at all. -/
def EndsValue (cs : List Char) : Prop := ∀ ch ∈ (skipSpace cs).head?, ch ∈ [',', ']', '\x7d']

theorem EndsValue.congr {cs ds : List Char} (h : EndsValue cs)
    (hs : skipSpace ds = skipSpace cs) : EndsValue ds := by
  rw [EndsValue, hs]
  exact h

/-- Such a text begins with white space, a comma or a closing bracket. -/
theorem EndsValue.head {ch : Char} {cs : List Char} (h : EndsValue (ch :: cs)) :
    ch ∈ [' ', '\t', '\n', '\r', ',', ']', '\x7d'] := by
  by_cases hs : ch ∈ [' ', '\t', '\n', '\r']
  · exact List.mem_append_left [',', ']', '\x7d'] hs
  · refine List.mem_append_right [' ', '\t', '\n', '\r'] (h ch ?_)
    rw [Json.skipSpace_eq_self]
    · rfl
    · intro d hd
      cases hd
      exact hs

theorem ne_of_isBareChar {ch d : Char} (h : isBareChar ch = true) (hd : isBareChar d = false) :
    ch ≠ d := by
  rintro rfl
  rw [h] at hd
  cases hd

theorem endsPlain_bare {ch : Char} (h : isBareChar ch = true) (cs : List Char) :
    endsPlain true (ch :: cs) = false := by
  have hne : ∀ d ∈ ['\t', ' ', '\x00', '\n', '\r', '\x85', '\u2028', '\u2029', ':', ',', '?', '[',
      ']', '\x7b', '\x7d'], ch ≠ d := by
    have hbare : ∀ d ∈ ['\t', ' ', '\x00', '\n', '\r', '\x85', '\u2028', '\u2029', ':', ',', '?',
        '[', ']', '\x7b', '\x7d'], isBareChar d = false := List.all_iff_forall_prop.1 (by decide)
    exact fun d hd => ne_of_isBareChar h (hbare d hd)
  simp only [List.forall_mem_cons] at hne
  simp [endsPlain, isGapOrEnd, isSpaceOrEnd, isBreakOrEnd, isBreak, hne]

theorem endsPlain_of_endsValue {cs : List Char} (h : EndsValue cs) : endsPlain true cs = true := by
  have hall : ∀ ch ∈ [' ', '\t', '\n', '\r', ',', ']', '\x7d'],
      (isGapOrEnd ch || [',', '?', '[', ']', '\x7b', '\x7d'].contains ch) = true :=
    List.all_eq_true.1 (by decide)
  cases cs with
  | nil => rfl
  | cons ch cs =>
      have hch := hall ch h.head
      rw [Bool.or_eq_true] at hch
      rw [endsPlain, Bool.true_and]
      rcases hch with hgap | hmark
      · rw [hgap, Bool.true_or, Bool.true_or]
      · rw [hmark, Bool.and_true, Bool.or_true]

theorem plainRun_word {w rest : List Char} (hw : ∀ ch ∈ w, isBareChar ch = true)
    (h : EndsValue rest) : plainRun true (w ++ rest) = w := by
  induction w with
  | nil =>
      rw [List.nil_append, plainRun.eq_def]
      split
      · rfl
      · rw [if_pos (endsPlain_of_endsValue h)]
  | cons ch w ih =>
      rw [List.cons_append, plainRun, endsPlain_bare (hw ch List.mem_cons_self),
        if_neg Bool.false_ne_true, ih fun d hd => hw d (List.mem_cons_of_mem ch hd)]

theorem atDocumentMark_of_endsValue {c : Cursor} (h : EndsValue c.rest) :
    c.atDocumentMark = false := by
  have hpeek : c.peek 0 ≠ '-' ∧ c.peek 0 ≠ '.' := by
    have hall : ∀ ch ∈ [' ', '\t', '\n', '\r', ',', ']', '\x7d'], ch ≠ '-' ∧ ch ≠ '.' :=
      List.all_iff_forall_prop.1 (by decide)
    rcases hr : c.rest with _ | ⟨ch, cs⟩
    · rw [Cursor.peek_nil hr]
      decide
    · rw [Cursor.peek_zero hr]
      rw [hr] at h
      exact hall ch h.head
  simp [Cursor.atDocumentMark, Cursor.atMark, hpeek]

theorem plainBreaks_ok {fuel : Nat} {c : Cursor} (breaks : List Char) (hf : c.rest.length < fuel)
    (hc : ∀ ch ∈ c.rest, isPortableChar ch = true) (h : EndsValue c.rest) :
    ∃ breaks' d, plainBreaks fuel breaks c = (some breaks', d) ∧ d.rest = skipSpace c.rest := by
  induction fuel generalizing c breaks with
  | zero => cases hf
  | succ fuel ih =>
      rcases hr : c.rest with _ | ⟨ch, cs⟩
      · refine ⟨breaks, c, ?_, hr⟩
        rw [plainBreaks, Cursor.peek_nil hr]
        rfl
      · rw [hr] at hf hc h
        have hpeek := Cursor.peek_zero hr
        have hnext : c.next.rest = cs := by rw [Cursor.next_rest, hr, List.tail_cons]
        by_cases hspace : ch = ' '
        · subst hspace
          have hcs : EndsValue c.next.rest := h.congr (by rw [hnext, Json.skipSpace_cons_space])
          obtain ⟨breaks', d, hd, hrest⟩ := ih breaks
            (by rw [hnext]; exact Nat.lt_of_succ_lt_succ hf)
            (fun ch hch => hc ch (List.mem_cons_of_mem _ (by rwa [hnext] at hch))) hcs
          refine ⟨breaks', d, ?_, ?_⟩
          · rw [plainBreaks, hpeek]
            exact hd
          · rw [hrest, hnext, Json.skipSpace_cons_space]
        have hspace' : (ch == ' ') = false := beq_false_of_ne hspace
        have hport := hc ch List.mem_cons_self
        by_cases hbreak : ch = '\n' ∨ ch = '\r'
        · obtain ⟨hsuffix, hskip⟩ := Cursor.lineBreak_rest hr hbreak
          have hends : EndsValue c.lineBreak.2.rest := h.congr (by rw [hskip, hr])
          obtain ⟨breaks', d, hd, hrest⟩ := ih (breaks ++ c.lineBreak.1)
            (Nat.lt_of_le_of_lt hsuffix.length_le (Nat.lt_of_succ_lt_succ hf))
            (fun ch hch => hc ch (List.mem_cons_of_mem _ (hsuffix.subset hch))) hends
          refine ⟨breaks', d, ?_, ?_⟩
          · have hb : isBreak ch = true := by rcases hbreak with rfl | rfl <;> rfl
            rw [plainBreaks, hpeek, hspace', hb]
            simp only [atDocumentMark_of_endsValue hends, if_neg Bool.false_ne_true, if_true]
            exact hd
          · rw [hrest, hskip, hr]
        · rw [not_or] at hbreak
          have hb : isBreak ch = false := by
            rw [isBreak_eq hport]
            simpa using hbreak
          refine ⟨breaks, c, ?_, ?_⟩
          · rw [plainBreaks, hpeek, hspace', hb]
            simp only [if_neg Bool.false_ne_true]
          · rw [hr, Json.skipSpace_eq_self]
            intro d hd
            cases hd
            have htab : ch ≠ '\t' := by
              rintro rfl
              cases hport
            simpa using ⟨hspace, htab, hbreak⟩

theorem plainGap_eq (c : Cursor) :
    plainGap c = (let d := c.skip (· == ' ')
      if isBreak (d.peek 0) then
        if d.lineBreak.2.atDocumentMark then ([], true, d.lineBreak.2)
        else match plainBreaks (d.lineBreak.2.rest.length + 1) [] d.lineBreak.2 with
          | (some breaks, e) => (folded d.lineBreak.1 breaks, true, e)
          | (none, e) => ([], true, e)
      else ((c.span (· == ' ')).1, false, d)) := by
  rw [plainGap]
  rfl

/-- Behind a word a gap is passed over to what follows. -/
theorem plainGap_ok {c : Cursor} (hc : ∀ ch ∈ c.rest, isPortableChar ch = true)
    (h : EndsValue c.rest) :
    ∃ gap broke d, plainGap c = (gap, broke, d) ∧ d.rest = skipSpace c.rest := by
  rw [plainGap_eq]
  rcases Cursor.skip_space_cases hc with ⟨hb, hrest⟩ | ⟨ch, cs, hch, hrest⟩
  · refine ⟨(c.span (· == ' ')).1, false, c.skip (· == ' '), ?_, hrest⟩
    simp only [hb, if_neg Bool.false_ne_true]
  · have hb : isBreak ((c.skip (· == ' ')).peek 0) = true := by
      rw [Cursor.peek_zero hrest]
      rcases hch with rfl | rfl <;> rfl
    obtain ⟨hsuffix, hskip⟩ := Cursor.lineBreak_rest hrest hch
    have hsub : (c.skip (· == ' ')).lineBreak.2.rest <:+ c.rest := by
      refine (hsuffix.trans (List.suffix_cons ch cs)).trans ?_
      rw [← hrest, Cursor.skip_rest]
      exact List.dropWhile_suffix _
    have hsame : skipSpace (c.skip (· == ' ')).lineBreak.2.rest = skipSpace c.rest := by
      rw [hskip, Cursor.skip_rest, Json.skipSpace_dropWhile]
    have hends := h.congr hsame
    obtain ⟨breaks, d, hd, hr⟩ := plainBreaks_ok [] (Nat.lt_succ_self _)
      (fun ch hch => hc ch (hsub.subset hch)) hends
    refine ⟨folded (c.skip (· == ' ')).lineBreak.1 breaks, true, d, ?_, hr.trans hsame⟩
    simp only [hb, atDocumentMark_of_endsValue hends, if_true, if_neg Bool.false_ne_true]
    rw [hd]

/-- A word in front of what ends a value is a plain scalar. -/
theorem plain_word {c : Cursor} {w rest : List Char} (h : c.rest = w ++ rest) (hne : w ≠ [])
    (hw : ∀ ch ∈ w, isBareChar ch = true) (hc : ∀ ch ∈ c.rest, isPortableChar ch = true)
    (hrest : EndsValue rest) (indent : Nat) :
    ∃ broke d, plain true indent c = (w, broke, d) ∧ d.rest = skipSpace rest := by
  have hafter : (c.advance w.length).rest = rest := by
    rw [Cursor.advance_rest, h, List.drop_left]
  obtain ⟨gap, broke, d, hgap, hd⟩ := plainGap_ok (c := c.advance w.length)
    (fun ch hch => hc ch (by rw [h]; exact List.mem_append_right w (hafter ▸ hch)))
    (by rw [hafter]; exact hrest)
  rw [hafter] at hd
  refine ⟨broke, d, ?_, hd⟩
  -- Nothing that ends a value begins another part of the scalar.
  have hend : ∀ fuel, plainParts true indent fuel gap broke d = ([], broke, d) := by
    intro fuel
    cases fuel with
    | zero => rfl
    | succ fuel =>
        have hrun : plainRun true d.rest = [] := by
          have hends : EndsValue d.rest := hrest.congr (by rw [hd, Json.skipSpace_skipSpace])
          exact plainRun_word (w := []) (fun _ h => by cases h) hends
        rw [plainParts, hrun]
        simp
  obtain ⟨ch, cs, rfl⟩ := List.exists_cons_of_ne_nil hne
  have hhash : (c.peek 0 == '#') = false := by
    rw [Cursor.peek_zero h]
    exact beq_false_of_ne (ne_of_isBareChar (hw ch List.mem_cons_self) (by decide))
  have hrun : plainRun true c.rest = ch :: cs := by
    rw [h, plainRun_word hw hrest]
  rw [plain, plainParts]
  simp only [hhash, hrun, if_neg Bool.false_ne_true, if_neg (List.cons_ne_nil ch cs), hgap, hend,
    List.append_nil, List.nil_append, ite_self]

end AppCatalog.Yaml.Scalar
