import AppCatalog.Proofs.Json.Portable

/-!
# Moving along a text

A cursor that moves on drops characters from the rest of its text, and as long as none of them ends
a line it stays on its line and counts them (`SameLine`). Between two tokens of a portable text there
is nothing but spaces and line ends, and a scanner passes over just what JSON calls white space
(`skipToToken_rest`).
-/

namespace AppCatalog

open Json (skipSpace isPortableChar)

/-! ## White space -/

namespace Json

theorem skipSpace_cons_space (cs : List Char) : skipSpace (' ' :: cs) = skipSpace cs := rfl

/-- A text that does not begin with white space is left alone. -/
theorem skipSpace_eq_self {cs : List Char}
    (h : ∀ c ∈ cs.head?, c ∉ [' ', '\t', '\n', '\r']) : skipSpace cs = cs := by
  cases cs with
  | nil => rfl
  | cons c cs =>
      have hc : (c == ' ' || c == '\t' || c == '\n' || c == '\r') = false := by
        simpa [and_assoc] using h c rfl
      rw [skipSpace, List.dropWhile_cons, hc, if_neg Bool.false_ne_true]

/-- What follows white space does not begin with any. -/
theorem head?_skipSpace {cs : List Char} {c : Char} (h : c ∈ (skipSpace cs).head?) :
    c ∉ [' ', '\t', '\n', '\r'] := by
  have hc := List.head?_dropWhile_not
    (fun c : Char => c == ' ' || c == '\t' || c == '\n' || c == '\r') cs
  rw [← skipSpace, Option.mem_def.1 h] at hc
  simpa [and_assoc] using hc

theorem skipSpace_skipSpace (cs : List Char) : skipSpace (skipSpace cs) = skipSpace cs :=
  skipSpace_eq_self fun _ => head?_skipSpace

theorem skipSpace_dropWhile (cs : List Char) :
    skipSpace (cs.dropWhile (· == ' ')) = skipSpace cs := by
  induction cs with
  | nil => rfl
  | cons c cs ih =>
      rw [List.dropWhile_cons]
      split
      · next hc => rw [ih, eq_of_beq hc, skipSpace_cons_space]
      · rfl

theorem skipSpace_suffix (cs : List Char) : skipSpace cs <:+ cs := List.dropWhile_suffix _

end Json

namespace Yaml

/-! ## Portable characters -/

/-- A portable character ends a line only if it is a line feed or a carriage return, and the rest of
what separates tokens is a space. -/
theorem isBreak_eq {c : Char} (h : isPortableChar c = true) :
    isBreak c = (c == '\n' || c == '\r') := by
  rw [isPortableChar, Bool.and_eq_true, Bool.not_eq_true', List.contains_eq_mem,
    decide_eq_false_iff_not] at h
  simp only [List.mem_cons, not_or] at h
  rw [Bool.eq_iff_iff]
  simp [isBreak, h.2]

theorem isGapOrEnd_eq {c : Char} (h : isPortableChar c = true) :
    isGapOrEnd c = (c == ' ' || c == '\n' || c == '\r') := by
  have hnul : c ≠ '\x00' := by
    rintro rfl
    cases h
  have htab : c ≠ '\t' := by
    rintro rfl
    cases h
  rw [Bool.eq_iff_iff]
  simp [isGapOrEnd, isSpaceOrEnd, isBreakOrEnd, isBreak_eq h, hnul, htab, or_assoc]

namespace Cursor

variable {c : Cursor}

/-! ## The rest of a text -/

theorem peek_zero {ch : Char} {cs : List Char} (h : c.rest = ch :: cs) : c.peek 0 = ch := by
  rw [peek, h, List.getD_cons_zero]

theorem peek_succ {ch : Char} {cs : List Char} (h : c.rest = ch :: cs) (n : Nat) :
    c.peek (n + 1) = cs.getD n '\x00' := by
  rw [peek, h, List.getD_cons_succ]

theorem peek_nil (h : c.rest = []) (n : Nat) : c.peek n = '\x00' := by
  rw [peek, h, List.getD_nil]

theorem next_rest (c : Cursor) : c.next.rest = c.rest.tail := by
  rw [next.eq_def]
  split
  · next h => rw [h, List.tail_nil]
  · next h =>
      rw [h, List.tail_cons]
      split <;> rfl

theorem advance_rest (n : Nat) (c : Cursor) : (c.advance n).rest = c.rest.drop n := by
  induction n generalizing c with
  | zero => rfl
  | succ n ih => rw [advance, ih, next_rest, List.drop_tail]

theorem skip_rest (p : Char → Bool) (c : Cursor) : (c.skip p).rest = c.rest.dropWhile p := by
  rw [skip, span, advance_rest]
  induction c.rest with
  | nil => rfl
  | cons ch cs ih =>
      rw [List.takeWhile_cons, List.dropWhile_cons]
      split
      · exact ih
      · rfl

/-! ## Lines -/

/-- A cursor has moved on to another one without leaving its line. -/
structure SameLine (c d : Cursor) : Prop where
  line : d.line = c.line
  place : d.index + d.rest.length = c.index + c.rest.length

namespace SameLine

theorem refl (c : Cursor) : SameLine c c := ⟨rfl, rfl⟩

theorem trans {d e : Cursor} (h : SameLine c d) (h' : SameLine d e) : SameLine c e :=
  ⟨h'.line.trans h.line, h'.place.trans h.place⟩

theorem next {ch : Char} {cs : List Char} (h : c.rest = ch :: cs) (hb : isBreak ch = false) :
    SameLine c c.next := by
  have hr : (ch == '\r') = false := by
    rw [beq_eq_false_iff_ne]
    rintro rfl
    cases hb
  rw [Cursor.next.eq_def, h]
  simp only [hb, hr, Bool.false_and, Bool.or_self, if_neg Bool.false_ne_true]
  refine ⟨rfl, ?_⟩
  simp only [h, List.length_cons]
  omega

theorem advance {n : Nat} (hn : n ≤ c.rest.length)
    (h : ∀ ch ∈ c.rest.take n, isBreak ch = false) : SameLine c (c.advance n) := by
  induction n generalizing c with
  | zero => exact .refl c
  | succ n ih =>
      rcases hr : c.rest with _ | ⟨ch, cs⟩
      · rw [hr] at hn
        cases hn
      · have hn' : n ≤ c.next.rest.length := by
          rw [next_rest, hr]
          rw [hr] at hn
          exact Nat.le_of_succ_le_succ hn
        rw [hr, List.take_succ_cons] at h
        refine (SameLine.next hr (h ch List.mem_cons_self)).trans (ih hn' fun d hd => ?_)
        rw [next_rest, hr] at hd
        exact h d (List.mem_cons_of_mem _ hd)

theorem skip {p : Char → Bool} (h : ∀ ch, p ch = true → isBreak ch = false) (c : Cursor) :
    SameLine c (c.skip p) := by
  have hprefix : c.rest.takeWhile p <+: c.rest := List.takeWhile_prefix p
  refine advance hprefix.length_le fun ch hch => h ch ?_
  rw [← List.prefix_iff_eq_take.1 hprefix] at hch
  exact List.all_eq_true.1 List.all_takeWhile ch hch

end SameLine

/-! ## Gaps -/

theorem lineBreak_rest {ch : Char} {cs : List Char} (h : c.rest = ch :: cs)
    (hch : ch = '\n' ∨ ch = '\r') : c.lineBreak.2.rest <:+ cs ∧
      skipSpace c.lineBreak.2.rest = skipSpace c.rest := by
  have hpeek := peek_zero h
  rcases hch with rfl | rfl
  · have hb : c.lineBreak.2 = c.next := by simp [lineBreak, hpeek]
    rw [hb, next_rest, h]
    exact ⟨List.suffix_refl _, rfl⟩
  · by_cases hn : c.peek 1 = '\n'
    · have hb : c.lineBreak.2 = c.advance 2 := by simp [lineBreak, hpeek, hn]
      rw [peek_succ h] at hn
      rcases cs with _ | ⟨d, ds⟩
      · cases hn
      · rw [List.getD_cons_zero] at hn
        subst hn
        rw [hb, advance_rest, h]
        exact ⟨List.suffix_cons _ _, rfl⟩
    · have hb : c.lineBreak.2 = c.next := by simp [lineBreak, hpeek, hn]
      rw [hb, next_rest, h]
      exact ⟨List.suffix_refl _, rfl⟩

/-- Behind spaces stands a line end, or the gap is over. -/
theorem skip_space_cases (hc : ∀ ch ∈ c.rest, isPortableChar ch = true) :
    (isBreak ((c.skip (· == ' ')).peek 0) = false ∧
      (c.skip (· == ' ')).rest = skipSpace c.rest) ∨
    ∃ ch cs, (ch = '\n' ∨ ch = '\r') ∧ (c.skip (· == ' ')).rest = ch :: cs := by
  have hskip := Json.skipSpace_dropWhile c.rest
  have hhead := List.head?_dropWhile_not (· == ' ') c.rest
  rw [← skip_rest (· == ' ') c] at hskip hhead
  have hsuffix : (c.skip (· == ' ')).rest <:+ c.rest := by
    rw [skip_rest]
    exact List.dropWhile_suffix _
  rcases hr : (c.skip (· == ' ')).rest with _ | ⟨ch, cs⟩
  · rw [hr] at hskip
    exact Or.inl ⟨by rw [peek_nil hr]; rfl, hskip⟩
  · rw [hr] at hskip hhead hsuffix
    have hport := hc ch (hsuffix.subset List.mem_cons_self)
    have hspace : ch ≠ ' ' := by simpa using hhead
    have htab : ch ≠ '\t' := by
      rintro rfl
      cases hport
    by_cases hbreak : ch = '\n' ∨ ch = '\r'
    · exact Or.inr ⟨ch, cs, hbreak, rfl⟩
    · rw [not_or] at hbreak
      refine Or.inl ⟨?_, ?_⟩
      · rw [peek_zero hr, isBreak_eq hport]
        simpa using hbreak
      · rw [← hskip, Json.skipSpace_eq_self]
        intro d hd
        cases hd
        simpa using ⟨hspace, htab, hbreak⟩

/-- A gap that holds no line end is passed over without leaving the line. -/
theorem skipToToken_spaces (fuel : Nat) (hb : isBreak ((c.skip (· == ' ')).peek 0) = false)
    (hh : (c.skip (· == ' ')).peek 0 ≠ '#') :
    skipToToken (fuel + 1) c = (false, c.skip (· == ' ')) := by
  have hh' : ((c.skip (· == ' ')).peek 0 == '#') = false := beq_false_of_ne hh
  simp only [skipToToken, hh', hb, if_neg Bool.false_ne_true]

/-- A scanner passes over the white space in front of a token. -/
theorem skipToToken_rest {fuel : Nat} (hf : c.rest.length < fuel)
    (hc : ∀ ch ∈ c.rest, isPortableChar ch = true) (hh : (skipSpace c.rest).head? ≠ some '#') :
    (skipToToken fuel c).2.rest = skipSpace c.rest := by
  induction fuel generalizing c with
  | zero => cases hf
  | succ fuel ih =>
      have hsuffix : (c.skip (· == ' ')).rest <:+ c.rest := by
        rw [skip_rest]
        exact List.dropWhile_suffix _
      rcases skip_space_cases hc with ⟨hb, hrest⟩ | ⟨ch, cs, hch, hrest⟩
      · have hhash : (c.skip (· == ' ')).peek 0 ≠ '#' := by
          intro hp
          apply hh
          rw [← hrest]
          rcases hr : (c.skip (· == ' ')).rest with _ | ⟨d, ds⟩
          · rw [peek_nil hr] at hp
            cases hp
          · rw [peek_zero hr] at hp
            rw [hp]
            rfl
        rw [skipToToken_spaces fuel hb hhash, hrest]
      · obtain ⟨hline, hskip⟩ := lineBreak_rest hrest hch
        have hhash : ((c.skip (· == ' ')).peek 0 == '#') = false := by
          rw [peek_zero hrest]
          rcases hch with rfl | rfl <;> rfl
        have hbreak : isBreak ((c.skip (· == ' ')).peek 0) = true := by
          rw [peek_zero hrest]
          rcases hch with rfl | rfl <;> rfl
        rw [hrest] at hsuffix hskip
        have hlength := hsuffix.length_le
        rw [List.length_cons] at hlength
        have hsub : (c.skip (· == ' ')).lineBreak.2.rest <:+ c.rest :=
          hline.trans ((List.suffix_cons ch cs).trans hsuffix)
        have hgap : skipSpace (c.skip (· == ' ')).lineBreak.2.rest = skipSpace c.rest := by
          rw [hskip, ← hrest, skip_rest, Json.skipSpace_dropWhile]
        simp only [skipToToken, hhash, hbreak, if_neg Bool.false_ne_true, if_true]
        rw [← hgap]
        refine ih ?_ (fun d hd => hc d (hsub.subset hd)) (by rw [hgap]; exact hh)
        have := hline.length_le
        omega

end Cursor

end Yaml

end AppCatalog
