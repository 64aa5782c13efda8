import AppCatalog.Proofs.Json.RoundTrip
import AppCatalog.Text.Utf8
import Mathlib.Data.List.TakeWhile

/-!
# JSON text that breaks off

A file that was written only in part holds a text that breaks off before its end (`IsCut`). What is
left of the text of null, of a string, or of an object is never the text of some other value: the
reader finds no closing mark and refuses it as malformed (`read_cut_pretty`). `Unfinished` says this
of a value that stands somewhere inside a text, together with the fact that its text is ASCII, so
that breaking off the bytes is breaking off the characters.
-/

namespace AppCatalog

open AppCatalog.Text

/-- A list that goes on as another one does and ends before it. -/
def IsCut {α : Type} (p s : List α) : Prop := ∃ c rest, s = p ++ c :: rest

namespace IsCut

variable {α : Type} {p s : List α}

theorem not_nil : ¬ IsCut p [] := by
  rintro ⟨c, rest, h⟩
  exact List.cons_ne_nil c rest (List.append_eq_nil_iff.1 h.symm).2

theorem take {n : Nat} (h : n < s.length) : IsCut (s.take n) s :=
  ⟨s[n], s.drop (n + 1), by rw [← List.drop_eq_getElem_cons h, List.take_append_drop]⟩

theorem cons_iff {c : α} : IsCut p (c :: s) ↔ p = [] ∨ ∃ q, p = c :: q ∧ IsCut q s := by
  constructor
  · rintro ⟨d, rest, h⟩
    cases p with
    | nil => exact Or.inl rfl
    | cons b q =>
        obtain ⟨rfl, hs⟩ := List.cons.inj h
        exact Or.inr ⟨q, rfl, d, rest, hs⟩
  · rintro (rfl | ⟨q, rfl, d, rest, rfl⟩)
    · exact ⟨c, s, rfl⟩
    · exact ⟨d, rest, rfl⟩

/-- A cut of two texts goes through the first one or through the second one. -/
theorem append_iff {a b : List α} :
    IsCut p (a ++ b) ↔ IsCut p a ∨ ∃ q, p = a ++ q ∧ IsCut q b := by
  induction a generalizing p with
  | nil =>
      rw [List.nil_append, or_iff_right not_nil]
      exact ⟨fun h => ⟨p, rfl, h⟩, fun ⟨q, hq, h⟩ => hq ▸ h⟩
  | cons c a ih =>
      rw [List.cons_append, cons_iff, cons_iff, or_assoc]
      refine or_congr_right ?_
      constructor
      · rintro ⟨q, rfl, hq⟩
        rcases ih.1 hq with h | ⟨r, rfl, hr⟩
        · exact Or.inl ⟨q, rfl, h⟩
        · exact Or.inr ⟨r, rfl, hr⟩
      · rintro (⟨q, rfl, h⟩ | ⟨r, rfl, hr⟩)
        · exact ⟨q, rfl, ih.2 (Or.inl h)⟩
        · exact ⟨a ++ r, rfl, ih.2 (Or.inr ⟨r, rfl, hr⟩)⟩

theorem singleton_iff {c : α} : IsCut p [c] ↔ p = [] := by
  rw [cons_iff]
  exact or_iff_left fun ⟨_, _, h⟩ => not_nil h

end IsCut

namespace Json

/-! ## Strings -/

/-- A string whose text breaks off within an escape is not read. -/
theorem readUnits_cut_escapedUnit {u : Nat} {p : List Char}
    (h : IsCut p ('\\' :: 'u' :: hexDigits 4 u)) : readUnits p = none := by
  rw [hexDigits_four] at h
  simp only [IsCut.cons_iff, IsCut.not_nil, and_false, exists_false, or_false] at h
  rcases h with rfl | ⟨_, rfl, rfl | ⟨_, rfl, rfl | ⟨_, rfl, rfl | ⟨_, rfl, rfl | ⟨_, rfl, rfl⟩⟩⟩⟩⟩
    <;> simp [readUnits]

theorem readUnits_cut_escapedUnits {us : List Nat} (hu : ∀ u ∈ us, u < 0x10000) {p : List Char}
    (h : IsCut p (us.flatMap fun u => '\\' :: 'u' :: hexDigits 4 u)) : readUnits p = none := by
  induction us generalizing p with
  | nil => exact absurd h IsCut.not_nil
  | cons u us ih =>
      rw [List.flatMap_cons, IsCut.append_iff] at h
      rcases h with h | ⟨q, rfl, hq⟩
      · exact readUnits_cut_escapedUnit h
      · rw [readUnits_escapedUnit (hu u List.mem_cons_self),
          ih (fun v hv => hu v (List.mem_cons_of_mem u hv)) hq]
        rfl

theorem escapeChar_cases (c : Char) :
    (∃ d : Char, d.toNat < 0x80 ∧ escapeChar c = ['\\', d]) ∨
      (c.toNat < 0x80 ∧ escapeChar c = [c]) ∨
      escapeChar c = (unitsOf c).flatMap fun u => '\\' :: 'u' :: hexDigits 4 u := by
  unfold escapeChar
  by_cases hshort : c ∈ ['"', '\\', '\n', '\r', '\t', '\x0c', '\x08']
  · left
    simp only [List.mem_cons, List.not_mem_nil, or_false] at hshort
    rcases hshort with rfl | rfl | rfl | rfl | rfl | rfl | rfl
    all_goals exact ⟨_, by decide, rfl⟩
  · right
    simp only [List.mem_cons, List.not_mem_nil, or_false, not_or] at hshort
    obtain ⟨hq, hb, hn, hr, ht, hf, h8⟩ := hshort
    simp only [if_neg hq, if_neg hb, if_neg hn, if_neg hr, if_neg ht, if_neg hf, if_neg h8]
    split
    · next hp =>
        simp only [Bool.and_eq_true, decide_eq_true_eq] at hp
        exact Or.inl ⟨by omega, rfl⟩
    · exact Or.inr rfl

theorem readUnits_cut_escapeChar {c : Char} {p : List Char} (h : IsCut p (escapeChar c)) :
    readUnits p = none := by
  rcases escapeChar_cases c with ⟨d, -, he⟩ | ⟨-, he⟩ | he
  · rw [he, IsCut.cons_iff] at h
    rcases h with rfl | ⟨q, rfl, hq⟩
    · rfl
    · rw [IsCut.singleton_iff.1 hq]
      simp [readUnits]
  · rw [he] at h
    rw [IsCut.singleton_iff.1 h]
    rfl
  · rw [he] at h
    exact readUnits_cut_escapedUnits (fun u hu => unitsOf_lt hu) h

/-- A string whose text breaks off before its closing quotation mark is not read. -/
theorem readString_cut {cs p : List Char} (h : IsCut p (cs.flatMap escapeChar ++ ['"'])) :
    (readString p : Option (String × List Char)) = none := by
  have hunits : readUnits p = none := by
    induction cs generalizing p with
    | nil =>
        rw [List.flatMap_nil, List.nil_append, IsCut.singleton_iff] at h
        rw [h]
        rfl
    | cons c cs ih =>
        rw [List.flatMap_cons, List.append_assoc, IsCut.append_iff] at h
        rcases h with h | ⟨q, rfl, hq⟩
        · exact readUnits_cut_escapeChar h
        · rw [readUnits_escapeChar, ih hq]
          rfl
  rw [readString, hunits]
  rfl

/-! ## White space -/

theorem skipSpace_cut_newline {level : Nat} {p : List Char} (h : IsCut p (newline level)) :
    skipSpace p = [] := by
  have hblank : ∀ c ∈ p, (c == ' ' || c == '\t' || c == '\n' || c == '\r') = true := by
    obtain ⟨d, rest, hp⟩ := h
    intro c hc
    have hm : c ∈ newline level := by
      rw [hp]
      exact List.mem_append_left _ hc
    rw [newline, List.mem_cons, List.mem_replicate] at hm
    rcases hm with rfl | ⟨-, rfl⟩
    · rfl
    · rfl
  rw [skipSpace, List.dropWhile_eq_nil_iff]
  exact hblank

/-- What begins with no white space does not do so when it breaks off. -/
theorem skipSpace_cut {p s : List Char} (hs : skipSpace s = s) (h : IsCut p s) :
    skipSpace p = p := by
  obtain ⟨d, rest, rfl⟩ := h
  cases p with
  | nil => rfl
  | cons c p =>
      rw [skipSpace, List.dropWhile_eq_self_iff] at hs ⊢
      exact fun _ => hs (Nat.succ_pos _)

/-! ## Values -/

/-- The text of a value at a level is ASCII, and a reader with some limits finds it malformed if it
breaks off. -/
structure Unfinished (l : Limits) (level : Nat) (v : Json) : Prop where
  ascii : ∀ c ∈ prettyAt level v, c.toNat < 0x80
  cut : ∀ {p : List Char} {fuel : Nat}, IsCut p (prettyAt level v) → p.length < fuel →
    (readValue l fuel p : Except Fault (Json × List Char)) = .error .malformed

variable {l l' : Limits}

theorem readValue_nil (l : Limits) (fuel : Nat) :
    (readValue l fuel [] : Except Fault (Json × List Char)) = .error .malformed := by
  cases fuel with
  | zero => rfl
  | succ fuel => rfl

theorem escapeChar_ascii {c d : Char} (h : d ∈ escapeChar c) : d.toNat < 0x80 := by
  rcases escapeChar_cases c with ⟨e, hascii, he⟩ | ⟨hascii, he⟩ | he
  · rw [he, List.mem_cons, List.mem_singleton] at h
    rcases h with rfl | rfl
    · decide
    · exact hascii
  · rw [he, List.mem_singleton] at h
    rw [h]
    exact hascii
  · rw [he] at h
    obtain ⟨u, -, hd⟩ := List.mem_flatMap.1 h
    rw [List.mem_cons, List.mem_cons] at hd
    rcases hd with rfl | rfl | hd
    · decide
    · decide
    · obtain ⟨n, hn, rfl⟩ := mem_hexDigits hd
      exact Nat.lt_succ_of_lt (hexDigit_lt hn)

theorem quoted_ascii {s : String} {d : Char} (h : d ∈ quoted s) : d.toNat < 0x80 := by
  rw [quoted, List.cons_append, List.mem_cons, List.mem_append, List.mem_flatMap,
    List.mem_singleton] at h
  rcases h with rfl | ⟨c, -, hd⟩ | rfl
  · decide
  · exact escapeChar_ascii hd
  · decide

theorem newline_ascii {level : Nat} {d : Char} (h : d ∈ newline level) : d.toNat < 0x80 := by
  rw [newline, List.mem_cons, List.mem_replicate] at h
  rcases h with rfl | ⟨-, rfl⟩
  · decide
  · decide

theorem unfinished_null (l : Limits) (level : Nat) : Unfinished l level null := by
  have hp : prettyAt level null = ['n', 'u', 'l', 'l'] := rfl
  constructor
  · intro c hc
    rw [hp, List.mem_cons, List.mem_cons, List.mem_cons, List.mem_singleton] at hc
    rcases hc with rfl | rfl | rfl | rfl <;> decide
  · intro p fuel h hf
    rw [hp] at h
    obtain ⟨fuel, rfl⟩ := Nat.exists_eq_succ_of_ne_zero (Nat.ne_of_gt (Nat.zero_lt_of_lt hf))
    simp only [IsCut.cons_iff, IsCut.not_nil, and_false, exists_false, or_false] at h
    rcases h with rfl | ⟨_, rfl, rfl | ⟨_, rfl, rfl | ⟨_, rfl, rfl⟩⟩⟩
      <;> rfl

theorem unfinished_str (l : Limits) (level : Nat) (s : String) : Unfinished l level (str s) := by
  have hp : prettyAt level (str s) = '"' :: (s.toList.flatMap escapeChar ++ ['"']) := rfl
  constructor
  · exact fun c hc => quoted_ascii hc
  · intro p fuel h hf
    rw [hp, IsCut.cons_iff] at h
    obtain ⟨fuel, rfl⟩ := Nat.exists_eq_succ_of_ne_zero (Nat.ne_of_gt (Nat.zero_lt_of_lt hf))
    rcases h with rfl | ⟨q, rfl, hq⟩
    · exact readValue_nil _ _
    · simp only [readValue, readString_cut hq]

theorem readFields_nil (l : Limits) (fuel : Nat) :
    (readFields l fuel [] : Except Fault (List (String × Json) × List Char)) =
      .error .malformed := by
  cases fuel with
  | zero => rfl
  | succ fuel => rfl

/-- A field that breaks off in its name or in its value is not read. -/
theorem readFields_cut_field {level fuel : Nat} {v : Json} {k : String} (hv : ReadsBack l level v)
    (hu : Unfinished l level v) {p : List Char}
    (h : IsCut p (quoted k ++ ':' :: ' ' :: prettyAt level v)) (hf : p.length < fuel) :
    (readFields l fuel p : Except Fault (List (String × Json) × List Char)) =
      .error .malformed := by
  obtain ⟨fuel, rfl⟩ := Nat.exists_eq_succ_of_ne_zero (Nat.ne_of_gt (Nat.zero_lt_of_lt hf))
  rw [quoted, List.cons_append, List.cons_append, IsCut.cons_iff] at h
  rcases h with rfl | ⟨_, rfl, h⟩
  · exact readFields_nil _ _
  rw [IsCut.append_iff] at h
  rcases h with hq | ⟨r, rfl, hr⟩
  · simp only [readFields, readString_cut hq]
  · have hstring : ∀ r, readString (k.toList.flatMap escapeChar ++ ['"'] ++ r) = some (k, r) := by
      intro r
      rw [List.append_assoc]
      exact readString_quoted k r
    have hcolon : ∀ r, skipSpace (':' :: r) = ':' :: r := fun _ => rfl
    simp only [IsCut.cons_iff] at hr
    rcases hr with rfl | ⟨_, rfl, rfl | ⟨r, rfl, hr⟩⟩
    · simp only [readFields, hstring]
      rfl
    · have hnil : skipSpace [] = [] := rfl
      simp only [readFields, hstring, hcolon, hnil, readValue_nil]
      rfl
    · have hbegins := hv.begins []
      rw [List.append_nil] at hbegins
      have hblank : skipSpace (' ' :: r) = r := (skipSpace_cut hbegins hr : skipSpace r = r)
      have hl : r.length < fuel := by
        simp only [List.length_cons, List.length_append] at hf
        omega
      simp only [readFields, hstring, hcolon, hblank, hu.cut hr hl]
      rfl

theorem readFields_cut_prettyFields {level : Nat} (fs : List (String × Json)) :
    ∀ (k : String) (v : Json), ReadsBack l level v → Unfinished l level v →
    (∀ f ∈ fs, ReadsBack l level f.2 ∧ Unfinished l level f.2) →
    ∀ (fuel outer : Nat) (p : List Char),
      IsCut p ((quoted k ++ ':' :: ' ' :: prettyAt level v) ++ (prettyFields level fs ++
        (newline outer ++ ['}']))) →
      p.length < fuel →
      (readFields l fuel p : Except Fault (List (String × Json) × List Char)) =
        .error .malformed := by
  induction fs with
  | nil =>
      intro k v hv hu _ fuel outer p h hf
      rw [IsCut.append_iff] at h
      rcases h with h | ⟨q, rfl, hq⟩
      · exact readFields_cut_field hv hu h hf
      · obtain ⟨fuel, rfl⟩ := Nat.exists_eq_succ_of_ne_zero (Nat.ne_of_gt (Nat.zero_lt_of_lt hf))
        have hblank : skipSpace q = [] := by
          rw [prettyFields, List.nil_append, IsCut.append_iff] at hq
          rcases hq with hq | ⟨r, rfl, hr⟩
          · exact skipSpace_cut_newline hq
          · rw [IsCut.singleton_iff.1 hr, skipSpace_newline]
            rfl
        simp only [List.length_append, List.length_cons] at hf
        rw [List.append_assoc, List.cons_append, List.cons_append, readFields_field k hv (by omega),
          hblank]
  | cons f fs ih =>
      intro k v hv hu hfs fuel outer p h hf
      obtain ⟨k', v'⟩ := f
      obtain ⟨hv', hu'⟩ := hfs (k', v') List.mem_cons_self
      rw [IsCut.append_iff] at h
      rcases h with h | ⟨q, rfl, hq⟩
      · exact readFields_cut_field hv hu h hf
      · obtain ⟨fuel, rfl⟩ := Nat.exists_eq_succ_of_ne_zero (Nat.ne_of_gt (Nat.zero_lt_of_lt hf))
        have hnext : prettyFields level ((k', v') :: fs) ++ (newline outer ++ ['}']) =
            ',' :: (newline level ++ ((quoted k' ++ ':' :: ' ' :: prettyAt level v') ++
              (prettyFields level fs ++ (newline outer ++ ['}'])))) := by
          simp only [prettyFields, List.cons_append, List.append_assoc]
        simp only [List.length_append, List.length_cons] at hf
        rw [List.append_assoc, List.cons_append, List.cons_append, readFields_field k hv (by omega)]
        rw [hnext, IsCut.cons_iff] at hq
        rcases hq with rfl | ⟨_, rfl, hq⟩
        · rfl
        have hcomma : ∀ r, skipSpace (',' :: r) = ',' :: r := fun _ => rfl
        rw [IsCut.append_iff] at hq
        rcases hq with hq | ⟨r, rfl, hr⟩
        · simp only [hcomma, skipSpace_cut_newline hq, readFields_nil]
          rfl
        · have hr' : skipSpace r = r := skipSpace_cut rfl hr
          simp only [List.length_append, List.length_cons] at hf
          have hrest := ih k' v' hv' hu' (fun g hg => hfs g (List.mem_cons_of_mem _ hg)) fuel outer
            r hr (by omega)
          simp only [hcomma, skipSpace_newline, hr', hrest]
          rfl

theorem prettyFields_ascii {level : Nat} {fs : List (String × Json)}
    (h : ∀ f ∈ fs, ∀ c ∈ prettyAt level f.2, c.toNat < 0x80) {c : Char}
    (hc : c ∈ prettyFields level fs) : c.toNat < 0x80 := by
  induction fs with
  | nil => cases hc
  | cons f fs ih =>
      obtain ⟨k, v⟩ := f
      simp only [prettyFields, List.cons_append, List.append_assoc, List.mem_cons,
        List.mem_append] at hc
      rcases hc with rfl | hc | hc | rfl | rfl | hc | hc
      · decide
      · exact newline_ascii hc
      · exact quoted_ascii hc
      · decide
      · decide
      · exact h _ List.mem_cons_self c hc
      · exact ih (fun g hg => h g (List.mem_cons_of_mem _ hg)) hc

theorem unfinished_empty (hl : l.deeper? = some l') (level : Nat) :
    Unfinished l level (obj []) := by
  have hp : prettyAt level (obj []) = ['{', '}'] := rfl
  constructor
  · intro c hc
    rw [hp, List.mem_cons, List.mem_singleton] at hc
    rcases hc with rfl | rfl <;> decide
  · intro p fuel h hf
    obtain ⟨fuel, rfl⟩ := Nat.exists_eq_succ_of_ne_zero (Nat.ne_of_gt (Nat.zero_lt_of_lt hf))
    rw [hp, IsCut.cons_iff] at h
    rcases h with rfl | ⟨q, rfl, hq⟩
    · exact readValue_nil _ _
    · have hnil : skipSpace [] = [] := rfl
      rw [IsCut.singleton_iff.1 hq]
      simp only [readValue, hl, hnil, readFields_nil]
      rfl

/-- An object is malformed if its first field is, which begins with a quotation mark if it is there
at all. -/
theorem readValue_cut_fields (hl : l.deeper? = some l') {fuel : Nat} {cs r s : List Char}
    (hs : skipSpace cs = r) (hr : IsCut r ('"' :: s))
    (h : (readFields l' fuel r : Except Fault (List (String × Json) × List Char)) =
      .error .malformed) :
    (readValue l (fuel + 1) ('{' :: cs) : Except Fault (Json × List Char)) =
      .error .malformed := by
  rw [IsCut.cons_iff] at hr
  rcases hr with rfl | ⟨q, rfl, -⟩
  · simp only [readValue, hl, hs, readFields_nil]
    rfl
  · rw [readValue_quotedField hl fuel hs, h]
    rfl

/-- An object breaks off as its values do. -/
theorem unfinished_obj {level : Nat} {fs : List (String × Json)} (hl : l.deeper? = some l')
    (hfs : ∀ f ∈ fs, ReadsBack l' (level + 1) f.2 ∧ Unfinished l' (level + 1) f.2) :
    Unfinished l level (obj fs) := by
  cases fs with
  | nil => exact unfinished_empty hl level
  | cons f fs =>
      obtain ⟨k, v⟩ := f
      obtain ⟨hv, hu⟩ := hfs (k, v) List.mem_cons_self
      have hp : prettyAt level (obj ((k, v) :: fs)) = '{' :: (newline (level + 1) ++
          ((quoted k ++ ':' :: ' ' :: prettyAt (level + 1) v) ++ (prettyFields (level + 1) fs ++
            (newline level ++ ['}'])))) := by
        simp only [prettyAt, List.cons_append, List.append_assoc]
      constructor
      · intro c hc
        rw [hp] at hc
        simp only [List.cons_append, List.append_assoc, List.mem_cons, List.mem_append,
          List.not_mem_nil, or_false] at hc
        rcases hc with rfl | hc | hc | rfl | rfl | hc | hc | hc | rfl
        · decide
        · exact newline_ascii hc
        · exact quoted_ascii hc
        · decide
        · decide
        · exact hu.ascii c hc
        · exact prettyFields_ascii (fun g hg => (hfs g (List.mem_cons_of_mem _ hg)).2.ascii) hc
        · exact newline_ascii hc
        · decide
      · intro p fuel h hf
        obtain ⟨fuel, rfl⟩ := Nat.exists_eq_succ_of_ne_zero (Nat.ne_of_gt (Nat.zero_lt_of_lt hf))
        rw [hp, IsCut.cons_iff] at h
        rcases h with rfl | ⟨_, rfl, h⟩
        · exact readValue_nil _ _
        rw [IsCut.append_iff] at h
        rcases h with hq | ⟨r, rfl, hr⟩
        · simp only [readValue, hl, skipSpace_cut_newline hq, readFields_nil]
          rfl
        · have hblank : skipSpace (newline (level + 1) ++ r) = r := by
            rw [skipSpace_newline]
            exact skipSpace_cut rfl hr
          simp only [List.length_append, List.length_cons] at hf
          have hrest := readFields_cut_prettyFields fs k v hv hu
            (fun g hg => hfs g (List.mem_cons_of_mem _ hg)) fuel level r hr (by omega)
          rw [quoted, List.cons_append, List.cons_append, List.cons_append] at hr
          exact readValue_cut_fields hl hblank hr hrest

/-- A text that breaks off before the end of its value is malformed. -/
theorem read_cut_pretty {v : Json} (h : ReadsBack .standard 0 v) (hu : Unfinished .standard 0 v)
    {p : List Char} (hp : IsCut p (pretty v)) : (read p : Except Fault Json) = .error .malformed := by
  have hb := h.begins []
  rw [List.append_nil] at hb
  rw [read, parse, skipSpace_cut hb hp, hu.cut hp (Nat.lt_succ_self _)]
  rfl

end Json

/-! ## Bytes -/

namespace Utf8

/-- ASCII text has one byte for each character. -/
theorem encode_ascii {cs : List Char} (h : ∀ c ∈ cs, c.toNat < 0x80) :
    encode cs = cs.map fun c => UInt8.ofNat c.toNat := by
  induction cs with
  | nil => rfl
  | cons c cs ih =>
      have hc : encodeChar c = [UInt8.ofNat c.toNat] := if_pos (h c List.mem_cons_self)
      have hcs := ih fun d hd => h d (List.mem_cons_of_mem c hd)
      rw [encode] at hcs ⊢
      rw [List.flatMap_cons, hc, hcs, List.map_cons, List.singleton_append]

/-- Breaking off the bytes of an ASCII text is breaking off the text. -/
theorem take_encode {cs : List Char} (h : ∀ c ∈ cs, c.toNat < 0x80) (n : Nat) :
    (encode cs).take n = encode (cs.take n) := by
  rw [encode_ascii h, encode_ascii fun c hc => h c (List.mem_of_mem_take hc), List.map_take]

end Utf8

end AppCatalog
