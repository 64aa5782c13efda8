import AppCatalog.Proofs.Properties.RoundTrip
import Mathlib.Data.Bool.AllAny

/-!
# Separators

A key and its value are told apart by `=`, by `:`, or by blanks alone, and blanks around a separator
belong to neither. Whatever separates them (`Separates`), and whatever blanks stand in front of the
line, an entry that is readable at all is read as the same key and value (`Listing.parse_separated`):
the key has a backslash in front of every separator and blank of its own, and so has the value in
front of the first.
-/

namespace AppCatalog

open AppCatalog.Text

namespace Properties

/-- What separates a key from its value on a line: a separator with or without blanks around it, or
blanks alone. -/
inductive Separates : List Char → Prop
  | mark {front back : List Char} {c : Char} (hc : c = '=' ∨ c = ':')
    (hf : ∀ d ∈ front, isBlank d = true ∧ isLineEnd d = false)
    (hb : ∀ d ∈ back, isBlank d = true ∧ isLineEnd d = false) : Separates (front ++ c :: back)
  | blanks {s : List Char} (hne : s ≠ []) (hs : ∀ d ∈ s, isBlank d = true ∧ isLineEnd d = false) :
    Separates s

namespace Separates

variable {s : List Char} (h : Separates s)
include h

/-- Of the characters that separate, none ends the line or stands for another. -/
theorem mem : ∀ d ∈ s, isLineEnd d = false ∧ d ≠ '\\' := by
  have hblank : ∀ d, isBlank d = true ∧ isLineEnd d = false → isLineEnd d = false ∧ d ≠ '\\' := by
    rintro d ⟨hd, hl⟩
    refine ⟨hl, ?_⟩
    rintro rfl
    exact absurd hd (by decide)
  cases h with
  | mark hc hf hb =>
      intro d hd
      rcases List.mem_append.1 hd with hd | hd
      · exact hblank d (hf d hd)
      · rcases List.mem_cons.1 hd with rfl | hd
        · rcases hc with rfl | rfl <;> decide
        · exact hblank d (hb d hd)
  | blanks hne hs => exact fun d hd => hblank d (hs d hd)

theorem cuts (rest : List Char) : splitKey (s ++ rest) = ([], s ++ rest) := by
  have hhead : ∃ d r, s = d :: r ∧ (isSeparator d || isBlank d) = true := by
    cases h with
    | @mark front back c hc hf hb =>
        cases front with
        | nil =>
            refine ⟨c, back, rfl, ?_⟩
            rcases hc with rfl | rfl <;> rfl
        | cons d front =>
            exact ⟨d, _, rfl, by rw [(hf d List.mem_cons_self).1, Bool.or_true]⟩
    | blanks hne hs =>
        obtain ⟨d, r, rfl⟩ := List.exists_cons_of_ne_nil hne
        exact ⟨d, r, rfl, by rw [(hs d List.mem_cons_self).1, Bool.or_true]⟩
  obtain ⟨d, r, rfl, hd⟩ := hhead
  exact splitKey_cut (h.mem d List.mem_cons_self).2 hd (r ++ rest)

/-- A value that begins neither with a blank nor with a separator is all that is left behind what
separates it. -/
theorem valuePart_append {value : List Char}
    (hv : ∀ d ∈ value.head?, isBlank d = false ∧ isSeparator d = false) :
    valuePart (s ++ value) = value := by
  have htrim : ∀ front : List Char, (∀ d ∈ front, isBlank d = true ∧ isLineEnd d = false) →
      trimStart (front ++ value) = value := by
    intro front hf
    rw [trimStart_append_of_blank fun d hd => (hf d hd).1]
    exact trimStart_eq_self fun d hd => (hv d hd).1
  cases h with
  | @mark front back c hc hf hb =>
      have hsep : isBlank c = false ∧ isSeparator c = true := by
        rcases hc with rfl | rfl <;> decide
      rw [List.append_assoc, List.cons_append, valuePart,
        trimStart_append_of_blank fun d hd => (hf d hd).1, trimStart_cons_of_not_blank hsep.1]
      simp only [hsep.2, if_true, htrim back hb]
  | blanks hne hs =>
      rw [valuePart, htrim s hs]
      cases value with
      | nil => rfl
      | cons d ds => simp only [(hv d rfl).2, Bool.false_eq_true, if_false]

end Separates

/-! ## Blanks in front of a text -/

theorem logicalLines_cons_of_blank {c : Char} (h : isBlank c = true) (cs : List Char) :
    logicalLines (c :: cs) = logicalLines cs := by
  by_cases hl : isLineEnd c = true
  · by_cases hpair : c = '\r' ∧ ∃ r, cs = '\n' :: r
    · obtain ⟨rfl, r, rfl⟩ := hpair
      rw [logicalLines_newline, logicalLines, lines]
      rfl
    · rw [logicalLines, lines_lineEnd hl fun he r hr => hpair ⟨he, r, hr⟩]
      rfl
  · rw [Bool.not_eq_true] at hl
    rw [logicalLines, logicalLines, lines_cons hl]
    rcases lines cs with _ | ⟨l, ls⟩
    · simp only [joinLines, trimStart_cons_of_blank h]
      rfl
    · simp only [joinLines, trimStart_cons_of_blank h]

/-- Blanks in front of a text, line ends among them, leave its logical lines as they are. -/
theorem logicalLines_append_of_blank {lead : List Char} (h : ∀ c ∈ lead, isBlank c = true)
    (cs : List Char) : logicalLines (lead ++ cs) = logicalLines cs := by
  induction lead with
  | nil => rfl
  | cons c lead ih =>
      rw [List.cons_append, logicalLines_cons_of_blank (h c List.mem_cons_self),
        ih fun d hd => h d (List.mem_cons_of_mem c hd)]

/-- A line that is neither trimmed nor skipped, and does not go on, is a logical line. -/
theorem logicalLines_line {line : List Char} (hl : ∀ c ∈ line, isLineEnd c = false)
    (htrim : trimStart line = line) (hskip : isSkipped line = false) (hgoes : goesOn line = false) :
    logicalLines line = [line] := by
  have hne : line ≠ [] := by
    rintro rfl
    cases hskip
  have hlines : lines line = [line] := by
    rw [← List.append_nil line, lines_append hl hne, lines_nil, List.append_nil]
  rw [logicalLines, hlines, joinLines_eq_filter]
  · rw [List.map_singleton, htrim, List.filter_singleton, hskip]
    rfl
  · intro l hm
    rw [List.mem_singleton.1 hm, htrim]
    exact hgoes

/-! ## Lines of readable entries -/

section Readable

variable {key value : List Char} (h : Readable key value)
include h

theorem separated_not_lineEnd {s : List Char} (hs : Separates s) :
    ∀ c ∈ escapeKey key ++ (s ++ escapeValue value), isLineEnd c = false := by
  have hline := lineOf_not_lineEnd h
  intro c hc
  rcases List.mem_append.1 hc with hc | hc
  · exact hline c (List.mem_append_left _ hc)
  · rcases List.mem_append.1 hc with hc | hc
    · exact (hs.mem c hc).1
    · exact hline c (List.mem_append_right _ (List.mem_cons_of_mem _ hc))

theorem logicalLines_separated (hk : key ≠ []) {s : List Char} (hs : Separates s) :
    logicalLines (escapeKey key ++ (s ++ escapeValue value)) =
      [escapeKey key ++ (s ++ escapeValue value)] := by
  obtain ⟨htrim, hskip⟩ := escapeKey_kept h hk (s ++ escapeValue value)
  refine logicalLines_line (separated_not_lineEnd h hs) htrim hskip ?_
  rw [goesOn_append (written_escapeKey key).goesOn_eq_false,
    goesOn_append (goesOn_of_notMem fun hm => (hs.mem _ hm).2 rfl)]
  exact (written_escapeValue value).goesOn_eq_false

theorem entry_separated {s : List Char} (hs : Separates s) :
    entry (escapeKey key ++ (s ++ escapeValue value)) = (key, value) := by
  rw [entry, splitKey_readable h (hs.cuts _)]
  simp only [hs.valuePart_append (head_readable h), unescape_escapeKey, unescape_escapeValue]

end Readable

end Properties

namespace Listing

open AppCatalog.Properties

/-- A readable entry with a key is read the same however it is spelled: with `=`, `:` or blanks alone
between key and value, with any blanks around the separator, and with any in front of the line. -/
theorem parse_separated {key value lead s : List Char} (hk : key ≠ []) (h : Readable key value)
    (hl : ∀ c ∈ lead, isBlank c = true) (hs : Separates s) :
    parse (lead ++ (escapeKey key ++ (s ++ escapeValue value))) = [(key, value)] := by
  rw [parse, entries, logicalLines_append_of_blank hl, logicalLines_separated h hk hs,
    List.map_singleton, entry_separated h hs]
  rfl

theorem parse_separated_awkward :
    let key := "# k=\\".toList
    let value := ":\\v 漢".toList
    let lead := " \r\n\t".toList
    let s := "\u2003: \x1f".toList
    (key ≠ [] ∧ Readable key value ∧ (∀ c ∈ lead, isBlank c = true) ∧ Separates s) ∧
      parse (lead ++ (escapeKey key ++ (s ++ escapeValue value))) = [(key, value)] := by
  intro key value lead s
  have hk : key ≠ [] := by decide
  have h : Readable key value :=
    ⟨List.all_iff_forall_prop.1 (by decide), List.all_iff_forall_prop.1 (by decide),
      forall_mem_of_all (by decide)⟩
  have hl : ∀ c ∈ lead, isBlank c = true := List.all_iff_forall_prop.1 (by decide)
  have hs : Separates s :=
    @Separates.mark ['\u2003'] [' ', '\x1f'] ':' (Or.inr rfl)
      (List.all_iff_forall_prop.1 (by decide)) (List.all_iff_forall_prop.1 (by decide))
  exact ⟨⟨hk, h, hl, hs⟩, parse_separated hk h hl hs⟩

end Listing

end AppCatalog
