import AppCatalog.Proofs.Properties.Strict
import AppCatalog.Proofs.Text.CodePoint

/-!
# The reader in step with escape pairs

A listing is read in three passes: natural lines are joined, a logical line is divided, and the
escapes of its parts are read. The joining leaves no backslash over at the end of a logical line
(`goesOn_of_mem_logicalLines`) and the division keeps to the pieces of the line, so that the reader of
escapes never finds a backslash with nothing behind it (`Reads.ne_backslash`). What it reads are code
points, surrogates among them; once these are joined, every key and value is a text
(`Listing.parse_aligned`).
-/

namespace AppCatalog

open AppCatalog.Text

namespace Properties

/-- The code point that is read off the front of a text, and what is left of the text. -/
def readPoint : Char → List Char → Nat × List Char
  | '\\', 'u' :: a :: b :: c :: d :: cs =>
    match unitOf? [a, b, c, d] with
    | some u => (u, cs)
    | none => ('u'.toNat, a :: b :: c :: d :: cs)
  | '\\', c :: cs => ((escaped c).toNat, cs)
  | c, cs => (c.toNat, cs)

/-- The states of the reader of escapes: the code points it has read, and what is left of the text. -/
inductive Reads (cs : List Char) : List Nat → List Char → Prop
  | start : Reads cs [] cs
  | next {points : List Nat} {c : Char} {rest : List Char} (h : Reads cs points (c :: rest)) :
    Reads cs (points ++ [(readPoint c rest).1]) (readPoint c rest).2

/-- A part of a line is read to its end, in step with its escape pairs, and given as a text. -/
structure ReadsWhole (part reading : List Char) : Prop where
  even : trailingBackslashes part % 2 = 0
  inStep : ∀ points rest, Reads part points rest → rest ≠ ['\\'] ∧
    unescapeUnits part = points.flatMap pointUnits ++ unescapeUnits rest
  isText : ∃ points, Reads part points [] ∧ IsTextOf (joinSurrogates points) reading

/-- A logical line is whole, is divided between its pieces and gives a key and a value that are texts.
-/
structure IsAligned (line : List Char) (p : List Char × List Char) : Prop where
  ne_nil : line ≠ []
  even : trailingBackslashes line % 2 = 0
  whole : ['\\'] ∉ pieces line
  divides : DividesPieces line (splitKey line).1 (valuePart (splitKey line).2)
  key : ReadsWhole (splitKey line).1 p.1
  value : ReadsWhole (valuePart (splitKey line).2) p.2

/-! ## Joined lines -/

theorem goesOn_of_mem_joinLines {pending l : List Char} {ls : List (List Char)}
    (hp : goesOn pending = false) (h : l ∈ joinLines pending ls) : goesOn l = false := by
  induction ls generalizing pending with
  | nil =>
      rw [joinLines] at h
      split at h
      · cases h
      · rwa [List.mem_singleton.1 h]
  | cons raw rest ih =>
      simp only [joinLines] at h
      split at h
      · exact ih rfl h
      · split at h
        · next hgoes =>
            refine ih ?_ h
            rw [goesOn_append hp, goesOn_dropLast hgoes]
        · next hgoes =>
            have hline : goesOn (pending ++ trimStart raw) = false := by
              rw [goesOn_append hp, eq_false_of_ne_true hgoes]
            split at h
            · exact ih rfl h
            · rcases List.mem_cons.1 h with rfl | h
              · exact hline
              · exact ih rfl h

/-- A logical line does not go on: what was left over at its end has been dropped. -/
theorem goesOn_of_mem_logicalLines {text l : List Char} (h : l ∈ logicalLines text) :
    goesOn l = false :=
  goesOn_of_mem_joinLines rfl h

/-! ## One code point -/

theorem unitOf?_lt {field : List Char} (hl : field.length = 4) {u : Nat}
    (h : unitOf? field = some u) : u < 0x10000 := by
  have hlt := (readInteger?_eq_some_iff.1 (unitOf?_eq_some_iff.1 h)).natAbs_lt
  rw [asciiDigits, List.length_map, hl, Int.natAbs_natCast] at hlt
  exact hlt

theorem readPoint_lt (c : Char) (cs : List Char) : (readPoint c cs).1 < 0x110000 := by
  have hchar : ∀ d : Char, d.toNat < 0x110000 := by
    intro d
    have hd := char_toNat_lt d
    omega
  fun_cases readPoint c cs with
  | case1 a b c d cs u hu => exact Nat.lt_trans (unitOf?_lt rfl hu) (by decide)
  | case2 => exact hchar 'u'
  | case3 => exact hchar _
  | case4 => exact hchar _

theorem length_readPoint_le (c : Char) (cs : List Char) :
    (readPoint c cs).2.length ≤ cs.length := by
  fun_cases readPoint c cs with
  | case1 => simp only [List.length_cons]; omega
  | case2 => simp only [List.length_cons]; omega
  | case3 => simp only [List.length_cons]; omega
  | case4 => exact Nat.le_refl _

/-- The units of a text are those of the code points that are read off it. -/
theorem unescapeUnits_cons (c : Char) (cs : List Char) :
    unescapeUnits (c :: cs) =
      pointUnits (readPoint c cs).1 ++ unescapeUnits (readPoint c cs).2 := by
  fun_cases readPoint c cs with
  | case1 a b c d cs u hu =>
      rw [unescapeUnits, hu, pointUnits_of_lt (unitOf?_lt rfl hu)]
      rfl
  | case2 a b c d cs hu =>
      rw [unescapeUnits, hu]
      rfl
  | case3 c cs hunit =>
      rw [unescapeUnits]
      · rfl
      · exact hunit
  | case4 c cs hunit hpair =>
      rw [unescapeUnits]
      · rfl
      · exact hunit
      · exact hpair

/-- Reading a code point leaves no backslash over that was not left over before. -/
theorem goesOn_readPoint {c : Char} {cs : List Char} (h : goesOn (c :: cs) = false) :
    goesOn (readPoint c cs).2 = false := by
  fun_cases readPoint c cs with
  | case1 a b c d cs u hu =>
      -- Six characters are read at once, but no number has a backslash in it.
      have hfield : '\\' ∉ [a, b, c, d] := ((isNumeral_iff rfl).2 ⟨u, hu⟩).notMem
      rw [goesOn_pair_append] at h
      exact (goesOn_append (goesOn_of_notMem hfield) cs).symm.trans h
  | case2 a b c d cs hu =>
      rw [goesOn_pair_append] at h
      exact h
  | case3 c cs =>
      rw [goesOn_pair_append] at h
      exact h
  | case4 c cs hunit hpair =>
      rw [goesOn_cons (ne_backslash_of_not_pair h hpair)] at h
      exact h

/-! ## All code points -/

namespace Reads

variable {cs rest : List Char} {points : List Nat}

/-- The units read so far and those of what is left are the units of the text. -/
theorem unescapeUnits_eq (h : Reads cs points rest) :
    unescapeUnits cs = points.flatMap pointUnits ++ unescapeUnits rest := by
  induction h with
  | start => rfl
  | @next points c rest _ ih =>
      rw [ih, unescapeUnits_cons, List.flatMap_append, List.flatMap_singleton, List.append_assoc]

theorem lt (h : Reads cs points rest) : ∀ n ∈ points, n < 0x110000 := by
  induction h with
  | start => exact List.forall_mem_nil _
  | @next points c rest _ ih =>
      exact List.forall_mem_append.2 ⟨ih, List.forall_mem_singleton.2 (readPoint_lt c rest)⟩

theorem goesOn (h : Reads cs points rest) (hcs : goesOn cs = false) :
    Properties.goesOn rest = false := by
  induction h with
  | start => exact hcs
  | next _ ih => exact goesOn_readPoint ih

/-- Nowhere on its way does the reader find a backslash with nothing behind it. -/
theorem ne_backslash (h : Reads cs points rest) (hcs : Properties.goesOn cs = false) :
    rest ≠ ['\\'] := by
  rintro rfl
  exact absurd (h.goesOn hcs) (by decide)

/-- Whatever has been read, the rest of the text can be read to its end. -/
theorem exists_end (h : Reads cs points rest) : ∃ all, Reads cs all [] := by
  -- On what is left: a code point takes one character at least.
  generalize hn : rest.length = n
  induction n using Nat.strong_induction_on generalizing points rest with
  | _ n ih =>
      cases rest with
      | nil => exact ⟨points, h⟩
      | cons c rest =>
          have hle := length_readPoint_le c rest
          rw [List.length_cons] at hn
          exact ih _ (by omega) h.next rfl

end Reads

/-- The code points of a text, their surrogates joined, are those that it is read as. -/
theorem Reads.joinSurrogates_eq {cs : List Char} {points : List Nat} (h : Reads cs points []) :
    joinSurrogates points = (unescape cs).map Char.toNat := by
  rw [Text.joinSurrogates_eq h.lt, unescape, h.unescapeUnits_eq]
  exact congrArg (fun us => (decodeUnits us).map Char.toNat) (List.append_nil _).symm

/-- A part that does not go on is read whole. -/
theorem readsWhole {part : List Char} (h : goesOn part = false) :
    ReadsWhole part (unescape part) where
  even := goesOn_eq_false_iff.1 h
  inStep := fun _ _ hr => ⟨hr.ne_backslash h, hr.unescapeUnits_eq⟩
  isText := by
    have hstart : Reads part [] part := .start
    obtain ⟨points, hr⟩ := hstart.exists_end
    refine ⟨points, hr, ?_⟩
    rw [hr.joinSurrogates_eq]
    exact isTextOf_map_toNat (unescape part)

theorem isAligned_entry {text line : List Char} (h : line ∈ logicalLines text) :
    IsAligned line (entry line) where
  ne_nil := ne_nil_of_mem_logicalLines h
  even := goesOn_eq_false_iff.1 (goesOn_of_mem_logicalLines h)
  whole := by
    rw [lone_mem_pieces_iff, goesOn_of_mem_logicalLines h]
    exact Bool.false_ne_true
  divides := dividesPieces_splitKey (goesOn_of_mem_logicalLines h)
  key := readsWhole (goesOn_splitKey (goesOn_of_mem_logicalLines h))
  value := readsWhole (goesOn_valuePart (goesOn_of_mem_logicalLines h))

end Properties

namespace Listing

open AppCatalog.Properties

/-- Every logical line of a text holds something and ends in an even number of backslashes, no escape
pair of it is cut in two, and its parts are read without a backslash being left over. So every key and
value of the listing is a text: there is no surrogate in it, and it can be encoded. -/
theorem parse_aligned (text : List Char) :
    (∀ line ∈ logicalLines text, IsAligned line (entry line)) ∧
      ∀ p ∈ parse text, ∃ line ∈ logicalLines text, IsAligned line p := by
  refine ⟨fun line hl => isAligned_entry hl, fun p hp => ?_⟩
  obtain ⟨line, hl, rfl⟩ := List.mem_map.1 (Assoc.mem_of_mem_ofPairs hp)
  exact ⟨line, hl, isAligned_entry hl⟩

/-- A surrogate in front of a character beyond the first plane does not take half of it. -/
theorem parse_aligned_surrogates :
    let text := "k\\\\\\\n  \\ud83d😀=\\ud83d\\ude00\\ud800\\".toList
    let line := "k\\\\\\ud83d😀=\\ud83d\\ude00\\ud800".toList
    let key := "k\\\ufffd😀".toList
    let value := "😀\ufffd".toList
    line ∈ logicalLines text ∧ IsAligned line (entry line) ∧ parse text = [(key, value)] ∧
      ∃ line ∈ logicalLines text, IsAligned line (key, value) := by
  intro text line key value
  have hline : line ∈ logicalLines text := by decide
  have hparse : parse text = [(key, value)] := by decide
  refine ⟨hline, (parse_aligned text).1 line hline, hparse, ?_⟩
  exact (parse_aligned text).2 (key, value) (hparse ▸ List.mem_singleton_self _)

end Listing

end AppCatalog
