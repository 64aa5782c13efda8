import AppCatalog.Proofs.Assoc
import AppCatalog.Proofs.Text.Lines
import AppCatalog.Properties.Listing
import Mathlib.Data.Bool.AllAny

/-!
# Texts put together

A text is complete if nothing that is put behind it can belong to its last line: the line is ended,
and it does not go on. The logical lines of a complete text and of any other behind it are those of
the two (`logicalLines_append`), so that a listing is read from them as the listing of the first,
updated with that of the second, and blank lines and comments between the two make no difference
(`Listing.parse_append`).
-/

namespace AppCatalog

open AppCatalog.Text

namespace Properties

/-! ## Logical lines -/

/-- Lines are joined on their own behind lines of which the last does not go on. -/
theorem joinLines_append {pending : List Char} {ls : List (List Char)} (hp : ls = [] → pending = [])
    (h : ∀ l ∈ ls.getLast?, goesOn (trimStart l) = false) (ms : List (List Char)) :
    joinLines pending (ls ++ ms) = joinLines pending ls ++ joinLines [] ms := by
  induction ls generalizing pending with
  | nil =>
      rw [hp rfl]
      rfl
  | cons l ls ih =>
      have hls : ∀ m ∈ ls.getLast?, goesOn (trimStart m) = false := by
        intro m hm
        apply h
        rw [Option.mem_def] at hm ⊢
        rw [List.getLast?_cons, hm]
        rfl
      have hnil : ls = [] → goesOn (trimStart l) = false := by
        rintro rfl
        exact h l rfl
      rw [List.cons_append]
      simp only [joinLines]
      split
      · exact ih (fun _ => rfl) hls
      · split
        · next hgoes =>
            refine ih (fun he => ?_) hls
            rw [hnil he] at hgoes
            cases hgoes
        · split
          · exact ih (fun _ => rfl) hls
          · rw [ih (fun _ => rfl) hls, List.cons_append]

theorem joinLines_of_skipped {ls : List (List Char)}
    (h : ∀ l ∈ ls, isSkipped (trimStart l) = true) (ms : List (List Char)) :
    joinLines [] (ls ++ ms) = joinLines [] ms := by
  induction ls with
  | nil => rfl
  | cons l ls ih =>
      rw [List.cons_append, joinLines, h l List.mem_cons_self]
      exact ih fun m hm => h m (List.mem_cons_of_mem l hm)

/-- A text that is empty, or that ends in a line end behind a line that does not go on. -/
structure IsComplete (text : List Char) : Prop where
  endsLine : EndsLine text
  stops : ∀ l ∈ (lines text).getLast?, goesOn (trimStart l) = false

/-- The logical lines of a complete text stand in front of those of what follows. -/
theorem logicalLines_append {front : List Char} (h : IsComplete front) (rest : List Char) :
    logicalLines (front ++ rest) = logicalLines front ++ logicalLines rest := by
  obtain ⟨r, hr, he⟩ := lines_append_of_endsLine h.endsLine rest
  have hrest : logicalLines rest = logicalLines r := by
    rcases hr with rfl | rfl
    · rfl
    · exact logicalLines_newline r
  rw [hrest, logicalLines, he]
  exact joinLines_append (fun _ => rfl) h.stops (lines r)

/-- A line that holds blanks only or, behind blanks, a comment. -/
inductive IsIgnored : List Char → Prop
  | blank {l : List Char} (h : ∀ c ∈ l, isBlank c = true) : IsIgnored l
  | comment {front rest : List Char} {mark : Char} (h : ∀ c ∈ front, isBlank c = true)
    (hm : mark = '#' ∨ mark = '!') : IsIgnored (front ++ mark :: rest)

theorem IsIgnored.isSkipped {l : List Char} (h : IsIgnored l) :
    isSkipped (trimStart l) = true := by
  cases h with
  | blank h =>
      rw [← List.append_nil l, trimStart_append_of_blank h]
      rfl
  | comment h hm =>
      rw [trimStart_append_of_blank h]
      rcases hm with rfl | rfl
      · rfl
      · rfl

/-- Blank lines and comments, each with its line end. A comment may end in a backslash: it never goes
on. -/
structure IsFiller (text : List Char) : Prop where
  endsLine : EndsLine text
  ignored : ∀ l ∈ lines text, IsIgnored l

/-- Blank lines and comments in front of a text leave its logical lines as they are. -/
theorem logicalLines_filler {filler : List Char} (h : IsFiller filler) (rest : List Char) :
    logicalLines (filler ++ rest) = logicalLines rest := by
  obtain ⟨r, hr, he⟩ := lines_append_of_endsLine h.endsLine rest
  rw [logicalLines, he, joinLines_of_skipped fun l hl => (h.ignored l hl).isSkipped]
  rcases hr with rfl | rfl
  · rfl
  · exact (logicalLines_newline r).symm

end Properties

namespace Listing

open AppCatalog.Properties

theorem entries_append {front : List Char} (h : IsComplete front) (rest : List Char) :
    entries (front ++ rest) = entries front ++ entries rest := by
  rw [entries, logicalLines_append h, List.map_append]
  rfl

/-- A text behind a complete one is read as if it stood alone: the listing of the first is updated
with that of the second, so that a repeated key keeps its first place and takes its last value. Blank
lines and comments between the two texts make no difference, whichever line ends meet there. -/
theorem parse_append {front : List Char} (h : IsComplete front) (rest : List Char) :
    parse (front ++ rest) = Assoc.update (parse front) (parse rest) ∧
    Assoc.keys (parse (front ++ rest)) = Assoc.keys (parse front) ++
      ((Assoc.keys (parse rest)).filter fun key => !Assoc.contains key (parse front)) ∧
    (∀ key, Assoc.get? key (parse (front ++ rest)) =
      (Assoc.get? key (parse rest)).or (Assoc.get? key (parse front))) ∧
    ∀ filler, IsFiller filler → parse (front ++ filler ++ rest) = parse (front ++ rest) := by
  have hupdate : parse (front ++ rest) = Assoc.update (parse front) (parse rest) := by
    rw [parse, entries_append h, Assoc.ofPairs_append]
    rfl
  have hnodup : (Assoc.keys (parse rest)).Nodup := Assoc.nodup_keys_ofPairs _
  refine ⟨hupdate, ?_, fun key => ?_, fun filler hf => ?_⟩
  · rw [hupdate, Assoc.keys_update hnodup]
  · rw [hupdate, Assoc.get?_update hnodup]
  · rw [List.append_assoc, parse, parse, entries, entries, logicalLines_append h,
      logicalLines_append h, logicalLines_filler hf]

theorem parse_append_at_line_feed :
    let front := "a = 1\r".toList
    let filler := "\n \t\n! none \\\r".toList
    let rest := "\nb = 2 \\\n # too\na : 3".toList
    (IsComplete front ∧ IsFiller filler) ∧
      parse (front ++ filler ++ rest) = [("a".toList, "3".toList), ("b".toList, "2 # too".toList)] := by
  intro front filler rest
  have hfront : IsComplete front := ⟨forall_mem_of_all (by decide), forall_mem_of_all (by decide)⟩
  have hfiller : IsFiller filler := by
    have hlines : lines filler = [[], " \t".toList, "! none \\".toList] := by decide
    refine ⟨forall_mem_of_all (by decide), fun l hl => ?_⟩
    rw [hlines] at hl
    simp only [List.mem_cons, List.not_mem_nil, or_false] at hl
    rcases hl with rfl | rfl | rfl
    · exact .blank (List.forall_mem_nil _)
    · exact .blank (List.all_iff_forall_prop.1 (by decide))
    · exact .comment (List.forall_mem_nil _) (Or.inr rfl)
  refine ⟨⟨hfront, hfiller⟩, ?_⟩
  rw [(parse_append hfront rest).2.2.2 filler hfiller, (parse_append hfront rest).1]
  decide

end Listing

end AppCatalog
