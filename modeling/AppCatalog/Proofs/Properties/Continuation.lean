import AppCatalog.Proofs.Text.Lines
import AppCatalog.Properties.Listing
import Mathlib.Data.Bool.AllAny
import Mathlib.Data.List.TakeWhile
import Mathlib.Logic.Relation

/-!
# Lines broken with a backslash

A line may be broken in two with a backslash and a line feed, and what is left of it may be indented.
`CanBreak` says where: behind something that is neither blank nor a comment, not between a backslash
and what it stands in front of, and not in front of a blank, which would be lost with the indentation.
Wherever the line stands, the pieces are joined to the line that it was, so that a listing can be
broken at any number of places and reads as before (`Listing.parse_of_breaks`).
-/

namespace AppCatalog

open AppCatalog.Text

namespace Properties

/-- A line can be broken between `left` and `right`, and `right` be indented. -/
structure CanBreak (left indent right : List Char) : Prop where
  inLine : ∀ c ∈ left ++ right, isLineEnd c = false
  notBlank : ∃ c ∈ left, isBlank c = false
  notComment : ∀ c ∈ (trimStart left).head?, c ≠ '#' ∧ c ≠ '!'
  even : trailingBackslashes left % 2 = 0
  notIndented : ∀ c ∈ right.head?, isBlank c = false
  indent : ∀ c ∈ indent, isBlank c = true ∧ isLineEnd c = false

/-- A text and the same with one of its lines broken. -/
inductive Breaks : List Char → List Char → Prop
  | line {front left indent right rest : List Char} (hf : EndsLine front)
    (h : CanBreak left indent right) (hr : ∀ c ∈ rest.head?, isLineEnd c = true) :
    Breaks (front ++ (left ++ right ++ rest))
      (front ++ (left ++ '\\' :: '\n' :: (indent ++ right ++ rest)))

/-! ## Joining -/

theorem joinLines_congr {ms ns : List (List Char)}
    (h : ∀ pending, joinLines pending ms = joinLines pending ns) (ls : List (List Char))
    (pending : List Char) : joinLines pending (ls ++ ms) = joinLines pending (ls ++ ns) := by
  induction ls generalizing pending with
  | nil => exact h pending
  | cons l ls ih =>
      rw [List.cons_append, List.cons_append]
      simp only [joinLines, ih]

theorem joinLines_indent {indent : List Char} (h : ∀ c ∈ indent, isBlank c = true)
    (pending right : List Char) (ls : List (List Char)) :
    joinLines pending ((indent ++ right) :: ls) = joinLines pending (right :: ls) := by
  simp only [joinLines, trimStart_append_of_blank h]

namespace CanBreak

variable {left indent right : List Char} (h : CanBreak left indent right)
include h

theorem trimStart_ne_nil : trimStart left ≠ [] := by
  obtain ⟨c, hc, hb⟩ := h.notBlank
  intro he
  rw [List.dropWhile_eq_nil_iff.1 he c hc] at hb
  cases hb

theorem append_ne_nil (pending : List Char) : pending ++ trimStart left ≠ [] := by
  intro he
  exact h.trimStart_ne_nil (List.append_eq_nil_iff.1 he).2

theorem trimStart_append (cs : List Char) : trimStart (left ++ cs) = trimStart left ++ cs := by
  rw [trimStart, List.dropWhile_append, if_neg]
  · rfl
  · rw [List.isEmpty_iff]
    exact h.trimStart_ne_nil

theorem isSkipped_append (cs : List Char) : isSkipped (trimStart left ++ cs) = false := by
  obtain ⟨c, r, hc⟩ := List.exists_cons_of_ne_nil h.trimStart_ne_nil
  have hmark := h.notComment c (by rw [hc]; rfl)
  rw [hc, List.cons_append, isSkipped, beq_false_of_ne hmark.1, beq_false_of_ne hmark.2]
  rfl

/-- The two parts of a line are joined as if there were two lines of which the first goes on. -/
theorem joinLines_parts {cs : List Char} (hcs : ∀ c ∈ cs.head?, isBlank c = false)
    (pending : List Char) (ls : List (List Char)) :
    joinLines pending ((left ++ cs) :: ls) = joinLines (pending ++ trimStart left) (cs :: ls) := by
  have heven : goesOn (trimStart left) = false := by
    rw [goesOn_trimStart, goesOn_eq_false_iff]
    exact h.even
  simp only [joinLines, h.trimStart_append, h.isSkipped_append, trimStart_eq_self hcs,
    goesOn_append heven, h.append_ne_nil, Bool.and_false, decide_false, Bool.false_and,
    Bool.false_eq_true, if_false]
  split
  · next hgoes =>
      have hcs : cs ≠ [] := by
        rintro rfl
        cases hgoes
      rw [List.dropLast_append_of_ne_nil hcs, List.append_assoc]
  · rw [List.append_assoc]

theorem joinLines_backslash (pending : List Char) (ls : List (List Char)) :
    joinLines pending ((left ++ ['\\']) :: ls) = joinLines (pending ++ trimStart left) ls := by
  have hslash : trimStart ['\\'] = ['\\'] := rfl
  have hgoes : goesOn ['\\'] = true := rfl
  rw [h.joinLines_parts (forall_mem_of_all (by decide))]
  simp only [joinLines, hslash, hgoes, h.append_ne_nil, decide_false, Bool.false_and,
    Bool.false_eq_true, if_false, if_true, List.dropLast_singleton, List.append_nil]

/-- What is left of a line is joined to what is pending of it, indented or not. -/
theorem joinLines_rest {rest : List Char} (hr : ∀ c ∈ rest.head?, isLineEnd c = true)
    {pending : List Char} (hp : pending ≠ []) :
    joinLines pending (lines (indent ++ right ++ rest)) =
      joinLines pending (right :: (lines rest).tail) := by
  have hinLine : ∀ c ∈ indent ++ right, isLineEnd c = false := by
    intro c hc
    rcases List.mem_append.1 hc with hc | hc
    · exact (h.indent c hc).2
    · exact h.inLine c (List.mem_append_right left hc)
  by_cases hne : indent ++ right = []
  · -- Nothing is left of the line: what follows is its line end, or nothing at all.
    rw [hne, (List.append_eq_nil_iff.1 hne).2, List.nil_append]
    cases rest with
    | nil =>
        simp only [lines_nil, List.tail_nil, joinLines, hp, trimStart_nil, decide_false,
          Bool.false_and, Bool.false_eq_true, if_false, List.append_nil]
        rfl
    | cons c cs => rw [← lines_cons_lineEnd (hr c rfl)]
  · rw [lines_append_lineEnd hinLine hne hr]
    exact joinLines_indent (fun c hc => (h.indent c hc).1) pending right _

end CanBreak

/-- The pieces of a broken line are joined to the line that it was. -/
theorem Breaks.logicalLines_eq {text broken : List Char} (h : Breaks text broken) :
    logicalLines broken = logicalLines text := by
  cases h with
  | @line front left indent right rest hf h hr =>
      obtain ⟨c, hc, -⟩ := h.notBlank
      obtain ⟨d, ds, rfl⟩ := List.exists_cons_of_ne_nil (List.ne_nil_of_mem hc)
      have hd : isLineEnd d = false := h.inLine d (by simp)
      have hleft : ∀ c ∈ d :: ds ++ ['\\'], isLineEnd c = false := by
        intro c hc
        rcases List.mem_append.1 hc with hc | hc
        · exact h.inLine c (List.mem_append_left right hc)
        · rw [List.mem_singleton.1 hc]
          decide
      have hbroken : lines (d :: ds ++ '\\' :: '\n' :: (indent ++ right ++ rest)) =
          (d :: ds ++ ['\\']) :: lines (indent ++ right ++ rest) := by
        rw [List.append_cons, lines_line hleft]
      have hwhole : lines (d :: ds ++ right ++ rest) =
          (d :: ds ++ right) :: (lines rest).tail :=
        lines_append_lineEnd h.inLine (List.cons_ne_nil _ _) hr
      rw [logicalLines, logicalLines, lines_append_of_head hf (by simpa using hd),
        lines_append_of_head hf (by simpa using hd), hbroken, hwhole]
      refine joinLines_congr (fun pending => ?_) _ _
      rw [h.joinLines_backslash, h.joinLines_rest hr (h.append_ne_nil pending),
        h.joinLines_parts h.notIndented]

end Properties

namespace Listing

open AppCatalog.Properties

/-- However often the lines of a text are broken, in the text as it is or in pieces that have been
broken before, its listing stays the same. -/
theorem parse_of_breaks {text broken : List Char} (h : Relation.ReflTransGen Breaks text broken) :
    parse broken = parse text := by
  induction h with
  | refl => rfl
  | tail _ h ih => rw [← ih, parse, parse, entries, entries, h.logicalLines_eq]

theorem parse_of_breaks_twice :
    let text := "a\\\r\n key\\\\= #v\\\n w".toList
    let broken := "a\\\r\n ke\\\n\ty\\\\\\\n = #v\\\n w".toList
    Relation.ReflTransGen Breaks text broken ∧ parse broken = parse text := by
  intro text broken
  have hfirst : Breaks text "a\\\r\n key\\\\\\\n = #v\\\n w".toList :=
    @Breaks.line "a\\\r\n".toList " key\\\\".toList " ".toList "= #v\\".toList "\n w".toList
      (forall_mem_of_all (by decide))
      ⟨List.all_iff_forall_prop.1 (by decide), ⟨'k', by decide, by decide⟩,
        forall_mem_of_all (by decide), by decide, forall_mem_of_all (by decide),
        List.all_iff_forall_prop.1 (by decide)⟩
      (forall_mem_of_all (by decide))
  have hsecond : Breaks "a\\\r\n key\\\\\\\n = #v\\\n w".toList broken :=
    @Breaks.line "a\\\r\n".toList " ke".toList "\t".toList "y\\\\\\".toList
      "\n = #v\\\n w".toList
      (forall_mem_of_all (by decide))
      ⟨List.all_iff_forall_prop.1 (by decide), ⟨'k', by decide, by decide⟩,
        forall_mem_of_all (by decide), by decide, forall_mem_of_all (by decide),
        List.all_iff_forall_prop.1 (by decide)⟩
      (forall_mem_of_all (by decide))
  have hbroken := (Relation.ReflTransGen.single hfirst).tail hsecond
  exact ⟨hbroken, parse_of_breaks hbroken⟩

end Listing

end AppCatalog
