import AppCatalog.Text.Lines

/-!
# Logical lines of a listing

A natural line that ends in an odd number of backslashes goes on with the next line: the last
backslash is dropped, and so are the blanks in front of the next line. Blank lines and lines that
begin with `#` or `!` are skipped, unless they go on a line before. The main statement is
`ne_nil_of_mem_logicalLines`: no logical line is empty.
-/

namespace AppCatalog.Properties

open AppCatalog.Text

/-- How many backslashes a line ends in. -/
def trailingBackslashes (cs : List Char) : Nat := (cs.reverse.takeWhile (· == '\\')).length

theorem trailingBackslashes_append (cs ds : List Char) :
    trailingBackslashes (cs ++ ds) = trailingBackslashes ds ∨
      trailingBackslashes (cs ++ ds) = trailingBackslashes ds + trailingBackslashes cs := by
  rw [trailingBackslashes, List.reverse_append, List.takeWhile_append]
  split
  · next h =>
      refine Or.inr ?_
      rw [List.length_append, ← h]
      rfl
  · exact Or.inl rfl

/-- Whether the next line belongs to this one. -/
def goesOn (cs : List Char) : Bool := trailingBackslashes cs % 2 == 1

theorem goesOn_eq_false_iff {cs : List Char} :
    goesOn cs = false ↔ trailingBackslashes cs % 2 = 0 := by
  rw [goesOn, beq_eq_false_iff_ne, Ne, Nat.mod_two_not_eq_one]

theorem goesOn_append {cs : List Char} (h : goesOn cs = false) (ds : List Char) :
    goesOn (cs ++ ds) = goesOn ds := by
  rw [goesOn_eq_false_iff] at h
  rcases trailingBackslashes_append cs ds with he | he
  · rw [goesOn, he, goesOn]
  · rw [goesOn, he, Nat.add_mod, h, Nat.add_zero, Nat.mod_mod, goesOn]

theorem goesOn_of_notMem {cs : List Char} (h : '\\' ∉ cs) : goesOn cs = false := by
  rw [goesOn, trailingBackslashes]
  rw [← List.mem_reverse] at h
  cases hr : cs.reverse with
  | nil => rfl
  | cons c r =>
    rw [hr, List.mem_cons, not_or] at h
    rw [List.takeWhile_cons_of_neg (by simpa using Ne.symm h.1)]
    rfl

/-- Blanks in front of a line have no say in whether it goes on. -/
theorem goesOn_trimStart (cs : List Char) : goesOn (trimStart cs) = goesOn cs := by
  have hblank : '\\' ∉ cs.takeWhile isBlank := by
    intro hc
    exact absurd (List.all_eq_true.1 List.all_takeWhile _ hc) (by decide)
  have happend := goesOn_append (goesOn_of_notMem hblank) (trimStart cs)
  rw [trimStart, List.takeWhile_append_dropWhile] at happend
  exact happend.symm

/-- Whether a line, its leading blanks dropped, holds nothing or a comment. -/
def isSkipped : List Char → Bool
  | [] => true
  | c :: _ => c == '#' || c == '!'

/-- Joins natural lines behind what is pending of a line that goes on. -/
def joinLines (pending : List Char) : List (List Char) → List (List Char)
  | [] => if pending = [] then [] else [pending]
  | raw :: rest =>
    let line := trimStart raw
    if pending = [] && isSkipped line then joinLines [] rest
    else if goesOn line then joinLines (pending ++ line.dropLast) rest
    else if pending ++ line = [] then joinLines [] rest
    else (pending ++ line) :: joinLines [] rest

def logicalLines (cs : List Char) : List (List Char) := joinLines [] (lines cs)

theorem logicalLines_newline (cs : List Char) : logicalLines ('\n' :: cs) = logicalLines cs := by
  rw [logicalLines, lines_newline]
  rfl

theorem ne_nil_of_mem_joinLines {pending l : List Char} {ls : List (List Char)}
    (h : l ∈ joinLines pending ls) : l ≠ [] := by
  induction ls generalizing pending with
  | nil =>
    simp only [joinLines] at h
    split at h
    · simp at h
    · next hp =>
      rw [List.mem_singleton] at h
      exact h ▸ hp
  | cons raw rest ih =>
    simp only [joinLines] at h
    split at h
    · exact ih h
    · split at h
      · exact ih h
      · split at h
        · exact ih h
        · next hl =>
          rcases List.mem_cons.1 h with h | h
          · exact h ▸ hl
          · exact ih h

theorem ne_nil_of_mem_logicalLines {cs l : List Char} (h : l ∈ logicalLines cs) : l ≠ [] :=
  ne_nil_of_mem_joinLines h

end AppCatalog.Properties
