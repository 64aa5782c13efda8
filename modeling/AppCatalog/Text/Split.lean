/-!
# Cutting a text at a separator

`cutAt?` finds the first occurrence of a separating text, `afterLast` the last occurrence of a
character, and `splitAll` cuts at every occurrence of a character. The parts joined by the separator
give the text back (`intercalate_splitAll`).
-/

namespace AppCatalog.Text

/-- The rest of a text that begins with the given lead. -/
def dropLead? [DecidableEq α] : List α → List α → Option (List α)
  | [], s => some s
  | _ :: _, [] => none
  | p :: ps, c :: cs => if p = c then dropLead? ps cs else none

/-- The parts before and after the first occurrence of a text. -/
def cutAt? [DecidableEq α] (sep : List α) : List α → Option (List α × List α)
  | [] => if sep = [] then some ([], []) else none
  | c :: cs => match dropLead? sep (c :: cs) with
    | some rest => some ([], rest)
    | none => (cutAt? sep cs).map fun p => (c :: p.1, p.2)

def occursIn [DecidableEq α] (needle hay : List α) : Bool := (cutAt? needle hay).isSome

/-- A text cut at every occurrence of a character: one part more than there are occurrences. -/
def splitAll [DecidableEq α] (sep : α) : List α → List (List α)
  | [] => [[]]
  | c :: cs =>
    if c = sep then [] :: splitAll sep cs
    else match splitAll sep cs with
      | [] => [[c]]
      | p :: ps => (c :: p) :: ps

/-- What follows the last occurrence of a character, or the whole text if it does not occur. -/
def afterLast [DecidableEq α] (sep : α) (cs : List α) : List α :=
  (cs.reverse.takeWhile (· != sep)).reverse

theorem dropLead?_append [DecidableEq α] (p s : List α) : dropLead? p (p ++ s) = some s := by
  induction p with
  | nil => rfl
  | cons c p ih => simp [dropLead?, ih]

theorem dropLead?_eq_some_iff [DecidableEq α] {p s r : List α} :
    dropLead? p s = some r ↔ s = p ++ r := by
  induction p generalizing s with
  | nil => simp [dropLead?, eq_comm]
  | cons c p ih =>
    cases s with
    | nil => simp [dropLead?]
    | cons d s =>
      by_cases h : c = d
      · subst h; simp [dropLead?, ih]
      · simp [dropLead?, h, Ne.symm h]

theorem splitAll_ne_nil [DecidableEq α] (sep : α) (cs : List α) : splitAll sep cs ≠ [] := by
  cases cs with
  | nil => simp [splitAll]
  | cons c cs =>
    simp only [splitAll]
    split
    · simp
    · split <;> simp

/-- The parts joined by the separator give the text back. -/
theorem intercalate_splitAll [DecidableEq α] (sep : α) (cs : List α) :
    List.intercalate [sep] (splitAll sep cs) = cs := by
  induction cs with
  | nil => rfl
  | cons c cs ih =>
    simp only [splitAll]
    split
    · next h =>
      subst h
      cases hs : splitAll c cs with
      | nil => exact absurd hs (splitAll_ne_nil c cs)
      | cons p ps =>
        rw [hs] at ih
        simp only [List.intercalate, List.intersperse, List.flatten_cons, List.nil_append] at ih ⊢
        rw [ih]; rfl
    · cases hs : splitAll sep cs with
      | nil => exact absurd hs (splitAll_ne_nil sep cs)
      | cons p ps =>
        rw [hs] at ih
        cases ps <;> simpa [List.intercalate, List.intersperse] using ih

end AppCatalog.Text
