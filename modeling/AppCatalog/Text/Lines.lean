import AppCatalog.Text.Blank

/-!
# Lines of a text

A line ends at a line feed, a carriage return (with or without a line feed behind it), a vertical
tab, a form feed, a file, group or record separator, a next-line control, or a Unicode line or
paragraph separator. `lines` cuts a text into its lines, terminators dropped; a text that ends in a
terminator has no empty line after it.
-/

namespace AppCatalog.Text

def isLineEnd (c : Char) : Bool :=
  let n := c.toNat
  (10 ≤ n && n ≤ 13) || (28 ≤ n && n ≤ 30) || n == 0x85 || n == 0x2028 || n == 0x2029

/-- The lines of a text. A carriage return and the line feed behind it end one line together. -/
def lines : List Char → List (List Char)
  | [] => []
  | '\r' :: '\n' :: cs => [] :: lines cs
  | c :: cs =>
    if isLineEnd c then [] :: lines cs
    else match lines cs with
      | [] => [[c]]
      | l :: ls => (c :: l) :: ls

@[simp] theorem lines_nil : lines [] = [] := rfl

@[simp] theorem lines_newline (cs : List Char) : lines ('\n' :: cs) = [] :: lines cs := by
  simp [lines, isLineEnd]

/-- Every line end is blank, so that trimming never leaves one at an end. -/
theorem isBlank_of_isLineEnd {c : Char} (h : isLineEnd c = true) : isBlank c = true := by
  simp only [isLineEnd, isBlank, Bool.or_eq_true, Bool.and_eq_true, decide_eq_true_eq,
    beq_iff_eq] at h ⊢
  omega

end AppCatalog.Text
