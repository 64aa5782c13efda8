/-!
# Blank characters

The blank characters are the ones that listings, URIs and settings skip or refuse: the ASCII spaces,
the four information separators, and the spaces of Unicode. `isBlank` is the test, and `trimStart`,
`trimEnd` and `trim` drop blank characters at the ends of a text. The main statement is
`isBlank_head_trimStart`: trimming the start leaves no blank in front.
-/

namespace AppCatalog.Text

/-- A blank character: tab to carriage return, the information separators, the ASCII space, the
next-line control, and every Unicode space separator. -/
def isBlank (c : Char) : Bool :=
  let n := c.toNat
  (9 ≤ n && n ≤ 13) || (28 ≤ n && n ≤ 32) || n == 0x85 || n == 0xa0 || n == 0x1680 ||
    (0x2000 ≤ n && n ≤ 0x200a) || n == 0x2028 || n == 0x2029 || n == 0x202f || n == 0x205f ||
    n == 0x3000

def trimStart (cs : List Char) : List Char := cs.dropWhile isBlank

def trimEnd (cs : List Char) : List Char := (cs.reverse.dropWhile isBlank).reverse

/-- The text without blanks at either end. -/
def trim (cs : List Char) : List Char := trimEnd (trimStart cs)

@[simp] theorem trimStart_nil : trimStart [] = [] := rfl

theorem trimStart_cons_of_blank {c : Char} (h : isBlank c = true) (cs : List Char) :
    trimStart (c :: cs) = trimStart cs := by
  simp [trimStart, h]

theorem trimStart_cons_of_not_blank {c : Char} (h : isBlank c = false) (cs : List Char) :
    trimStart (c :: cs) = c :: cs := by
  simp [trimStart, h]

theorem trimStart_eq_self {cs : List Char} (h : ∀ c ∈ cs.head?, isBlank c = false) :
    trimStart cs = cs := by
  cases cs with
  | nil => rfl
  | cons c cs => exact trimStart_cons_of_not_blank (h c rfl) cs

theorem trimStart_append_of_blank {front : List Char} (h : ∀ c ∈ front, isBlank c = true)
    (cs : List Char) : trimStart (front ++ cs) = trimStart cs :=
  List.dropWhile_append_of_pos h

/-- Trimming the start leaves no blank in front. -/
theorem isBlank_head_trimStart {c : Char} {cs r : List Char} (h : trimStart cs = c :: r) :
    isBlank c = false := by
  induction cs with
  | nil => simp at h
  | cons d cs ih =>
    by_cases hd : isBlank d = true
    · exact ih (trimStart_cons_of_blank hd cs ▸ h)
    · have hd : isBlank d = false := by simpa using hd
      rw [trimStart_cons_of_not_blank hd] at h
      exact (List.cons.inj h).1 ▸ hd

/-- Whether a character is blank in the ASCII sense. -/
def isAsciiBlank (c : Char) : Bool := c == ' ' || (9 ≤ c.toNat && c.toNat ≤ 13)

end AppCatalog.Text
