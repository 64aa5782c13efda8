import AppCatalog.Text.Blank
import AppCatalog.Text.Digit
import AppCatalog.Text.Hex
import AppCatalog.Text.Split

/-!
# Reading integers

An integer may stand between blanks, carry one sign, use the digits of any script, and have single
underscores between digits. In base two, eight and sixteen the base may be announced (`0b`, `0o`,
`0x`). Numbers in any other base are refused beyond `maxDigits` digits.
-/

namespace AppCatalog.Text

/-- The most digits that a number may have in a base that is no power of two. -/
def maxDigits : Nat := 4300

/-- Where integers have more than `maxDigits` digits. -/
def integerBound : Nat := Nat.pow 10 maxDigits

/-- A text with the digits and blanks of other scripts in ASCII; what has no ASCII form becomes a
question mark, which no number contains. -/
def asciiDigits (cs : List Char) : List Char :=
  cs.map fun c =>
    if c.toNat < 127 then c
    else if isBlank c then ' '
    else match decimalDigit? c with
      | some d => hexDigit d
      | none => '?'

/-- The text without ASCII blanks at either end. -/
def trimAscii (cs : List Char) : List Char :=
  ((cs.dropWhile isAsciiBlank).reverse.dropWhile isAsciiBlank).reverse

/-- Whether a sign says minus, and what follows it. -/
def takeSign : List Char → Bool × List Char
  | '+' :: cs => (false, cs)
  | '-' :: cs => (true, cs)
  | cs => (false, cs)

/-- The digits behind the announcement of a base, with the one underscore it may end in. -/
def dropBaseMark (base : Nat) : List Char → List Char
  | '0' :: m :: cs =>
    if (base = 16 && (m = 'x' || m = 'X')) || (base = 8 && (m = 'o' || m = 'O')) ||
        (base = 2 && (m = 'b' || m = 'B')) then
      match cs with
      | '_' :: cs => cs
      | cs => cs
    else '0' :: m :: cs
  | cs => cs

/-- The number that a non-empty run of digits stands for. -/
def digitsValue? (base : Nat) (cs : List Char) : Option Nat :=
  if cs = [] then none
  else cs.foldlM (fun n c => ((digitValue? c).filter (· < base)).map (n * base + ·)) 0

/-- The number that digits with single underscores between them stand for. -/
def groupedValue? (base : Nat) (cs : List Char) : Option Nat :=
  let groups := splitAll '_' cs
  if groups.all (· ≠ []) then
    if base ≠ 2 && base ≠ 8 && base ≠ 16 && maxDigits < groups.flatten.length then none
    else digitsValue? base groups.flatten
  else none

/-- The integer that a text stands for in a base. -/
def readInteger? (base : Nat) (cs : List Char) : Option Int :=
  let (negative, digits) := takeSign (trimAscii (asciiDigits cs))
  (groupedValue? base (dropBaseMark base digits)).map fun n => if negative then -n else n

end AppCatalog.Text
