import AppCatalog.Decimal.Binary64

/-!
# Shortest decimal text

The decimal text of a number of the format is the shortest one that reads back as the same number
and, of those, the nearest. `Shortest.digits` finds its digits by looking at one decimal grid after
the other, each ten times as fine as the last; `DecimalStyle.text` then sets the point or the power
of ten as a style record says.
-/

namespace AppCatalog

namespace Shortest

/-- Digits of a positive number and the place of the point: the number is `0.d₁d₂…` times ten to the
power of `point`. -/
structure Digits where
  /-- The digits, most significant first, without trailing zeros. -/
  digits : List Char
  /-- The power of ten. -/
  point : Int
  deriving Repr

/-- How many digits stand before the point; not positive for a number below one tenth. -/
def pointOf (units : Nat) : Int :=
  (Nat.toDigits 10 (units * Nat.pow 10 400 / Binary64.one)).length - 400

/-- A finite number divided by a power of ten, as a quotient of natural numbers. -/
def scaled (units : Nat) (exponent : Int) : Nat × Nat :=
  if 0 ≤ exponent then (units, Binary64.one * Nat.pow 10 exponent.toNat)
  else (units * Nat.pow 10 (-exponent).toNat, Binary64.one)

/-- Whether a decimal reads back as the number. -/
def readsBack (units : Nat) (m : Nat) (exponent : Int) : Bool :=
  Binary64.ofDecimal false m exponent = .finite false units

/-- The point of one decimal grid that reads back as the number, the nearer of two. -/
def onGrid? (units : Nat) (exponent : Int) : Option Nat :=
  let (num, den) := scaled units exponent
  let low := num / den
  let rest := num % den
  let nearLow := 2 * rest < den || (2 * rest = den && low % 2 = 0)
  let (first, second) := if nearLow then (low, low + 1) else (low + 1, low)
  if readsBack units first exponent then some first
  else if readsBack units second exponent then some second
  else none

/-- Looks at grids of `places`, `places + 1`, … digits, `fuel` of them. -/
def search (units : Nat) (point : Int) : Nat → Nat → Nat × Int
  | 0, places => (units / Binary64.one, point - places)
  | fuel + 1, places =>
    match onGrid? units (point - places) with
    | some m => (m, point - places)
    | none => search units point fuel (places + 1)

/-- The shortest digits that read back as a positive number; seventeen always suffice. -/
def digits (units : Nat) : Digits :=
  let (m, exponent) := search units (pointOf units) 17 1
  let all := Nat.toDigits 10 m
  ⟨(all.reverse.dropWhile (· == '0')).reverse, all.length + exponent⟩

end Shortest

/-- How digits become a text. -/
structure DecimalStyle where
  /-- The least decimal exponent written with a leading zero and point. -/
  leastPositional : Int
  /-- The least decimal exponent that is written as a power again. -/
  firstPower : Int
  /-- The least number of digits of a power. -/
  powerWidth : Nat

namespace DecimalStyle

/-- A number of at least `width` digits. -/
def padded (width n : Nat) : List Char :=
  let ds := Nat.toDigits 10 n
  List.replicate (width - ds.length) '0' ++ ds

/-- The text of digits with a point, or a leading digit and a power of ten. -/
def positive (style : DecimalStyle) (d : Shortest.Digits) : List Char :=
  let exponent := d.point - 1
  if style.leastPositional ≤ exponent && exponent < style.firstPower then
    if d.point ≤ 0 then '0' :: '.' :: List.replicate (-d.point).toNat '0' ++ d.digits
    else
      let whole := d.point.toNat
      if d.digits.length ≤ whole then
        d.digits ++ List.replicate (whole - d.digits.length) '0' ++ ['.', '0']
      else d.digits.take whole ++ '.' :: d.digits.drop whole
  else
    let lead := match d.digits with
      | [] => ['0']
      | [c] => [c]
      | c :: cs => c :: '.' :: cs
    lead ++ 'e' :: (if exponent < 0 then '-' else '+') :: padded style.powerWidth exponent.natAbs

/-- The text of a number of the format. -/
def text (style : DecimalStyle) : Binary64 → List Char
  | .nan => ['n', 'a', 'n']
  | .infinite negative => (if negative then ['-'] else []) ++ ['i', 'n', 'f']
  | .finite negative units =>
    (if negative then ['-'] else []) ++
      if units = 0 then ['0', '.', '0'] else style.positive (Shortest.digits units)

/-- Positional from four places behind the point up to sixteen before it; powers have two digits. -/
def plain : DecimalStyle := ⟨-4, 16, 2⟩

end DecimalStyle

/-- The text of a number: the shortest that reads back. -/
def Binary64.text (x : Binary64) : List Char := DecimalStyle.plain.text x

end AppCatalog
