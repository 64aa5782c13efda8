import AppCatalog.Decimal.Binary64
import AppCatalog.Text.Integer

/-!
# Reading decimal numbers

A decimal number may stand between blanks and carry a sign; it is an infinity or a not-a-number by
name in any case, or digits of any script with a point and a power of ten. Single underscores may
stand between digits.
-/

namespace AppCatalog.Binary64

open AppCatalog.Text

def isDigit (c : Char) : Bool := 48 ≤ c.toNat && c.toNat ≤ 57

/-- The text without the underscores that stand between digits; nothing if one stands elsewhere. -/
def dropUnderscores? : Option Char → List Char → Option (List Char)
  | before, [] => if before = some '_' then none else some []
  | before, c :: cs =>
    if c = '_' then
      if (before.map isDigit).getD false then dropUnderscores? (some c) cs else none
    else if before = some '_' && !isDigit c then none
    else (dropUnderscores? (some c) cs).map (c :: ·)

/-- The value of a run of ASCII digits. -/
def digitsValue (cs : List Char) : Nat := cs.foldl (fun n c => n * 10 + (c.toNat - 48)) 0

/-- A power of ten: a sign and at least one digit, with nothing behind them. -/
def readPower? (cs : List Char) : Option Int :=
  let (negative, ds) := takeSign cs
  if ds ≠ [] && ds.all isDigit then
    some (if negative then -(digitsValue ds) else digitsValue ds)
  else none

/-- Digits with a point and a power of ten, at least one digit before the power. -/
def readDigits? (negative : Bool) (cs : List Char) : Option Binary64 :=
  let whole := cs.takeWhile isDigit
  let rest := cs.dropWhile isDigit
  let (fraction, rest) := match rest with
    | '.' :: r => (r.takeWhile isDigit, r.dropWhile isDigit)
    | r => ([], r)
  if whole ++ fraction = [] then none
  else
    let m := digitsValue (whole ++ fraction)
    let places : Int := fraction.length
    match rest with
    | [] => some (ofDecimal negative m (-places))
    | e :: power =>
      if e = 'e' || e = 'E' then (readPower? power).map fun p => ofDecimal negative m (p - places)
      else none

/-- The number that a text stands for. -/
def read? (cs : List Char) : Option Binary64 := do
  let cs ← dropUnderscores? none (trimAscii (asciiDigits cs))
  let (negative, body) := takeSign cs
  match String.ofList (body.map Char.toLower) with
  | "inf" => some (infinite negative)
  | "infinity" => some (infinite negative)
  | "nan" => some nan
  | _ => readDigits? negative body

end AppCatalog.Binary64
