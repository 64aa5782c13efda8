/-!
# Binary floating point in 64 bits

Every finite number of the format is a whole multiple of the smallest positive one, `2 ^ -1074`.
`Binary64` keeps that multiple as a natural number, so that sums, products and comparisons are exact
until `round` brings a quotient back to 53 significant bits, a half going to the even neighbour. The
main statement is `roundDiv_spec`: the rounded quotient is within half a unit.
-/

namespace AppCatalog

/-- A number of the format. A finite one is `units` times the smallest positive number. -/
inductive Binary64 where
  | finite (negative : Bool) (units : Nat)
  | infinite (negative : Bool)
  | nan
  deriving DecidableEq, Repr, Inhabited

namespace Binary64

/-- How many smallest positive numbers make one. -/
def one : Nat := Nat.pow 2 1074

/-- A quotient to the nearest whole number, a half to the even neighbour. -/
def roundDiv (num den : Nat) : Nat :=
  if den < 2 * (num % den) ∨ (2 * (num % den) = den ∧ num / den % 2 = 1) then num / den + 1
  else num / den

/-- The distance between neighbours of the format around a number of units. -/
def spacing (units : Nat) : Nat := Nat.pow 2 (units.log2 - 52)

/-- The multiple of the spacing nearest to a quotient of units. -/
def roundUnits (num den : Nat) : Nat :=
  let step := spacing (num / den)
  roundDiv num (den * step) * step

/-- Units of the first number beyond the range of the format. -/
def limit : Nat := Nat.pow 2 2098

/-- The number nearest to a quotient of units; infinite beyond the range. -/
def round (negative : Bool) (num den : Nat) : Binary64 :=
  let units := roundUnits num den
  if limit ≤ units then infinite negative else finite negative units

def ofRatio (negative : Bool) (num den : Nat) : Binary64 := round negative (num * one) den

def ofInt (n : Int) : Binary64 := ofRatio (n < 0) n.natAbs 1

/-- The number nearest to `m` times a power of ten. Far beyond either end of the range the power is
not computed. -/
def ofDecimal (negative : Bool) (m : Nat) (exponent : Int) : Binary64 :=
  let places := (Nat.toDigits 10 m).length + exponent
  if m = 0 || places < -400 then finite negative 0
  else if 400 < places then infinite negative
  else if 0 ≤ exponent then ofRatio negative (m * Nat.pow 10 exponent.toNat) 1
  else ofRatio negative m (Nat.pow 10 (-exponent).toNat)

def isZero : Binary64 → Bool
  | finite _ 0 => true
  | _ => false

def isFinite : Binary64 → Bool
  | finite _ _ => true
  | _ => false

def neg : Binary64 → Binary64
  | finite n u => finite (!n) u
  | infinite n => infinite (!n)
  | nan => nan

/-- A finite number in units, with its sign. -/
def signedUnits (negative : Bool) (units : Nat) : Int := if negative then -units else units

/-- The rounded sum. A sum of zero is negative only if both parts are. -/
def add : Binary64 → Binary64 → Binary64
  | nan, _ => nan
  | _, nan => nan
  | infinite a, infinite b => if a = b then infinite a else nan
  | infinite a, finite _ _ => infinite a
  | finite _ _, infinite b => infinite b
  | finite a u, finite b v =>
    let s := signedUnits a u + signedUnits b v
    if s = 0 then finite (a && b) 0 else round (s < 0) s.natAbs 1

def mul : Binary64 → Binary64 → Binary64
  | nan, _ => nan
  | _, nan => nan
  | infinite a, infinite b => infinite (a != b)
  | infinite a, finite b v => if v = 0 then nan else infinite (a != b)
  | finite a u, infinite b => if u = 0 then nan else infinite (a != b)
  | finite a u, finite b v => round (a != b) (u * v) one

/-- The least integer not below a finite number. -/
def ceil? : Binary64 → Option Int
  | finite false u => some ((u + one - 1) / one : Nat)
  | finite true u => some (-(u / one : Nat))
  | _ => none

/-- The integer that a number is equal to, if any. -/
def toInt? : Binary64 → Option Int
  | finite n u => if u % one = 0 then some (signedUnits n (u / one)) else none
  | _ => none

theorem roundDiv_mul_le (num den : Nat) : 2 * (roundDiv num den * den) ≤ 2 * num + den := by
  unfold roundDiv
  have h := Nat.div_add_mod num den
  have hc : num / den * den = den * (num / den) := Nat.mul_comm _ _
  split
  · next hr =>
    rw [Nat.add_mul, Nat.one_mul]
    omega
  · omega

theorem le_roundDiv_mul {num den : Nat} (hd : 0 < den) :
    2 * num ≤ 2 * (roundDiv num den * den) + den := by
  unfold roundDiv
  have h := Nat.div_add_mod num den
  have hm := Nat.mod_lt num hd
  have hc : num / den * den = den * (num / den) := Nat.mul_comm _ _
  split
  · rw [Nat.add_mul, Nat.one_mul]
    omega
  · next hr =>
    simp only [not_or, Nat.not_lt] at hr
    omega

/-- The rounded quotient is within half a unit of the quotient. -/
theorem roundDiv_spec {num den : Nat} (hd : 0 < den) :
    2 * (roundDiv num den * den) ≤ 2 * num + den ∧
      2 * num ≤ 2 * (roundDiv num den * den) + den :=
  ⟨roundDiv_mul_le num den, le_roundDiv_mul hd⟩

theorem roundDiv_mul_self {k den : Nat} (hd : 0 < den) : roundDiv (k * den) den = k := by
  have : ¬ 0 = den := by omega
  simp [roundDiv, Nat.mul_div_cancel k hd, this]

theorem spacing_pos (units : Nat) : 0 < spacing units := Nat.two_pow_pos _

end Binary64

end AppCatalog
