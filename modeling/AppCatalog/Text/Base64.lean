import AppCatalog.Text.Utf8

/-!
# Base64

Three bytes are written as four characters of an alphabet of sixty-four, with equals signs where the
last group is short. `encode` writes bytes; `decode?` reads them back and passes over characters
outside the alphabet, as mail readers do.
-/

namespace AppCatalog.Base64

def digit (n : Nat) : Char :=
  if n < 26 then Char.ofNat (65 + n)
  else if n < 52 then Char.ofNat (71 + n)
  else if n < 62 then Char.ofNat (n - 4)
  else if n = 62 then '+'
  else '/'

def value? (c : Char) : Option Nat :=
  let n := c.toNat
  if 65 ≤ n && n ≤ 90 then some (n - 65)
  else if 97 ≤ n && n ≤ 122 then some (n - 71)
  else if 48 ≤ n && n ≤ 57 then some (n + 4)
  else if c = '+' then some 62
  else if c = '/' then some 63
  else none

def encode : Bytes → List Char
  | [] => []
  | [a] =>
    let n := a.toNat
    [digit (n / 4), digit (n % 4 * 16), '=', '=']
  | [a, b] =>
    let n := a.toNat * 256 + b.toNat
    [digit (n / 1024), digit (n / 16 % 64), digit (n % 16 * 4), '=']
  | a :: b :: c :: bs =>
    let n := (a.toNat * 256 + b.toNat) * 256 + c.toNat
    digit (n / 262144) :: digit (n / 4096 % 64) :: digit (n / 64 % 64) :: digit (n % 64) ::
      encode bs

/-- Reads characters behind the bits of a group read so far. `held` counts the characters of the
group and `pads` the equals signs in a row; a group is closed by two characters and two signs, or by
three and one, and what follows is not looked at. -/
def decodeFrom (held bits pads : Nat) : List Char → Option Bytes
  | [] => if held = 0 then some [] else none
  | c :: cs =>
    if c = '=' then
      if 2 ≤ held && 4 ≤ held + pads + 1 then some []
      else decodeFrom held bits (if 2 ≤ held then pads + 1 else pads) cs
    else match value? c with
      | none => decodeFrom held bits pads cs
      | some v =>
        match held with
        | 0 => decodeFrom 1 v 0 cs
        | 1 => (decodeFrom 2 (v % 16) 0 cs).map (UInt8.ofNat (bits * 4 + v / 16) :: ·)
        | 2 => (decodeFrom 3 (v % 4) 0 cs).map (UInt8.ofNat (bits * 16 + v / 4) :: ·)
        | _ => (decodeFrom 0 0 0 cs).map (UInt8.ofNat (bits * 64 + v) :: ·)

def decode? (cs : List Char) : Option Bytes := decodeFrom 0 0 0 cs

end AppCatalog.Base64
