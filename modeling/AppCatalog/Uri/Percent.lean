import AppCatalog.Text.Hex
import AppCatalog.Text.Utf8

/-!
# Percent coding

A percent sign and two hexadecimal digits stand for a byte. `Percent.decode` reads such bytes as
UTF-8, run by run of ASCII characters; what is no escape stands for itself. `Percent.encode` writes
every byte outside a safe set as an escape.
-/

namespace AppCatalog.Percent

open AppCatalog.Text

/-- The bytes of an ASCII text with its escapes read. -/
def bytes : List Char → Bytes
  | [] => []
  | '%' :: a :: b :: cs =>
    match hexValue? a, hexValue? b with
    | some h, some l => UInt8.ofNat (h * 16 + l) :: bytes cs
    | _, _ => Utf8.encodeChar '%' ++ bytes (a :: b :: cs)
  | c :: cs => Utf8.encodeChar c ++ bytes cs

def isAscii (c : Char) : Bool := c.toNat < 0x80

/-- A text with its escapes read behind the ASCII characters read so far. -/
def decodeRuns (ascii : List Char) : List Char → List Char
  | [] => Utf8.decodeReplacing (bytes ascii)
  | c :: cs =>
    if isAscii c then decodeRuns (ascii ++ [c]) cs
    else Utf8.decodeReplacing (bytes ascii) ++ c :: decodeRuns [] cs

def decode (cs : List Char) : List Char := decodeRuns [] cs

/-- A byte as an escape with upper-case digits. -/
def escape (b : UInt8) : List Char :=
  '%' :: (hexDigits 2 b.toNat).map Char.toUpper

/-- A text with every byte written as an escape unless it is a safe ASCII character. -/
def encode (isSafe : Char → Bool) (cs : List Char) : List Char :=
  cs.flatMap fun c =>
    if isAscii c && isSafe c then [c] else (Utf8.encodeChar c).flatMap escape

end AppCatalog.Percent
