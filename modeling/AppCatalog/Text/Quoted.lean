import AppCatalog.Text.Hex
import AppCatalog.Text.Points
import AppCatalog.Text.Printable
import AppCatalog.Text.Utf8

/-!
# Quoted texts

A text in quotation marks, the way messages and nested values show it: single quotes unless the text
has a single quote and no double one; backslash, the chosen quote and the common controls behind a
backslash; every other unprintable character by its number. `quote` writes a text, `quotePoints` a
run of code points and `quoteBytes` a run of bytes.
-/

namespace AppCatalog.Text

/-- The quotation mark for a text: single, unless it has a single quote and no double quote. -/
def quoteMark (cs : List Char) : Char :=
  if cs.contains '\'' && !cs.contains '"' then '"' else '\''

/-- A character by its number, in the shortest of the three widths that holds it. -/
def numberEscape (n : Nat) : List Char :=
  if n ≤ 0xff then '\\' :: 'x' :: hexDigits 2 n
  else if n ≤ 0xffff then '\\' :: 'u' :: hexDigits 4 n
  else '\\' :: 'U' :: hexDigits 8 n

def quoteChar (mark c : Char) : List Char :=
  if c = mark || c = '\\' then ['\\', c]
  else if c = '\t' then ['\\', 't']
  else if c = '\n' then ['\\', 'n']
  else if c = '\r' then ['\\', 'r']
  else if isPrintable c then [c]
  else numberEscape c.toNat

def quote (cs : List Char) : List Char :=
  let mark := quoteMark cs
  mark :: cs.flatMap (quoteChar mark) ++ [mark]

def quoteString (s : String) : String := String.ofList (quote s.toList)

/-- Code points in quotation marks; what is no character is shown by its number. -/
def quotePoints (ns : List Nat) : List Char :=
  let mark := quoteMark ((ns.filter (·.isValidChar)).map Char.ofNat)
  mark :: ns.flatMap (fun n =>
    if n.isValidChar then quoteChar mark (Char.ofNat n) else numberEscape n) ++ [mark]

/-- Bytes in quotation marks behind a `b`; a byte that is not printable ASCII is shown by number. -/
def quoteBytes (bs : Bytes) : List Char :=
  let cs := Latin1.decode bs
  let mark := quoteMark cs
  'b' :: mark :: cs.flatMap (fun c =>
    if c.toNat < 0x80 then quoteChar mark c else numberEscape c.toNat) ++ [mark]

end AppCatalog.Text
