import AppCatalog.Text.Integer
import AppCatalog.Text.Utf16

/-!
# Escapes in a listing

A backslash gives the character behind it another meaning: `t`, `n`, `r` and `f` stand for control
characters, `u` and four hexadecimal digits for a UTF-16 code unit, any other character for itself.
`unescape` reads escapes and `escape` writes them, so that what it writes holds only the first 256
characters.
-/

namespace AppCatalog.Properties

open AppCatalog.Text

/-- What a character stands for behind a backslash. -/
def escaped : Char → Char
  | 't' => '\t'
  | 'n' => '\n'
  | 'r' => '\r'
  | 'f' => '\x0c'
  | c => c

/-- The code unit that four characters behind `u` stand for. -/
def unitOf? (cs : List Char) : Option Nat :=
  match readInteger? 16 cs with
  | some (.ofNat n) => some n
  | _ => none

/-- The code units of a text with its escapes read. -/
def unescapeUnits : List Char → List Nat
  | [] => []
  | '\\' :: 'u' :: a :: b :: c :: d :: cs =>
    match unitOf? [a, b, c, d] with
    | some u => u :: unescapeUnits cs
    | none => unitsOf 'u' ++ unescapeUnits (a :: b :: c :: d :: cs)
  | '\\' :: c :: cs => unitsOf (escaped c) ++ unescapeUnits cs
  | c :: cs => unitsOf c ++ unescapeUnits cs

/-- A text with its escapes read and its surrogates joined. -/
def unescape (cs : List Char) : List Char := decodeUnits (unescapeUnits cs)

def unitEscape (c : Char) : List Char := (unitsOf c).flatMap fun u => '\\' :: 'u' :: hexDigits 4 u

/-- One character of a key, or of a value with what stands `inFront` of it. In a key, and at the
start of a value, separators, comment marks and blanks need a backslash. -/
def escapeChar (guarded : Bool) (c : Char) : List Char :=
  if c = '\\' then ['\\', '\\']
  else if c = '\t' then ['\\', 't']
  else if c = '\n' then ['\\', 'n']
  else if c = '\r' then ['\\', 'r']
  else if (c = '=' || c = ':' || c = '#' || c = '!' || c = ' ') && guarded then ['\\', c]
  else if 0xff < c.toNat then unitEscape c
  else [c]

def escapeKey (cs : List Char) : List Char := cs.flatMap (escapeChar true)

/-- A value with its escapes written; only its first character is guarded. -/
def escapeValue : List Char → List Char
  | [] => []
  | c :: cs => escapeChar true c ++ cs.flatMap (escapeChar false)

@[simp] theorem unescape_nil : unescape [] = [] := rfl

theorem unescapeUnits_backslash_cons {c : Char} (h : c ≠ 'u') (cs : List Char) :
    unescapeUnits ('\\' :: c :: cs) = unitsOf (escaped c) ++ unescapeUnits cs := by
  rw [unescapeUnits]
  intro _ _ _ _ _ hu
  exact absurd hu h

end AppCatalog.Properties
