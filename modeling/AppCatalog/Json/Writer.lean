import AppCatalog.Json.Basic
import AppCatalog.Text.Hex
import AppCatalog.Text.Utf16

/-!
# JSON text

`Json.pretty` writes a value over several lines, two more blanks before each deeper level, and
`Json.compact` on one line. Both write ASCII only: every other character by its code units.
-/

namespace AppCatalog.Json

open AppCatalog.Text

def escapeChar (c : Char) : List Char :=
  if c = '"' then ['\\', '"']
  else if c = '\\' then ['\\', '\\']
  else if c = '\n' then ['\\', 'n']
  else if c = '\r' then ['\\', 'r']
  else if c = '\t' then ['\\', 't']
  else if c = '\x0c' then ['\\', 'f']
  else if c = '\x08' then ['\\', 'b']
  else if 0x20 ≤ c.toNat && c.toNat ≤ 0x7e then [c]
  else (unitsOf c).flatMap fun u => '\\' :: 'u' :: hexDigits 4 u

def quoted (s : String) : List Char := '"' :: s.toList.flatMap escapeChar ++ ['"']

def intText (n : Int) : List Char :=
  if n < 0 then '-' :: Nat.toDigits 10 n.natAbs else Nat.toDigits 10 n.natAbs

/-- The text of a number; the values that are no numbers of JSON have names. -/
def floatText : Binary64 → List Char
  | .nan => "NaN".toList
  | .infinite false => "Infinity".toList
  | .infinite true => "-Infinity".toList
  | x => x.text

/-- A line break and the blanks of a level. -/
def newline (level : Nat) : List Char := '\n' :: List.replicate (2 * level) ' '

mutual

/-- A value at a level, over several lines. -/
def prettyAt (level : Nat) : Json → List Char
  | null => "null".toList
  | bool b => (if b then "true" else "false").toList
  | int n => intText n
  | float x => floatText x
  | str s => quoted s
  | arr [] => ['[', ']']
  | arr (v :: vs) =>
    '[' :: newline (level + 1) ++ prettyAt (level + 1) v ++ prettyItems (level + 1) vs ++
      newline level ++ [']']
  | obj [] => ['{', '}']
  | obj ((k, v) :: fs) =>
    '{' :: newline (level + 1) ++ quoted k ++ ':' :: ' ' :: prettyAt (level + 1) v ++
      prettyFields (level + 1) fs ++ newline level ++ ['}']

/-- The further items of a list at a level. -/
def prettyItems (level : Nat) : List Json → List Char
  | [] => []
  | v :: vs => ',' :: newline level ++ prettyAt level v ++ prettyItems level vs

/-- The further fields of an object at a level. -/
def prettyFields (level : Nat) : List (String × Json) → List Char
  | [] => []
  | (k, v) :: fs =>
    ',' :: newline level ++ quoted k ++ ':' :: ' ' :: prettyAt level v ++ prettyFields level fs

end

/-- The text of a value over several lines. -/
def pretty (v : Json) : List Char := prettyAt 0 v

mutual

/-- The text of a value on one line. -/
def compact : Json → List Char
  | null => "null".toList
  | bool b => (if b then "true" else "false").toList
  | int n => intText n
  | float x => floatText x
  | str s => quoted s
  | arr [] => ['[', ']']
  | arr (v :: vs) => '[' :: compact v ++ compactItems vs ++ [']']
  | obj [] => ['{', '}']
  | obj ((k, v) :: fs) => '{' :: quoted k ++ ':' :: ' ' :: compact v ++ compactFields fs ++ ['}']

/-- The further items of a list on one line. -/
def compactItems : List Json → List Char
  | [] => []
  | v :: vs => ',' :: ' ' :: compact v ++ compactItems vs

/-- The further fields of an object on one line. -/
def compactFields : List (String × Json) → List Char
  | [] => []
  | (k, v) :: fs => ',' :: ' ' :: quoted k ++ ':' :: ' ' :: compact v ++ compactFields fs

end

end AppCatalog.Json
