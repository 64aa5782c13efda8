import AppCatalog.Decimal.Reader
import AppCatalog.Json.Basic
import AppCatalog.Text.Utf16

/-!
# Reading JSON text

`Json.read` reads one value with nothing but white space around it. Besides the numbers of the
format it knows `NaN`, `Infinity` and `-Infinity`; a repeated field keeps its first place and its
last value. Control characters inside strings are refused. A reader has limits: integers may have so
many digits and collections may be nested so deep. `Json.parse` gives everything that is written
within some limits, repeated fields as well.
-/

namespace AppCatalog.Json

open AppCatalog.Text

/-- Why a text is no JSON value. -/
inductive Fault where
  /-- The text breaks the grammar. -/
  | malformed
  /-- An integer has too many digits to be read. -/
  | tooManyDigits
  /-- Collections are nested too deep to be read. -/
  | tooDeep
  deriving DecidableEq, Repr

/-- How many digits an integer may have and how many levels of collections are left, if there is a
limit. -/
structure Limits where
  digits : Option Nat
  levels : Option Nat
  deriving DecidableEq, Repr

/-- How deep collections may be nested. The number depends on the room that is left to the reader. -/
def maxLevels : Nat := 990

namespace Limits

def unbounded : Limits := ⟨none, none⟩

def standard : Limits := ⟨some maxDigits, some maxLevels⟩

/-- The limits inside a collection, if there may be one. -/
def deeper? (l : Limits) : Option Limits :=
  match l.levels with
  | none => some l
  | some 0 => none
  | some (n + 1) => some { l with levels := some n }

end Limits

def skipSpace (cs : List Char) : List Char :=
  cs.dropWhile fun c => c == ' ' || c == '\t' || c == '\n' || c == '\r'

def fourHex? (a b c d : Char) : Option Nat := do
  let a ← hexValue? a
  let b ← hexValue? b
  let c ← hexValue? c
  let d ← hexValue? d
  pure (((a * 16 + b) * 16 + c) * 16 + d)

/-- The code units of a string up to its closing quotation mark, and what follows it. -/
def readUnits : List Char → Option (List Nat × List Char)
  | [] => none
  | '"' :: cs => some ([], cs)
  | '\\' :: 'u' :: a :: b :: c :: d :: cs =>
    match fourHex? a b c d with
    | some u => (readUnits cs).map fun p => (u :: p.1, p.2)
    | none => none
  | '\\' :: e :: cs =>
    let plain? : Option Char := match e with
      | '"' => some '"'
      | '\\' => some '\\'
      | '/' => some '/'
      | 'b' => some '\x08'
      | 'f' => some '\x0c'
      | 'n' => some '\n'
      | 'r' => some '\r'
      | 't' => some '\t'
      | _ => none
    match plain? with
    | some c => (readUnits cs).map fun p => (c.toNat :: p.1, p.2)
    | none => none
  | c :: cs =>
    if c.toNat < 0x20 then none
    else (readUnits cs).map fun p => (unitsOf c ++ p.1, p.2)

/-- The string behind an opening quotation mark, and what follows it. -/
def readString {τ : Type} [Spelling τ] (cs : List Char) : Option (τ × List Char) :=
  (readUnits cs).map fun p => (Spelling.ofUnits p.1, p.2)

/-- The digits of a whole part: a zero alone, or digits that do not begin with one. -/
def wholePart : List Char → List Char × List Char
  | '0' :: cs => (['0'], cs)
  | cs => (cs.takeWhile Binary64.isDigit, cs.dropWhile Binary64.isDigit)

/-- A point and the digits behind it, if there are any. -/
def fractionPart : List Char → List Char × List Char
  | '.' :: d :: cs =>
    if Binary64.isDigit d then
      ('.' :: d :: cs.takeWhile Binary64.isDigit, cs.dropWhile Binary64.isDigit)
    else ([], '.' :: d :: cs)
  | cs => ([], cs)

/-- A power of ten, if it has digits. -/
def powerPart : List Char → List Char × List Char
  | e :: cs =>
    if e = 'e' || e = 'E' then
      let (sign, ds) : List Char × List Char := match cs with
        | '+' :: r => (['+'], r)
        | '-' :: r => (['-'], r)
        | r => ([], r)
      if ds.takeWhile Binary64.isDigit = [] then ([], e :: cs)
      else (e :: sign ++ ds.takeWhile Binary64.isDigit, ds.dropWhile Binary64.isDigit)
    else ([], e :: cs)
  | [] => ([], [])

variable {τ : Type}

/-- A number behind its sign, and what follows it. -/
def readNumber (l : Limits) (negative : Bool) (cs : List Char) :
    Except Fault (Json τ × List Char) :=
  let (whole, rest) := wholePart cs
  let (fraction, rest) := fractionPart rest
  let (power, rest) := powerPart rest
  if whole = [] then .error .malformed
  else if fraction = [] && power = [] then
    if l.digits.any (· < whole.length) then .error .tooManyDigits
    else
      let n : Nat := Binary64.digitsValue whole
      .ok (int (if negative then -n else n), rest)
  else match Binary64.readDigits? negative (whole ++ fraction ++ power) with
    | some x => .ok (float x, rest)
    | none => .error .malformed

section

variable [Spelling τ]

mutual

/-- The value that a text begins with, and what follows it. -/
def readValue (l : Limits) : Nat → List Char → Except Fault (Json τ × List Char)
  | 0, _ => .error .malformed
  | fuel + 1, cs =>
    match cs with
    | '"' :: r =>
      match readString r with
      | some (s, r) => .ok (str s, r)
      | none => .error .malformed
    | '{' :: r =>
      match l.deeper? with
      | none => .error .tooDeep
      | some l =>
        match skipSpace r with
        | '}' :: r => .ok (obj [], r)
        | r => do
          let (fields, r) ← readFields l fuel r
          pure (obj fields, r)
    | '[' :: r =>
      match l.deeper? with
      | none => .error .tooDeep
      | some l =>
        match skipSpace r with
        | ']' :: r => .ok (arr [], r)
        | r => do
          let (items, r) ← readItems l fuel r
          pure (arr items, r)
    | 'n' :: 'u' :: 'l' :: 'l' :: r => .ok (null, r)
    | 't' :: 'r' :: 'u' :: 'e' :: r => .ok (bool true, r)
    | 'f' :: 'a' :: 'l' :: 's' :: 'e' :: r => .ok (bool false, r)
    | 'N' :: 'a' :: 'N' :: r => .ok (float .nan, r)
    | 'I' :: 'n' :: 'f' :: 'i' :: 'n' :: 'i' :: 't' :: 'y' :: r => .ok (float (.infinite false), r)
    | '-' :: 'I' :: 'n' :: 'f' :: 'i' :: 'n' :: 'i' :: 't' :: 'y' :: r =>
      .ok (float (.infinite true), r)
    | '-' :: r => readNumber l true r
    | r => readNumber l false r

/-- The items of a list up to its closing bracket. -/
def readItems (l : Limits) : Nat → List Char → Except Fault (List (Json τ) × List Char)
  | 0, _ => .error .malformed
  | fuel + 1, cs => do
    let (v, r) ← readValue l fuel cs
    match skipSpace r with
    | ']' :: r => pure ([v], r)
    | ',' :: r =>
      let (vs, r) ← readItems l fuel (skipSpace r)
      pure (v :: vs, r)
    | _ => .error .malformed

/-- The fields of an object up to its closing brace. -/
def readFields (l : Limits) : Nat → List Char → Except Fault (List (τ × Json τ) × List Char)
  | 0, _ => .error .malformed
  | fuel + 1, cs =>
    match cs with
    | '"' :: r =>
      match readString r with
      | none => .error .malformed
      | some (k, r) =>
        match skipSpace r with
        | ':' :: r => do
          let (v, r) ← readValue l fuel (skipSpace r)
          match skipSpace r with
          | '}' :: r => pure ([(k, v)], r)
          | ',' :: r =>
            let (fs, r) ← readFields l fuel (skipSpace r)
            pure ((k, v) :: fs, r)
          | _ => .error .malformed
        | _ => .error .malformed
    | _ => .error .malformed

end

/-- The value that is written in a text, within limits. -/
def parse (l : Limits) (cs : List Char) : Except Fault (Json τ) := do
  let (v, rest) ← readValue l (cs.length + 1) (skipSpace cs)
  if skipSpace rest = [] then pure v else .error .malformed

/-- The value that a text stands for. -/
def read [DecidableEq τ] (cs : List Char) : Except Fault (Json τ) :=
  (parse .standard cs).map merged

end

end AppCatalog.Json
