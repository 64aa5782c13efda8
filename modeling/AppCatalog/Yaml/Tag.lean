import AppCatalog.Text.Split

/-!
# Tags

A tag says what kind of value a node stands for. A plain scalar without a tag has the tag that its
text looks like: `Tag.ofPlain` knows the texts of booleans, integers, floating-point numbers, null,
dates, the merge key and the default key.
-/

namespace AppCatalog.Yaml

/-- What kind of value a node stands for. -/
inductive Tag where
  | null
  | bool
  | int
  | float
  | binary
  | timestamp
  | orderedMap
  | pairs
  | set
  | text
  | sequence
  | mapping
  | merge
  | default
  /-- Any other kind, by name. -/
  | other (name : String)
  deriving DecidableEq, Repr, Inhabited

namespace Tag

/-- What the names of the standard tags begin with. -/
def standardLead : List Char := "tag:yaml.org,2002:".toList

def ofName (cs : List Char) : Tag :=
  match (Text.dropLead? standardLead cs).map String.ofList with
  | some "null" => null
  | some "bool" => bool
  | some "int" => int
  | some "float" => float
  | some "binary" => binary
  | some "timestamp" => timestamp
  | some "omap" => orderedMap
  | some "pairs" => pairs
  | some "set" => set
  | some "str" => text
  | some "seq" => sequence
  | some "map" => mapping
  | some "merge" => merge
  | some "value" => default
  | _ => other (String.ofList cs)

/-! ## Texts of numbers and dates -/

def isDigit (c : Char) : Bool := c.isDigit

def isDigitOrGap (c : Char) : Bool := c.isDigit || c == '_'

def dropSign : List Char → List Char
  | '+' :: cs => cs
  | '-' :: cs => cs
  | cs => cs

/-- A part of a number in base sixty behind its colon: one digit, or two with the first below
six. -/
def isSixty : List Char → Bool
  | [a] => a.isDigit
  | [a, b] => 48 ≤ a.toNat && a.toNat ≤ 53 && b.isDigit
  | _ => false

/-- Whether parts between colons make a number in base sixty. -/
def isSixties (leads : Char → Bool) : List (List Char) → Bool
  | (c :: cs) :: p :: ps => leads c && cs.all isDigitOrGap && (p :: ps).all isSixty
  | _ => false

/-- Whether a text looks like an integer. -/
def looksInt (cs : List Char) : Bool :=
  let body := dropSign cs
  match body with
  | '0' :: 'b' :: ds => ds ≠ [] && ds.all fun c => c == '0' || c == '1' || c == '_'
  | '0' :: 'x' :: ds => ds ≠ [] && ds.all fun c =>
      c == '_' || c.isDigit || (97 ≤ c.toNat && c.toNat ≤ 102) || (65 ≤ c.toNat && c.toNat ≤ 70)
  | '0' :: ds => ds.all fun c => (48 ≤ c.toNat && c.toNat ≤ 55) || c == '_'
  | c :: ds =>
    c.isDigit && (ds.all isDigitOrGap ||
      isSixties (fun c => c.isDigit && c != '0') (Text.splitAll ':' (c :: ds)))
  | [] => false

/-- Whether a text is nothing or a power of ten with a sign. -/
def isPower : List Char → Bool
  | [] => true
  | e :: s :: d :: ds => (e == 'e' || e == 'E') && (s == '+' || s == '-') && (d :: ds).all isDigit
  | _ => false

/-- Whether a text is digits, a point, digits and perhaps a power. -/
def isPointed (cs : List Char) : Bool :=
  match cs with
  | c :: _ =>
    c.isDigit && match cs.dropWhile isDigitOrGap with
      | '.' :: r => isPower (r.dropWhile isDigitOrGap)
      | _ => false
  | [] => false

/-- Whether a text is a number in base sixty with a point behind the last part. -/
def isPointedSixties (cs : List Char) : Bool :=
  match Text.cutAt? ['.'] cs with
  | some (whole, fraction) =>
    isSixties Char.isDigit (Text.splitAll ':' whole) && fraction.all isDigitOrGap
  | none => false

/-- Whether a text looks like a floating-point number. -/
def looksFloat (cs : List Char) : Bool :=
  let body := dropSign cs
  isPointed body || isPointedSixties body ||
    (match cs with
      | '.' :: d :: r => d.isDigit && isPower (r.dropWhile isDigitOrGap)
      | _ => false) ||
    [".inf", ".Inf", ".INF"].contains (String.ofList body) ||
    [".nan", ".NaN", ".NAN"].contains (String.ofList cs)

/-- One or two digits in front of a text, and the rest. -/
def oneOrTwo? : List Char → Option (Nat × List Char)
  | a :: b :: cs =>
    if a.isDigit && b.isDigit then some ((a.toNat - 48) * 10 + (b.toNat - 48), cs)
    else if a.isDigit then some (a.toNat - 48, b :: cs)
    else none
  | [a] => if a.isDigit then some (a.toNat - 48, []) else none
  | [] => none

/-- Two digits in front of a text, and the rest. -/
def two? : List Char → Option (Nat × List Char)
  | a :: b :: cs =>
    if a.isDigit && b.isDigit then some ((a.toNat - 48) * 10 + (b.toNat - 48), cs) else none
  | _ => none

/-- The rest of a text behind a character. -/
def behind? (c : Char) : List Char → Option (List Char)
  | d :: cs => if d = c then some cs else none
  | [] => none

/-- The distance of a zone from universal time in seconds, `Z` being none. -/
def zone? (cs : List Char) : Option Int :=
  match cs with
  | ['Z'] => some 0
  | sign :: r =>
    if sign == '+' || sign == '-' then do
      let (hours, r) ← oneOrTwo? r
      let minutes ← match r with
        | [] => some 0
        | ':' :: r =>
          match two? r with
          | some (m, []) => some m
          | _ => none
        | _ => none
      let n : Int := hours * 3600 + minutes * 60
      some (if sign == '-' then -n else n)
    else none
  | [] => none

/-- The parts of a date, with the digits of its day and month counted, and of a time if one
follows. -/
structure Stamp where
  year : Nat
  month : Nat
  day : Nat
  /-- Whether month and day have two digits each. -/
  isWide : Bool
  /-- Hour, minute, second and digits of a fraction. -/
  time : Option (Nat × Nat × Nat × List Char)
  /-- Seconds ahead of universal time. -/
  ahead : Option Int

def time? (cs : List Char) : Option ((Nat × Nat × Nat × List Char) × Option Int) := do
  let (hour, r) ← oneOrTwo? cs
  let (minute, r) ← two? (← behind? ':' r)
  let (second, r) ← two? (← behind? ':' r)
  let (fraction, r) := match r with
    | '.' :: r => (r.takeWhile isDigit, r.dropWhile isDigit)
    | r => ([], r)
  let ahead ← match r with
    | [] => some none
    | r => (zone? (r.dropWhile fun c => c == ' ' || c == '\t')).map some
  some ((hour, minute, second, fraction), ahead)

/-- The parts of a date with or without a time. -/
def stamp? (cs : List Char) : Option Stamp := do
  let (century, r) ← two? cs
  let (year, r) ← two? r
  let fromMonth ← behind? '-' r
  let (month, r) ← oneOrTwo? fromMonth
  let fromDay ← behind? '-' r
  let (day, r) ← oneOrTwo? fromDay
  let isWide := (two? fromMonth).isSome && (two? fromDay).isSome
  match r with
  | [] => some ⟨century * 100 + year, month, day, isWide, none, none⟩
  | c :: rest =>
    let fromTime ←
      if c == 'T' || c == 't' then some rest
      else if c == ' ' || c == '\t' then
        some (rest.dropWhile fun c => c == ' ' || c == '\t')
      else none
    let (time, ahead) ← time? fromTime
    some ⟨century * 100 + year, month, day, isWide, some time, ahead⟩

/-- Whether a text looks like a date; without a time its month and day must have two digits. -/
def looksDate (cs : List Char) : Bool :=
  match stamp? cs with
  | some s => s.isWide || s.time.isSome
  | none => false

/-- The text without one line feed at its end. -/
def dropFinalNewline (cs : List Char) : List Char :=
  if cs.getLast? = some '\n' then cs.dropLast else cs

/-- The tag that the text of a plain scalar looks like. -/
def ofPlain (cs : List Char) : Tag :=
  let line := dropFinalNewline cs
  let word := String.ofList line
  if cs = [] then null
  else if line = [] then text
  else if ["yes", "Yes", "YES", "no", "No", "NO", "true", "True", "TRUE", "false", "False", "FALSE",
      "on", "On", "ON", "off", "Off", "OFF"].contains word then bool
  else if looksFloat line then float
  else if looksInt line then int
  else if word = "<<" then merge
  else if ["~", "null", "Null", "NULL"].contains word then null
  else if looksDate line then timestamp
  else if word = "=" then default
  else if ["!", "&", "*"].contains word then other "tag:yaml.org,2002:yaml"
  else text

end Tag

end AppCatalog.Yaml
