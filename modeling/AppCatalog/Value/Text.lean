import AppCatalog.Decimal.Shortest
import AppCatalog.Failure
import AppCatalog.Json.Writer
import AppCatalog.Text.Integer
import AppCatalog.Text.Quoted
import AppCatalog.Value.Basic

/-!
# Texts of values

`Value.shown` is the text of a value on its own, and `Value.inside` its text inside a list, map or
set, where texts stand in quotation marks and dates show how they are made. An integer may be too
long to be written: `Value.written` then gives no text.
-/

namespace AppCatalog.Value

def commas (parts : List String) : String := String.intercalate ", " parts

/-- A distance of time as it shows inside a collection. -/
def distanceText (seconds : Int) : String :=
  let days := seconds.fdiv 86400
  let rest := seconds.fmod 86400
  "datetime.timedelta(" ++
    commas ((if days = 0 then [] else ["days=" ++ toString days]) ++
      (if rest = 0 then [] else ["seconds=" ++ toString rest])) ++ ")"

/-- A zone as it shows inside a collection. -/
def zoneText (seconds : Int) : String :=
  if seconds = 0 then "datetime.timezone.utc"
  else "datetime.timezone(" ++ distanceText seconds ++ ")"

def dateParts (d : Date) : List Nat := [d.year, d.month, d.day]

/-- The numbers of a moment; seconds and fractions only if they are not zero. -/
def momentParts (m : Moment) : List Nat :=
  dateParts m.date ++ [m.hour, m.minute] ++
    if m.microsecond ≠ 0 then [m.second, m.microsecond]
    else if m.second ≠ 0 then [m.second]
    else []

mutual

/-- The text of a value inside a collection. -/
def inside : Value → String
  | null => "None"
  | bool b => if b then "True" else "False"
  | int n => toString n
  | float x => String.ofList x.text
  | text s => String.ofList (Text.quotePoints s.points)
  | list items => "[" ++ commas (insideAll items) ++ "]"
  | map entries => "\x7b" ++ commas (insideEntries entries) ++ "\x7d"
  | pair a b => "(" ++ inside a ++ ", " ++ inside b ++ ")"
  | date d => "datetime.date(" ++ commas ((dateParts d).map toString) ++ ")"
  | moment m =>
    "datetime.datetime(" ++
      commas ((momentParts m).map toString ++
        (m.ahead.map fun s => "tzinfo=" ++ zoneText s).toList) ++ ")"
  | bytes data => String.ofList (Text.quoteBytes data)
  | set members =>
    if members.isEmpty then "set()" else "\x7b" ++ commas (insideAll members) ++ "\x7d"
  | cycle isMap => if isMap then "\x7b...\x7d" else "[...]"

/-- The texts of several values inside a collection. -/
def insideAll : List Value → List String
  | [] => []
  | v :: vs => inside v :: insideAll vs

/-- The texts of entries inside a map. -/
def insideEntries : List (Value × Value) → List String
  | [] => []
  | (k, v) :: es => (inside k ++ ": " ++ inside v) :: insideEntries es

end

/-- The text of a value on its own. -/
def shown : Value → Points
  | text s => s
  | date d => d.text
  | moment m => m.textWith " "
  | v => v.inside

mutual

/-- The greatest of the integers in a value, signs aside. -/
def greatest : Value → Nat
  | int n => n.natAbs
  | list items => greatestOfAll items
  | map entries => greatestOfEntries entries
  | pair a b => max (greatest a) (greatest b)
  | set members => greatestOfAll members
  | _ => 0

def greatestOfAll : List Value → Nat
  | [] => 0
  | v :: vs => max (greatest v) (greatestOfAll vs)

/-- The greatest of the integers in the keys and values of entries. -/
def greatestOfEntries : List (Value × Value) → Nat
  | [] => 0
  | (k, v) :: es => max (max (greatest k) (greatest v)) (greatestOfEntries es)

end

/-- The text of a value, unless an integer in it has too many digits to be written. -/
def written (v : Value) : Except Breakdown Points :=
  if v.greatest < Text.integerBound then .ok v.shown else .error .badValue

end AppCatalog.Value
