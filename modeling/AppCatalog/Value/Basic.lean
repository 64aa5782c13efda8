import AppCatalog.Calendar
import AppCatalog.Json.Basic
import AppCatalog.Text.Points
import AppCatalog.Text.Utf8

/-!
# Values of documents

A metadata document holds values of many kinds: what JSON knows, and dates, moments, bytes, sets,
pairs and maps with keys of any simple kind. Its texts are runs of code points, for an escape may
stand for half of a character. `Value.ofJson` brings a JSON value into this form and `Value.isTruthy`
says whether a value counts as given.
-/

namespace AppCatalog

/-- A value of a document. -/
inductive Value where
  | null
  | bool (b : Bool)
  | int (n : Int)
  | float (x : Binary64)
  | text (s : Points)
  | list (items : List Value)
  /-- Keys are distinct and in order. -/
  | map (entries : List (Value × Value))
  | pair (first second : Value)
  | date (d : Date)
  | moment (m : Moment)
  | bytes (data : Bytes)
  | set (members : List Value)
  /-- A place where a list or map stands inside itself. -/
  | cycle (isMap : Bool)
  deriving Repr, Inhabited

namespace Value

section

variable {τ : Type} [Json.Spelling τ]

mutual

def ofJson : Json τ → Value
  | .null => null
  | .bool b => bool b
  | .int n => int n
  | .float x => float x
  | .str s => text (Json.Spelling.points s)
  | .arr items => list (ofItems items)
  | .obj fields => map (ofFields fields)

/-- The values of the items of a JSON list. -/
def ofItems : List (Json τ) → List Value
  | [] => []
  | v :: vs => ofJson v :: ofItems vs

/-- The entries of the fields of a JSON object. -/
def ofFields : List (τ × Json τ) → List (Value × Value)
  | [] => []
  | (k, v) :: fs => (text (Json.Spelling.points k), ofJson v) :: ofFields fs

end

end

/-- Whether a value counts as given: not null, false, zero or empty. -/
def isTruthy : Value → Bool
  | null => false
  | bool b => b
  | int n => n != 0
  | float x => !x.isZero
  | text s => !s.isEmpty
  | list items => !items.isEmpty
  | map entries => !entries.isEmpty
  | bytes data => !data.isEmpty
  | set members => !members.isEmpty
  | _ => true

/-- The integer that a value is equal to as a key. -/
def integer? : Value → Option Int
  | bool b => some (if b then 1 else 0)
  | int n => some n
  | float x => x.toInt?
  | _ => none

/-- Whether two simple values are the same key. Numbers are compared by what they stand for. -/
def sameKey (a b : Value) : Bool :=
  match a, b with
  | null, null => true
  | text s, text t => s == t
  | date d, date e => d == e
  | moment m, moment n => m.same n
  | bytes s, bytes t => s == t
  | float x, float y => x == y || (x.isZero && y.isZero)
  | a, b =>
    match a.integer?, b.integer? with
    | some m, some n => m == n
    | _, _ => false

/-- Whether a value may be a key. -/
def isSimple : Value → Bool
  | list _ | map _ | set _ | cycle _ => false
  | _ => true

/-- Entries with a value under a key: in the key's old place, or at the end. -/
def insertEntry (k v : Value) : List (Value × Value) → List (Value × Value)
  | [] => [(k, v)]
  | (j, w) :: es => if sameKey j k then (j, v) :: es else (j, w) :: insertEntry k v es

/-- The map that a run of entries builds. -/
def ofEntries (es : List (Value × Value)) : List (Value × Value) :=
  es.foldl (fun m e => insertEntry e.1 e.2 m) []

/-- The value under a text key of a map's entries. -/
def get? (name : String) : List (Value × Value) → Option Value
  | [] => none
  | (text s, v) :: es => if s == .ofString name then some v else get? name es
  | _ :: es => get? name es

end Value

end AppCatalog
