import AppCatalog.Assoc
import AppCatalog.Decimal.Shortest
import AppCatalog.Text.Points

/-!
# JSON values

A JSON value keeps the order of its fields and tells integers of any size from other numbers. Its
strings are texts of some kind: strings of characters if nothing else is said, or runs of code
points. A text may give a field several times; `Json.merged` keeps the first place and the last value
of each.
-/

namespace AppCatalog

/-- A JSON value. The fields of an object keep their order. -/
inductive Json (τ : Type := String) where
  | null
  | bool (b : Bool)
  | int (n : Int)
  | float (x : Binary64)
  | str (s : τ)
  | arr (items : List (Json τ))
  | obj (fields : List (τ × Json τ))
  deriving Repr, Inhabited, BEq

namespace Json

def field? (name : String) : Json → Option Json
  | obj fields => Assoc.get? name fields
  | _ => none

def ofOption : Option String → Json
  | some s => str s
  | none => null

/-- Whether a value counts as empty: null, false, zero, and texts, lists and objects with nothing in
them. -/
def isEmpty : Json → Bool
  | null => true
  | bool b => !b
  | int n => n == 0
  | float x => x.isZero
  | str s => s == ""
  | arr items => items.isEmpty
  | obj fields => fields.isEmpty

/-- A kind of texts that strings of code units can be read as. -/
class Spelling (τ : Type) where
  ofUnits : List Nat → τ
  points : τ → Points

/-- A surrogate without its partner is replaced. -/
instance : Spelling String := ⟨fun us => String.ofList (Text.decodeUnits us), Points.ofString⟩

instance : Spelling Points := ⟨Points.ofUnits, id⟩

section

variable {τ : Type}

mutual

/-- A value in which no object has two fields of one name. -/
def merged [DecidableEq τ] : Json τ → Json τ
  | null => null
  | bool b => bool b
  | int n => int n
  | float x => float x
  | str s => str s
  | arr items => arr (mergedItems items)
  | obj fields => obj (Assoc.ofPairs (mergedFields fields))

def mergedItems [DecidableEq τ] : List (Json τ) → List (Json τ)
  | [] => []
  | v :: vs => merged v :: mergedItems vs

/-- The fields of an object with the value of each of them merged. -/
def mergedFields [DecidableEq τ] : List (τ × Json τ) → List (τ × Json τ)
  | [] => []
  | (k, v) :: fs => (k, merged v) :: mergedFields fs

end

mutual

/-- How many lists and objects stand inside each other. -/
def depth : Json τ → Nat
  | arr items => depthOfItems items + 1
  | obj fields => depthOfFields fields + 1
  | _ => 0

def depthOfItems : List (Json τ) → Nat
  | [] => 0
  | v :: vs => max (depth v) (depthOfItems vs)

/-- The depth of the deepest value of a field. -/
def depthOfFields : List (τ × Json τ) → Nat
  | [] => 0
  | (_, v) :: fs => max (depth v) (depthOfFields fs)

end

mutual

/-- The greatest of the integers in a value, signs aside. -/
def greatest : Json τ → Nat
  | int n => n.natAbs
  | arr items => greatestOfItems items
  | obj fields => greatestOfFields fields
  | _ => 0

def greatestOfItems : List (Json τ) → Nat
  | [] => 0
  | v :: vs => max (greatest v) (greatestOfItems vs)

/-- The greatest of the integers in the values of fields. -/
def greatestOfFields : List (τ × Json τ) → Nat
  | [] => 0
  | (_, v) :: fs => max (greatest v) (greatestOfFields fs)

end

end

end Json

end AppCatalog
