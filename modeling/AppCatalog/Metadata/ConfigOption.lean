import AppCatalog.Text.Split
import AppCatalog.Value.Text

/-!
# Configuration options

An application's metadata describes the options it can be configured with. `ConfigOption.ofEntries`
reads an option from the entries of a mapping, and `ConfigOption.isVisible` says whether a list of
visible names covers it: a name covers the option of that id and every option whose id goes on
behind it with a dot. How a value is written as a text is not looked at here.
-/

namespace AppCatalog

open AppCatalog.Text

/-- An option that an application can be configured with. -/
structure ConfigOption where
  id : Points
  /-- The last segment of the id. -/
  name : Points
  type : Points
  default : Value
  description : Points
  isDeprecated : Bool
  deriving Repr, Inhabited

namespace ConfigOption

def given? (key : String) (entries : List (Value × Value)) : Option Value :=
  (Value.get? key entries).filter Value.isTruthy

/-- The default of an option, under either of its two spellings. -/
def defaultOf (entries : List (Value × Value)) : Value :=
  ((Value.get? "default_value" entries).or (Value.get? "defaultValue" entries)).getD .null

def dot : Nat := '.'.toNat

section

variable (write : Value → Except Breakdown Points)

/-- The text of a value, empty if there is none. -/
def textOf : Option Value → Except Breakdown Points
  | some v => write v
  | none => .ok ""

/-- The option that the entries of a mapping describe. Its id is written there as the id or else as
the name. -/
def ofEntries (entries : List (Value × Value)) : Except Breakdown ConfigOption := do
  let id ← textOf write ((given? "id" entries).or (given? "name" entries))
  let type ← textOf write (given? "type" entries)
  let description ← textOf write (given? "description" entries)
  .ok {
    id
    name := ⟨afterLast dot id.points⟩
    type
    default := defaultOf entries
    description
    isDeprecated :=
      (given? "deprecated" entries).isSome || (given? "deprecation" entries).isSome }

end

def covers (name id : List Nat) : Bool := id == name || (dropLead? (name ++ [dot]) id).isSome

/-- Whether one of some names covers the option. -/
def isVisible (o : ConfigOption) (names : List Points) : Bool :=
  names.any fun name => covers name.points o.id.points

end ConfigOption

end AppCatalog
