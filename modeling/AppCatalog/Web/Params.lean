import AppCatalog.AppType
import AppCatalog.Page
import AppCatalog.Text.Integer

/-!
# Parameters of requests

A parameter comes from the query or the path of a request and is read as a number, a truth value, a
type or a text. Of several values of one name the last one counts. What is wrong with the parameters
of a request is collected: each fault says where the parameter is and what is wrong with it.
-/

namespace AppCatalog.Web

open AppCatalog.Text

/-- Where a parameter is. -/
inductive Place where
  | query
  | path
  deriving DecidableEq, Repr

/-- What is wrong with a parameter. -/
inductive Trouble where
  | missing
  | notInteger
  | tooManyDigits
  | tooSmall
  | tooLarge
  | notTruthValue
  | notType
  deriving DecidableEq, Repr

def Trouble.word : Trouble → String
  | missing => "missing"
  | notInteger => "int_parsing"
  | tooManyDigits => "int_parsing_size"
  | tooSmall => "greater_than_equal"
  | tooLarge => "less_than_equal"
  | notTruthValue => "bool_parsing"
  | notType => "enum"

/-- A parameter with something wrong. -/
structure ParamFault where
  place : Place
  name : String
  trouble : Trouble
  deriving DecidableEq, Repr

/-- What reading parameters gives: a value, or all that is wrong. -/
abbrev Reading (α : Type) := Except (List ParamFault) α

namespace Reading

/-- Two parameters read one after another; what is wrong with either is collected. -/
def both {α β : Type} (a : Reading α) (b : Reading β) : Reading (α × β) :=
  match a, b with
  | .ok x, .ok y => .ok (x, y)
  | .ok _, .error fs => .error fs
  | .error fs, .ok _ => .error fs
  | .error fs, .error gs => .error (fs ++ gs)

end Reading

def groupedDigits? (cs : List Char) : Option (List Char) :=
  let groups := splitAll '_' cs
  if groups.all (fun g => g ≠ [] && g.all fun c => '0' ≤ c && c ≤ '9') then some groups.flatten
  else none

/-- An integer without its sign; a fraction may follow if it is all zeros. -/
def wholePart? (cs : List Char) : Option (List Char) :=
  match cutAt? ['.'] cs with
  | some (whole, fraction) => if fraction.all (· == '0') then groupedDigits? whole else none
  | none => groupedDigits? cs

/-- Blank characters that may stand around a number. -/
def isOuterBlank (c : Char) : Bool := isBlank c && !(0x1c ≤ c.toNat && c.toNat ≤ 0x1f)

/-- A text without the blanks around it. -/
def trimOuter (cs : List Char) : List Char :=
  ((cs.dropWhile isOuterBlank).reverse.dropWhile isOuterBlank).reverse

def valueOf (digits : List Char) : Nat := digits.foldl (fun n c => n * 10 + (c.toNat - 48)) 0

def readInt (text : String) : Except Trouble Int :=
  let cs := trimOuter text.toList
  if maxDigits < cs.length then .error .tooManyDigits
  else
    let (negative, body) := takeSign cs
    match wholePart? body with
    | some digits => .ok (if negative then -valueOf digits else valueOf digits)
    | none => .error .notInteger

/-- The words for a truth value, in lower case. -/
def truthWords : List (String × Bool) :=
  [("0", false), ("off", false), ("f", false), ("false", false), ("n", false), ("no", false),
    ("1", true), ("on", true), ("t", true), ("true", true), ("y", true), ("yes", true)]

/-- The truth value that a text holds; the case of letters does not matter. -/
def readBool (text : String) : Except Trouble Bool :=
  match truthWords.find? fun p => p.1.toList == text.toList.map Char.toLower with
  | some (_, b) => .ok b
  | none => .error .notTruthValue

def readType (text : String) : Except Trouble AppType :=
  match AppType.ofWord? text with
  | some t => .ok t
  | none => .error .notType

/-- The query parameters of a request. -/
abbrev Params := List (String × String)

namespace Params

/-- The value of a name; of several the last one counts. -/
def value? (ps : Params) (name : String) : Option String :=
  (ps.reverse.find? fun p => p.1 == name).map Prod.snd

/-- A text that may be left out. -/
def text? (ps : Params) (name : String) : Reading (Option String) := .ok (ps.value? name)

/-- A text that has to be there. -/
def text (ps : Params) (name : String) : Reading String :=
  match ps.value? name with
  | some s => .ok s
  | none => .error [⟨.query, name, .missing⟩]

/-- A value that is read from a text; another one stands in if it is left out. -/
def read {α : Type} (ps : Params) (name : String) (reader : String → Except Trouble α)
    (otherwise : α) : Reading α :=
  match ps.value? name with
  | none => .ok otherwise
  | some s =>
    match reader s with
    | .ok a => .ok a
    | .error t => .error [⟨.query, name, t⟩]

/-- A truth value, false if it is left out. -/
def bool (ps : Params) (name : String) : Reading Bool := ps.read name readBool false

/-- A type that may be left out. -/
def type? (ps : Params) : Reading (Option AppType) :=
  ps.read "type" (fun s => (readType s).map some) none

def readBounded (most : Option Nat) (text : String) : Except Trouble Nat :=
  match readInt text with
  | .error t => .error t
  | .ok n =>
    if n < 0 then .error .tooSmall
    else if most.any (· < n.toNat) then .error .tooLarge
    else .ok n.toNat

/-- The largest page that can be asked for. -/
def maxPageSize : Nat := 2000

/-- The window that a request asks for. -/
def pageRequest (ps : Params) : Reading PageRequest :=
  (Reading.both (ps.read "page" (readBounded none) PageRequest.standard.page)
    (ps.read "size" (readBounded (some maxPageSize)) PageRequest.standard.size)).map
    fun (page, size) => ⟨page, size⟩

end Params

/-- The type in the path of a request. -/
def pathType (word : String) : Reading AppType :=
  match readType word with
  | .ok t => .ok t
  | .error t => .error [⟨.path, "type", t⟩]

end AppCatalog.Web
