import AppCatalog.Decimal.Reader
import AppCatalog.Text.Base64
import AppCatalog.Value.Basic
import AppCatalog.Yaml.Node

/-!
# The value of a document

The tag of a node says how its value is made. Entries under a merge key are taken over from other
mappings, in front of the mapping's own. Where several nodes cannot be made into values, the fault
that counts is the one nearest to the root, and of those the first in the text: each made value
carries a fault with the level that it was found at.
-/

namespace AppCatalog.Yaml

open AppCatalog.Text

/-! ## Scalars -/

/-- The number in base sixty that parts between colons make. -/
def sixties (parts : List Int) : Int := parts.foldl (fun n p => n * 60 + p) 0

/-- An integer as a factor. It may be beyond all floating-point numbers. -/
def factorOf (n : Int) : Except Fault Binary64 :=
  let x := Binary64.ofInt n
  if x.isFinite then .ok x else .error (.breakdown .tooLarge)

/-- A sum with parts added to it, each sixty times the worth of the one before. -/
def addSixties (sum : Binary64) (worth : Int) : List Binary64 → Except Fault Binary64
  | [] => .ok sum
  | p :: ps => do addSixties (sum.add (p.mul (← factorOf worth))) (worth * 60) ps

/-- The number in base sixty that pointed parts between colons make. -/
def pointedSixties (parts : List Binary64) : Except Fault Binary64 :=
  addSixties (.finite false 0) 1 parts.reverse

/-- A sign in front of a text that is not empty, and the rest. -/
def signed? : List Char → Option (Bool × List Char)
  | [] => none
  | '-' :: cs => some (true, cs)
  | '+' :: cs => some (false, cs)
  | cs => some (false, cs)

/-- The integer of a text without sign and underscores. -/
def wholeNumber (cs : List Char) : Except Fault Int :=
  let read := fun base ds => match readInteger? base ds with
    | some n => .ok n
    | none => (.error (.breakdown .badValue) : Except Fault Int)
  match cs with
  | [] => .error (.breakdown .missingPart)
  | ['0'] => .ok 0
  | '0' :: 'b' :: ds => read 2 ds
  | '0' :: 'x' :: ds => read 16 ds
  | '0' :: _ => read 8 cs
  | _ =>
    if cs.contains ':' then ((splitAll ':' cs).mapM (read 10)).map sixties else read 10 cs

def intOf (cs : List Char) : Except Fault Int :=
  match signed? (cs.filter (· != '_')) with
  | none => .error (.breakdown .missingPart)
  | some (negative, body) => (wholeNumber body).map fun n => if negative then -n else n

/-- The floating-point number of a text without sign and underscores. -/
def pointedNumber (cs : List Char) : Except Fault Binary64 :=
  let read := fun ds => match Binary64.read? ds with
    | some x => .ok x
    | none => (.error (.breakdown .badValue) : Except Fault Binary64)
  if cs = ".inf".toList then .ok (.infinite false)
  else if cs = ".nan".toList then .ok .nan
  else if cs.contains ':' then (splitAll ':' cs).mapM read >>= pointedSixties
  else read cs

def floatOf (cs : List Char) : Except Fault Binary64 :=
  match signed? ((cs.filter (· != '_')).map Char.toLower) with
  | none => .error (.breakdown .missingPart)
  | some (negative, body) => (pointedNumber body).map fun x => if negative then x.neg else x

def boolOf (cs : List Char) : Except Fault Bool :=
  let word := (String.ofList cs).toLower
  if ["yes", "true", "on"].contains word then .ok true
  else if ["no", "false", "off"].contains word then .ok false
  else .error (.breakdown .missingKey)

/-- The first six digits of a fraction as microseconds. -/
def microsecondsOf (digits : List Char) : Nat :=
  let six := digits.take 6
  Binary64.digitsValue (six ++ List.replicate (6 - six.length) '0')

/-- The date or moment of a scalar. -/
def timestampOf (cs : List Char) : Except Fault Value :=
  let bad : Except Fault Value := .error (.breakdown .badValue)
  match Tag.stamp? (Tag.dropFinalNewline cs) with
  | none => .error (.breakdown .missingAttribute)
  | some s =>
    match Date.make? s.year s.month s.day, s.time with
    | none, _ => bad
    | some d, none => .ok (.date d)
    | some d, some (hour, minute, second, fraction) =>
      match Moment.make? d hour minute second (microsecondsOf fraction) s.ahead with
      | some m => .ok (.moment m)
      | none => bad

def bytesOf (cs : List Char) : Except Fault Value :=
  if cs.all (·.toNat < 0x80) then
    match Base64.decode? cs with
    | some bytes => .ok (.bytes bytes)
    | none => .error .malformed
  else .error .malformed

namespace Node

mutual

/-- The text of a node where a scalar is wanted: its own, or that of the value under the default key
of a mapping. -/
def scalarText? : Node → Option Points
  | scalar _ text => some text
  | mapping _ entries => defaultText? entries
  | _ => none

/-- The text of the value under the first default key. -/
def defaultText? : List (Node × Node) → Option Points
  | [] => none
  | (k, v) :: es => if k.tag = .default then scalarText? v else defaultText? es

end

/-- The node with the tag of a text if it has the tag of the default key. -/
def plainKey : Node → Node
  | scalar .default text => scalar .text text
  | mapping .default entries => mapping .text entries
  | sequence .default items => sequence .text items
  | n => n

mutual

/-- The entries of a mapping with those under merge keys in front; nothing if what stands under one
is no mapping. -/
def merged? : Node → Option (List (Node × Node))
  | mapping _ entries => (mergeAll? entries).map fun p => p.1 ++ p.2
  | cycle true => some []
  | _ => none

/-- The entries taken over by merge keys, and the mapping's own. -/
def mergeAll? : List (Node × Node) → Option (List (Node × Node) × List (Node × Node))
  | [] => some ([], [])
  | (k, v) :: es =>
    match mergeAll? es with
    | none => none
    | some (taken, own) =>
      if k.tag = .merge then
        match v with
        | sequence _ items => (mergeItems? items).map fun ts => (ts ++ taken, own)
        | v => (merged? v).map fun ts => (ts ++ taken, own)
      else some (taken, (k.plainKey, v) :: own)

/-- The entries of several mappings, those of the last in front. -/
def mergeItems? : List Node → Option (List (Node × Node))
  | [] => some []
  | n :: ns =>
    match merged? n, mergeItems? ns with
    | some es, some later => some (later ++ es)
    | _, _ => none

end

mutual

/-- How many nodes stand above each other. -/
def depth : Node → Nat
  | sequence _ items => depthOfItems items + 1
  | mapping _ entries => depthOfEntries entries + 1
  | _ => 1

def depthOfItems : List Node → Nat
  | [] => 0
  | n :: ns => max (depth n) (depthOfItems ns)

/-- The depth of the deepest key or value. -/
def depthOfEntries : List (Node × Node) → Nat
  | [] => 0
  | (k, v) :: es => max (max (depth k) (depth v)) (depthOfEntries es)

end

end Node

/-! ## Collections -/

/-- A value, or a fault with the level that it was found at. -/
abbrev Made (α : Type) := Except (Nat × Fault) α

namespace Made

/-- Two values made one after the other: of two faults the one at the lower level counts. -/
def both {α β : Type} (a : Made α) (b : Made β) : Made (α × β) :=
  match a, b with
  | .ok x, .ok y => .ok (x, y)
  | .error e, .ok _ => .error e
  | .ok _, .error e => .error e
  | .error (i, e), .error (j, f) => if j < i then .error (j, f) else .error (i, e)

def all {α β : Type} (f : α → Made β) : List α → Made (List β)
  | [] => .ok []
  | x :: xs => (both (f x) (all f xs)).map fun p => p.1 :: p.2

def fault {α : Type} (level : Nat) (e : Fault) : Made α := .error (level, e)

def ofScalar {α : Type} (level : Nat) : Except Fault α → Made α
  | .ok a => .ok a
  | .error e => .error (level, e)

end Made

namespace Node

/-- The value of a scalar node at a level. -/
def scalarValue (level : Nat) (n : Node) (f : Points → Except Fault Value) : Made Value :=
  match n.scalarText? with
  | some text => Made.ofScalar level (f text)
  | none => Made.fault level .malformed

/-- The value of a node at a level, its keys and items one level deeper. -/
def make : Nat → Nat → Node → Made Value
  | 0, level, _ => Made.fault level .malformed
  | fuel + 1, level, n =>
    let inner := make fuel (level + 1)
    let entriesOf := fun (es : List (Node × Node)) =>
      (Made.all (fun (e : Node × Node) =>
        let k := (inner e.1).bind fun k =>
          if k.isSimple then .ok k else Made.fault (level + 1) .malformed
        Made.both k (inner e.2)) es).map Value.ofEntries
    let pairOf := fun (item : Node) => match item with
      | mapping _ [(k, v)] => (Made.both (inner k) (inner v)).map fun p => Value.pair p.1 p.2
      | _ => Made.fault (level + 1) .malformed
    match n with
    | cycle isMapping => .ok (.cycle isMapping)
    | n =>
      match n.tag with
      | .null => scalarValue level n fun _ => .ok .null
      | .bool => scalarValue level n fun p => (boolOf p.replaced).map .bool
      | .int => scalarValue level n fun p => (intOf p.replaced).map .int
      | .float => scalarValue level n fun p => (floatOf p.replaced).map .float
      | .binary => scalarValue level n fun p => bytesOf p.replaced
      | .timestamp => scalarValue level n fun p => timestampOf p.replaced
      | .text => scalarValue level n fun p => .ok (.text p)
      | .sequence =>
        match n with
        | sequence _ items => (Made.all inner items).map .list
        | _ => Made.fault (level + 1) .malformed
      | .orderedMap | .pairs =>
        match n with
        | sequence _ items => (Made.all pairOf items).map .list
        | _ => Made.fault (level + 1) .malformed
      | .mapping =>
        match n with
        | mapping _ _ =>
          match n.merged? with
          | some es => (entriesOf es).map .map
          | none => Made.fault (level + 1) .malformed
        | _ => Made.fault (level + 1) .malformed
      | .set =>
        match n with
        | mapping _ _ =>
          match n.merged? with
          | some es => (entriesOf es).map fun es => .set (es.map Prod.fst)
          | none => Made.fault (level + 1) .malformed
        | _ => Made.fault (level + 1) .malformed
      | .merge | .default | .other _ => Made.fault level .malformed

end Node

/-- How many nodes of a document may stand above each other. The number depends on the room that is
left to the reader. -/
def maxLevels : Nat := 480

/-- The value that a text holds; null if it holds no document. There may be a limit to how many of its
nodes stand above each other. -/
def load (levels : Option Nat) (cs : List Char) : Except Fault Value := do
  match ← Node.ofText cs with
  | none => pure .null
  | some n =>
    if levels.any (· < n.depth) then throw (.breakdown .tooDeep)
    else match n.make (n.depth + 1) 0 with
      | .ok v => pure v
      | .error (_, e) => throw e

end AppCatalog.Yaml
