import AppCatalog.Json.Basic
import AppCatalog.Failure
import AppCatalog.Registration
import AppCatalog.Text.Split
import AppCatalog.Value.Text

/-!
# The index of a store

A store keeps each registration as a JSON object under its identifying text, in the order in which
the texts were first inserted. `Index.encode` writes such an object and `Index.decode` reads one. An
index file may have been written by somebody else: entries are decoded only when they are asked for,
a field that is not known stays where it is, and an index that is no object at all fails each
question in its own way.
-/

namespace AppCatalog

/-- What is kept under each identifying text, or whatever else an index file held. -/
inductive Index where
  | entries (m : Assoc String Json)
  | other (v : Json)
  deriving Repr, Inhabited

namespace Index

def empty : Index := entries []

/-- The index that a JSON value is. -/
def ofJson : Json → Index
  | .obj m => entries m
  | v => other v

def toJson : Index → Json
  | entries m => .obj m
  | other v => v

def encode (r : Registration) : Json :=
  .obj [("name", .str r.name), ("type", .str r.type.word), ("uri", .str r.uri),
    ("metadata_uri", .ofOption r.metadataUri)]

def decodeType : Json → Except Failure AppType
  | .str w =>
    match AppType.ofWord? w with
    | some t => .ok t
    | none => .error (.breakdown (.unknownType w))
  | v => .error (.breakdown (.untyped (Value.ofJson v).inside))

/-- A field that has to be there. -/
def required (name : String) (fields : Assoc String Json) : Except Failure Json :=
  match Assoc.get? name fields with
  | some v => .ok v
  | none => .error (.breakdown .missingKey)

def decodeText : Json → Except Failure String
  | .str s => .ok s
  | _ => .error (.breakdown .wrongType)

/-- The text of a field that may be left out. -/
def decodeOptional : Option Json → Except Failure (Option String)
  | none | some .null => .ok none
  | some v => (decodeText v).map some

def decode : Json → Except Failure Registration
  | .obj fields => do
    let name ← required "name" fields
    let type ← decodeType (← required "type" fields)
    let uri ← required "uri" fields
    let name ← decodeText name
    let uri ← decodeText uri
    let metadataUri ← decodeOptional (Assoc.get? "metadata_uri" fields)
    .ok ⟨type, name, uri, metadataUri⟩
  | _ => .error (.breakdown .wrongType)

/-- The entry under an identifying text; one that is null is not there. -/
def entry? (i : Index) (id : String) : Except Failure (Option Json) :=
  match i with
  | entries m =>
    match Assoc.get? id m with
    | none | some .null => .ok none
    | some v => .ok (some v)
  | other _ => .error (.breakdown .missingAttribute)

/-- The registration of an entry; an empty entry holds none. -/
def decodeGiven : Option Json → Except Failure (Option Registration)
  | none => .ok none
  | some v => if v.isEmpty then .ok none else (decode v).map some

/-- The registration of a type and name. -/
def find (i : Index) (type : AppType) (name : String) : Except Failure (Option Registration) := do
  decodeGiven (← i.entry? (Registration.idOf type name))

def all : Index → Except Failure (List Registration)
  | entries m => (m.mapM fun p => decode p.2).map Registration.sort
  | other _ => .error (.breakdown .missingAttribute)

def count : Index → Except Failure Nat
  | entries m => .ok m.length
  | other (.arr items) => .ok items.length
  | other (.str s) => .ok s.length
  | other _ => .error (.breakdown .wrongType)

def mentions (i : Index) (id : String) : Except Failure Bool :=
  match i with
  | entries m => .ok (Assoc.contains id m)
  | other (.arr items) => .ok (items.contains (.str id))
  | other (.str s) => .ok (Text.occursIn id.toList s.toList)
  | other _ => .error (.breakdown .wrongType)

/-- The index with a registration under its identifying text. -/
def insert (i : Index) (r : Registration) : Except Failure Index :=
  match i with
  | entries m => .ok (entries (Assoc.insert r.id (encode r) m))
  | other _ => .error (.breakdown .wrongType)

/-- The index without an identifying text, and whether there was an entry. -/
def erase (i : Index) (id : String) : Except Failure (Index × Bool) :=
  match i with
  | entries m =>
    .ok (entries (Assoc.erase id m),
      match Assoc.get? id m with
      | none | some .null => false
      | some _ => true)
  | other (.arr _) => .error (.breakdown .wrongType)
  | other _ => .error (.breakdown .missingAttribute)

end Index

end AppCatalog
