import AppCatalog.Properties.Listing
import AppCatalog.Store.Basic
import AppCatalog.Artifact.Cache
import AppCatalog.Uri.Check

/-!
# Importing listings

A listing names applications by keys `<type>.<name>`, and their metadata by keys
`<type>.<name>.metadata`. `ImportPlan.ofListing` reads a listing in order and stops at the first
entry that is not of this form; only when the whole listing is in order does `Store.importAll`
change the store. Registrations that are there stay there unless the import is forced.
-/

namespace AppCatalog

open AppCatalog.Text

/-- What the entries of a listing say so far: the URIs of applications and of their metadata. -/
structure ImportPlan where
  uris : Assoc (AppType × String) String
  metadataUris : Assoc (AppType × String) String
  deriving Repr, Inhabited

namespace ImportPlan

/-- The last part of a key that is about metadata. -/
def metadataWord : List Char := "metadata".toList

/-- The two forms of a key: type and name, and whether it is about metadata. -/
def keyParts? (key : List Char) : Option (List Char × List Char × Bool) :=
  match splitAll '.' key with
  | [type, name] => some (type, name, false)
  | [type, name, last] => if last = metadataWord then some (type, name, true) else none
  | _ => none

/-- The type and name of a key, and whether it is about metadata. -/
def target (key : List Char) : Except EntryFault (AppType × String × Bool) :=
  match keyParts? key with
  | none => .error .badShape
  | some (type, name, isMetadata) =>
    match AppType.ofWord? (String.ofList type) with
    | none => .error (.unknownType (String.ofList type))
    | some t => if name = [] then .error .emptyName else .ok (t, String.ofList name, isMetadata)

def add (p : ImportPlan) (key value : List Char) : Except Failure ImportPlan :=
  match target key with
  | .error fault => .error (.invalidEntry (String.ofList key) fault)
  | .ok (type, name, isMetadata) =>
    match Uri.fault? value with
    | some fault => .error (.invalidUri (String.ofList value) fault)
    | none =>
      if isMetadata then
        let uri := String.ofList value
        .ok { p with metadataUris := Assoc.insert (type, name) uri p.metadataUris }
      else .ok { p with uris := Assoc.insert (type, name) (String.ofList value) p.uris }

def orphans (p : ImportPlan) : List (AppType × String) :=
  (Assoc.keys p.metadataUris).filter fun k => !Assoc.contains k p.uris

/-- The first of some keys in listing order. -/
def least? : List (AppType × String) → Option (AppType × String)
  | [] => none
  | k :: ks => some (ks.foldl (fun a b => if Registration.keyBefore b a then b else a) k)

/-- The key of a listing that is about the metadata of an application. -/
def metadataKey (k : AppType × String) : String := k.1.word ++ "." ++ k.2 ++ ".metadata"

/-- The registrations of a plan, in the order of the listing. -/
def registrations (p : ImportPlan) : Except Failure (List Registration) :=
  match least? p.orphans with
  | some k => .error (.invalidEntry (metadataKey k) .orphanMetadata)
  | none => .ok (p.uris.map fun e => ⟨e.1.1, e.1.2, e.2, Assoc.get? e.1 p.metadataUris⟩)

/-- The registrations that a listing asks for. -/
def ofListing (l : Listing) : Except Failure (List Registration) := do
  let p ← l.foldlM (fun (p : ImportPlan) e => p.add e.1 e.2) ⟨[], []⟩
  p.registrations

end ImportPlan

namespace Store

/-- Inserts registrations into memory and gives those that were inserted. -/
def addAll (force : Bool) : List Registration → Action (List Registration)
  | [] => pure []
  | r :: rs => do
    let isTaken ← if force then pure false else ask fun s => s.index.mentions r.id
    if isTaken then
      inWorld (World.note .info ("Skipping existing registration " ++ r.id))
      addAll force rs
    else
      setIndex (← ask fun s => s.index.insert r)
      let saved ← addAll force rs
      pure (r :: saved)

/-- Imports registrations and gives those that were saved. The file is written once, and only if
anything was saved. -/
def importRegistrations (force : Bool) (rs : List Registration) : Action (List Registration) := do
  let saved ← addAll force rs
  if !saved.isEmpty then writeIndex
  pure saved

/-- Imports the listing that a resource holds. -/
def importAll (force : Bool) (resource : Resource) : Action (List Registration) := do
  let data ← inWorld resource.read
  let rs ← Run.ofExcept (ImportPlan.ofListing (Listing.parse (Latin1.decode data)))
  let saved ← importRegistrations force rs
  inWorld (World.note .info ("Imported " ++ toString saved.length ++ " registrations from " ++
    resource.description))
  pure saved

end Store

end AppCatalog
