import AppCatalog.Metadata.Artifact
import AppCatalog.Prefetch
import AppCatalog.Settings
import AppCatalog.Store.Import

/-!
# The catalog

The catalog registers applications, lists them, tells their configuration options, removes them, and
imports listings of them. It stands on a store, on a loader of resources, and on the world; the
metadata of what has been registered waits in a queue to be fetched, and `Catalog.settle` fetches
what waits. An operation that fails leaves the queue as it was.
-/

namespace AppCatalog

def version : String := "0.1.0"

/-- The catalog: its store, how it loads resources, the world, and whose metadata waits to be
fetched. -/
structure Catalog where
  store : Store
  loader : Loader
  world : World
  waiting : List Registration

/-- A listing to import: none, a text, or a map. -/
inductive Inline where
  | none
  | text (s : String)
  | map (l : Listing)
  deriving DecidableEq, Repr

/-- The entries of a listing to import. -/
def Inline.listing : Inline → Listing
  | none => []
  | text s => .parse s.toList
  | map l => l

/-- A registration with the options that its metadata describes. -/
structure Details where
  registration : Registration
  options : List ConfigOption
  deriving Repr

namespace Loader

/-- The resource that holds the metadata of a registration: one of its own, or else the
application's. -/
def metadataResource (l : Loader) (r : Registration) : Run World Resource :=
  match r.metadataUri with
  | some uri => if uri = "" then l.resource r.uri else l.resource uri
  | none => l.resource r.uri

/-- The loader as a source of metadata. -/
def source (l : Loader) : Prefetch.Source World where
  fetch r := (fun _ => ()) <$> l.metadataResource r
  note level text w := { w with log := w.log ++ [⟨level, text⟩] }

end Loader

namespace Catalog

/-- An operation of the catalog. -/
abbrev Action (α : Type) := Run Catalog α

/-- An operation on the store and the world. -/
def inStore {α : Type} (m : Store.Action α) : Action α :=
  m.within (fun c => (c.store, c.world)) fun p c => { c with store := p.1, world := p.2 }

def inWorld {α : Type} (m : Run World α) : Action α :=
  m.within world fun w c => { c with world := w }

def note (text : String) : Action Unit := inWorld (World.note .info text)

def opened (loader : Loader) (folder : Path) : Run World Catalog := do
  loader.prepare
  let store ← Store.opened folder
  pure ⟨store, loader, ← get, []⟩

def poolOf (s : Settings) : Pool := .ofName "prefetch" s.workers

/-- Opens the catalog that settings ask for. Its pool has to be able to start; downloads are kept if
`caching` is on. -/
def ofSettings (s : Settings) (caching : Bool) : Run World Catalog := do
  let _ ← Run.ofExcept (poolOf s).start
  opened ⟨s.locator, if caching then some s.cacheFolder else none⟩ s.registryFolder

/-- Opens the catalog again: its folders are made if they have gone, and its store is read from the
file. -/
def reopen (folder : Path) : Action Unit := do
  let loader := (← get).loader
  inWorld loader.prepare
  let store ← inWorld (Store.opened folder)
  modify fun c => { c with store }

/-! ## Fetching in advance -/

/-- Queues the metadata of registrations to be fetched. -/
def prefetch (rs : List Registration) : Action Unit :=
  modify fun c => { c with waiting := c.waiting ++ Prefetch.wanted rs }

/-- The catalog after the metadata of one registration has been fetched. -/
def fetchOne (c : Catalog) (r : Registration) : Catalog :=
  { c with world := (Prefetch.fetchAndNote c.loader.source r c.world).2 }

/-- The catalog after one of those that wait has been fetched, whichever it is. -/
def fetchAt (i : Nat) (c : Catalog) : Catalog :=
  match c.waiting[i]? with
  | some r => { c with waiting := c.waiting.eraseIdx i }.fetchOne r
  | none => c

/-- The catalog after all that waits has been fetched. -/
def settle (c : Catalog) : Catalog := c.waiting.foldl fetchOne { c with waiting := [] }

/-! ## Questions -/

/-- The request of two numbers; the wrong ones are a breakdown. -/
def requestOf (page size : Int) : Except Failure PageRequest :=
  match PageRequest.ofInts page size with
  | .ok r => .ok r
  | .error .negativePage => .error (.breakdown .negativePage)
  | .error .negativeSize => .error (.breakdown .negativeSize)

/-- One page of registrations, narrowed by a query. -/
def list (request : PageRequest) (query : Query) : Action Page :=
  inStore do
    if query.isEmpty then Store.ask fun s => s.page request
    else
      let rs ← Store.ask Store.all
      pure (query.page request rs)

def info (type : AppType) (name : String) (exhaustive : Bool) (R : Readers := .standard) :
    Action Details := do
  match ← inStore (Store.ask fun s => s.find type name) with
  | none => throw (.notRegistered name (some type))
  | some r => do
    let loader := (← get).loader
    match ← (inWorld (loader.metadataResource r)).outcome with
    | .error (.resource fault) => do
      let uri := (r.metadataUri.filter (· != "")).getD r.uri
      throw (.unresolved uri (some (.resource fault)))
    | .error failure => throw failure
    | .ok resource => do
      let options ← inWorld (Metadata.resolve resource exhaustive R)
      pure ⟨r, options⟩

/-! ## Changes -/

def checkUri (uri : String) : Except Failure Unit :=
  match Uri.fault? uri.toList with
  | some fault => .error (.invalidUri uri fault)
  | none => .ok ()

/-- Registers an application. One that is there is only replaced if that is forced. -/
def register (r : Registration) (force : Bool) : Action Registration := do
  Run.ofExcept (checkUri r.uri)
  if let some uri := r.metadataUri then Run.ofExcept (checkUri uri)
  let _ ← inStore (Store.save r force)
  note ("Registered " ++ r.id ++ " as " ++ r.uri)
  prefetch [r]
  pure r

/-- Removes a registration, which has to be there. -/
def unregister (type : AppType) (name : String) : Action Unit := do
  if !(← inStore (Store.delete type name)) then throw (.notRegistered name (some type))
  note ("Unregistered " ++ Registration.idOf type name)

def inlineDescription : String := "Inline properties"

/-- The resource to import: the one a URI names, or an inline listing, but not both. -/
def importSource (uri : Option String) (inline : Inline) : Action Resource := do
  let listing := inline.listing
  match uri.filter (· != "") with
  | some uri => do
    if !listing.isEmpty then throw (.importSource .both)
    Run.ofExcept (checkUri uri)
    let loader := (← get).loader
    inWorld (loader.resource uri)
  | none =>
    if listing.isEmpty then throw (.importSource .neither)
    else pure (.inline ((Latin1.encode? (Listing.format listing)).getD []) inlineDescription)

/-- Imports a listing: what was saved, in listing order. -/
def importFrom (uri : Option String) (inline : Inline) (force : Bool) :
    Action (List Registration) := do
  let resource ← importSource uri inline
  let saved ← inStore (Store.importAll force resource)
  prefetch (Registration.sort saved)
  pure (Registration.sort saved)

/-- The page that answers an import: what was saved, and how many registrations there are now. -/
def importPage (request : PageRequest) (saved : List Registration) : Action Page := do
  let n ← inStore (Store.ask Store.count)
  pure ⟨saved, request, n⟩

/-- Imports a listing and answers with a page. -/
def registerAll (request : PageRequest) (uri : Option String) (inline : Inline) (force : Bool) :
    Action Page := do
  let saved ← importFrom uri inline force
  importPage request saved

end Catalog

end AppCatalog
