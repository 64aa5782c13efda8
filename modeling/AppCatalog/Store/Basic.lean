import AppCatalog.Json.Reader
import AppCatalog.Json.Writer
import AppCatalog.Page
import AppCatalog.Store.Index
import AppCatalog.World

/-!
# The store of registrations

A store holds the index in memory and writes the whole of it to a file after every change. Questions
are answered from memory alone: `Store.find`, `Store.all`, `Store.page`, `Store.count`. The
operations that change the store are `Store.save` and `Store.delete`; memory changes first and the
file follows.
-/

namespace AppCatalog

/-- A store: its file, and the index in memory. -/
structure Store where
  file : Path
  index : Index
  deriving Repr, Inhabited

namespace Store

/-- An operation on a store and the world that its file is in. -/
abbrev Action (α : Type) := Run (Store × World) α

/-- The name of the file in the store's folder. -/
def fileName : String := "index.json"

def readIndex (data : Bytes) : Except Failure Index :=
  match Utf8.decode? data with
  | none => .error (.breakdown .undecodable)
  | some text =>
    match Json.read text with
    | .ok v => .ok (.ofJson v)
    | .error .malformed => .error (.breakdown .malformedJson)
    | .error .tooManyDigits => .error (.breakdown .badValue)
    | .error .tooDeep => .error (.breakdown .tooDeep)

/-- The bytes of the file for an index. -/
def indexBytes (i : Index) : Bytes := Utf8.encode i.toJson.pretty

/-- The index on disk; without a file there is nothing in it. -/
def loadIndex (file : Path) : Run World Index := do
  let t := (← get).disk
  if ← Run.ofDisk (t.isThere file) then
    Run.ofExcept (readIndex (← Run.ofDisk (t.read file)))
  else pure .empty

/-- Opens the store in a folder, which is made if it is not there. -/
def opened (folder : Path) : Run World Store := do
  let t ← Run.ofDisk ((← get).disk.makeFolders folder)
  modify fun w => { w with disk := t }
  let file := folder.child fileName.toList
  pure ⟨file, ← loadIndex file⟩

/-- The registration of a type and name. -/
def find (s : Store) (type : AppType) (name : String) : Except Failure (Option Registration) :=
  s.index.find type name

def all (s : Store) : Except Failure (List Registration) := s.index.all

def page (s : Store) (r : PageRequest) : Except Failure Page := s.all.map fun rs => .cut rs r

def count (s : Store) : Except Failure Nat := s.index.count

/-- The outcome of a question to the store. -/
def ask {α : Type} (question : Store → Except Failure α) : Action α := do
  Run.ofExcept (question (← get).1)

def inWorld {α : Type} (m : Run World α) : Action α := m.within Prod.snd fun w p => (p.1, w)

/-- Puts an index in place of the one in memory. -/
def setIndex (i : Index) : Action Unit := modify fun p => ({ p.1 with index := i }, p.2)

def writeIndex : Action Unit := do
  let (s, w) ← get
  let (result, t) := w.disk.write s.file (indexBytes s.index)
  set (s, { w with disk := t })
  Run.ofDisk result

/-- Inserts or replaces a registration and gives the one that it replaces. Without `overwrite` a
registration that is there stays there, and that is a failure. -/
def save (r : Registration) (overwrite : Bool) : Action (Option Registration) := do
  let previous ← ask fun s => s.index.entry? r.id
  if !overwrite then
    if let some entry := previous then
      throw (.alreadyRegistered (← Run.ofExcept (Index.decode entry)))
  setIndex (← ask fun s => s.index.insert r)
  writeIndex
  Run.ofExcept (Index.decodeGiven previous)

/-- Removes the registration of a type and name, and says whether there was one. -/
def delete (type : AppType) (name : String) : Action Bool := do
  let (i, found) ← ask fun s => s.index.erase (Registration.idOf type name)
  setIndex i
  if found then writeIndex
  pure found

end Store

end AppCatalog
