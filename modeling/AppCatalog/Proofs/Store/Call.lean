import AppCatalog.Proofs.Store.Operation

/-!
# Runs of calls

A client of a store saves, deletes and imports registrations, and asks for one, for all, for a page
of them, or for their number. `Call` is one such call and `runCalls` a sequence of them, each made in
the state that the one before it has left. What an import asks for depends on the files and the
network at that moment; `resolveAll` is the same sequence with every resource replaced by what it
asked for when it was read.
-/

namespace AppCatalog

namespace Store

/-- A call on a store. An import is of a source, which is a resource, or what one asked for. -/
inductive Call (σ : Type) where
  | save (r : Registration) (overwrite : Bool)
  | delete (type : AppType) (name : String)
  | importAll (force : Bool) (source : σ)
  | find (type : AppType) (name : String)
  | all
  | page (request : PageRequest)
  | count

/-- What a resource asks for: the registrations of its listing, or the reason why there are none. -/
abbrev Asked := Except Failure (List Registration)

/-- The answer to a call that does not fail. -/
inductive Answer where
  | registration (r : Option Registration)
  | flag (b : Bool)
  | registrations (rs : List Registration)
  | page (p : Page)
  | number (n : Nat)
  deriving DecidableEq, Repr

namespace Call

/-- Whether a call is about a key. -/
def touches {σ : Type} : Call σ → AppType × String → Bool
  | save r _, k => r.key == k
  | delete type name, k => (type, name) == k
  | importAll _ _, _ => true
  | _, _ => false

/-- Makes a call. -/
def perform : Call Resource → Action Answer
  | save r overwrite => Answer.registration <$> Store.save r overwrite
  | delete type name => Answer.flag <$> Store.delete type name
  | importAll force resource => Answer.registrations <$> Store.importAll force resource
  | find type name => Answer.registration <$> ask fun s => s.find type name
  | all => Answer.registrations <$> ask Store.all
  | page request => Answer.page <$> ask fun s => s.page request
  | count => Answer.number <$> ask Store.count

/-- A call with what its resource asks for in a world. -/
def resolve (w : World) : Call Resource → Call Asked
  | save r overwrite => save r overwrite
  | delete type name => delete type name
  | importAll force resource => importAll force ((asked resource).on w).1
  | find type name => find type name
  | all => all
  | page request => page request
  | count => count

end Call

/-- Makes calls one after another; a call that fails does not keep the next one from being made. -/
def runCalls : List (Call Resource) → Store × World →
    List (Except Failure Answer) × (Store × World)
  | [], p => ([], p)
  | c :: cs, p =>
    ((c.perform.on p).1 :: (runCalls cs (c.perform.on p).2).1, (runCalls cs (c.perform.on p).2).2)

/-- The calls of a run with what their resources asked for. -/
def resolveAll : List (Call Resource) → Store × World → List (Call Asked)
  | [], _ => []
  | c :: cs, p => c.resolve p.2 :: resolveAll cs (c.perform.on p).2

/-- Every index write of a run goes through. A call that has to write and cannot ends in a fault of
the disk, and no call ends in one otherwise. -/
def WritesThrough (calls : List (Call Resource)) (p : Store × World) : Prop :=
  ∀ f, .error f ∈ (runCalls calls p).1 → f.isOsFault = false

/-- A store that has been opened in a folder without an index file, and the world after that. -/
structure OpenedEmpty (folder : Path) (before : World) (p : Store × World) : Prop where
  opened : (Store.opened folder).on before = (.ok p.1, p.2)
  no_file : p.2.disk.isThere p.1.file = .ok false

end Store

end AppCatalog
