import AppCatalog.Shell.Footprint

/-!
# The program

Reads the environment and the files that a command line may lead to, runs it, and writes back the
files it changed. The program has no network of its own: every address refuses the connection, so
that remote resources are read only where a download is kept.
-/

namespace AppCatalog.Main

open AppCatalog.Shell

/-- The variables of the environment that are set. -/
def environment : IO (Assoc String String) :=
  Settings.variableNames.filterMapM fun name => do
    return (← IO.getEnv name).map fun value => (name, value)

/-- The bytes of a file, if it can be read. -/
def readFile? (path : Path) : IO (Option Bytes) := do
  try
    return some (← IO.FS.readBinFile path.toString).toList
  catch _ => return none

/-- Brings a file into the world, if it can be read. -/
def load (t : FileTree) (path : Path) : IO FileTree := do
  match ← readFile? path with
  | some bytes => return t.withFile path bytes
  | none => return t

/-- The files that a command line may lead to. -/
def loadAll (s : Settings) (words : List String) : IO FileTree := do
  let index ← readFile? (Footprint.indexPath s)
  let t ← load .empty (Footprint.indexPath s)
  (Footprint.paths s words index).foldlM load t

def store (before after : FileTree) : IO Unit := do
  for k in after.folders do
    if !before.folders.contains k then IO.FS.createDirAll (FileTree.pathOf k).toString
  for (k, bytes) in after.files do
    if before.bytesAt? k != some bytes then
      IO.FS.writeBinFile (FileTree.pathOf k).toString ⟨bytes.toArray⟩
  for (k, _) in before.files do
    if (after.bytesAt? k).isNone then IO.FS.removeFile (FileTree.pathOf k).toString

def report : Answer → IO Unit
  | .output printed => (Console.Printed.layout printed).forM IO.println
  | .failed f => IO.eprintln ("Error: " ++ f.message)
  | .broken f => IO.eprintln (if f.message = "" then "The program broke down." else f.message)
  | .misused fault => IO.eprintln ("Error: " ++ fault.message)

end AppCatalog.Main

def main (words : List String) : IO UInt32 := do
  let homes : AppCatalog.Homes := ⟨(← IO.getEnv "HOME").getD "/", []⟩
  let env ← AppCatalog.Main.environment
  let disk ← match AppCatalog.Shell.Footprint.settings? homes env words with
    | some s => AppCatalog.Main.loadAll s words
    | none => pure .empty
  let (answer, world) :=
    AppCatalog.Shell.run homes env words { AppCatalog.World.empty with disk }
  AppCatalog.Main.store disk world.disk
  AppCatalog.Main.report answer
  return answer.code.toUInt32
