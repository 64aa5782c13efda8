import AppCatalog.Shell.Run

/-!
# What a command line may read

A command reads the index of the store, and the resources of URIs that are its arguments or that the
index holds: a file, or what is kept of a download. `Footprint.indexPath` and `Footprint.paths` list
them, so that a program can bring in those files alone.
-/

namespace AppCatalog.Shell.Footprint

/-- The settings of a command line, if it comes so far as to have any. -/
def settings? (homes : Homes) (env : Assoc String String) (words : List String) :
    Option Settings :=
  match Invocation.read words, Settings.read homes env with
  | .ok (.call i), .ok s => some (i.settings s)
  | _, _ => none

def indexPath (s : Settings) : Path := s.registryFolder.child Store.fileName.toList

/-- The paths that the resource of a URI may be read from. -/
def pathsOf (s : Settings) (uri : String) : List Path :=
  (match s.locator.locate uri with
    | .ok (.file path _) => [path]
    | _ => []) ++
  (CacheLayout.pathOf s.cacheFolder uri).toOption.toList

def indexUris (data : Bytes) : List String :=
  match (Store.readIndex data).bind Index.all with
  | .ok rs => rs.flatMap fun r => r.uri :: r.metadataUri.toList
  | .error _ => []

/-- The paths that a command line may read besides the index, given what the index holds. Any of its
words may be a URI. -/
def paths (s : Settings) (words : List String) (index : Option Bytes) : List Path :=
  (words ++ (index.map indexUris).getD []).flatMap (pathsOf s)

end AppCatalog.Shell.Footprint
