import AppCatalog.Artifact.Cache
import AppCatalog.Metadata.ConfigOption
import AppCatalog.Metadata.Readers
import AppCatalog.Properties.Listing

/-!
# Metadata artifacts

A metadata artifact is a document with a list of properties and a list of visible names, or an
archive with one member for each of the two. `Metadata.ofBytes` reads either form with given readers
and `Metadata.options` picks the options: all of them, or the visible ones if any name is visible at
all. Of what the readers raise some is blamed on the artifact, whose metadata are unresolved then;
anything else breaks through.
-/

namespace AppCatalog

open AppCatalog.Text

/-- What an artifact says: its properties as they stand there, and the visible names. -/
structure Metadata.Contents where
  properties : List Value
  visible : List Points
  deriving Repr, Inhabited

/-- What an artifact describes: its options, and the visible names. -/
structure Metadata where
  allOptions : List ConfigOption
  visible : List Points
  deriving Repr, Inhabited

namespace Metadata

def unresolved {α : Type} (description : String) (fault : MetadataFault) : Except Failure α :=
  .error (.unresolved description (some fault))

/-- The failure for what is raised: if it is among what is caught, the artifact is blamed. -/
def failureOf (caught : Breakdown → Option MetadataFault) (description : String) (b : Breakdown) :
    Failure :=
  match caught b with
  | some fault => .unresolved description (some fault)
  | none => .breakdown b

/-- What is caught of what is raised in reading a document. -/
def caughtInDocument : Breakdown → Option MetadataFault
  | .malformedDocument => some .document
  | .undecodable => some .encoding
  | _ => none

/-- What is caught of what is raised in reading an archive. -/
def caughtInArchive : Breakdown → Option MetadataFault
  | .badArchive => some .archive
  | .malformedJson => some .json
  | .undecodable => some .encoding
  | _ => none

/-- The text that some bytes are in UTF-8. -/
def decode (data : Bytes) : Except Breakdown (List Char) :=
  match Utf8.decode? data with
  | some text => .ok text
  | none => .error .undecodable

/-- The list under a key of a mapping, empty if there is nothing. -/
def listOf (description key : String) (entries : List (Value × Value)) :
    Except Failure (List Value) :=
  match Value.get? key entries with
  | none | some .null => .ok []
  | some (.list items) => .ok items
  | some _ => unresolved description (.notList key)

/-- A mapping that stands for itself within its own list. -/
def unfold (entries : List (Value × Value)) : Value → Value
  | .cycle true => .map entries
  | v => v

/-- The member of an archive that holds the properties. -/
def propertiesMember : String := "META-INF/spring-configuration-metadata.json"

/-- The member of an archive that lists the visible names. -/
def visibleMember : String := "META-INF/dataflow-configuration-metadata-whitelist.properties"

/-- The key that the visible names stand under, with commas between them. -/
def visibleKey : String := "configuration-properties.names"

/-- The visible names in the bytes of their member. -/
def visibleOf (data : Bytes) : List Points :=
  let listing := Listing.parse (Latin1.decode data)
  let names := (Assoc.get? visibleKey.toList listing).getD []
  (((splitAll ',' names).map trim).filter (· != [])).map Points.ofChars

/-- The entries of a value that is a mapping. -/
def entries? : Value → Option (List (Value × Value))
  | .map entries => some entries
  | _ => none

section

variable (R : Readers) (description : String)

def ofValue : Value → Except Failure Contents
  | .null => .ok ⟨[], []⟩
  | .map entries => do
    let properties ← listOf description "properties" entries
    let names ← listOf description "visible" entries
    let visible ← (names.mapM R.write).mapError .breakdown
    .ok ⟨properties.map (unfold entries), visible⟩
  | _ => unresolved description .notMapping

def ofDocument (data : Bytes) : Except Failure Contents := do
  let v ← ((decode data).bind R.document).mapError (failureOf caughtInDocument description)
  ofValue R description v

/-- The properties in the bytes of their member. -/
def propertiesOf (data : Bytes) : Except Failure (List Value) := do
  match ← ((decode data).bind R.json).mapError (failureOf caughtInArchive description) with
  | .obj fields => listOf description "properties" (Value.ofFields fields)
  | _ => unresolved description (.notObject propertiesMember)

/-- The properties in an archive, none if it has no member for them. -/
def memberProperties (members : Members) : Except Failure (List Value) := do
  match ← (members propertiesMember.toList).mapError (failureOf caughtInArchive description) with
  | none => .ok []
  | some bytes => propertiesOf R description bytes

def ofArchive (data : Bytes) : Except Failure Contents := do
  let members ← (R.members data).mapError (failureOf caughtInArchive description)
  let properties ← memberProperties R description members
  let visible ← (members visibleMember.toList).mapError (failureOf caughtInArchive description)
  .ok ⟨properties, (visible.map visibleOf).getD []⟩

def contentsOf (data : Bytes) : Except Failure Contents := do
  if ← (R.isArchive data).mapError .breakdown then ofArchive R description data
  else ofDocument R description data

/-- All options: the properties that are mappings and have an id. -/
def optionsOf (properties : List Value) : Except Breakdown (List ConfigOption) :=
  ((properties.filterMap entries?).mapM (ConfigOption.ofEntries R.write)).map fun os =>
    os.filter fun o => !o.id.isEmpty

end

def ofBytes (description : String) (data : Bytes) (R : Readers := .standard) :
    Except Failure Metadata := do
  let contents ← contentsOf R description data
  let all ← (optionsOf R contents.properties).mapError .breakdown
  .ok ⟨all, contents.visible⟩

/-- The options to show: all of them if that is asked for or nothing is visible by name, and else
those that are visible. -/
def options (m : Metadata) (exhaustive : Bool) : List ConfigOption :=
  if exhaustive || m.visible.isEmpty then m.allOptions
  else m.allOptions.filter fun o => o.isVisible m.visible

/-- The options that a resource describes. A resource that cannot be read leaves the metadata
unresolved. -/
def resolve (r : Resource) (exhaustive : Bool) (R : Readers := .standard) :
    Run World (List ConfigOption) := do
  match ← r.read.outcome with
  | .error (.resource fault) => throw (.unresolved r.description (some (.resource fault)))
  | .error failure => throw failure
  | .ok data => do
    let m ← Run.ofExcept (ofBytes r.description data R)
    pure (m.options exhaustive)

end Metadata

end AppCatalog
