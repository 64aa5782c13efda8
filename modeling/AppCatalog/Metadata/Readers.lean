import AppCatalog.Archive.Member
import AppCatalog.Json.Reader
import AppCatalog.Value.Text
import AppCatalog.Yaml.Document

/-!
# Readers of the formats

Metadata artifacts are read with readers that belong to the formats and not to the catalog: of
archives, of JSON, of documents, and with what writes a value as a text. `Readers` is whatever stands
in their place; each of them gives something or ends in a breakdown. `Readers.standard` are the
readers that the catalog is run with.
-/

namespace AppCatalog

/-- What an archive gives for a name: the bytes of the member, if there is one. -/
abbrev Members := List Char → Except Breakdown (Option Bytes)

/-- The readers of the formats. -/
structure Readers where
  /-- Whether some bytes are taken for an archive. -/
  isArchive : Bytes → Except Breakdown Bool
  members : Bytes → Except Breakdown Members
  json : List Char → Except Breakdown (Json Points)
  document : List Char → Except Breakdown Value
  write : Value → Except Breakdown Points

/-- What is raised for a fault of an archive. -/
def Archive.Fault.breakdown : Archive.Fault → Breakdown
  | .unsound => .badArchive
  | .badName => .undecodable
  | .unknownMethod => .unknownCompression
  | .locked => .lockedMember
  | .badDeflate => .badDeflate
  | .badBzip => .badBzip
  | .badLzma => .badLzma
  | .beforeStart => .badValue
  | .beyondEnd => .tooLarge

/-- What is raised for a text that is no JSON value. -/
def Json.Fault.breakdown : Json.Fault → Breakdown
  | .malformed => .malformedJson
  | .tooManyDigits => .badValue
  | .tooDeep => .tooDeep

/-- What is raised for a text that is no document. -/
def Yaml.Fault.cause : Yaml.Fault → Breakdown
  | .malformed => .malformedDocument
  | .breakdown b => b

namespace Readers

def standardMembers (data : Bytes) : Except Breakdown Members :=
  ((Archive.Directory.ofBytes data).map fun d name =>
    (Archive.member? data d name).mapError Archive.Fault.breakdown).mapError
      Archive.Fault.breakdown

/-- The readers that the catalog is run with. -/
def standard : Readers where
  isArchive data := (Archive.isArchive data).mapError Archive.Fault.breakdown
  members := standardMembers
  json text := (Json.read text).mapError Json.Fault.breakdown
  document text := (Yaml.load (some Yaml.maxLevels) text).mapError Yaml.Fault.cause
  write := Value.written

end Readers

end AppCatalog
