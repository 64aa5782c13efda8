import AppCatalog.Registration
import AppCatalog.Text.Quoted
import AppCatalog.Uri.Check

/-!
# What can go wrong

A failure is either one of the catalog's own, with a cause and a message that names it, or a
breakdown of a layer below that no operation of the catalog turns into one of its own. Each fault
type stands for one source of trouble; `Failure.message` puts a failure into words, and
`Failure.isOwn` tells the catalog's own failures from breakdowns.
-/

namespace AppCatalog

/-- Why an operation on files fails. -/
inductive OsFault where
  | noSuchFile
  | alreadyThere
  | notFolder
  | isFolder
  | denied
  | noSpace
  | nameTooLong
  deriving DecidableEq, Repr

namespace OsFault

def number : OsFault → Nat
  | noSuchFile => 2
  | denied => 13
  | alreadyThere => 17
  | notFolder => 20
  | isFolder => 21
  | noSpace => 28
  | nameTooLong => 36

def text : OsFault → String
  | noSuchFile => "No such file or directory"
  | denied => "Permission denied"
  | alreadyThere => "File exists"
  | notFolder => "Not a directory"
  | isFolder => "Is a directory"
  | noSpace => "No space left on device"
  | nameTooLong => "File name too long"

/-- The fault with the path it concerns. -/
def message (f : OsFault) (path : String) : String :=
  "[Errno " ++ toString f.number ++ "] " ++ f.text ++ ": " ++ Text.quoteString path

end OsFault

/-- Why an exchange over the network fails. -/
inductive NetworkFault where
  /-- No answer came, or it broke off. -/
  | noAnswer (text : String)
  /-- The answer was no success. -/
  | refused (status : Nat) (url : String) (reason : String)
  /-- Redirected too often. -/
  | tooManyRedirects
  /-- Redirected to what is no URL. -/
  | badRedirect
  deriving DecidableEq, Repr

namespace NetworkFault

/-- What an answer that is no success is called. -/
def statusClass (status : Nat) : String :=
  match status / 100 with
  | 1 => "Informational response"
  | 3 => "Redirect response"
  | 4 => "Client error"
  | 5 => "Server error"
  | _ => "Invalid status code"

def message : NetworkFault → String
  | noAnswer text => text
  | refused status url reason =>
    statusClass status ++ " '" ++ toString status ++ " " ++ reason ++ "' for url '" ++ url ++
      "'\nFor more information check: https://developer.mozilla.org/en-US/docs/Web/HTTP/Status/" ++
      toString status
  | tooManyRedirects => "Exceeded maximum allowed redirects."
  | badRedirect => "Invalid URL in location header"

end NetworkFault

/-- Why a resource cannot be located or read. -/
inductive ResourceFault where
  | unreadable (description path : String) (fault : OsFault)
  | unfetchable (description : String) (fault : NetworkFault)
  | unsupportedScheme (scheme uri : String)
  | badCoordinates (body : String)
  /-- Any other trouble, in the words of the one who met it. -/
  | stated (text : String)
  /-- A URI that is not supported, in the words of the one who refuses it. -/
  | unsupported (text : String)
  deriving DecidableEq, Repr

namespace ResourceFault

/-- Whether the URI itself is not supported, so that no retry helps. -/
def isUnsupported : ResourceFault → Bool
  | unsupportedScheme _ _ | badCoordinates _ | unsupported _ => true
  | _ => false

def message : ResourceFault → String
  | unreadable description path fault =>
    "Cannot read " ++ description ++ ": " ++ fault.message path
  | unfetchable description fault => "Cannot fetch " ++ description ++ ": " ++ fault.message
  | unsupportedScheme scheme uri =>
    "Unsupported resource scheme '" ++ scheme ++ "' in '" ++ uri ++ "'"
  | badCoordinates body =>
    "Maven coordinates must be group:artifact[:extension[:classifier]]:version, got '" ++ body ++
      "'"
  | stated text => text
  | unsupported text => text

end ResourceFault

/-- Why a listing entry describes no application. -/
inductive EntryFault where
  | badShape
  | unknownType (word : String)
  | emptyName
  | orphanMetadata
  /-- A reason in the words of the one who refuses the entry. -/
  | stated (reason : String)
  deriving DecidableEq, Repr

def EntryFault.message : EntryFault → String
  | badShape => "expected <type>.<name> or <type>.<name>.metadata"
  | unknownType word => "unknown application type '" ++ word ++ "'"
  | emptyName => "application name is empty"
  | orphanMetadata => "metadata given without an app URI"
  | stated reason => reason

/-- Why an import has no source. -/
inductive SourceFault where
  | both
  | neither
  /-- A reason in the words of the one who refuses the import. -/
  | stated (reason : String)
  deriving DecidableEq, Repr

def SourceFault.message : SourceFault → String
  | both => "Specify either a 'uri' or inline 'apps', not both"
  | neither => "Specify either a 'uri' or inline 'apps' to import"
  | stated reason => reason

/-- Why a metadata artifact cannot be read. -/
inductive MetadataFault where
  /-- The text is no document. -/
  | document
  /-- The archive member is no JSON value. -/
  | json
  /-- The bytes are no UTF-8. -/
  | encoding
  /-- The bytes are no sound archive. -/
  | archive
  /-- The document holds something else than a mapping. -/
  | notMapping
  /-- A field of the document holds something else than a list. -/
  | notList (field : String)
  /-- An archive member holds something else than an object. -/
  | notObject (member : String)
  | resource (fault : ResourceFault)
  /-- A reason in the words of the one who met it. -/
  | stated (reason : String)
  deriving DecidableEq, Repr

/-- The fault in words; what the readers of the formats have to say is left out. -/
def MetadataFault.message? : MetadataFault → Option String
  | document | json | encoding | archive => none
  | notMapping => some "metadata document must be a mapping"
  | notList field => some ("'" ++ field ++ "' must be a list")
  | notObject member => some (member ++ " must hold an object")
  | resource fault => some fault.message
  | stated reason => some reason

/-- Trouble in a layer below that no operation of the catalog turns into a failure of its own. -/
inductive Breakdown where
  | negativePage
  | negativeSize
  /-- The word is no application type. -/
  | unknownType (word : String)
  /-- The value is none of the application types; it is shown as given. -/
  | untyped (shown : String)
  /-- A number, date, host or path that cannot be read. -/
  | badValue
  | malformedJson
  | malformedDocument
  | undecodable
  /-- A text holds half of a character, which no encoding has a form for. -/
  | unencodable
  | badArchive
  | badDeflate
  | badBzip
  | badLzma
  | lockedMember
  | unknownCompression
  | missingKey
  | missingPart
  | missingAttribute
  | wrongType
  | tooLarge
  /-- Something is nested too deep. -/
  | tooDeep
  | unknownUser
  /-- A text to print closes a style that is not open. -/
  | badMarkup
  | poolNotRunning (name : String)
  | poolShuttingDown (name : String)
  | os (fault : OsFault)
  /-- Any other, by the name of its kind. -/
  | other (kind : String)
  deriving DecidableEq, Repr

/-- The breakdown in words, where its words are fixed. -/
def Breakdown.message? : Breakdown → Option String
  | negativePage => some "Page index must not be less than zero"
  | negativeSize => some "Page size must not be less than zero"
  | unknownType word => some (Text.quoteString word ++ " is not a valid ApplicationType")
  | untyped shown => some (shown ++ " is not a valid ApplicationType")
  | poolNotRunning name => some ("Worker pool " ++ name ++ " is not running")
  | poolShuttingDown name => some ("Worker pool " ++ name ++ " is shutting down")
  | _ => none

/-- Why an operation fails. -/
inductive Failure where
  | alreadyRegistered (previous : Registration)
  | notRegistered (name : String) (type : Option AppType)
  | invalidUri (uri : String) (fault : UriFault)
  | invalidEntry (key : String) (fault : EntryFault)
  | importSource (fault : SourceFault)
  | unresolved (description : String) (cause : Option MetadataFault)
  | resource (fault : ResourceFault)
  /-- Any other failure of the catalog. -/
  | general (text : String)
  | breakdown (cause : Breakdown)
  deriving DecidableEq, Repr

namespace Failure

/-- The failure in words, where its words are fixed. -/
def message? : Failure → Option String
  | alreadyRegistered r =>
    some ("The '" ++ r.type.word ++ ":" ++ r.name ++ "' application is already registered as " ++
      r.uri)
  | notRegistered name none => some ("Application named '" ++ name ++ "' does not exist")
  | notRegistered name (some type) =>
    some ("Application named '" ++ name ++ "' of type '" ++ type.word ++ "' does not exist")
  | invalidUri uri fault => some ("Invalid URI '" ++ uri ++ "': " ++ fault.message)
  | invalidEntry key fault => some ("Invalid import entry '" ++ key ++ "': " ++ fault.message)
  | importSource fault => some fault.message
  | unresolved description cause =>
    some ("Could not resolve metadata from " ++ description ++
      match cause.bind MetadataFault.message? with
      | some text => ": " ++ text
      | none => "")
  | resource fault => some fault.message
  | general text => some text
  | breakdown cause => cause.message?

/-- The failure in words, empty where they are not fixed. -/
def message (f : Failure) : String := f.message?.getD ""

/-- Whether the failure is one of the catalog's own. -/
def isOwn : Failure → Bool
  | breakdown _ => false
  | _ => true

/-- Whether the failure says that a given value is wrong in itself. -/
def isBadValue : Failure → Bool
  | invalidUri _ _ | invalidEntry _ _ => true
  | resource fault => fault.isUnsupported
  | _ => false

end Failure

end AppCatalog
