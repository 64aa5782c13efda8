import AppCatalog.AppType
import AppCatalog.Shell.Options
import AppCatalog.Text.Integer

/-!
# Commands

The commands of the catalog. `Invocation.read` reads what stands in front of a command, and
`Command.read` reads the command itself with its options and arguments. Either may find that only
the usage or the version is asked for; that comes before any complaint about arguments.
-/

namespace AppCatalog.Shell

/-- The options of all commands. -/
inductive Key where
  | help
  | version
  | folder
  | verbose
  | type
  | search
  | page
  | size
  | exhaustive
  | metadataUri
  | force
  | uri
  | entry
  deriving DecidableEq, Repr

/-- What words ask for. -/
inductive Asked (α : Type) where
  | usage (text : String)
  | version
  | call (a : α)
  deriving DecidableEq, Repr

/-- What to do. -/
inductive Command where
  | list (type : Option AppType) (search : Option String) (page size : Int)
  | info (type : AppType) (name : String) (exhaustive : Bool)
  | register (type : AppType) (name uri : String) (metadataUri : Option String) (force : Bool)
  | unregister (type : AppType) (name : String)
  /-- Imports the listing of a URI, or else entries that each hold some of a listing. -/
  | importAll (uri : Option String) (entries : List String) (force : Bool)
  deriving DecidableEq, Repr

/-- The words for commands. -/
inductive Verb where
  | list
  | info
  | register
  | unregister
  | importAll
  deriving DecidableEq, Repr

/-- The option that asks for the usage. -/
def helpSwitch : Switch Key := ⟨.help, "--help", none, false⟩

/-- The text or version that a reading asks for; the first option that asks counts. -/
def asked? {α : Type} (usage : String) (r : Reading Key) : Option (Asked α) :=
  (r.given.find? fun p => p.1 == .help || p.1 == .version).map fun p =>
    if p.1 = .help then .usage usage else .version

/-- Reads words of which the first one that is no option names a command. A name that is unknown is
read once more as an option, so that what it asks for is answered. -/
def readGroup {α : Type} (usage : String) (switches : List (Switch Key))
    (commands : List (String × α)) (words : List String) :
    Except UsageFault (Asked (Reading Key × α × List String)) := do
  let g : Grammar Key := ⟨switches, false⟩
  let r ← g.read words
  match asked? usage r, r.words with
  | some asked, _ => .ok asked
  | none, [] => .error .missingCommand
  | none, name :: rest =>
    match commands.find? (·.1 == name) with
    | some command => .ok (.call (r, command.2, rest))
    | none =>
      match asked? usage (← g.read (name :: rest)) with
      | some asked => .ok asked
      | none => .error (.unknownCommand name)

/-- What stands in front of a command: the folder of the store, and the words of the command. -/
structure Invocation where
  folder : Option String
  words : List String
  deriving DecidableEq, Repr

namespace Invocation

/-- The options in front of a command. -/
def switches : List (Switch Key) :=
  [⟨.version, "--version", none, false⟩, ⟨.folder, "--registry-dir", some 'r', true⟩,
    ⟨.verbose, "--verbose", some 'v', false⟩, helpSwitch]

def usage : String := "Usage: main [OPTIONS] COMMAND [ARGS]..."

/-- What the words of a command line ask for. -/
def read (words : List String) : Except UsageFault (Asked Invocation) := do
  match ← readGroup usage switches [("apps", ())] words with
  | .usage text => .ok (.usage text)
  | .version => .ok .version
  | .call (r, _, rest) => .ok (.call ⟨(r.value? .folder).filter (· ≠ ""), rest⟩)

end Invocation

namespace Verb

def all : List Verb := [list, info, register, unregister, importAll]

def word : Verb → String
  | list => "list"
  | info => "info"
  | register => "register"
  | unregister => "unregister"
  | importAll => "import"

/-- The options of a command besides the one for its usage. -/
def switches : Verb → List (Switch Key)
  | list =>
    [⟨.type, "--type", some 't', true⟩, ⟨.search, "--search", some 's', true⟩,
      ⟨.page, "--page", none, true⟩, ⟨.size, "--size", none, true⟩]
  | info => [⟨.exhaustive, "--exhaustive", none, false⟩]
  | register =>
    [⟨.metadataUri, "--metadata-uri", some 'm', true⟩, ⟨.force, "--force", none, false⟩]
  | unregister => []
  | importAll =>
    [⟨.uri, "--uri", some 'u', true⟩, ⟨.entry, "--app", some 'a', true⟩,
      ⟨.force, "--force", none, false⟩]

/-- The arguments of a command as its usage names them. -/
def arguments : Verb → String
  | list | importAll => ""
  | info | unregister => " APP_TYPE NAME"
  | register => " APP_TYPE NAME URI"

def usage (v : Verb) : String := "Usage: main apps " ++ v.word ++ " [OPTIONS]" ++ v.arguments

/-- The grammar of a command; its options may stand anywhere. -/
def grammar (v : Verb) : Grammar Key := ⟨v.switches ++ [helpSwitch], true⟩

end Verb

namespace Command

/-- The type that a word has to name. -/
def typeOf (word : String) : Except UsageFault AppType :=
  match AppType.ofWord? word with
  | some t => .ok t
  | none => .error (.badType word)

/-- The number of an option, or the standard one. -/
def numberOf (standard : Int) : Option String → Except UsageFault Int
  | none => .ok standard
  | some word =>
    match Text.readInteger? 10 word.toList with
    | some n => .ok n
    | none => .error (.badNumber word)

/-- Complains about the arguments that a command did not expect, or about those that are missing. -/
def badCount (expected : Nat) (words : List String) : UsageFault :=
  match words.drop expected with
  | [] => .missingArgument
  | word :: _ => .extraArgument word

/-- The command that a reading calls for. -/
def ofReading (v : Verb) (r : Reading Key) : Except UsageFault Command :=
  match v, r.words with
  | .list, [] => do
    let type ← (r.value? .type).mapM typeOf
    let page ← numberOf 0 (r.value? .page)
    let size ← numberOf 20 (r.value? .size)
    .ok (.list type (r.value? .search) page size)
  | .info, [type, name] => return .info (← typeOf type) name (r.has .exhaustive)
  | .register, [type, name, uri] =>
    return .register (← typeOf type) name uri (r.value? .metadataUri) (r.has .force)
  | .unregister, [type, name] => return .unregister (← typeOf type) name
  | .importAll, [] => .ok (.importAll (r.value? .uri) (r.values .entry) (r.has .force))
  | .list, words | .importAll, words => .error (badCount 0 words)
  | .info, words | .unregister, words => .error (badCount 2 words)
  | .register, words => .error (badCount 3 words)

def usage : String := "Usage: main apps [OPTIONS] COMMAND [ARGS]..."

/-- What the words of a command ask for. -/
def read (words : List String) : Except UsageFault (Asked Command) := do
  match ← readGroup usage [helpSwitch] (Verb.all.map fun v => (v.word, v)) words with
  | .usage text => .ok (.usage text)
  | .version => .ok .version
  | .call (_, v, rest) =>
    let r ← v.grammar.read rest
    match asked? v.usage r with
    | some asked => .ok asked
    | none => return .call (← ofReading v r)

end Command

end AppCatalog.Shell
