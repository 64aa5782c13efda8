/-!
# Options and arguments

A command line is a list of words. A word that begins with a hyphen and goes on gives options:
behind two hyphens one long name, which may carry its value behind an equals sign, and behind one
hyphen any number of short names, of which the last may be followed by its value. A value that is
not in the word is the next word, whatever that is. Two hyphens alone end the options.
`Grammar.read` reads the options of a line and leaves the other words in order.
-/

namespace AppCatalog.Shell

/-- Why a command line cannot be read. -/
inductive UsageFault where
  | unknownOption (word : String)
  | missingValue (word : String)
  | unwantedValue (word : String)
  | unknownCommand (word : String)
  | missingCommand
  | missingArgument
  | extraArgument (word : String)
  | badType (word : String)
  | badNumber (word : String)
  deriving DecidableEq, Repr

def UsageFault.message : UsageFault → String
  | unknownOption word => "No such option: " ++ word
  | missingValue word => "Option '" ++ word ++ "' requires an argument."
  | unwantedValue word => "Option '" ++ word ++ "' does not take a value."
  | unknownCommand word => "No such command '" ++ word ++ "'."
  | missingCommand => "Missing command."
  | missingArgument => "Missing argument."
  | extraArgument word => "Got unexpected extra argument (" ++ word ++ ")"
  | badType word => "'" ++ word ++ "' is not an application type."
  | badNumber word => "'" ++ word ++ "' is not a valid integer."

/-- An option: what it is called, and whether it takes a value. -/
structure Switch (κ : Type) where
  key : κ
  long : String
  short : Option Char
  takesValue : Bool
  deriving DecidableEq, Repr

/-- The options of a command, and whether they may stand behind its arguments. -/
structure Grammar (κ : Type) where
  switches : List (Switch κ)
  isMixed : Bool
  deriving Repr

/-- What a command line gives: options in order, with the values of those that take one, and the
words that are no options. -/
structure Reading (κ : Type) where
  given : List (κ × Option String)
  words : List String
  deriving DecidableEq, Repr

/-- The options of one word, and the one among them that still needs its value. -/
structure Cluster (κ : Type) where
  given : List (κ × Option String)
  wanting : Option κ
  deriving DecidableEq, Repr

namespace Reading

variable {κ : Type}

def preceded (given : List (κ × Option String)) (r : Reading κ) : Reading κ :=
  { r with given := given ++ r.given }

def has [BEq κ] (r : Reading κ) (key : κ) : Bool := r.given.any (·.1 == key)

/-- All values of an option, in order. -/
def values [BEq κ] (r : Reading κ) (key : κ) : List String :=
  (r.given.filter (·.1 == key)).filterMap Prod.snd

/-- The value of an option; the last one counts. -/
def value? [BEq κ] (r : Reading κ) (key : κ) : Option String := (r.values key).getLast?

end Reading

namespace Grammar

variable {κ : Type}

def givesOptions (word : List Char) : Bool := word.head? == some '-' && word.length > 1

def short (g : Grammar κ) : List Char → Except UsageFault (Cluster κ)
  | [] => .ok ⟨[], none⟩
  | c :: cs =>
    match g.switches.find? (·.short == some c) with
    | none => .error (.unknownOption (String.ofList ['-', c]))
    | some s =>
      if !s.takesValue then
        (g.short cs).map fun l => { l with given := (s.key, none) :: l.given }
      else if cs = [] then .ok ⟨[], some s.key⟩
      else .ok ⟨[(s.key, some (String.ofList cs))], none⟩

/-- The options of a word: those of a long name, or else those of short names, which only one hyphen
stands before. -/
def cluster (g : Grammar κ) (word : List Char) : Except UsageFault (Cluster κ) :=
  let name := String.ofList (word.takeWhile (· != '='))
  match g.switches.find? (·.long == name), word.dropWhile (· != '=') with
  | some s, [] => .ok (if s.takesValue then ⟨[], some s.key⟩ else ⟨[(s.key, none)], none⟩)
  | some s, _ :: value =>
    if s.takesValue then .ok ⟨[(s.key, some (String.ofList value))], none⟩
    else .error (.unwantedValue name)
  | none, _ =>
    match word with
    | '-' :: '-' :: _ => .error (.unknownOption name)
    | _ => g.short word.tail

/-- The reading of a command line. Where options may not stand behind arguments, the first word that
is no option ends them. -/
def read (g : Grammar κ) : List String → Except UsageFault (Reading κ)
  | [] => .ok ⟨[], []⟩
  | word :: words =>
    if word = "--" then .ok ⟨[], words⟩
    else if givesOptions word.toList then
      match g.cluster word.toList with
      | .error fault => .error fault
      | .ok ⟨given, none⟩ => (g.read words).map (Reading.preceded given)
      | .ok ⟨given, some key⟩ =>
        match words with
        | [] => .error (.missingValue word)
        | value :: words =>
          (g.read words).map (Reading.preceded (given ++ [(key, some value)]))
    else if g.isMixed then (g.read words).map fun r => { r with words := word :: r.words }
    else .ok ⟨[], word :: words⟩

end Grammar

end AppCatalog.Shell
