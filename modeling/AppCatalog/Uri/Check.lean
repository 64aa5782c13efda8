import AppCatalog.Text.Blank

/-!
# Checking a URI

A registration may only name a URI that is absolute: a scheme, a colon and something behind it,
without blanks and without the characters that no URI has. `Uri.fault?` finds the first thing wrong
with a text, in the order empty, illegal character, no scheme, nothing after the scheme.
-/

namespace AppCatalog

/-- What is wrong with a URI. -/
inductive UriFault where
  | empty
  | illegalCharacter
  | noScheme
  | nothingAfterScheme
  /-- Nothing more is said. -/
  | unspecified
  /-- A reason in the words of the one who refuses the URI. -/
  | stated (reason : String)
  deriving DecidableEq, Repr

def UriFault.message : UriFault → String
  | empty => "URI is empty"
  | illegalCharacter => "URI contains illegal characters"
  | noScheme => "URI has no scheme"
  | nothingAfterScheme => "URI has nothing after the scheme"
  | unspecified => "not a valid URI"
  | stated reason => reason

namespace Uri

def isLetter (c : Char) : Bool :=
  (97 ≤ c.toNat && c.toNat ≤ 122) || (65 ≤ c.toNat && c.toNat ≤ 90)

/-- A character of a scheme behind its first letter. -/
def isSchemeChar (c : Char) : Bool :=
  isLetter c || (48 ≤ c.toNat && c.toNat ≤ 57) || c == '+' || c == '-' || c == '.'

/-- A character that no URI contains: a blank, an angle bracket, a quotation mark, a brace, a bar, a
backslash, a caret or a grave accent. -/
def isIllegal (c : Char) : Bool :=
  Text.isBlank c || c == '<' || c == '>' || c == '"' || c == '\x7b' || c == '\x7d' || c == '|' ||
    c == '\\' || c == '^' || c == '\x60'

/-- Whether a text begins with a scheme and a colon. -/
def hasScheme : List Char → Bool
  | [] => false
  | c :: cs => isLetter c && (cs.dropWhile isSchemeChar).head? == some ':'

/-- The first thing wrong with a URI. -/
def fault? (cs : List Char) : Option UriFault :=
  if cs = [] then some .empty
  else if cs.any isIllegal then some .illegalCharacter
  else if !hasScheme cs then some .noScheme
  else if cs.getLast? = some ':' then some .nothingAfterScheme
  else none

end Uri

end AppCatalog
