import AppCatalog.Uri.Address
import AppCatalog.Uri.Check

/-!
# Parts of a URI

A URI is cut into scheme, authority, path, query and fragment. Control characters and blanks in
front are dropped, and so are tabs and line ends anywhere. The cut fails when the brackets of the
authority do not form a host, or when a character of the authority looks like a delimiter.
-/

namespace AppCatalog

/-- The parts of a URI. -/
structure UriParts where
  /-- In lower case; empty without one. -/
  scheme : List Char
  /-- What stands between two slashes and the path. -/
  authority : List Char
  path : List Char
  /-- What stands behind the question mark; empty without one. -/
  query : List Char
  /-- What stands behind the number sign; empty without one. -/
  fragment : List Char
  deriving DecidableEq, Repr

namespace Uri

open AppCatalog.Text

/-- Characters whose compatibility form holds a slash, question mark, number sign, at sign or colon,
by code point. -/
def lookalikes : List Nat := [
  0x2047, 0x2048, 0x2049, 0x2100, 0x2101, 0x2105, 0x2106, 0x2a74, 0xfe13, 0xfe16, 0xfe55, 0xfe56,
  0xfe5f, 0xfe6b, 0xff03, 0xff0f, 0xff1a, 0xff1f, 0xff20]

/-- The text as it is looked at: no controls and blanks in front, no tabs and line ends. -/
def cleaned (cs : List Char) : List Char :=
  (cs.dropWhile fun c => c.toNat ≤ 0x20).filter fun c => c != '\r' && c != '\n' && c != '\t'

/-- The scheme in front of a text, in lower case, and the rest. -/
def cutScheme (cs : List Char) : List Char × List Char :=
  match cutAt? [':'] cs with
  | some (c :: s, rest) =>
    if isLetter c && s.all isSchemeChar then ((c :: s).map Char.toLower, rest) else ([], cs)
  | _ => ([], cs)

/-- The authority in front of a text that begins with two slashes, and the rest. -/
def cutAuthority : List Char → List Char × List Char
  | '/' :: '/' :: cs =>
    let isEnd := fun c : Char => c == '/' || c == '?' || c == '#'
    (cs.takeWhile (!isEnd ·), cs.dropWhile (!isEnd ·))
  | cs => ([], cs)

/-- What stands between the first opening bracket and the first closing one behind it. -/
def bracketed (authority : List Char) : List Char :=
  ((authority.dropWhile (· != '[')).drop 1).takeWhile (· != ']')

/-- Whether the brackets of an authority form a host, if there are any. -/
def bracketsFit (authority : List Char) : Bool :=
  if authority.contains '[' != authority.contains ']' then false
  else !authority.contains '[' || isBracketedHost (bracketed authority)

/-- Whether no character of an authority looks like a delimiter. -/
def hasNoLookalike (authority : List Char) : Bool :=
  authority.all fun c => !lookalikes.contains c.toNat

def split? (cs : List Char) : Option UriParts :=
  let (scheme, rest) := cutScheme (cleaned cs)
  let (authority, rest) := cutAuthority rest
  if bracketsFit authority && hasNoLookalike authority then
    let (rest, fragment) := (cutAt? ['#'] rest).getD (rest, [])
    let (path, query) := (cutAt? ['?'] rest).getD (rest, [])
    some ⟨scheme, authority, path, query, fragment⟩
  else none

/-- The schemes whose last path segment may carry parameters behind a semicolon. -/
def parameterSchemes : List String :=
  ["", "ftp", "hdl", "prospero", "http", "imap", "https", "shttp", "rtsp", "rtsps", "rtspu", "sip",
    "sips", "mms", "sftp", "tel"]

/-- A path without the parameters of its last segment. -/
def dropParameters (path : List Char) : List Char :=
  let last := afterLast '/' path
  path.take (path.length - last.length) ++ last.takeWhile (· != ';')

/-- The path of a URI without parameters, where the scheme has them. -/
def barePath (p : UriParts) : List Char :=
  if parameterSchemes.contains (String.ofList p.scheme) then dropParameters p.path else p.path

end Uri

end AppCatalog
