import AppCatalog.Text.Integer
import AppCatalog.Text.Lines
import AppCatalog.Uri.Percent
import AppCatalog.Uri.Split

/-!
# Addresses of requests

A request goes to an address in a plain form: scheme and host in lower case, characters that no
address holds as escapes, no dot segments, no port that the scheme implies. `Address.parse?` brings
a URL to that form or refuses it, `Address.text` writes it, and `Address.redirected?` finds the
address that an answer redirects to.
-/

namespace AppCatalog

/-- The address of a request. -/
structure Address where
  scheme : List Char
  userInfo : List Char
  /-- Without brackets. -/
  host : List Char
  port : Option Int
  path : List Char
  query : Option (List Char)
  fragment : Option (List Char)
  deriving DecidableEq, Repr

namespace Address

open AppCatalog.Text

/-- The longest URL that is looked at. -/
def maxLength : Nat := 65536

/-- A letter, digit or mark that is never escaped. -/
def isUnreserved (c : Char) : Bool :=
  Uri.isLetter c || (48 ≤ c.toNat && c.toNat ≤ 57) || c == '-' || c == '.' || c == '_' || c == '~'

def isAsciiExcept (excluded : List Char) (c : Char) : Bool :=
  0x21 ≤ c.toNat && c.toNat ≤ 0x7e && !excluded.contains c

def isPathChar : Char → Bool :=
  isAsciiExcept ['"', '#', '<', '>', '?', '\x60', '\x7b', '\x7d']

def isQueryChar : Char → Bool := isAsciiExcept ['"', '#', '<', '>']

def isFragmentChar : Char → Bool := isAsciiExcept ['"', '<', '>', '\x60']

/-- Characters that the part in front of an at sign keeps. -/
def isUserChar : Char → Bool :=
  isAsciiExcept ['"', '#', '<', '>', '?', '\x60', '\x7b', '\x7d', '/', ';', '=', '@', '[', '\\',
    ']', '^', '|']

def isHostChar (c : Char) : Bool :=
  isUnreserved c || "!$&'()*+,;=".toList.contains c ||
    ['"', '\x60', '\x7b', '\x7d', '%', '|', '\\'].contains c

/-- A text with the characters that are not kept as escapes; escapes stay as they are. -/
def escapeText (keeps : Char → Bool) : List Char → List Char
  | [] => []
  | '%' :: a :: b :: cs =>
    if (hexValue? a).isSome && (hexValue? b).isSome then '%' :: a :: b :: escapeText keeps cs
    else Percent.encode keeps ['%'] ++ escapeText keeps (a :: b :: cs)
  | c :: cs => Percent.encode (fun c => isUnreserved c || keeps c) [c] ++ escapeText keeps cs

/-- A path without segments of one dot, each segment of two dots taking the one before it away. -/
def dropDots (path : List Char) : List Char :=
  let parts := splitAll '/' path
  let kept := parts.foldl (fun out part =>
    if part = ['.'] then out
    else if part = ['.', '.'] then (if out ≠ [] && out ≠ [[]] then out.dropLast else out)
    else out ++ [part]) []
  List.intercalate ['/'] kept

/-- Steps of the form that a host of four numbers has: digits, any character, digits, and so on. -/
def numberSteps (states : List Nat) (c : Char) : List Nat :=
  let digit := 48 ≤ c.toNat && c.toNat ≤ 57
  (states.flatMap fun s =>
    if s % 2 = 0 then (if digit then [s + 1] else [])
    else (if digit then [s] else []) ++ (if s < 7 then [s + 1] else [])).eraseDups

/-- Whether a host looks like four numbers, whatever stands between them. -/
def looksNumeric (host : List Char) : Bool := (host.foldl numberSteps [0]).contains 7

/-- The digit of a number in the coding of host labels. -/
def labelDigit (n : Nat) : Char := if n < 26 then Char.ofNat (97 + n) else Char.ofNat (22 + n)

/-- The next bias of the coding of host labels. -/
def adaptBias (delta count : Nat) (first : Bool) : Nat :=
  let rec shrink : Nat → Nat → Nat → Nat
    | 0, k, d => k + 36 * d / (d + 38)
    | fuel + 1, k, d => if 455 < d then shrink fuel (k + 36) (d / 35) else k + 36 * d / (d + 38)
  let d := if first then delta / 700 else delta / 2
  shrink 32 0 (d + d / count)

/-- A number of the coding of host labels, low digits first. -/
def labelNumber (bias : Nat) : Nat → Nat → Nat → List Char
  | 0, _, _ => []
  | fuel + 1, k, q =>
    let t := if k ≤ bias then 1 else min (k - bias) 26
    if q < t then [labelDigit q]
    else labelDigit (t + (q - t) % (36 - t)) :: labelNumber bias fuel (k + 36) ((q - t) / (36 - t))

/-- The state of the coding of a host label. -/
structure LabelState where
  delta : Nat
  bias : Nat
  done : Nat
  out : List Char

/-- The characters of a label that are coded, by code point in increasing order. -/
def codePoints (label : List Char) : List Nat :=
  ((label.map Char.toNat).filter (0x80 ≤ ·)).eraseDups.mergeSort

/-- Codes every place of one code point in a label. -/
def codePlaces (label : List Char) (ascii n previous : Nat) (s : LabelState) : LabelState :=
  let s := { s with delta := s.delta + (n - previous) * (s.done + 1) }
  let s := label.foldl (fun (s : LabelState) c =>
    if c.toNat < n then { s with delta := s.delta + 1 }
    else if c.toNat = n then
      { delta := 0, bias := adaptBias s.delta (s.done + 1) (s.done == ascii), done := s.done + 1,
        out := s.out ++ labelNumber s.bias 32 36 s.delta }
    else s) s
  { s with delta := s.delta + 1 }

def codeLabel (label : List Char) : List Char :=
  if label.all Percent.isAscii then label
  else
    let ascii := label.filter Percent.isAscii
    let start : LabelState := ⟨0, 72, ascii.length, []⟩
    let (s, _) := (codePoints label).foldl
      (fun (s, previous) n => (codePlaces label ascii.length n previous s, n + 1)) (start, 0x80)
    "xn--".toList ++ (if ascii = [] then [] else ascii ++ ['-']) ++ s.out

/-- Whether a label may stand in a host that is coded. An ASCII label that is coded already is taken
as it is, and which characters beyond ASCII a label may hold is not looked at. -/
def isLabel (label : List Char) : Bool :=
  let hasForm := fun c : Char =>
    !Percent.isAscii c || Uri.isLetter c || (48 ≤ c.toNat && c.toNat ≤ 57) || c == '-'
  label != [] && label.head? != some '-' && label.getLast? != some '-' && label.all hasForm &&
    ((label.drop 2).take 2 != ['-', '-'] || label.take 4 == "xn--".toList)

/-- The labels of a host; some characters stand for a dot. -/
def labelsOf (host : List Char) : List (List Char) :=
  splitAll '.' (host.map fun c =>
    if ['\u3002', '\uff0e', '\uff61'].contains c then '.' else c)

/-- The coded form of a host, if its labels and their lengths allow for one. A dot at the end stays. -/
def codeHost? (host : List Char) : Option (List Char) :=
  let labels := labelsOf host
  let (named, ending) :=
    if labels.getLast? = some [] then (labels.dropLast, ['.']) else (labels, [])
  let coded := named.map codeLabel
  let plain := List.intercalate ['.'] coded
  if named ≠ [] && named.all isLabel && coded.all (·.length ≤ 63) && plain.length ≤ 253 then
    some (plain ++ ending)
  else none

def plainHost? (host : List Char) : Option (List Char) :=
  if looksNumeric host then if Uri.isIpv4 host then some host else none
  else if host.head? = some '[' && host.getLast? = some ']' then
    let inner := host.tail.dropLast
    if Uri.isZonedIpv6 inner then some inner else none
  else if host.all Percent.isAscii then some (escapeText isHostChar (host.map Char.toLower))
  else codeHost? (host.map Char.toLower)

def impliedPort? (scheme : List Char) : Option Int :=
  match String.ofList scheme with
  | "ftp" => some 21
  | "http" => some 80
  | "https" => some 443
  | "ws" => some 80
  | "wss" => some 443
  | _ => none

/-- The port of a text, if it is one; none if it is empty or implied by the scheme. -/
def port? (scheme text : List Char) : Option (Option Int) :=
  if text = [] then some none
  else (readInteger? 10 text).map fun n => if impliedPort? scheme = some n then none else some n

/-- User, host and port of an authority. -/
def cutAuthority (authority : List Char) : List Char × List Char × List Char :=
  let (user, rest) :=
    if authority.contains '@' then
      (authority.take (authority.length - (afterLast '@' authority).length - 1),
        afterLast '@' authority)
    else ([], authority)
  let host :=
    if rest.head? = some '[' && rest.contains ']' then
      rest.take (rest.length - (afterLast ']' rest).length)
    else rest.takeWhile (· != ':')
  let port := rest.drop host.length
  (user, host, if port.head? = some ':' then port.tail else port)

/-- The scheme in front of a URL as it is written, and the rest. -/
def cutScheme (cs : List Char) : List Char × List Char :=
  match cutAt? [':'] cs with
  | some (c :: s, rest) =>
    if Uri.isLetter c && s.all Uri.isSchemeChar then (c :: s, rest) else ([], cs)
  | _ => ([], cs)

/-- Whether a path may stand behind the parts in front of it. -/
def pathFits (hasScheme hasAuthority : Bool) (path : List Char) : Bool :=
  if hasAuthority then path = [] || path.head? = some '/'
  else hasScheme || !(path.take 2 == ['/', '/'] || path.head? == some ':')

def parse? (url : List Char) : Option Address :=
  if maxLength < url.length || url.any (fun c => c.toNat < 0x20 || c.toNat = 0x7f) then none
  else
    let (scheme, rest) := cutScheme url
    let (authority, rest) := Uri.cutAuthority rest
    let (rest, fragment) := match cutAt? ['#'] rest with
      | some (before, after) => (before, some after)
      | none => (rest, none)
    let (path, query) := match cutAt? ['?'] rest with
      | some (before, after) => (before, some after)
      | none => (rest, none)
    let (user, host, port) := cutAuthority authority
    match plainHost? host, port? scheme port with
    | some host, some port =>
      let user := escapeText isUserChar user
      let hasAuthority := user ≠ [] || host ≠ [] || port.isSome
      if pathFits (scheme ≠ []) hasAuthority path then
        let path := if scheme ≠ [] || hasAuthority then dropDots path else path
        some ⟨scheme.map Char.toLower, user, host, port, escapeText isPathChar path,
          query.map (escapeText isQueryChar), fragment.map (escapeText isFragmentChar)⟩
      else none
    | _, _ => none

/-- The text of the user, host and port. -/
def authorityText (a : Address) : List Char :=
  (if a.userInfo = [] then [] else a.userInfo ++ ['@']) ++
    (if a.host.contains ':' then '[' :: a.host ++ [']'] else a.host) ++
    match a.port with
    | some n => ':' :: (toString n).toList
    | none => []

def text (a : Address) : List Char :=
  (if a.scheme = [] then [] else a.scheme ++ [':']) ++
    (if a.authorityText = [] then [] else '/' :: '/' :: a.authorityText) ++ a.path ++
    (match a.query with
      | some q => '?' :: q
      | none => []) ++
    match a.fragment with
    | some f => '#' :: f
    | none => []

/-- A relative path behind the folder of another one, dot segments resolved. -/
def joinPaths (base path : List Char) : List Char :=
  let baseParts := splitAll '/' base
  let baseParts := if baseParts.getLast? = some [] then baseParts else baseParts.dropLast
  let segments :=
    if path.head? = some '/' then splitAll '/' path
    else
      let all := baseParts ++ splitAll '/' path
      all.take 1 ++ ((all.drop 1).dropLast.filter (· ≠ [])) ++ (all.drop 1).getLast?.toList
  let kept := segments.foldl (fun out part =>
    if part = ['.', '.'] then out.dropLast else if part = ['.'] then out else out ++ [part]) []
  let kept :=
    if segments.getLast? = some ['.'] || segments.getLast? = some ['.', '.'] then kept ++ [[]]
    else kept
  let joined := List.intercalate ['/'] kept
  if joined = [] then ['/'] else joined

/-- An address read relative to another one. -/
def join (base a : Address) : Address :=
  if a.scheme ≠ [] && a.scheme ≠ base.scheme then a
  else if a.authorityText ≠ [] then { a with scheme := base.scheme }
  else if a.path = [] then
    { base with query := if (a.query.getD []) = [] then base.query else a.query,
                fragment := a.fragment }
  else { base with path := joinPaths base.path a.path, query := a.query, fragment := a.fragment }

/-- The address that an answer to a request redirects to. The fragment of the request is kept where
the new address has none. -/
def redirected? (request : Address) (location : String) : Option Address := do
  let target ← parse? location.toList
  let target :=
    if target.scheme ≠ [] && target.host = [] then { target with host := request.host } else target
  let target := if target.scheme = [] || target.host = [] then request.join target else target
  if (request.fragment.getD []) ≠ [] && (target.fragment.getD []) = [] then
    some { target with fragment := request.fragment }
  else some target

end Address

end AppCatalog
