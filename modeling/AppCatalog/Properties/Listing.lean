import AppCatalog.Assoc
import AppCatalog.Properties.Escape
import AppCatalog.Properties.Line

/-!
# Listings

A listing is an ordered map of keys and values in the text format of property files. Each logical
line holds a key, a separator (`=`, `:` or blanks, blanks around it skipped) and a value.
`Listing.parse` reads a text and `Listing.format` writes one `key=value` line per entry.
-/

namespace AppCatalog

/-- An ordered map of keys and values. -/
abbrev Listing := Assoc (List Char) (List Char)

namespace Properties

open AppCatalog.Text

/-- A character that separates a key from its value. -/
def isSeparator (c : Char) : Bool := c == '=' || c == ':'

/-- The key in front of a line and the rest, cut before the first separator or blank that has no
backslash before it. -/
def splitKey : List Char → List Char × List Char
  | [] => ([], [])
  | '\\' :: c :: cs =>
    let (k, r) := splitKey cs
    ('\\' :: c :: k, r)
  | c :: cs =>
    if isSeparator c || isBlank c then ([], c :: cs)
    else
      let (k, r) := splitKey cs
      (c :: k, r)

/-- The value behind a key: one separator and the blanks around it are skipped. -/
def valuePart (cs : List Char) : List Char :=
  match trimStart cs with
  | c :: r => if isSeparator c then trimStart r else c :: r
  | [] => []

def entry (line : List Char) : List Char × List Char :=
  let (k, r) := splitKey line
  (unescape k, unescape (valuePart r))

def lineOf (key value : List Char) : List Char := escapeKey key ++ '=' :: escapeValue value

/-- A key and the rest behind it give the line back. -/
theorem splitKey_append (line : List Char) : (splitKey line).1 ++ (splitKey line).2 = line := by
  fun_induction splitKey line with
  | case1 => rfl
  | case2 c cs k r h ih => rw [h] at ih; simpa using ih
  | case3 c cs h hc => rfl
  | case4 c cs h hc k r hk ih => rw [hk] at ih; simpa using ih

end Properties

namespace Listing

open AppCatalog.Properties

/-- The entries of a text, line by line. -/
def entries (text : List Char) : List (List Char × List Char) := (logicalLines text).map entry

/-- The listing that a text holds; of a repeated key the last value counts. -/
def parse (text : List Char) : Listing := Assoc.ofPairs (entries text)

/-- The text of a listing, a line feed behind every entry. -/
def format (l : Listing) : List Char := l.flatMap fun p => lineOf p.1 p.2 ++ ['\n']

@[simp] theorem parse_nil : parse [] = [] := rfl

@[simp] theorem format_nil : format [] = [] := rfl

end Listing

end AppCatalog
