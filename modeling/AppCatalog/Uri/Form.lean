import AppCatalog.Text.Split
import AppCatalog.Uri.Percent

/-!
# Form coding

The query of an address is a list of names and values: pairs with ampersands between them, an equals
sign in each, blanks as plus signs, and everything else that is not a plain character as an escape.
`Form.decode` reads such a query and `Form.encode` writes one.
-/

namespace AppCatalog.Form

open AppCatalog.Text

/-- Letters, digits and the marks that are never escaped. -/
def isPlain (c : Char) : Bool := c.isAlphanum || c == '_' || c == '.' || c == '-' || c == '~'

/-- A name or value as it is written. -/
def encodeText (cs : List Char) : List Char :=
  (Percent.encode (fun c => isPlain c || c == ' ') cs).map fun c => if c = ' ' then '+' else c

/-- A name or value as it is read. -/
def decodeText (cs : List Char) : List Char :=
  Percent.decode (cs.map fun c => if c = '+' then ' ' else c)

/-- A name and a value as they are written. -/
def encodePair (p : String × String) : List Char :=
  encodeText p.1.toList ++ '=' :: encodeText p.2.toList

/-- A name and a value as they are read; without an equals sign the value is empty. -/
def decodePair (cs : List Char) : String × String :=
  match cutAt? ['='] cs with
  | some (name, value) => (String.ofList (decodeText name), String.ofList (decodeText value))
  | none => (String.ofList (decodeText cs), "")

def encode (ps : List (String × String)) : List Char :=
  List.intercalate ['&'] (ps.map encodePair)

/-- The names and values of a query. -/
def decode (query : List Char) : List (String × String) :=
  ((splitAll '&' query).filter (· ≠ [])).map decodePair

end AppCatalog.Form
