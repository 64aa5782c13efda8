import AppCatalog.AppType

/-!
# Registrations

A registration names an application by type and name and says where its artifact is, and where its
metadata is if that is kept apart. Registrations are listed by type and then by name, names compared
by code point.
-/

namespace AppCatalog

/-- A registered application. -/
structure Registration where
  type : AppType
  name : String
  uri : String
  metadataUri : Option String
  deriving DecidableEq, Repr, Inhabited

namespace Registration

/-- The type and the name, which identify a registration. -/
def key (r : Registration) : AppType × String := (r.type, r.name)

/-- The identifying text of a type and a name. -/
def idOf (type : AppType) (name : String) : String := type.word ++ "/" ++ name

def id (r : Registration) : String := idOf r.type r.name

/-- Whether a type and name come strictly before another in listing order. -/
def keyBefore (a b : AppType × String) : Bool :=
  a.1.ordinal < b.1.ordinal || (a.1.ordinal == b.1.ordinal && decide (a.2 < b.2))

/-- Whether a registration comes strictly before another in listing order. -/
def before (a b : Registration) : Bool := keyBefore a.key b.key

/-- The registrations in listing order; those of one type and name keep their order. -/
def sort (rs : List Registration) : List Registration := rs.mergeSort fun a b => !b.before a

theorem perm_sort (rs : List Registration) : (sort rs).Perm rs := List.mergeSort_perm _ _

end Registration

end AppCatalog
