import AppCatalog.Decimal.Binary64
import AppCatalog.Registration
import AppCatalog.Text.Split

/-!
# Pages of a listing

A page request is a page number and a page size; its window begins at their product. A query keeps
the registrations of a type whose name contains a text. `Page.cut` cuts a window out of a list and
`Page.slice` does the same for a filtered list, where a window that begins past the end is served as
the first page. The number of pages is the rounded quotient of total and size, rounded up.
-/

namespace AppCatalog

/-- A requested window: page number and page size. -/
structure PageRequest where
  page : Nat
  size : Nat
  deriving DecidableEq, Repr, Inhabited

namespace PageRequest

def offset (r : PageRequest) : Nat := r.page * r.size

/-- Why two numbers make no request. -/
inductive Fault where
  | negativePage
  | negativeSize
  deriving DecidableEq, Repr

/-- The request of two numbers; the page number is looked at first. -/
def ofInts (page size : Int) : Except Fault PageRequest :=
  if page < 0 then .error .negativePage
  else if size < 0 then .error .negativeSize
  else .ok ⟨page.toNat, size.toNat⟩

/-- The window that is asked for when nothing is said. -/
def standard : PageRequest := ⟨0, 20⟩

end PageRequest

/-- A page: what it holds, which window it is, and how many there are in all. -/
structure Page where
  content : List Registration
  request : PageRequest
  total : Int
  deriving DecidableEq, Repr

namespace Page

/-- How many pages of a size there are; nothing if the quotient is beyond the range of the numbers
it is computed in. -/
def pageCount? (total : Int) (size : Nat) : Option Int :=
  if size = 0 then some 1 else (Binary64.ofRatio (total < 0) total.natAbs size).ceil?

def totalPages? (p : Page) : Option Int := pageCount? p.total p.request.size

def window {α : Type} (xs : List α) (r : PageRequest) : List α := (xs.drop r.offset).take r.size

/-- The window of a listing, empty when it begins past the end. -/
def cut (rs : List Registration) (r : PageRequest) : Page := ⟨window rs r, r, rs.length⟩

/-- The window that is served of a filtered list with `count` members: the first page when the
requested one begins past the end. -/
def served (count : Nat) (r : PageRequest) : PageRequest :=
  if r.offset ≤ min count (r.offset + r.size) then r else ⟨0, r.size⟩

def slice (rs : List Registration) (r : PageRequest) : Page := cut rs (served rs.length r)

end Page

/-- What a listing is narrowed to. -/
structure Query where
  type : Option AppType
  search : Option String
  deriving DecidableEq, Repr

namespace Query

/-- Whether the query narrows nothing, so that the listing itself is paged. -/
def isEmpty (q : Query) : Bool := q.type.isNone && q.search.isNone

/-- Whether a registration has the type and its name contains the text. -/
def selects (q : Query) (r : Registration) : Bool :=
  q.type.all (· == r.type) && q.search.all fun s => Text.occursIn s.toList r.name.toList

/-- The page of a query over a full listing. -/
def page (q : Query) (r : PageRequest) (all : List Registration) : Page :=
  if q.isEmpty then .cut all r else .slice (all.filter q.selects) r

end Query

end AppCatalog
