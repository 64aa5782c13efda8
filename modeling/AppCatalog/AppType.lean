/-!
# Application types

The five kinds of application, in the order that registrations are listed in.
-/

namespace AppCatalog

/-- The kind of an application. -/
inductive AppType where
  | app
  | source
  | processor
  | sink
  | task
  deriving DecidableEq, Repr, Inhabited

namespace AppType

def all : List AppType := [app, source, processor, sink, task]

/-- The word that stands for a type in keys, addresses and listings. -/
def word : AppType → String
  | app => "app"
  | source => "source"
  | processor => "processor"
  | sink => "sink"
  | task => "task"

/-- The place of a type in the listing order. -/
def ordinal : AppType → Nat
  | app => 0
  | source => 1
  | processor => 2
  | sink => 3
  | task => 4

/-- The type that a word stands for. -/
def ofWord? (w : String) : Option AppType := all.find? fun t => t.word == w

@[simp] theorem ofWord?_word (t : AppType) : ofWord? t.word = some t := by
  cases t <;> decide

theorem ofWord?_eq_some_iff {w : String} {t : AppType} : ofWord? w = some t ↔ w = t.word := by
  constructor
  · intro h
    exact (beq_iff_eq.1 (List.find?_some (p := fun t : AppType => t.word == w) h)).symm
  · rintro rfl
    exact ofWord?_word t

theorem word_injective {s t : AppType} (h : s.word = t.word) : s = t := by
  have : some s = some t := by rw [← ofWord?_word s, ← ofWord?_word t, h]
  exact Option.some.inj this

theorem ordinal_injective {s t : AppType} (h : s.ordinal = t.ordinal) : s = t := by
  cases s <;> cases t <;> first | rfl | exact absurd h (by decide)

end AppType

end AppCatalog
