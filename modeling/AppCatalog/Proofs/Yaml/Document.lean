import AppCatalog.Proofs.Yaml.Reading
import AppCatalog.Yaml.Document

/-!
# How loading a document ends

A text that the grammar admits may still hold a scalar that its tag does not fit: a date that the
calendar does not have, a truth value that is no word for one, a number without digits. Loading a
document ends in one of seven faults (`failsOnly_load`): the text is malformed, or nested too deep, or
one of five breakdowns of what makes the values.
-/

namespace AppCatalog.Yaml

open AppCatalog.Text

/-- The faults of loading a document. -/
inductive Fault.OfDocument : Fault → Prop
  | malformed : OfDocument .malformed
  /-- A number or a date that cannot be read, or an escape beyond the last code point. -/
  | badValue : OfDocument (.breakdown .badValue)
  | tooLarge : OfDocument (.breakdown .tooLarge)
  /-- A number without a first digit. -/
  | missingPart : OfDocument (.breakdown .missingPart)
  /-- A truth value that is no word for one. -/
  | missingKey : OfDocument (.breakdown .missingKey)
  /-- A date that does not have the form of one. -/
  | missingAttribute : OfDocument (.breakdown .missingAttribute)
  | tooDeep : OfDocument (.breakdown .tooDeep)

attribute [grind ←] Fault.OfDocument.malformed Fault.OfDocument.badValue Fault.OfDocument.tooLarge
  Fault.OfDocument.missingPart Fault.OfDocument.missingKey Fault.OfDocument.missingAttribute

open Fault (OfScanner OfDocument)

theorem Fault.OfScanner.ofDocument {f : Fault} (h : OfScanner f) : OfDocument f := by
  cases h with
  | malformed => exact .malformed
  | beyondLast => exact .badValue
  | farBeyondLast => exact .tooLarge

/-! ## Scalars -/

@[grind ←] theorem failsOnly_mapM {ε α β : Type} {P : ε → Prop} {g : α → Except ε β}
    (hg : ∀ a, FailsOnly P (g a)) (as : List α) : FailsOnly P (as.mapM g) := by
  induction as with
  | nil => exact .pure []
  | cons a as ih =>
      rw [List.mapM_cons]
      grind

@[grind ←] theorem failsOnly_wholeNumber (cs : List Char) :
    FailsOnly OfDocument (wholeNumber cs) := by
  unfold wholeNumber
  grind

@[grind ←] theorem failsOnly_intOf (cs : List Char) : FailsOnly OfDocument (intOf cs) := by
  unfold intOf
  grind

@[grind ←] theorem failsOnly_factorOf (n : Int) : FailsOnly OfDocument (factorOf n) := by
  rw [factorOf]
  exact .ite (.ok _) (.error .tooLarge)

theorem failsOnly_addSixties (sum : Binary64) (worth : Int) (parts : List Binary64) :
    FailsOnly OfDocument (addSixties sum worth parts) := by
  induction parts generalizing sum worth with
  | nil =>
      rw [addSixties]
      exact .ok sum
  | cons p ps ih =>
      rw [addSixties]
      exact .bind (failsOnly_factorOf worth) fun _ => ih _ _

@[grind ←] theorem failsOnly_pointedSixties (parts : List Binary64) :
    FailsOnly OfDocument (pointedSixties parts) :=
  failsOnly_addSixties _ _ _

@[grind ←] theorem failsOnly_pointedNumber (cs : List Char) :
    FailsOnly OfDocument (pointedNumber cs) := by
  unfold pointedNumber
  grind

@[grind ←] theorem failsOnly_floatOf (cs : List Char) : FailsOnly OfDocument (floatOf cs) := by
  unfold floatOf
  grind

@[grind ←] theorem failsOnly_boolOf (cs : List Char) : FailsOnly OfDocument (boolOf cs) := by
  unfold boolOf
  grind

@[grind ←] theorem failsOnly_timestampOf (cs : List Char) :
    FailsOnly OfDocument (timestampOf cs) := by
  unfold timestampOf
  grind

@[grind ←] theorem failsOnly_bytesOf (cs : List Char) : FailsOnly OfDocument (bytesOf cs) := by
  unfold bytesOf
  grind

/-! ## Collections -/

namespace Made

/-- A fault that was found at a level is one of loading a document. -/
def Expected (e : Nat × Fault) : Prop := OfDocument e.2

variable {α β : Type}

@[grind ←] theorem failsOnly_fault (level : Nat) {f : Fault} (h : OfDocument f) :
    FailsOnly Expected (fault level f : Made α) := .error h

@[grind ←] theorem failsOnly_ofScalar (level : Nat) {x : Except Fault α}
    (hx : FailsOnly OfDocument x) : FailsOnly Expected (ofScalar level x) := by
  cases x with
  | ok a => exact .ok a
  | error f => exact .error (hx f rfl)

@[grind ←] theorem failsOnly_both {x : Made α} {y : Made β} (hx : FailsOnly Expected x)
    (hy : FailsOnly Expected y) : FailsOnly Expected (both x y) := by
  intro e h
  cases x with
  | ok a =>
      cases y with
      | ok b => cases h
      | error g =>
          cases h
          exact hy _ rfl
  | error f =>
      cases y with
      | ok b =>
          cases h
          exact hx _ rfl
      | error g =>
          rw [both] at h
          split at h
          · cases h
            exact hy _ rfl
          · cases h
            exact hx _ rfl

@[grind ←] theorem failsOnly_all {g : α → Made β} (hg : ∀ a, FailsOnly Expected (g a))
    (as : List α) : FailsOnly Expected (all g as) := by
  induction as with
  | nil => exact .ok []
  | cons a as ih =>
      unfold all
      grind

end Made

namespace Node

@[grind ←] theorem failsOnly_scalarValue (level : Nat) (n : Node)
    {f : Points → Except Fault Value} (hf : ∀ p, FailsOnly OfDocument (f p)) :
    FailsOnly Made.Expected (n.scalarValue level f) := by
  unfold scalarValue
  grind

theorem failsOnly_pair (level : Nat) {inner : Node → Made Value}
    (hinner : ∀ n, FailsOnly Made.Expected (inner n)) (item : Node) :
    FailsOnly Made.Expected (match item with
      | mapping _ [(k, v)] => (Made.both (inner k) (inner v)).map fun p => Value.pair p.1 p.2
      | _ => Made.fault level .malformed) := by
  split
  · exact .map _ (Made.failsOnly_both (hinner _) (hinner _))
  · exact Made.failsOnly_fault _ .malformed

theorem failsOnly_make (fuel level : Nat) (n : Node) :
    FailsOnly Made.Expected (n.make fuel level) := by
  induction fuel generalizing level n with
  | zero => exact .error .malformed
  | succ fuel ih =>
      have hinner : ∀ n, FailsOnly Made.Expected (make fuel (level + 1) n) := ih (level + 1)
      have hshape {α : Type} :
          FailsOnly Made.Expected (Made.fault (level + 1) .malformed : Made α) :=
        Made.failsOnly_fault _ .malformed
      have hpair := failsOnly_pair (level + 1) hinner
      have hentry : ∀ e : Node × Node, FailsOnly Made.Expected (Made.both
          ((make fuel (level + 1) e.1).bind fun k =>
            if k.isSimple then .ok k else Made.fault (level + 1) .malformed)
          (make fuel (level + 1) e.2)) := by
        intro e
        refine Made.failsOnly_both (.except_bind (hinner _) fun k => ?_) (hinner _)
        exact .ite (.ok k) hshape
      unfold make
      split
      · exact .ok _
      · split
        · exact failsOnly_scalarValue _ _ fun _ => .ok _
        · exact failsOnly_scalarValue _ _ fun p => .map _ (failsOnly_boolOf p.replaced)
        · exact failsOnly_scalarValue _ _ fun p => .map _ (failsOnly_intOf p.replaced)
        · exact failsOnly_scalarValue _ _ fun p => .map _ (failsOnly_floatOf p.replaced)
        · exact failsOnly_scalarValue _ _ fun p => failsOnly_bytesOf p.replaced
        · exact failsOnly_scalarValue _ _ fun p => failsOnly_timestampOf p.replaced
        · exact failsOnly_scalarValue _ _ fun _ => .ok _
        · split
          · exact .map _ (Made.failsOnly_all hinner _)
          · exact hshape
        · split
          · exact .map _ (Made.failsOnly_all hpair _)
          · exact hshape
        · split
          · exact .map _ (Made.failsOnly_all hpair _)
          · exact hshape
        · split
          · split
            · exact .map _ (.map _ (Made.failsOnly_all hentry _))
            · exact hshape
          · exact hshape
        · split
          · split
            · exact .map _ (.map _ (Made.failsOnly_all hentry _))
            · exact hshape
          · exact hshape
        all_goals exact Made.failsOnly_fault _ .malformed

end Node

/-- Loading a document gives a value or ends in one of its faults. -/
theorem failsOnly_load (levels : Option Nat) (cs : List Char) :
    FailsOnly OfDocument (load levels cs) := by
  unfold load
  refine .bind ((Node.failsOnly_ofText cs).mono fun _ h => h.ofDocument) fun root => ?_
  cases root with
  | none => exact FailsOnly.pure Value.null
  | some n =>
      refine .ite (.error .tooDeep) ?_
      have hm := Node.failsOnly_make (n.depth + 1) 0 n
      rcases he : n.make (n.depth + 1) 0 with ⟨level, f⟩ | v
      · exact .error (hm _ he)
      · exact .pure v

end AppCatalog.Yaml
