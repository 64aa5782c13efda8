import AppCatalog.Yaml.Token

/-!
# How scanning ends

A scanner stops where a text breaks the grammar, and at one other thing: an escape in quotation
marks that asks for a code point beyond the last one. `FailsOnly` says that a computation ends in
nothing but faults with a property. It goes through sequencing, and each function of the scanner
gets it from the functions it calls, so that what `Token.scan` ends in is known (`scan_ending`).
-/

namespace AppCatalog

/-- Whatever fault a computation ends in has a property. -/
def FailsOnly {ε α : Type} (P : ε → Prop) (x : Except ε α) : Prop := ∀ f, x = .error f → P f

namespace FailsOnly

variable {ε α β : Type} {P : ε → Prop}

@[grind ←] theorem ok (a : α) : FailsOnly P (.ok a) := by
  intro f h
  cases h

@[grind ←] theorem pure (a : α) : FailsOnly P (Pure.pure a : Except ε α) := ok a

@[grind ←] theorem error {f : ε} (h : P f) : FailsOnly P (.error f : Except ε α) := by
  intro g hg
  cases hg
  exact h

@[grind ←] theorem bind {x : Except ε α} {k : α → Except ε β} (hx : FailsOnly P x)
    (hk : ∀ a, FailsOnly P (k a)) : FailsOnly P (x >>= k) := by
  intro f h
  cases x with
  | error g =>
      cases h
      exact hx f rfl
  | ok a => exact hk a f h

theorem except_bind {x : Except ε α} {k : α → Except ε β} (hx : FailsOnly P x)
    (hk : ∀ a, FailsOnly P (k a)) : FailsOnly P (x.bind k) := bind hx hk

@[grind ←] theorem map {x : Except ε α} (g : α → β) (hx : FailsOnly P x) :
    FailsOnly P (x.map g) := by
  intro f h
  cases x with
  | error e =>
      cases h
      exact hx f rfl
  | ok a => cases h

theorem ite {p : Prop} [Decidable p] {x y : Except ε α} (hx : FailsOnly P x)
    (hy : FailsOnly P y) : FailsOnly P (if p then x else y) := by
  split
  · exact hx
  · exact hy

/-- What ends in faults of one kind ends in faults of every kind that includes it. -/
theorem mono {Q : ε → Prop} {x : Except ε α} (hx : FailsOnly P x) (h : ∀ f, P f → Q f) :
    FailsOnly Q x :=
  fun f hf => h f (hx f hf)

end FailsOnly

namespace Yaml

/-- The faults of a scanner: the text breaks the grammar, or an escape stands for no code point. -/
inductive Fault.OfScanner : Fault → Prop
  | malformed : OfScanner .malformed
  | beyondLast : OfScanner (.breakdown .badValue)
  | farBeyondLast : OfScanner (.breakdown .tooLarge)

attribute [grind ←] Fault.OfScanner.malformed Fault.OfScanner.beyondLast
  Fault.OfScanner.farBeyondLast

open Fault (OfScanner)

/-! ## Scalars -/

namespace Scalar

@[grind ←] theorem failsOnly_codePoint (n : Nat) : FailsOnly OfScanner (codePoint n) := by
  unfold codePoint
  grind

@[grind ←] theorem failsOnly_flowBreaks (fuel : Nat) (c : Cursor) :
    FailsOnly OfScanner (flowBreaks fuel c) := by
  induction fuel generalizing c with
  | zero => exact .ok _
  | succ fuel ih =>
      unfold flowBreaks
      grind

@[grind ←] theorem failsOnly_flowGap (c : Cursor) : FailsOnly OfScanner (flowGap c) := by
  unfold flowGap
  grind

@[grind ←] theorem failsOnly_flowEscape (c : Cursor) : FailsOnly OfScanner (flowEscape c) := by
  unfold flowEscape
  grind

@[grind ←] theorem failsOnly_flowWord (isDouble : Bool) (fuel : Nat) (c : Cursor) :
    FailsOnly OfScanner (flowWord isDouble fuel c) := by
  induction fuel generalizing c with
  | zero => exact .ok _
  | succ fuel ih =>
      unfold flowWord
      grind

@[grind ←] theorem failsOnly_flowParts (isDouble : Bool) (mark : Char) (fuel : Nat) (c : Cursor) :
    FailsOnly OfScanner (flowParts isDouble mark fuel c) := by
  induction fuel generalizing c with
  | zero => exact .error .malformed
  | succ fuel ih =>
      unfold flowParts
      grind

@[grind ←] theorem failsOnly_flow (c : Cursor) : FailsOnly OfScanner (flow c) := by
  unfold flow
  grind

@[grind ←] theorem failsOnly_header (c : Cursor) : FailsOnly OfScanner (header c) := by
  unfold header increment?
  grind

@[grind ←] theorem failsOnly_ignoredLine (c : Cursor) : FailsOnly OfScanner (ignoredLine c) := by
  unfold ignoredLine
  grind

@[grind ←] theorem failsOnly_block (indent : Int) (c : Cursor) :
    FailsOnly OfScanner (block indent c) := by
  unfold block
  grind

end Scalar

namespace Scanner

/-! ## Keys and blocks -/

@[grind ←] theorem failsOnly_dropStale (s : Scanner) : FailsOnly OfScanner s.dropStale := by
  unfold dropStale
  grind

@[grind ←] theorem failsOnly_dropKey (s : Scanner) : FailsOnly OfScanner s.dropKey := by
  unfold dropKey
  grind

@[grind ←] theorem failsOnly_saveKey (s : Scanner) : FailsOnly OfScanner s.saveKey := by
  unfold saveKey
  grind

@[grind ←] theorem failsOnly_openBlock (t : Token) (s : Scanner) :
    FailsOnly OfScanner (s.openBlock t) := by
  unfold openBlock
  grind

@[grind ←] theorem failsOnly_finish (s : Scanner) : FailsOnly OfScanner s.finish := by
  unfold finish
  grind

/-! ## Tokens -/

@[grind ←] theorem failsOnly_openFlow (t : Token) (s : Scanner) :
    FailsOnly OfScanner (s.openFlow t) := by
  unfold openFlow
  grind

@[grind ←] theorem failsOnly_closeFlow (t : Token) (s : Scanner) :
    FailsOnly OfScanner (s.closeFlow t) := by
  unfold closeFlow
  grind

@[grind ←] theorem failsOnly_flowEntry (s : Scanner) : FailsOnly OfScanner s.flowEntry := by
  unfold flowEntry
  grind

@[grind ←] theorem failsOnly_blockEntry (s : Scanner) : FailsOnly OfScanner s.blockEntry := by
  unfold blockEntry
  grind

@[grind ←] theorem failsOnly_explicitKey (s : Scanner) : FailsOnly OfScanner s.explicitKey := by
  unfold explicitKey
  grind

@[grind ←] theorem failsOnly_value (s : Scanner) : FailsOnly OfScanner s.value := by
  unfold value
  grind

@[grind ←] theorem failsOnly_tagBytes (fuel : Nat) (c : Cursor) :
    FailsOnly OfScanner (tagBytes fuel c) := by
  induction fuel generalizing c with
  | zero => exact .ok _
  | succ fuel ih =>
      unfold tagBytes
      grind

@[grind ←] theorem failsOnly_tagText (fuel : Nat) (c : Cursor) :
    FailsOnly OfScanner (tagText fuel c) := by
  induction fuel generalizing c with
  | zero => exact .ok _
  | succ fuel ih =>
      unfold tagText
      grind

@[grind ←] theorem failsOnly_tagSuffix (c : Cursor) : FailsOnly OfScanner (tagSuffix c) := by
  unfold tagSuffix
  grind

@[grind ←] theorem failsOnly_handle (c : Cursor) : FailsOnly OfScanner (handle c) := by
  unfold handle
  grind

@[grind ←] theorem failsOnly_number (c : Cursor) : FailsOnly OfScanner (number c) := by
  unfold number
  grind

@[grind ←] theorem failsOnly_versionToken (c : Cursor) :
    FailsOnly OfScanner (versionToken c) := by
  unfold versionToken
  grind

@[grind ←] theorem failsOnly_handleToken (c : Cursor) : FailsOnly OfScanner (handleToken c) := by
  unfold handleToken
  grind

@[grind ←] theorem failsOnly_directiveToken (c : Cursor) :
    FailsOnly OfScanner (directiveToken c) := by
  unfold directiveToken
  grind

@[grind ←] theorem failsOnly_directive (s : Scanner) : FailsOnly OfScanner s.directive := by
  unfold directive
  grind

@[grind ←] theorem failsOnly_documentMark (t : Token) (s : Scanner) :
    FailsOnly OfScanner (s.documentMark t) := by
  unfold documentMark
  grind

@[grind ←] theorem failsOnly_nameToken (of : List Char → Token) (c : Cursor) :
    FailsOnly OfScanner (nameToken of c) := by
  unfold nameToken
  grind

@[grind ←] theorem failsOnly_tagToken (c : Cursor) : FailsOnly OfScanner (tagToken c) := by
  unfold tagToken
  grind

@[grind ←] theorem failsOnly_property {read : Cursor → Except Fault (Token × Cursor)}
    (h : ∀ c, FailsOnly OfScanner (read c)) (s : Scanner) :
    FailsOnly OfScanner (s.property read) := by
  unfold property
  grind

@[grind ←] theorem failsOnly_blockScalar (s : Scanner) : FailsOnly OfScanner s.blockScalar := by
  unfold blockScalar
  grind

@[grind ←] theorem failsOnly_flowScalar (s : Scanner) : FailsOnly OfScanner s.flowScalar := by
  unfold flowScalar
  grind

@[grind ←] theorem failsOnly_plainScalar (s : Scanner) : FailsOnly OfScanner s.plainScalar := by
  unfold plainScalar
  grind

/-! ## Scanning -/

@[grind ←] theorem failsOnly_settle (s : Scanner) : FailsOnly OfScanner s.settle := by
  unfold settle
  grind

theorem failsOnly_token (s : Scanner) : FailsOnly OfScanner s.token := by
  unfold token
  dsimp only
  repeat' apply FailsOnly.ite
  all_goals grind

section Run

-- What a token takes is known by now, and unfolding it would only slow `run` down.
attribute [local irreducible] settle token finish

theorem run_succ (fuel : Nat) (s : Scanner) :
    run (fuel + 1) s = match s.settle with
      | .error f => (s.tokens.reverse, some f)
      | .ok next =>
        if next.cursor.rest = [] then
          match next.finish with
          | .ok next => (next.tokens.reverse, none)
          | .error f => (next.tokens.reverse, some f)
        else match next.token with
          | .ok next => run fuel next
          | .error f => (next.tokens.reverse, some f) := rfl

theorem run_ending (fuel : Nat) (s : Scanner) {f : Fault} (h : (run fuel s).2 = some f) :
    OfScanner f := by
  induction fuel generalizing s with
  | zero =>
      cases Option.some.inj h
      exact .malformed
  | succ fuel ih =>
      rw [run_succ] at h
      rcases hs : s.settle with g | next
      · rw [hs] at h
        cases h
        exact failsOnly_settle s f hs
      · simp only [hs] at h
        split at h
        · rcases hf : next.finish with g | last
          · rw [hf] at h
            cases h
            exact failsOnly_finish next f hf
          · rw [hf] at h
            cases h
        · rcases ht : next.token with g | later
          · rw [ht] at h
            cases h
            exact failsOnly_token next f ht
          · rw [ht] at h
            exact ih later h

end Run

end Scanner

/-- The tokens of a text reach its end or end in a fault of the scanner. -/
theorem Token.scan_ending {cs : List Char} {f : Fault} (h : (scan cs).2 = some f) :
    OfScanner f := by
  rw [scan] at h
  split at h
  · exact Scanner.run_ending _ _ h
  · cases h
    exact .malformed

end Yaml

end AppCatalog
