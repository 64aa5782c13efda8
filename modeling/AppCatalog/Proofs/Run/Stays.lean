import AppCatalog.Proofs.Run
import Mathlib.Order.Defs.Unbundled

/-!
# What a run leaves alone

`Stays R m` says that, whatever an operation gives, the state that it leaves is related by `R` to the
one before. For a reflexive and transitive relation this goes from the steps of an operation to the
whole of it, also where the operation stops at a failure.
-/

namespace AppCatalog

namespace Run

variable {σ τ α β : Type} {R : σ → σ → Prop}

def Stays (R : σ → σ → Prop) (m : Run σ α) : Prop := ∀ s, R s (m.on s).2

theorem Stays.modify {g : σ → σ} (h : ∀ s, R s (g s)) :
    Stays R (modify g : Run σ PUnit) := h

/-- An operation on a part stays within what putting the part back stays within. -/
theorem Stays.within {Q : σ → σ → Prop} {S : τ → τ → Prop} {m : Run σ α} {get : τ → σ}
    {set : σ → τ → τ} (hm : Stays Q m) (h : ∀ t s, Q (get t) s → S t (set s t)) :
    Stays S (m.within get set) :=
  fun t => h t _ (hm (get t))

theorem Stays.outcome {m : Run σ α} (hm : Stays R m) : Stays R m.outcome := hm

/-- What begins by looking at the state goes on from the state that it has seen. -/
theorem Stays.get_bind {k : σ → Run σ β} (h : ∀ s, R s ((k s).on s).2) :
    Stays R (get >>= k) := by
  intro s
  rw [on_bind_ok (on_get s)]
  exact h s

variable [IsPreorder σ R]

theorem Stays.pure (a : α) : Stays R (pure a) := fun s => refl_of R s

theorem Stays.throw (f : Failure) : Stays R (throw f : Run σ α) := fun s => refl_of R s

theorem Stays.ofExcept (x : Except Failure α) : Stays R (ofExcept x) := by
  intro s
  rw [on_ofExcept]
  exact refl_of R s

theorem Stays.bind {m : Run σ α} {k : α → Run σ β} (hm : Stays R m) (hk : ∀ a, Stays R (k a)) :
    Stays R (m >>= k) := by
  intro s
  rw [on_bind]
  have hs := hm s
  rcases h : m.on s with ⟨f | a, s'⟩
  all_goals rw [h] at hs
  · exact hs
  · exact trans_of R hs (hk a s')

end Run

end AppCatalog
