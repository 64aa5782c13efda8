import AppCatalog.Proofs.Run

/-!
# Two runs side by side

`MatchesFrom R m n s t` says that two operations give the same from two states and leave states related
by `R`, and `Matches R m n` that they do so from all related states. This goes from the steps of two
operations to the whole of them: after a step that gave both the same value both go on with it, and a
step that fails stops both.
-/

namespace AppCatalog

namespace Run

variable {σ τ α β : Type} {R : σ → σ → Prop} {s t : σ} {m n : Run σ α} {k l : α → Run σ β}

def MatchesFrom (R : σ → σ → Prop) (m n : Run σ α) (s t : σ) : Prop :=
  (n.on t).1 = (m.on s).1 ∧ R (m.on s).2 (n.on t).2

def Matches (R : σ → σ → Prop) (m n : Run σ α) : Prop := ∀ s t, R s t → MatchesFrom R m n s t

/-- An operation that matches itself. -/
abbrev Respects (R : σ → σ → Prop) (m : Run σ α) : Prop := Matches R m m

theorem MatchesFrom.bind (h : MatchesFrom R m n s t) (hk : ∀ a, Matches R (k a) (l a)) :
    MatchesFrom R (m >>= k) (n >>= l) s t := by
  obtain ⟨hvalue, hrest⟩ := h
  rw [MatchesFrom, on_bind, on_bind]
  rcases hm : m.on s with ⟨result, s'⟩
  rcases hn : n.on t with ⟨result', t'⟩
  rw [hm, hn] at hvalue hrest
  change result' = result at hvalue
  subst hvalue
  rcases result' with f | a
  · exact ⟨rfl, hrest⟩
  · exact hk a s' t' hrest

theorem Matches.bind (h : Matches R m n) (hk : ∀ a, Matches R (k a) (l a)) :
    Matches R (m >>= k) (n >>= l) := fun s t hs => (h s t hs).bind hk

theorem Matches.pure (a : α) : Matches R (pure a) (pure a) := fun _ _ h => ⟨rfl, h⟩

theorem Matches.throw (f : Failure) : Matches R (throw f : Run σ α) (throw f) :=
  fun _ _ h => ⟨rfl, h⟩

theorem Matches.ofExcept (x : Except Failure α) : Matches R (ofExcept x) (ofExcept x) := by
  intro s t h
  rw [MatchesFrom, on_ofExcept, on_ofExcept]
  exact ⟨rfl, h⟩

theorem Matches.modify {g g' : σ → σ} (h : ∀ s t, R s t → R (g s) (g' t)) :
    Matches R (modify g : Run σ PUnit) (modify g') :=
  fun s t hs => ⟨rfl, h s t hs⟩

/-- Operations on parts match if the parts do and can be put back. -/
theorem MatchesFrom.within {S : τ → τ → Prop} {get : τ → σ} {set : σ → τ → τ} {x y : τ}
    (h : MatchesFrom R m n (get x) (get y))
    (hset : ∀ p q, R p q → S (set p x) (set q y)) :
    MatchesFrom S (m.within get set) (n.within get set) x y :=
  ⟨h.1, hset _ _ h.2⟩

theorem Matches.within {S : τ → τ → Prop} {get : τ → σ} {set : σ → τ → τ} (h : Matches R m n)
    (hget : ∀ x y, S x y → R (get x) (get y))
    (hset : ∀ x y p q, S x y → R p q → S (set p x) (set q y)) :
    Matches S (m.within get set) (n.within get set) :=
  fun x y hs => (h _ _ (hget x y hs)).within fun p q => hset x y p q hs

end Run

end AppCatalog
