import AppCatalog.World

/-!
# What a run gives

An operation is run by `Run.on`, which gives its outcome and the state it leaves. The lemmas here say
what `on` makes of each way to build an operation, so that a longer one is run step by step:
`on_bind` runs the first part and hands a value on, or stops at a failure and keeps the state that
the failure left.
-/

namespace AppCatalog

namespace Run

variable {σ τ α β : Type}

@[simp] theorem on_pure (a : α) (s : σ) : (pure a : Run σ α).on s = (.ok a, s) := rfl

theorem on_bind (m : Run σ α) (k : α → Run σ β) (s : σ) :
    (m >>= k).on s = match m.on s with
      | (.ok a, s') => (k a).on s'
      | (.error f, s') => (.error f, s') := by
  change (ExceptT.run (m >>= k)).run s = _
  rw [ExceptT.run_bind, StateT.run_bind]
  cases h : m.on s with
  | mk result s' =>
      have h' : StateT.run (ExceptT.run m) s = (result, s') := h
      rw [h']
      cases result <;> rfl

theorem on_bind_ok {m : Run σ α} {k : α → Run σ β} {s s' : σ} {a : α}
    (h : m.on s = (.ok a, s')) : (m >>= k).on s = (k a).on s' := by
  rw [on_bind, h]

theorem on_bind_error {m : Run σ α} {k : α → Run σ β} {s s' : σ} {f : Failure}
    (h : m.on s = (.error f, s')) : (m >>= k).on s = (.error f, s') := by
  rw [on_bind, h]

/-- What goes on without a failure and leaves the state alone only changes the value. -/
theorem on_bind_of_ok {m : Run σ α} {k : α → Run σ β} {g : α → β}
    (h : ∀ a s, (k a).on s = (.ok (g a), s)) (s : σ) :
    (m >>= k).on s = ((m.on s).1.map g, (m.on s).2) := by
  rw [on_bind]
  rcases m.on s with ⟨result, s'⟩
  cases result with
  | error f => rfl
  | ok a => exact h a s'

theorem on_map (g : α → β) (m : Run σ α) (s : σ) :
    (g <$> m).on s = ((m.on s).1.map g, (m.on s).2) := by
  change (ExceptT.run (g <$> m)).run s = _
  rw [ExceptT.run_map, StateT.run_map]
  rfl

@[simp] theorem on_get (s : σ) : (get : Run σ σ).on s = (.ok s, s) := rfl

@[simp] theorem on_set (s s' : σ) : (set s' : Run σ PUnit).on s = (.ok ⟨⟩, s') := rfl

@[simp] theorem on_modify (g : σ → σ) (s : σ) :
    (modify g : Run σ PUnit).on s = (.ok ⟨⟩, g s) := rfl

@[simp] theorem on_ofExcept (x : Except Failure α) (s : σ) : (ofExcept x).on s = (x, s) := by
  cases x <;> rfl

@[simp] theorem on_ofDisk (x : Except OsFault α) (s : σ) :
    (ofDisk x : Run σ α).on s = (x.mapError fun f => .breakdown (.os f), s) := by
  cases x <;> rfl

/-- A step on files goes on, or its fault is a breakdown. -/
theorem on_bind_ofDisk (x : Except OsFault α) (k : α → Run σ β) (s : σ) :
    (ofDisk x >>= k).on s = match x with
      | .ok a => (k a).on s
      | .error f => (.error (.breakdown (.os f)), s) := by
  cases x <;> rfl

@[simp] theorem on_outcome (m : Run σ α) (s : σ) :
    m.outcome.on s = (.ok (m.on s).1, (m.on s).2) := rfl

/-- An operation on a part of a state leaves the rest of it to `set`. -/
@[simp] theorem on_within (get : τ → σ) (set : σ → τ → τ) (m : Run σ α) (t : τ) :
    (m.within get set).on t = ((m.on (get t)).1, set (m.on (get t)).2 t) := rfl

end Run

end AppCatalog
