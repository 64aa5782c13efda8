/-!
# Ordered maps

A map with the order in which its keys were first inserted, as a list of pairs. Inserting under a
key that is there keeps its place and replaces its value; erasing and inserting again moves it to
the end. The main statements are `get?_insert` and `get?_erase`, which say what each operation does
to lookup, and `keys_insert`, which says what it does to the order.
-/

namespace AppCatalog

/-- An ordered map. -/
abbrev Assoc (κ α : Type) := List (κ × α)

namespace Assoc

variable {κ α : Type} [DecidableEq κ]

def get? (k : κ) : Assoc κ α → Option α
  | [] => none
  | (k', a) :: m => if k' = k then some a else get? k m

/-- The map with a value under a key, in the key's old place or at the end. -/
def insert (k : κ) (a : α) : Assoc κ α → Assoc κ α
  | [] => [(k, a)]
  | (k', a') :: m => if k' = k then (k', a) :: m else (k', a') :: insert k a m

def erase (k : κ) : Assoc κ α → Assoc κ α
  | [] => []
  | (k', a') :: m => if k' = k then m else (k', a') :: erase k m

def contains (k : κ) (m : Assoc κ α) : Bool := (get? k m).isSome

def keys (m : Assoc κ α) : List κ := m.map Prod.fst

/-- The map that a run of pairs builds: a repeated key keeps its first place and its last value. -/
def ofPairs (ps : List (κ × α)) : Assoc κ α := ps.foldl (fun m p => insert p.1 p.2 m) []

/-- A map updated with the pairs of another, in order. -/
def update (m : Assoc κ α) (ps : List (κ × α)) : Assoc κ α :=
  ps.foldl (fun m p => insert p.1 p.2 m) m

omit [DecidableEq κ] in
@[simp] theorem keys_nil : keys ([] : Assoc κ α) = [] := rfl

omit [DecidableEq κ] in
@[simp] theorem keys_cons (p : κ × α) (m : Assoc κ α) : keys (p :: m) = p.1 :: keys m := rfl

@[simp] theorem get?_nil (k : κ) : get? k ([] : Assoc κ α) = none := rfl

theorem get?_insert (k k' : κ) (a : α) (m : Assoc κ α) :
    get? k' (insert k a m) = if k = k' then some a else get? k' m := by
  induction m with
  | nil => simp [insert, get?]
  | cons p m ih =>
    obtain ⟨j, b⟩ := p
    by_cases hj : j = k
    · subst hj
      by_cases hk : j = k' <;> simp [insert, get?, hk]
    · by_cases hk : j = k'
      · subst hk
        simp [insert, get?, hj, Ne.symm hj]
      · simp [insert, get?, hj, hk, ih]

@[simp] theorem get?_insert_self (k : κ) (a : α) (m : Assoc κ α) :
    get? k (insert k a m) = some a := by
  simp [get?_insert]

theorem get?_eq_none_iff {k : κ} {m : Assoc κ α} : get? k m = none ↔ k ∉ keys m := by
  induction m with
  | nil => simp
  | cons p m ih =>
    obtain ⟨j, b⟩ := p
    by_cases h : j = k
    · simp [get?, h]
    · simp [get?, h, ih, Ne.symm h]

theorem keys_insert (k : κ) (a : α) (m : Assoc κ α) :
    keys (insert k a m) = if k ∈ keys m then keys m else keys m ++ [k] := by
  induction m with
  | nil => simp [insert]
  | cons p m ih =>
    obtain ⟨j, b⟩ := p
    by_cases h : j = k
    · simp [insert, h]
    · by_cases hm : k ∈ keys m <;> simp [insert, h, ih, hm, Ne.symm h]

theorem keys_erase (k : κ) (m : Assoc κ α) : keys (erase k m) = (keys m).erase k := by
  induction m with
  | nil => rfl
  | cons p m ih =>
    obtain ⟨j, b⟩ := p
    by_cases h : j = k
    · simp [erase, h]
    · simp [erase, h, ih]

/-- Keys stay distinct when a value is inserted. -/
theorem nodup_keys_insert {k : κ} {a : α} {m : Assoc κ α} (h : (keys m).Nodup) :
    (keys (insert k a m)).Nodup := by
  rw [keys_insert]
  split
  · exact h
  · next hk =>
    rw [List.nodup_append]
    refine ⟨h, by simp, ?_⟩
    intro x hx y hy
    rw [List.mem_singleton] at hy
    subst hy
    exact fun hxy => hk (hxy ▸ hx)

/-- Keys stay distinct when one is erased. -/
theorem nodup_keys_erase {k : κ} {m : Assoc κ α} (h : (keys m).Nodup) :
    (keys (erase k m)).Nodup := by
  rw [keys_erase]
  exact h.erase k

/-- Erasing takes a key away and leaves the others. -/
theorem get?_erase {k k' : κ} {m : Assoc κ α} (h : (keys m).Nodup) :
    get? k' (erase k m) = if k = k' then none else get? k' m := by
  induction m with
  | nil => simp [erase]
  | cons p m ih =>
    obtain ⟨j, b⟩ := p
    simp only [keys_cons, List.nodup_cons] at h
    by_cases hj : j = k
    · subst hj
      by_cases hk : j = k'
      · subst hk
        simp [erase, get?_eq_none_iff.2 h.1]
      · simp [erase, get?, hk]
    · by_cases hk : j = k'
      · subst hk
        simp [erase, get?, hj, Ne.symm hj]
      · simp [erase, get?, hj, hk, ih h.2]

end Assoc

end AppCatalog
