import AppCatalog.Assoc
import Mathlib.Data.List.Induction
import Mathlib.Data.List.Nodup

/-!
# Ordered maps as lists of pairs

An ordered map with distinct keys is the list of its pairs: membership is lookup, and a run of pairs
with distinct keys builds the map that it already is. Two runs one behind the other build the map of
the first, updated with that of the second (`ofPairs_append`). The lemmas on `mapEntries` say that
lookup, insertion and erasure can be done before or after the keys are replaced by others, as long as
no two keys are replaced by the same.
-/

namespace AppCatalog

namespace Assoc

variable {κ κ' α β : Type} [DecidableEq κ] [DecidableEq κ']

theorem mem_iff_get? {m : Assoc κ α} (h : (keys m).Nodup) (k : κ) (a : α) :
    (k, a) ∈ m ↔ get? k m = some a := by
  induction m with
  | nil => simp
  | cons p m ih =>
      obtain ⟨j, b⟩ := p
      rw [keys_cons, List.nodup_cons] at h
      rw [List.mem_cons, get?]
      by_cases hj : j = k
      · subst hj
        have hm : (j, a) ∉ m := fun hm => h.1 (List.mem_map.2 ⟨(j, a), hm, rfl⟩)
        rw [if_pos rfl, Option.some.injEq, Prod.mk.injEq]
        exact ⟨fun hp => (hp.resolve_right hm).2.symm, fun hb => Or.inl ⟨rfl, hb.symm⟩⟩
      · rw [if_neg hj, ← ih h.2, Prod.mk.injEq]
        exact ⟨fun hp => hp.resolve_left fun he => hj he.1.symm, Or.inr⟩

theorem mem_of_get? {k : κ} {m : Assoc κ α} {a : α} (h : get? k m = some a) : (k, a) ∈ m := by
  induction m with
  | nil => cases h
  | cons p m ih =>
      rw [get?] at h
      split at h
      · next he =>
          cases h
          rw [← he]
          exact List.mem_cons_self
      · exact List.mem_cons_of_mem p (ih h)

/-- What a filter keeps is found as before. -/
theorem get?_filter {k : κ} {m : Assoc κ α} {a : α} {p : κ × α → Bool} (h : get? k m = some a)
    (hp : p (k, a) = true) : get? k (m.filter p) = some a := by
  induction m with
  | nil => cases h
  | cons e m ih =>
      rw [get?] at h
      split at h
      · next he =>
          cases h
          subst he
          rw [List.filter_cons, if_pos hp, get?, if_pos rfl]
      · next he =>
          rw [List.filter_cons]
          split
          · rw [get?, if_neg he, ih h]
          · exact ih h

theorem insert_of_notMem {k : κ} {m : Assoc κ α} (h : k ∉ keys m) (a : α) :
    insert k a m = m ++ [(k, a)] := by
  induction m with
  | nil => rfl
  | cons p m ih =>
      rw [keys_cons, List.mem_cons, not_or] at h
      rw [insert, if_neg (Ne.symm h.1), ih h.2, List.cons_append]

theorem contains_eq_true_iff {k : κ} {m : Assoc κ α} : contains k m = true ↔ k ∈ keys m := by
  rw [contains, Option.isSome_iff_ne_none, Ne, get?_eq_none_iff, not_not]

theorem erase_of_notMem {k : κ} {m : Assoc κ α} (h : k ∉ keys m) : erase k m = m := by
  induction m with
  | nil => rfl
  | cons p m ih =>
      rw [keys_cons, List.mem_cons, not_or] at h
      rw [erase, if_neg (Ne.symm h.1), ih h.2]

/-- Erasing a key leaves the others, also where keys repeat. -/
theorem get?_erase_of_ne {k k' : κ} (h : k ≠ k') (m : Assoc κ α) :
    get? k' (erase k m) = get? k' m := by
  induction m with
  | nil => rfl
  | cons p m ih =>
      obtain ⟨j, b⟩ := p
      rw [erase]
      split
      · next hj => rw [get?, if_neg (hj ▸ h)]
      · rw [get?, get?, ih]

theorem erase_insert_self (k : κ) (a : α) (m : Assoc κ α) :
    erase k (insert k a m) = erase k m := by
  induction m with
  | nil => exact if_pos rfl
  | cons p m ih =>
      obtain ⟨j, b⟩ := p
      rw [insert]
      split
      · next hj => rw [erase, erase, if_pos hj, if_pos hj]
      · next hj => rw [erase, erase, if_neg hj, if_neg hj, ih]

/-- What has been inserted under a new key is taken away again. -/
theorem erase_insert_of_notMem {k : κ} {m : Assoc κ α} (h : k ∉ keys m) (a : α) :
    erase k (insert k a m) = m := by
  rw [erase_insert_self, erase_of_notMem h]

/-- A key that stands in a map, and no second time. -/
def HasOnce (k : κ) (m : Assoc κ α) : Prop := (keys m).count k = 1

theorem hasOnce_insert_of_notMem {k : κ} {m : Assoc κ α} (h : k ∉ keys m) (a : α) :
    HasOnce k (insert k a m) := by
  rw [HasOnce, keys_insert, if_neg h, List.count_append, List.count_eq_zero.2 h,
    List.count_singleton_self]

theorem HasOnce.insert {k : κ} {m : Assoc κ α} (h : HasOnce k m) (j : κ) (a : α) :
    HasOnce k (insert j a m) := by
  rw [HasOnce] at h ⊢
  rw [keys_insert]
  split
  · exact h
  · next hj =>
      have hne : j ≠ k := by
        rintro rfl
        rw [List.count_eq_zero.2 hj] at h
        cases h
      rw [List.count_append, h, List.count_singleton, beq_eq_false_iff_ne.2 hne]
      rfl

theorem HasOnce.erase {k j : κ} {m : Assoc κ α} (h : HasOnce k m) (hj : j ≠ k) :
    HasOnce k (erase j m) := by
  rw [HasOnce, keys_erase, List.count_erase_of_ne hj.symm]
  exact h

/-- A key that stands once is gone when it is erased. -/
theorem HasOnce.get?_erase_self {k : κ} {m : Assoc κ α} (h : HasOnce k m) :
    get? k (Assoc.erase k m) = none := by
  rw [get?_eq_none_iff, keys_erase, ← List.count_eq_zero, List.count_erase_self, h]

theorem update_cons (m : Assoc κ α) (p : κ × α) (ps : List (κ × α)) :
    update m (p :: ps) = update (insert p.1 p.2 m) ps := rfl

theorem update_eq_append {m ps : Assoc κ α} (h : (keys (m ++ ps)).Nodup) :
    update m ps = m ++ ps := by
  induction ps generalizing m with
  | nil => rw [List.append_nil]; rfl
  | cons p ps ih =>
      have hk : p.1 ∉ keys m := by
        intro hm
        rw [keys, List.map_append, List.map_cons] at h
        exact (List.nodup_append.1 h).2.2 p.1 hm p.1 List.mem_cons_self rfl
      have hi : insert p.1 p.2 m = m ++ [p] := insert_of_notMem hk p.2
      rw [List.append_cons] at h ⊢
      rw [update_cons, hi, ih h]

/-- Pairs with distinct keys build the map that they are. -/
theorem ofPairs_eq_self {m : Assoc κ α} (h : (keys m).Nodup) : ofPairs m = m :=
  update_eq_append (m := []) h

theorem nodup_keys_update {m : Assoc κ α} (h : (keys m).Nodup) (ps : List (κ × α)) :
    (keys (update m ps)).Nodup := by
  induction ps generalizing m with
  | nil => exact h
  | cons p ps ih => exact ih (nodup_keys_insert h)

/-- However a map is built, its keys are distinct. -/
theorem nodup_keys_ofPairs (ps : List (κ × α)) : (keys (ofPairs ps)).Nodup :=
  nodup_keys_update (m := []) List.nodup_nil ps

theorem mem_keys_insert {k j : κ} {a : α} {m : Assoc κ α} :
    j ∈ keys (insert k a m) ↔ j ∈ keys m ∨ j = k := by
  rw [keys_insert]
  split
  · next hk =>
      constructor
      · exact Or.inl
      · rintro (h | rfl)
        · exact h
        · exact hk
  · rw [List.mem_append, List.mem_singleton]

theorem mem_keys_erase {k j : κ} {m : Assoc κ α} (h : (keys m).Nodup) :
    j ∈ keys (erase k m) ↔ j ≠ k ∧ j ∈ keys m := by
  rw [keys_erase, h.mem_erase_iff]

theorem mem_keys_update {k : κ} {m : Assoc κ α} {ps : List (κ × α)} :
    k ∈ keys (update m ps) ↔ k ∈ keys m ∨ k ∈ keys ps := by
  induction ps generalizing m with
  | nil => exact (or_iff_left List.not_mem_nil).symm
  | cons p ps ih =>
      rw [update_cons, ih, mem_keys_insert, keys_cons, List.mem_cons, or_assoc]

theorem mem_of_mem_insert {k : κ} {a : α} {m : Assoc κ α} {e : κ × α} (h : e ∈ insert k a m) :
    e = (k, a) ∨ e ∈ m := by
  induction m with
  | nil => exact Or.inl (List.mem_singleton.1 h)
  | cons p m ih =>
      rw [insert] at h
      split at h
      · next hk =>
          subst hk
          exact (List.mem_cons.1 h).imp_right (List.mem_cons_of_mem p)
      · rcases List.mem_cons.1 h with rfl | h
        · exact Or.inr List.mem_cons_self
        · exact (ih h).imp_right (List.mem_cons_of_mem p)

/-- However a map is built, every entry was given. -/
theorem mem_of_mem_ofPairs {ps : List (κ × α)} {e : κ × α} (h : e ∈ ofPairs ps) : e ∈ ps := by
  have hup : ∀ (ps : List (κ × α)) (m : Assoc κ α), e ∈ update m ps → e ∈ m ∨ e ∈ ps := by
    intro ps
    induction ps with
    | nil =>
        intro m h
        exact Or.inl h
    | cons p ps ih =>
        intro m h
        rcases ih (insert p.1 p.2 m) h with h | h
        · rcases mem_of_mem_insert h with rfl | h
          · exact Or.inr List.mem_cons_self
          · exact Or.inl h
        · exact Or.inr (List.mem_cons_of_mem p h)
  exact (hup ps [] h).resolve_left List.not_mem_nil

theorem erase_sublist (k : κ) (m : Assoc κ α) : (erase k m).Sublist m := by
  induction m with
  | nil => exact .slnil
  | cons p m ih =>
      rw [erase]
      split
      · exact List.sublist_cons_self p m
      · exact ih.cons_cons p

theorem ofPairs_concat (ps : List (κ × α)) (p : κ × α) :
    ofPairs (ps ++ [p]) = insert p.1 p.2 (ofPairs ps) := by
  rw [ofPairs, List.foldl_append]
  rfl

theorem update_concat (m : Assoc κ α) (ps : List (κ × α)) (p : κ × α) :
    update m (ps ++ [p]) = insert p.1 p.2 (update m ps) := by
  rw [update, List.foldl_append]
  rfl

/-- The last of two values under a key counts. -/
theorem insert_insert_self (k : κ) (a b : α) (m : Assoc κ α) :
    insert k a (insert k b m) = insert k a m := by
  induction m with
  | nil => exact if_pos rfl
  | cons p m ih =>
      obtain ⟨j, c⟩ := p
      rw [insert, insert]
      split
      · next hj => exact if_pos hj
      · next hj => rw [insert, if_neg hj, ih]

/-- A key that has its place keeps it, whatever is inserted under another. -/
theorem insert_comm_of_mem {k j : κ} {m : Assoc κ α} (h : k ∈ keys m) (hj : j ≠ k) (a b : α) :
    insert k a (insert j b m) = insert j b (insert k a m) := by
  induction m with
  | nil => exact absurd h List.not_mem_nil
  | cons p m ih =>
      obtain ⟨i, c⟩ := p
      rw [keys_cons, List.mem_cons] at h
      by_cases hi : i = k
      · subst hi
        rw [insert, if_neg (Ne.symm hj), insert, if_pos rfl, insert, if_pos rfl, insert,
          if_neg (Ne.symm hj)]
      · have hm := h.resolve_left fun he => hi he.symm
        by_cases he : i = j
        · subst he
          rw [insert, if_pos rfl, insert, if_neg hi, insert, if_neg hi, insert, if_pos rfl]
        · rw [insert, if_neg he, insert, if_neg hi, insert, if_neg hi, insert, if_neg he, ih hm]

theorem insert_update_of_notMem {k : κ} {m : Assoc κ α} (h : k ∈ keys m) {ps : Assoc κ α}
    (hp : k ∉ keys ps) (a : α) : insert k a (update m ps) = update (insert k a m) ps := by
  induction ps generalizing m with
  | nil => rfl
  | cons p ps ih =>
      rw [keys_cons, List.mem_cons, not_or] at hp
      rw [update_cons, update_cons, ih (mem_keys_insert.2 (Or.inl h)) hp.2,
        insert_comm_of_mem h (Ne.symm hp.1)]

/-- Updating with a map into which a value has been inserted inserts the value last. -/
theorem update_insert {n : Assoc κ α} (hn : (keys n).Nodup) (m : Assoc κ α) (k : κ) (a : α) :
    update m (insert k a n) = insert k a (update m n) := by
  induction n generalizing m with
  | nil => rfl
  | cons p n ih =>
      obtain ⟨j, b⟩ := p
      rw [keys_cons, List.nodup_cons] at hn
      rw [insert]
      split
      · next hj =>
          subst hj
          rw [update_cons, update_cons,
            insert_update_of_notMem (mem_keys_insert.2 (Or.inr rfl)) hn.1, insert_insert_self]
      · rw [update_cons, update_cons, ih hn.2]

theorem get?_update {ps : Assoc κ α} (h : (keys ps).Nodup) (m : Assoc κ α) (k : κ) :
    get? k (update m ps) = (get? k ps).or (get? k m) := by
  induction ps generalizing m with
  | nil => rfl
  | cons p ps ih =>
      obtain ⟨j, b⟩ := p
      rw [keys_cons, List.nodup_cons] at h
      rw [update_cons, ih h.2, get?_insert, get?]
      split
      · next hj => rw [get?_eq_none_iff.2 (hj ▸ h.1), Option.none_or, Option.some_or]
      · rfl

theorem keys_update {ps : Assoc κ α} (h : (keys ps).Nodup) (m : Assoc κ α) :
    keys (update m ps) = keys m ++ (keys ps).filter fun k => !contains k m := by
  induction ps generalizing m with
  | nil => exact (List.append_nil _).symm
  | cons p ps ih =>
      rw [keys_cons, List.nodup_cons] at h
      have hfilter : ((keys ps).filter fun k => !contains k (insert p.1 p.2 m)) =
          (keys ps).filter fun k => !contains k m := by
        refine List.filter_congr fun k hk => ?_
        have hne : p.1 ≠ k := fun he => h.1 (he ▸ hk)
        rw [contains, contains, get?_insert, if_neg hne]
      rw [update_cons, ih h.2, hfilter, keys_cons, List.filter_cons, keys_insert]
      by_cases hm : p.1 ∈ keys m
      · rw [if_pos hm, contains_eq_true_iff.2 hm, if_neg (by decide)]
      · have hc : contains p.1 m = false := by
          rw [← Bool.not_eq_true, contains_eq_true_iff]
          exact hm
        rw [if_neg hm, hc, if_pos (by decide), List.append_assoc, List.singleton_append]

/-- Updating with a run of pairs is updating with the map that they build. -/
theorem update_ofPairs (m : Assoc κ α) (ps : List (κ × α)) :
    update m (ofPairs ps) = update m ps := by
  induction ps using List.reverseRecOn with
  | nil => rfl
  | append_singleton ps p ih =>
      rw [ofPairs_concat, update_insert (nodup_keys_ofPairs ps), ih, update_concat]

/-- Two runs of pairs build the map of the first, updated with the map of the second. -/
theorem ofPairs_append (ps qs : List (κ × α)) :
    ofPairs (ps ++ qs) = update (ofPairs ps) (ofPairs qs) := by
  rw [update_ofPairs, ofPairs, List.foldl_append]
  rfl

/-- A repeated key keeps its first place. -/
theorem keys_ofPairs [BEq κ] [LawfulBEq κ] (ps : List (κ × α)) :
    keys (ofPairs ps) = (ps.map Prod.fst).eraseDups := by
  induction ps using List.reverseRecOn with
  | nil => rfl
  | append_singleton ps p ih =>
      have hmem : p.1 ∈ keys (ofPairs ps) ↔ p.1 ∈ ps.map Prod.fst := by
        rw [ih, List.mem_eraseDups]
      rw [ofPairs_concat, keys_insert, List.map_append, List.eraseDups_append, ← ih]
      by_cases h : p.1 ∈ ps.map Prod.fst
      · rw [if_pos (hmem.2 h)]
        simp [List.removeAll, h]
      · rw [if_neg (mt hmem.1 h)]
        simp [List.removeAll, h, List.eraseDups_cons]

/-- A repeated key has its last value. -/
theorem get?_ofPairs (k : κ) (ps : List (κ × α)) :
    get? k (ofPairs ps) = (ps.filter (·.1 = k)).getLast?.map Prod.snd := by
  induction ps using List.reverseRecOn with
  | nil => rfl
  | append_singleton ps p ih =>
      rw [ofPairs_concat, get?_insert, List.filter_append, ih]
      by_cases h : p.1 = k
      · rw [if_pos h, List.filter_cons_of_pos (by simpa using h), List.filter_nil,
          List.getLast?_concat]
        rfl
      · rw [if_neg h, List.filter_cons_of_neg (by simpa using h), List.filter_nil,
          List.append_nil]

/-- The map with every key and value replaced by others. -/
def mapEntries (f : κ → κ') (g : κ → α → β) (m : Assoc κ α) : Assoc κ' β :=
  m.map fun p => (f p.1, g p.1 p.2)

section MapEntries

variable {f : κ → κ'} (hf : Function.Injective f) (g : κ → α → β)
include hf

theorem get?_mapEntries (k : κ) (m : Assoc κ α) :
    get? (f k) (mapEntries f g m) = (get? k m).map (g k) := by
  induction m with
  | nil => rfl
  | cons p m ih =>
      obtain ⟨j, b⟩ := p
      rw [mapEntries, List.map_cons, get?, get?]
      by_cases hj : j = k
      · subst hj
        rw [if_pos rfl, if_pos rfl, Option.map_some]
      · rw [if_neg fun h => hj (hf h), if_neg hj, ← ih, mapEntries]

theorem insert_mapEntries (k : κ) (a : α) (m : Assoc κ α) :
    insert (f k) (g k a) (mapEntries f g m) = mapEntries f g (insert k a m) := by
  induction m with
  | nil => rfl
  | cons p m ih =>
      obtain ⟨j, b⟩ := p
      rw [mapEntries, List.map_cons, insert, insert]
      by_cases hj : j = k
      · subst hj
        rw [if_pos rfl, if_pos rfl]
        rfl
      · rw [if_neg fun h => hj (hf h), if_neg hj]
        exact congrArg _ ih

theorem erase_mapEntries (k : κ) (m : Assoc κ α) :
    erase (f k) (mapEntries f g m) = mapEntries f g (erase k m) := by
  induction m with
  | nil => rfl
  | cons p m ih =>
      obtain ⟨j, b⟩ := p
      rw [mapEntries, List.map_cons, erase, erase]
      by_cases hj : j = k
      · subst hj
        rw [if_pos rfl, if_pos rfl]
        rfl
      · rw [if_neg fun h => hj (hf h), if_neg hj]
        exact congrArg _ ih

omit [DecidableEq κ] [DecidableEq κ'] in
theorem nodup_keys_mapEntries {m : Assoc κ α} (h : (keys m).Nodup) :
    (keys (mapEntries f g m)).Nodup := by
  have hk : keys (mapEntries f g m) = (keys m).map f := by
    rw [keys, keys, mapEntries, List.map_map, List.map_map]
    rfl
  rw [hk]
  exact h.map hf

end MapEntries

end Assoc

end AppCatalog
