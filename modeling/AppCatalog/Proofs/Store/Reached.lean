import AppCatalog.Proofs.Store.Mirror

/-!
# The stores that clients come to

A client opens a store in an empty folder, makes calls, and opens it again. Between its calls the
world may become anything: files and addresses change, and a write may fail, which a call reports and
memory survives. Whatever happens, such a store holds a map of entries (`Reached.exists_entries`).
-/

namespace AppCatalog

namespace Store

/-- A store that a client can come to. -/
inductive Reached : Store → Prop
  | opened {folder : Path} {before : World} {p : Store × World} (h : OpenedEmpty folder before p) :
    Reached p.1
  | call {s : Store} (h : Reached s) (w : World) (c : Call Resource) :
    Reached (c.perform.on (s, w)).2.1
  /-- The store is opened again where a file holds its index. -/
  | reopened {s s' : Store} {folder : Path} {w w' : World} (h : Reached s)
    (ho : (Store.opened folder).on w = (.ok s', w'))
    (hr : w'.disk.read s'.file = .ok (indexBytes s.index)) : Reached s'

section Calls

variable {file : Path} {es : Entries} {w : World}

/-- What an import does once its resource has been read is an import of registrations, and a line in
the log. -/
theorem importAll_outcome (p : Store × World) (force : Bool) {resource : Resource}
    {rs : List Registration} {w' : World} (h : (asked resource).on p.2 = (.ok rs, w')) :
    let result := (importAll force resource).on p
    let inner := (importRegistrations force rs).on (p.1, w')
    result.1 = inner.1 ∧ result.2.1 = inner.2.1 ∧ result.2.2.disk = inner.2.2.disk := by
  intro result inner
  have hresult : result = _ := importAll_on_asked p h
  rw [hresult]
  rcases hi : (importRegistrations force rs).on (p.1, w') with ⟨f | saved, s, v⟩
  · rw [Run.on_bind_error hi, show inner = _ from hi]
    exact ⟨rfl, rfl, rfl⟩
  · rw [Run.on_bind_ok hi, show inner = _ from hi]
    exact ⟨rfl, rfl, rfl⟩

/-- A call on a store that holds a map of entries leaves one, whether or not it fails. -/
theorem perform_store (hn : (Assoc.keys es).Nodup) (c : Call Resource) :
    ∃ es', (Assoc.keys es').Nodup ∧
      (c.perform.on (ofEntries file es, w)).2.1 = ofEntries file es' := by
  have hquestion : ∀ {α : Type} (answer : α → Answer) (question : Store → Except Failure α),
      ((answer <$> ask question).on (ofEntries file es, w)).2.1 = ofEntries file es := by
    intro α answer question
    rw [Run.on_map, ask_on]
  cases c with
  | save r overwrite =>
      rw [Call.perform, Run.on_map]
      refine ⟨_, ?_, save_on_store file es w r overwrite⟩
      split
      · exact hn
      · exact Assoc.nodup_keys_insert hn
  | delete type name =>
      rw [Call.perform, Run.on_map]
      exact ⟨_, Assoc.nodup_keys_erase hn, delete_on_store file es w type name⟩
  | importAll force resource =>
      rw [Call.perform, Run.on_map]
      rcases ha : (asked resource).on w with ⟨f | rs, v⟩
      · rw [importAll_on_refused (ofEntries file es, w) ha]
        exact ⟨es, hn, rfl⟩
      · refine ⟨(es.putAll force rs).2, Entries.nodup_keys_putAll hn force rs, ?_⟩
        rw [(importAll_outcome (ofEntries file es, w) force ha).2.1]
        exact importRegistrations_on_store file es v force rs
  | find type name => exact ⟨es, hn, hquestion _ _⟩
  | all => exact ⟨es, hn, hquestion _ _⟩
  | page request => exact ⟨es, hn, hquestion _ _⟩
  | count => exact ⟨es, hn, hquestion _ _⟩

end Calls

/-- A store that a client has come to holds a map of entries. -/
theorem Reached.exists_entries {s : Store} (h : s.Reached) :
    ∃ es, (Assoc.keys es).Nodup ∧ s = ofEntries s.file es := by
  induction h with
  | opened h => exact ⟨[], List.nodup_nil, congrArg Prod.fst h.eq_ofEntries⟩
  | call _ w c ih =>
      obtain ⟨es, hn, hs⟩ := ih
      obtain ⟨es', hn', hs'⟩ := perform_store (w := w) hn c
      rw [← hs] at hs'
      exact ⟨es', hn', by rw [hs']; rfl⟩
  | @reopened s s' folder w w' _ ho hr ih =>
      obtain ⟨es, hn, hs⟩ := ih
      rw [hs] at hr
      exact ⟨es, hn, eq_ofEntries_of_opened ho hn hr⟩

end Store

end AppCatalog
