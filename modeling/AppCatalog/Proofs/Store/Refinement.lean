import AppCatalog.Proofs.FileTree
import AppCatalog.Proofs.Store.FiniteMap

/-!
# Stores refine finite maps

A call does to the entries of a store what it does to a finite map, unless the disk does not take the
index that the call has to write (`perform_cases`). By induction over the calls, a store that has been
opened in an empty folder answers a whole run as the map does (`runCalls_refines`).
-/

namespace AppCatalog

open AppCatalog.Registration

namespace Store

/-- What a call leaves of the entries and of the disk: both as they were, or other entries that the
disk has taken. -/
inductive Leaves (file : Path) (es : Entries) (t : FileTree) : Entries → FileTree → Prop
  | same : Leaves file es t es t
  | written {es' : Entries} {t' : FileTree}
      (h : t.write file (indexBytes (.ofEntries es')) = (.ok (), t')) : Leaves file es t es' t'

/-- The result of a call is the one of the map. -/
def Refines (file : Path) (es : Entries) (w : World) (m : RegistrationMap) (c : Call Asked)
    (result : Except Failure Answer × (Store × World)) : Prop :=
  ∃ es' w', result = (m.answer c, (ofEntries file es', w')) ∧ es'.Represents (m.after c) ∧
    Leaves file es w.disk es' w'.disk

/-- The result of a call is that an index could not be written. -/
def WriteFails (file : Path) (w : World)
    (result : Except Failure Answer × (Store × World)) : Prop :=
  ∃ es' f, (w.disk.write file (indexBytes (.ofEntries es'))).1 = .error f ∧
    result.1 = .error (.breakdown (.os f))

/-- A store that answers every question as a map does. -/
structure AnswersAs (s : Store) (m : RegistrationMap) : Prop where
  find : ∀ type name, s.find type name = .ok (m.registration? (type, name))
  all : s.all = .ok m.listing
  page : ∀ request, s.page request =
    .ok ⟨(m.listing.drop (request.page * request.size)).take request.size, request, m.keys.card⟩
  count : s.count = .ok m.keys.card

theorem answersAs_ofEntries (file : Path) {es : Entries} {m : RegistrationMap}
    (h : es.Represents m) : (ofEntries file es).AnswersAs m where
  find type name := by
    rw [h.registration?]
    exact Index.find_ofEntries es (type, name)
  all := by
    rw [← h.sort_registrations]
    exact Index.all_ofEntries es
  page request := by
    have hn : es.length = (sort es.registrations).length := by
      rw [(perm_sort _).length_eq, Entries.registrations, List.length_map]
    rw [← h.sort_registrations, ← h.length_eq_card, hn, page, all, ofEntries, Index.all_ofEntries]
    rfl
  count := by
    rw [← h.length_eq_card]
    exact Index.count_ofEntries es

section Step

variable {file : Path} {es : Entries} {w : World} {m : RegistrationMap}

theorem refines_question (h : es.Represents m) {α : Type} {answer : α → Answer}
    {question : Store → Except Failure α} {a : α} {c : Call Asked}
    (hq : question (ofEntries file es) = .ok a) (ha : m.answer c = .ok (answer a))
    (hm : m.after c = m) :
    Refines file es w m c ((answer <$> ask question).on (ofEntries file es, w)) := by
  refine ⟨es, w, ?_, ?_, .same⟩
  · rw [Run.on_map, ask_on, hq, ha]
    rfl
  · rw [hm]
    exact h

theorem change_cases {α : Type} {answer : α → Answer} {change : Action α} {a : α}
    {c : Call Asked} {es' : Entries}
    (hc : change.on (ofEntries file es, w) =
      ((written file es' w).1.map fun _ => a, (written file es' w).2))
    (ha : m.answer c = .ok (answer a)) (hm : es'.Represents (m.after c)) :
    Refines file es w m c ((answer <$> change).on (ofEntries file es, w)) ∨
      WriteFails file w ((answer <$> change).on (ofEntries file es, w)) := by
  rw [Run.on_map, hc]
  rcases written_cases file es' w with ⟨t, ht, he⟩ | ⟨f, t, ht, he⟩
  · refine Or.inl ⟨es', { w with disk := t }, ?_, hm, .written ht⟩
    rw [he, ha]
    rfl
  · refine Or.inr ⟨es', f, congrArg Prod.fst ht, ?_⟩
    rw [he]
    rfl

theorem save_cases (h : es.Represents m) (r : Registration) (overwrite : Bool) :
    Refines file es w m (.save r overwrite)
        ((Call.save r overwrite).perform.on (ofEntries file es, w)) ∨
      WriteFails file w ((Call.save r overwrite).perform.on (ofEntries file es, w)) := by
  have hprevious := h.registration? r.key
  rcases hr : Assoc.get? r.key es with _ | p
  · have hs := save_on file es w (Or.inr hr : overwrite = true ∨ _)
    rw [hr] at hprevious hs
    refine change_cases hs ?_ ?_
    · rw [RegistrationMap.answer, hprevious]
      rfl
    · rw [RegistrationMap.after, h.lookup, hr, Option.isNone_none, Bool.or_true, if_pos rfl]
      exact h.put r
  · rw [hr] at hprevious
    cases overwrite with
    | true =>
        have hs := save_on file es w (r := r) (Or.inl rfl)
        rw [hr] at hs
        refine change_cases hs ?_ (h.put r)
        rw [RegistrationMap.answer, hprevious]
        rfl
    | false =>
        refine Or.inl ⟨es, w, ?_, ?_, .same⟩
        · rw [Call.perform, Run.on_map, save_on_taken file es w hr, RegistrationMap.answer,
            hprevious]
          rfl
        · rw [RegistrationMap.after, h.lookup, hr]
          exact h

theorem delete_cases (h : es.Represents m) (type : AppType) (name : String) :
    Refines file es w m (.delete type name)
        ((Call.delete type name).perform.on (ofEntries file es, w)) ∨
      WriteFails file w ((Call.delete type name).perform.on (ofEntries file es, w)) := by
  have hfound := h.contains (type, name)
  rcases hc : Assoc.contains (type, name) es
  · have hk : (type, name) ∉ Assoc.keys es := by
      rw [← Assoc.contains_eq_true_iff, hc]
      exact Bool.false_ne_true
    refine Or.inl ⟨es, w, ?_, ?_, .same⟩
    · rw [Call.perform, Run.on_map, delete_on_absent file es w hc, RegistrationMap.answer, ← hfound,
        hc]
      rfl
    · rw [← Assoc.erase_of_notMem hk]
      exact h.erase (type, name)
  · refine change_cases (delete_on file es w hc) ?_ (h.erase (type, name))
    rw [RegistrationMap.answer, ← hfound, hc]

theorem importRegistrations_cases (file : Path) (es : Entries) (w : World) (force : Bool)
    (rs : List Registration) :
    (∃ w', (importRegistrations force rs).on (ofEntries file es, w) =
        (.ok (es.putAll force rs).1, (ofEntries file (es.putAll force rs).2, w')) ∧
        Leaves file es w.disk (es.putAll force rs).2 w'.disk) ∨
      ∃ f p, (w.disk.write file (indexBytes (.ofEntries (es.putAll force rs).2))).1 = .error f ∧
        (importRegistrations force rs).on (ofEntries file es, w) =
          (.error (.breakdown (.os f)), p) := by
  by_cases hs : (es.putAll force rs).1 = []
  · obtain ⟨lines, hl⟩ := importRegistrations_on_nothing file es w hs
    refine Or.inl ⟨{ w with log := w.log ++ lines }, ?_, ?_⟩
    · rw [hl, hs, Entries.putAll_eq_self_of_nil hs]
    · rw [Entries.putAll_eq_self_of_nil hs]
      exact .same
  · obtain ⟨lines, hl⟩ := importRegistrations_on file es w hs
    rw [hl]
    rcases written_cases file (es.putAll force rs).2 { w with log := w.log ++ lines } with
      ⟨t, ht, he⟩ | ⟨f, t, ht, he⟩
    · refine Or.inl ⟨{ w with log := w.log ++ lines, disk := t }, ?_, .written ht⟩
      rw [he]
      rfl
    · rw [he]
      exact Or.inr ⟨f, _, congrArg Prod.fst ht, rfl⟩

theorem importAll_cases (h : es.Represents m) (force : Bool) (resource : Resource) :
    Refines file es w m ((Call.importAll force resource).resolve w)
        ((Call.importAll force resource).perform.on (ofEntries file es, w)) ∨
      WriteFails file w
        ((Call.importAll force resource).perform.on (ofEntries file es, w)) := by
  have hd : ((asked resource).on w).2.disk = w.disk := by
    obtain ⟨urls, hu⟩ := asked_keeps w resource
    rw [hu]
  rw [Call.resolve]
  rcases ha : (asked resource).on w with ⟨f | rs, v⟩
  · rw [ha] at hd
    refine Or.inl ⟨es, v, ?_, h, ?_⟩
    · rw [Call.perform, Run.on_map, importAll_on_refused (ofEntries file es, w) ha]
      rfl
    · rw [hd]
      exact .same
  · rw [ha] at hd
    obtain ⟨hsaved, hafter⟩ := h.putAll force rs
    rw [Call.perform, Run.on_map, importAll_on_asked (ofEntries file es, w) ha]
    rcases importRegistrations_cases file es v force rs with ⟨w', hi, hl⟩ | ⟨f, p, hf, hi⟩
    · rw [hd] at hl
      rw [Run.on_bind_ok hi]
      refine Or.inl ⟨_, { w' with log := w'.log ++ [⟨.info, "Imported " ++
        toString (es.putAll force rs).1.length ++ " registrations from " ++
        resource.description⟩] }, ?_, hafter, hl⟩
      rw [RegistrationMap.answer, Except.map, ← hsaved]
      rfl
    · rw [hd] at hf
      rw [Run.on_bind_error hi]
      exact Or.inr ⟨_, f, hf, rfl⟩

/-- A call does to the entries what it does to the map, unless its write fails. -/
theorem perform_cases (h : es.Represents m) (c : Call Resource) :
    Refines file es w m (c.resolve w) (c.perform.on (ofEntries file es, w)) ∨
      WriteFails file w (c.perform.on (ofEntries file es, w)) := by
  cases c with
  | save r overwrite => exact save_cases h r overwrite
  | delete type name => exact delete_cases h type name
  | importAll force resource => exact importAll_cases h force resource
  | find type name =>
      exact Or.inl (refines_question h ((answersAs_ofEntries file h).find type name) rfl rfl)
  | all => exact Or.inl (refines_question h (answersAs_ofEntries file h).all rfl rfl)
  | page request =>
      exact Or.inl (refines_question h ((answersAs_ofEntries file h).page request) rfl rfl)
  | count => exact Or.inl (refines_question h (answersAs_ofEntries file h).count rfl rfl)

/-- No answer of a map is a fault of the disk. -/
theorem answer_not_osFault {m : RegistrationMap} {c : Call Resource} {w : World} {f : Failure}
    (h : m.answer (c.resolve w) = .error f) : f.isOsFault = false := by
  cases c with
  | save r overwrite =>
      rw [Call.resolve, RegistrationMap.answer] at h
      split at h
      · split at h
        · cases h
        · cases h
          rfl
      · cases h
  | importAll force resource =>
      rw [Call.resolve, RegistrationMap.answer] at h
      rcases ha : ((asked resource).on w).1 with g | rs
      · rw [ha] at h
        cases h
        exact asked_not_osFault ha
      · rw [ha] at h
        cases h
  | _ => cases h

theorem perform_refines (h : es.Represents m) (c : Call Resource)
    (hw : ∀ f, (c.perform.on (ofEntries file es, w)).1 = .error f → f.isOsFault = false) :
    Refines file es w m (c.resolve w) (c.perform.on (ofEntries file es, w)) := by
  rcases perform_cases h c with hr | ⟨es', f, -, hf⟩
  · exact hr
  · cases hw _ hf

end Step

/-! ## Runs -/

theorem writesThrough_cons {c : Call Resource} {cs : List (Call Resource)} {p : Store × World} :
    WritesThrough (c :: cs) p ↔
      (∀ f, (c.perform.on p).1 = .error f → f.isOsFault = false) ∧
        WritesThrough cs (c.perform.on p).2 := by
  simp only [WritesThrough, runCalls, List.mem_cons]
  constructor
  · intro h
    exact ⟨fun f hf => h f (Or.inl hf.symm), fun f hf => h f (Or.inr hf)⟩
  · rintro ⟨hc, hcs⟩ f (hf | hf)
    · exact hc f hf.symm
    · exact hcs f hf

/-- A run of calls does to the entries what it does to the map. -/
theorem runCalls_refines {file : Path} {es : Entries} {w : World} {m : RegistrationMap}
    (h : es.Represents m) {calls : List (Call Resource)}
    (hw : WritesThrough calls (ofEntries file es, w)) :
    ∃ es', (runCalls calls (ofEntries file es, w)).2.1 = ofEntries file es' ∧
      es'.Represents (RegistrationMap.run (resolveAll calls (ofEntries file es, w)) m).2 ∧
      (runCalls calls (ofEntries file es, w)).1 =
        (RegistrationMap.run (resolveAll calls (ofEntries file es, w)) m).1 := by
  induction calls generalizing es w m with
  | nil => exact ⟨es, rfl, h, rfl⟩
  | cons c cs ih =>
      obtain ⟨hc, hcs⟩ := writesThrough_cons.1 hw
      obtain ⟨es', w', hr, hm, -⟩ := perform_refines h c hc
      rw [hr] at hcs
      obtain ⟨es'', hfile, hm', hanswers⟩ := ih hm hcs
      refine ⟨es'', ?_, ?_, ?_⟩
      · rw [runCalls, hr]
        exact hfile
      · rw [resolveAll, RegistrationMap.run, hr]
        exact hm'
      · rw [runCalls, resolveAll, RegistrationMap.run, hr, hanswers]

/-- Where the index can be written whatever it is, every write of a run goes through. -/
theorem writesThrough_of_isWritable {file : Path} {es : Entries} {w : World} {m : RegistrationMap}
    (h : es.Represents m) (hd : w.disk.IsWritable file) (calls : List (Call Resource)) :
    WritesThrough calls (ofEntries file es, w) := by
  induction calls generalizing es w m with
  | nil =>
      intro f hf
      cases hf
  | cons c cs ih =>
      rw [writesThrough_cons]
      rcases perform_cases h c with ⟨es', w', hr, hm, hl⟩ | ⟨es', f, hf, -⟩
      · have hd' : w'.disk.IsWritable file := by
          generalize w'.disk = t at hl
          cases hl with
          | same => exact hd
          | written ht =>
              obtain ⟨t', ht', hd'⟩ := hd.write (indexBytes (.ofEntries es'))
              rw [ht] at ht'
              cases ht'
              exact hd'
        rw [hr]
        exact ⟨fun f hf => answer_not_osFault hf, ih hm hd'⟩
      · obtain ⟨t', ht', -⟩ := hd.write (indexBytes (.ofEntries es'))
        rw [ht'] at hf
        cases hf

theorem OpenedEmpty.eq_ofEntries {folder : Path} {before : World} {p : Store × World}
    (h : OpenedEmpty folder before p) : p = (ofEntries p.1.file [], p.2) := by
  obtain ⟨ho, hf⟩ := h
  obtain ⟨-, -, -, hi⟩ := of_opened_on ho
  rw [loadIndex_on, hf] at hi
  have he : p.1.index = .ofEntries [] := (Except.ok.inj hi).symm
  rw [ofEntries, ← he]

/-- What a run leaves in a folder that was empty is the map that the calls lead to. -/
theorem OpenedEmpty.runCalls_represents {folder : Path} {before : World} {p : Store × World}
    (h : OpenedEmpty folder before p) {calls : List (Call Resource)} (hw : WritesThrough calls p) :
    ∃ file es w, (runCalls calls p).2 = (ofEntries file es, w) ∧
      es.Represents (RegistrationMap.run (resolveAll calls p) ∅).2 ∧
      (runCalls calls p).1 = (RegistrationMap.run (resolveAll calls p) ∅).1 := by
  rw [h.eq_ofEntries] at hw ⊢
  obtain ⟨es, hs, hm, ha⟩ := runCalls_refines .nil hw
  exact ⟨p.1.file, es, _, Prod.ext hs rfl, hm, ha⟩

/-- A save that would replace a registration without being asked to leaves the store, and the world
around it, as they are. -/
theorem save_on_registered {file : Path} {es : Entries} {w : World} {m : RegistrationMap}
    (h : es.Represents m) {r : Registration} {place : String × Option String}
    (hr : m.lookup r.key = some place) :
    (save r false).on (ofEntries file es, w) =
      (.error (.alreadyRegistered (ofEntry (r.key, place))), (ofEntries file es, w)) := by
  apply save_on_taken
  rw [← h.lookup]
  exact hr

/-- A call that is not about a key does not change what is found under it. -/
theorem find_of_not_touches {file : Path} {es : Entries} {w : World} {m : RegistrationMap}
    (h : es.Represents m) {c : Call Resource} {k : AppType × String} (hk : c.touches k = false)
    (hw : WritesThrough [c] (ofEntries file es, w)) :
    (c.perform.on (ofEntries file es, w)).2.1.find k.1 k.2 = (ofEntries file es).find k.1 k.2 := by
  obtain ⟨es', w', hr, hm, -⟩ := perform_refines h c (writesThrough_cons.1 hw).1
  rw [hr]
  rw [(answersAs_ofEntries file hm).find, (answersAs_ofEntries file h).find]
  rw [RegistrationMap.registration?, RegistrationMap.registration?,
    RegistrationMap.lookup_after_of_not_touches]
  cases c <;> exact hk

/-- From an empty folder on, a store is a finite map as long as its index can be written. A run gets
the answers of the map, and the store that it leaves answers every question as the map does; the
listing of a map holds what is registered, once and in strictly increasing order. A save that does not
overwrite leaves what is registered alone, and no save or deletion is felt under another key. Stores
that have come to the same map in different ways cannot be told apart. -/
theorem runCalls_eq_map_run {folder : Path} {before : World} {p : Store × World}
    (ho : OpenedEmpty folder before p) {calls : List (Call Resource)}
    (hw : WritesThrough calls p) :
    let q := (runCalls calls p).2
    let m := (RegistrationMap.run (resolveAll calls p) ∅).2
    (runCalls calls p).1 = (RegistrationMap.run (resolveAll calls p) ∅).1 ∧
    q.1.AnswersAs m ∧
    (m.listing.Pairwise (fun a b => a.before b = true) ∧
      ∀ r, r ∈ m.listing ↔ m.lookup r.key = some r.place) ∧
    (∀ r place, m.lookup r.key = some place →
      (save r false).on q = (.error (.alreadyRegistered (ofEntry (r.key, place))), q)) ∧
    (∀ (c : Call Resource) (k : AppType × String), c.touches k = false → WritesThrough [c] q →
      (c.perform.on q).2.1.find k.1 k.2 = q.1.find k.1 k.2) ∧
    ∀ (folder' : Path) (before' : World) (p' : Store × World) (calls' : List (Call Resource)),
      OpenedEmpty folder' before' p' → WritesThrough calls' p' →
      (RegistrationMap.run (resolveAll calls' p') ∅).2 = m →
      let q' := (runCalls calls' p').2
      q'.1.find = q.1.find ∧ q'.1.all = q.1.all ∧ q'.1.page = q.1.page ∧ q'.1.count = q.1.count := by
  intro q m
  obtain ⟨file, es, w, hq, hm, hanswers⟩ := ho.runCalls_represents hw
  have hs : q.1.AnswersAs m := by
    rw [show q = _ from hq]
    exact answersAs_ofEntries file hm
  refine ⟨hanswers, hs, ⟨m.pairwise_listing, fun r => m.mem_listing⟩, ?_, ?_, ?_⟩
  · intro r place hr
    rw [show q = _ from hq]
    exact save_on_registered hm hr
  · intro c k hk hwc
    rw [show q = _ from hq] at hwc ⊢
    exact find_of_not_touches hm hk hwc
  · intro folder' before' p' calls' ho' hw' hsame q'
    obtain ⟨file', es', v, hq', hm', -⟩ := ho'.runCalls_represents hw'
    have hs' : q'.1.AnswersAs m := by
      rw [hsame] at hm'
      rw [show q' = _ from hq']
      exact answersAs_ofEntries file' hm'
    refine ⟨?_, ?_, ?_, ?_⟩
    · funext type name
      rw [hs'.find, hs.find]
    · rw [hs'.all, hs.all]
    · funext request
      rw [hs'.page, hs.page]
    · rw [hs'.count, hs.count]

/-- A store in a new folder of an empty disk. -/
def freshStart : Store × World :=
  (⟨⟨.relative, ["registry".toList, fileName.toList]⟩, .empty⟩,
    { World.empty with disk := ⟨[], [["registry".toList]], [], none⟩ })

/-- Two registrations, saved in either order, are listed alike. -/
theorem runCalls_two_orders :
    let one : Registration := ⟨.app, "a/b", "http://a", some "http://m"⟩
    let two : Registration := ⟨.app, "", "http://b", none⟩
    OpenedEmpty ⟨.relative, ["registry".toList]⟩ World.empty freshStart ∧
    WritesThrough [.save one false, .save two false, .save one false] freshStart ∧
    WritesThrough [.save two true, .save one true] freshStart ∧
    (runCalls [.save one false, .save two false, .save one false] freshStart).1 =
      [.ok (.registration none), .ok (.registration none), .error (.alreadyRegistered one)] ∧
    (runCalls [.save two true, .save one true] freshStart).2.1.all =
      (runCalls [.save one false, .save two false, .save one false] freshStart).2.1.all := by
  intro one two
  have ho : OpenedEmpty ⟨.relative, ["registry".toList]⟩ World.empty freshStart := ⟨rfl, rfl⟩
  have hw : ∀ calls, WritesThrough calls freshStart :=
    writesThrough_of_isWritable Entries.Represents.nil ⟨_, rfl, rfl, rfl, rfl⟩
  obtain ⟨hanswers, -, -, -, -, hsame⟩ :=
    runCalls_eq_map_run ho (hw [.save one false, .save two false, .save one false])
  refine ⟨ho, hw _, hw _, hanswers.trans rfl, ?_⟩
  refine (hsame _ _ _ _ ho (hw [.save two true, .save one true]) ?_).2.1
  decide

end Store

end AppCatalog
