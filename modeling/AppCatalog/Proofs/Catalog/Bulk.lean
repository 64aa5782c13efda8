import AppCatalog.Proofs.Catalog.Import
import AppCatalog.Proofs.Store.OneByOne

/-!
# Importing a listing

An import of a listing in order registers what the listing asks for, as saving its registrations one
after another would. It gives what it has registered, in the order of the listing, and the catalog
answers with the same sorted. Importing the listing again changes nothing (`importAll_eq_saves`).
-/

namespace AppCatalog

open AppCatalog.Registration

namespace Store

/-- What an import has saved of the registrations that it was asked for, and how the store after it
compares with the one before. -/
structure Imports (force : Bool) (rs saved : List Registration) (before after : Store) :
    Prop where
  in_order : saved.Sublist rs
  mem_saved : ∀ r, r ∈ saved ↔ r ∈ rs ∧ (force = true ∨ before.find r.type r.name = .ok none)
  found : ∀ r ∈ saved, after.find r.type r.name = .ok (some r)
  others : ∀ type name, (type, name) ∉ saved.map key →
    after.find type name = before.find type name

section Import

variable {file : Path} {es : Entries} {w w' : World} {force : Bool} {rs : List Registration}
  {resource : Resource}

theorem imports_putAll (h : (rs.map key).Nodup) (file : Path) (es : Entries) (force : Bool) :
    Imports force rs (es.putAll force rs).1 (ofEntries file es)
      (ofEntries file (es.putAll force rs).2) := by
  refine ⟨?_, ?_, ?_, ?_⟩
  · rw [Entries.putAll_fst h]
    exact List.filter_sublist
  · intro r
    have hfree : (!Assoc.contains r.key es) = true ↔
        (ofEntries file es).find r.type r.name = .ok none := by
      rw [find_ofEntries, Assoc.contains]
      change (!(Assoc.get? r.key es).isSome) = true ↔
        Except.ok ((Assoc.get? r.key es).map fun p => ofEntry (r.key, p)) = _
      cases Assoc.get? r.key es with
      | none => exact ⟨fun _ => rfl, fun _ => rfl⟩
      | some place =>
          refine iff_of_false Bool.false_ne_true ?_
          exact fun h => Option.some_ne_none _ (Except.ok.inj h)
    rw [Entries.putAll_fst h, List.mem_filter, Bool.or_eq_true, hfree]
  · intro r hr
    rw [find_ofEntries]
    exact congrArg (fun o => Except.ok (Option.map (fun p => ofEntry (r.key, p)) o))
      (Entries.get?_putAll h hr)
  · intro type name hn
    rw [find_ofEntries, find_ofEntries, Entries.get?_putAll_of_notMem hn]

/-- An import that is written ends as saving one by one does: with the same memory, and with the same
file if the saves are written too. -/
theorem importAll_alike_saves (ha : (asked resource).on w = (.ok rs, w'))
    (hw : WritesThrough [.importAll force resource] (ofEntries file es, w)) :
    let result := (importAll force resource).on (ofEntries file es, w)
    let saves : List (Call Resource) := rs.map fun r => .save r force
    let oneByOne := runCalls saves (ofEntries file es, w)
    oneByOne.2.1 = result.2.1 ∧
      (WritesThrough saves (ofEntries file es, w) →
        (∀ f, .error f ∈ oneByOne.1 → ∃ previous, f = .alreadyRegistered previous) ∧
        oneByOne.2.2.disk.read file = result.2.2.disk.read file) := by
  intro result saves oneByOne
  obtain ⟨-, hstore, hdisk⟩ := importAll_written ha hw
  refine ⟨runCalls_saves_store.trans hstore.symm, ?_⟩
  intro hsaves
  obtain ⟨herrors, hdisk'⟩ := runCalls_saves hsaves
  exact ⟨herrors, hdisk'.read_eq hdisk⟩

/-- Where what is asked for has been imported already, an import changes neither memory nor file. -/
theorem importAll_again {v v' : World} {resource' : Resource} (hn : (rs.map key).Nodup)
    (ha : (asked resource).on w = (.ok rs, w')) (ha' : (asked resource').on v = (.ok rs, v'))
    (hw : WritesThrough [.importAll force resource] (ofEntries file es, w)) :
    let result := (importAll force resource).on (ofEntries file es, w)
    let again := (importAll force resource').on (result.2.1, v)
    again.2.1 = result.2.1 ∧
      (WritesThrough [.importAll force resource'] (result.2.1, v) →
        again.1 = (if force then result.1 else .ok []) ∧
        (v.disk = result.2.2.disk → again.2.2.disk.read file = v.disk.read file)) := by
  intro result again
  obtain ⟨hok, hstore, hdisk⟩ := importAll_written ha hw
  have hput := Entries.putAll_again hn force es
  have hagain : again = (importAll force resource').on (ofEntries file (es.putAll force rs).2, v) :=
    congrArg (fun s => (importAll force resource').on (s, v)) hstore
  have hmemory : again.2.1 = ofEntries file (es.putAll force rs).2 := by
    rw [hagain, (importAll_outcome (ofEntries file (es.putAll force rs).2, v) force ha').2.1]
    rw [importRegistrations_on_store, hput]
  refine ⟨hmemory.trans hstore.symm, ?_⟩
  intro hw'
  rw [show result.2.1 = _ from hstore] at hw'
  obtain ⟨hok', -, hdisk'⟩ := importAll_written ha' hw'
  rw [← hagain, hput] at hok' hdisk'
  refine ⟨?_, ?_⟩
  · rw [hok', show result.1 = _ from hok]
    cases force <;> rfl
  · intro hv
    rw [hv] at hdisk' ⊢
    by_cases hsaved : (if force then (es.putAll force rs).1 else []) = []
    · rw [hdisk'.kept hsaved]
    · have hforce : force = true := by
        by_contra hf
        exact hsaved (if_neg hf)
      rw [if_pos hforce] at hsaved
      rw [hdisk'.written (by rw [if_pos hforce]; exact hsaved), hdisk.written hsaved]

end Import

end Store

namespace Catalog

/-- What the catalog answers to an import that goes through, and the store that it leaves. -/
theorem registerAll_eq_ok {c c' : Catalog} {request : PageRequest} {uri : Option String}
    {inline : Inline} {force : Bool} {resource : Resource} {rs saved : List Registration} {n : Nat}
    {s : Store} {w' : World} (hsource : (importSource uri inline).on c = (.ok resource, c'))
    (hc : c'.store = s) (ha : (Store.asked resource).on c'.world = (.ok rs, w'))
    (hsaved : ((Store.importAll force resource).on (s, c'.world)).1 = .ok saved)
    (hn : ((Store.importAll force resource).on (s, c'.world)).2.1.count = .ok n) :
    let answer := (registerAll request uri inline force).on c
    answer.1 = .ok ⟨sort saved, request, n⟩ ∧
      answer.2.store = ((Store.importAll force resource).on (s, c'.world)).2.1 := by
  intro answer
  subst hc
  have hanswer : answer = _ := registerAll_on request force hsource ha
  obtain ⟨houtcome, hstore, -⟩ :=
    Store.importAll_outcome (c'.store, c'.world) force ha
  rw [houtcome] at hsaved
  rw [hstore] at hn ⊢
  rw [hanswer, imported]
  rcases hi : (Store.importRegistrations force rs).on (c'.store, w') with ⟨f | saved', s, v⟩
  · rw [hi] at hsaved
    cases hsaved
  · rw [hi] at hsaved hn
    cases hsaved
    refine ⟨?_, rfl⟩
    change s.count = .ok n at hn
    simp only [hn]
    rfl

/-- A listing in order is imported as a whole as its registrations are saved one by one. Of what the
listing asks for, an import saves everything if it is forced and otherwise what is not there yet, in
the order of the listing and with the places that the listing states; nothing else changes. Memory is
as after the saves, and so is the file where these are written and their refusals passed over. The
catalog answers with what was saved in strictly increasing order and with the number of registrations
that there are then. Importing a resource with the same listing again changes nothing, and gives the
same registrations if it is forced and none otherwise. -/
theorem importAll_eq_saves {s : Store} (hs : s.Reached) {w w' : World} {force : Bool}
    {resource : Resource} {data : Bytes} (hr : resource.read.on w = (.ok data, w'))
    (hl : (Listing.parse (Latin1.decode data)).InOrder)
    (hw : Store.WritesThrough [.importAll force resource] (s, w)) :
    let l := Listing.parse (Latin1.decode data)
    let result := (Store.importAll force resource).on (s, w)
    ∃ rs saved n,
      l.Asks rs ∧ result.1 = .ok saved ∧ result.2.1.count = .ok n ∧
      Store.Imports force rs saved s result.2.1 ∧
      -- one by one
      (let saves : List (Store.Call Resource) := rs.map fun r => .save r force
        let oneByOne := Store.runCalls saves (s, w)
        oneByOne.2.1 = result.2.1 ∧
          (Store.WritesThrough saves (s, w) →
            (∀ f, .error f ∈ oneByOne.1 → ∃ previous, f = .alreadyRegistered previous) ∧
            oneByOne.2.2.disk.read s.file = result.2.2.disk.read s.file)) ∧
      -- what the catalog answers
      ((sort saved).Perm saved ∧ (sort saved).Pairwise (fun a b => a.before b = true) ∧
        ∀ (c c' : Catalog) (request : PageRequest) (uri : Option String) (inline : Inline),
          (importSource uri inline).on c = (.ok resource, c') → c'.store = s → c'.world = w →
          ((registerAll request uri inline force).on c).1 = .ok ⟨sort saved, request, n⟩ ∧
          ((registerAll request uri inline force).on c).2.store = result.2.1) ∧
      -- once more
      ∀ (resource' : Resource) (v v' : World) (data' : Bytes),
        resource'.read.on v = (.ok data', v') → Listing.parse (Latin1.decode data') = l →
        let again := (Store.importAll force resource').on (result.2.1, v)
        again.2.1 = result.2.1 ∧
          (Store.WritesThrough [.importAll force resource'] (result.2.1, v) →
            again.1 = .ok (if force then saved else []) ∧
            (v.disk = result.2.2.disk → again.2.2.disk.read s.file = v.disk.read s.file)) := by
  intro l result
  obtain ⟨es, -, hes⟩ := hs.exists_entries
  obtain ⟨file, index⟩ := s
  obtain rfl : index = .ofEntries es := congrArg Store.index hes
  have hn := ImportPlan.nodup_map_key_stated (Listing.nodup_keys_parse (Latin1.decode data))
  have hasked : ∀ {resource' : Resource} {v v' : World} {data' : Bytes},
      resource'.read.on v = (.ok data', v') → Listing.parse (Latin1.decode data') = l →
      (Store.asked resource').on v = (.ok (ImportPlan.ofEntries l).stated, v') := by
    intro resource' v v' data' hr' hl'
    rw [Store.asked_on, hr']
    simp only [hl']
    rw [ImportPlan.ofListing_eq_ok_iff.2 ⟨hl, rfl⟩]
  have hasks := ImportPlan.asks_stated (Listing.nodup_keys_parse (Latin1.decode data))
  have ha := hasked hr rfl
  generalize (ImportPlan.ofEntries l).stated = rs at hn hasked hasks ha
  obtain ⟨hok, hstore, -⟩ := Store.importAll_written ha hw
  have himports := Store.imports_putAll hn file es force
  have hcount : result.2.1.count = .ok (Entries.putAll force rs es).2.length := by
    rw [show result.2.1 = _ from hstore]
    exact Index.count_ofEntries _
  refine ⟨rs, _, _, hasks, hok, hcount, ?_, ?_, ⟨perm_sort _, ?_, ?_⟩, ?_⟩
  · rw [show result.2.1 = _ from hstore]
    exact himports
  · exact Store.importAll_alike_saves ha hw
  · exact pairwise_before_sort (hn.sublist (himports.in_order.map key))
  · rintro c c' request uri inline hsource hc rfl
    exact registerAll_eq_ok hsource hc ha hok hcount
  · intro resource' v v' data' hr' hl'
    obtain ⟨hmemory, hwritten⟩ := Store.importAll_again hn ha (hasked hr' hl') hw
    refine ⟨hmemory, ?_⟩
    intro hw'
    obtain ⟨houtcome, hdisk⟩ := hwritten hw'
    refine ⟨houtcome.trans ?_, hdisk⟩
    rw [hok]
    cases force <;> rfl

/-- A forced import of an application that was registered with metadata takes the metadata away. -/
theorem importAll_clears_metadata :
    let data : Bytes := "app.x=http://new\nsink.y=http://y".toList.map fun ch =>
      UInt8.ofNat ch.toNat
    let resource := Resource.inline data "a listing"
    let s := Store.ofEntries Store.freshStart.1.file [((.app, "x"), ("http://old", some "http://m"))]
    let w := Store.freshStart.2
    s.Reached ∧ resource.read.on w = (.ok data, w) ∧
    (Listing.parse (Latin1.decode data)).InOrder ∧
    Store.WritesThrough [.importAll true resource] (s, w) ∧
    s.find .app "x" = .ok (some ⟨.app, "x", "http://old", some "http://m"⟩) ∧
    ((Store.importAll true resource).on (s, w)).2.1.find .app "x" =
      .ok (some ⟨.app, "x", "http://new", none⟩) := by
  intro data resource s w
  have hs : s.Reached := by
    let earlier : Registration := ⟨.app, "x", "http://old", some "http://m"⟩
    have ho : Store.OpenedEmpty ⟨.relative, ["registry".toList]⟩ World.empty Store.freshStart :=
      ⟨rfl, rfl⟩
    have hcall := Store.Reached.call (.opened ho) w (.save earlier true)
    have hstore : ((Store.Call.save earlier true).perform.on (Store.freshStart.1, w)).2.1 = s := by
      rw [Store.Call.perform, Run.on_map]
      have hsave := Store.save_on Store.freshStart.1.file [] w (r := earlier) (Or.inl rfl)
      exact (congrArg (fun q => q.2.1) hsave).trans (Store.written_store _ _ w)
    rwa [hstore] at hcall
  have hr : resource.read.on w = (.ok data, w) := rfl
  have hplan : ImportPlan.ofListing (Listing.parse (Latin1.decode data)) =
      .ok [⟨.app, "x", "http://new", none⟩, ⟨.sink, "y", "http://y", none⟩] := rfl
  have hl := (ImportPlan.ofListing_eq_ok_iff.1 hplan).1
  have hw : Store.WritesThrough [.importAll true resource] (s, w) :=
    Store.writesThrough_of_isWritable (Entries.Represents.nil.put
      ⟨.app, "x", "http://old", some "http://m"⟩) ⟨_, rfl, rfl, rfl, rfl⟩ _
  have ha : (Store.asked resource).on w =
      (.ok [⟨.app, "x", "http://new", none⟩, ⟨.sink, "y", "http://y", none⟩], w) := by
    rw [Store.asked_on, hr, ← hplan]
  obtain ⟨rs, saved, n, -, hsaved, -, himports, -⟩ := importAll_eq_saves hs hr hl hw
  have hx : (⟨.app, "x", "http://new", none⟩ : Registration) ∈ saved := by
    rw [Except.ok.inj (hsaved.symm.trans (Store.importAll_written ha hw).1)]
    exact List.mem_cons_self
  have hfound := himports.found ⟨.app, "x", "http://new", none⟩ hx
  exact ⟨hs, hr, hl, hw, Store.find_ofEntries _ _ .app "x", hfound⟩

end Catalog

end AppCatalog
