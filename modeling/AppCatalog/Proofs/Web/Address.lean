import AppCatalog.Proofs.Catalog.Breakdown
import AppCatalog.Proofs.Catalog.Orders
import AppCatalog.Proofs.Run.Stays
import AppCatalog.Proofs.Web.Route

/-!
# Applications by their address

A service answers requests on a catalog that was opened in an empty folder. What it lists has a name,
for a route asks for one and so does an import. An application whose name holds no slash is shown and
removed at the path of its type and name; an import takes names with slashes as well, and those are
listed but named by no path, so that no request shows or removes them (`Served.addressed`).
-/

namespace AppCatalog.Web

open AppCatalog.Registration AppCatalog.Text AppCatalog.Catalog

/-! ## What requests do to the catalog -/

/-- Of a catalog only the world changes. -/
def OnlyWorld (c c' : Catalog) : Prop := c' = { c with world := c'.world }

instance : IsPreorder Catalog OnlyWorld where
  refl _ := rfl
  trans c c' c'' h h' := by
    rw [OnlyWorld] at h h' ⊢
    rw [h', h]

theorem stays_inWorld {α : Type} (m : Run World α) : Run.Stays OnlyWorld (inWorld m) := fun _ => rfl

theorem stays_ask {α : Type} (question : Store → Except Failure α) :
    Run.Stays OnlyWorld (inStore (Store.ask question)) := by
  intro c
  rw [inStore_on, Store.ask_on]
  rfl

theorem stays_list (request : PageRequest) (query : Query) :
    Run.Stays OnlyWorld (list request query) := by
  intro c
  rw [list, inStore_on]
  split
  · rw [Store.ask_on]
    rfl
  · rw [Run.on_bind, Store.ask_on]
    rcases c.store.all with f | rs <;> rfl

theorem stays_info (type : AppType) (name : String) (exhaustive : Bool) :
    Run.Stays OnlyWorld (info type name exhaustive) := by
  refine .bind (stays_ask _) fun found => ?_
  split
  · exact .throw _
  · next r =>
      refine .get_bind fun c => ?_
      refine Run.Stays.bind (R := OnlyWorld) (stays_inWorld _).outcome (fun result => ?_) c
      split
      · exact .throw _
      · exact .throw _
      · exact .bind (stays_inWorld _) fun _ => .pure _

/-- An order that names what it registers. -/
def IsNamed : Order → Prop
  | .register r _ => r.name ≠ ""
  | _ => True

theorem not_leavesNameless {os : List Order} (h : ∀ o ∈ os, IsNamed o) (type : AppType) :
    ¬ LeavesNameless type os := by
  induction os with
  | nil => exact id
  | cons o os ih =>
      obtain ⟨ho, hos⟩ := List.forall_mem_cons.1 h
      cases o with
      | register r force =>
          rintro (⟨hk, -⟩ | hrest)
          · exact ho (key_eq_namelessKey_iff.1 hk).2
          · exact ih hos hrest
      | unregister t name => exact fun hrest => ih hos hrest.2
      | registerAll request uri inline force => exact ih hos

/-- An operation that changes nothing but the world, or does what a named order does. -/
def Orderly (m : Action Response) : Prop :=
  Run.Stays OnlyWorld m ∨ ∃ o, IsNamed o ∧ ∀ c, (m.on c).2 = o.leaves c

theorem bind_pure_on {α : Type} (m : Action α) (g : α → Response) (c : Catalog) :
    ((m >>= fun a => pure (g a)).on c).2 = (m.on c).2 :=
  congrArg Prod.snd (Run.on_bind_of_ok (fun _ _ => rfl) c)

theorem run_snd (m : Action Response) (c : Catalog) : (Service.run m c).2 = (m.on c).2 := by
  rw [Service.run]
  rcases m.on c with ⟨f | response, c'⟩ <;> rfl

theorem exists_of_map_eq_ok {ε α β : Type} {x : Except ε α} {f : α → β} {b : β}
    (h : x.map f = .ok b) : ∃ a, x = .ok a ∧ f a = b := by
  rcases x with e | a
  · cases h
  · exact ⟨a, rfl, Except.ok.inj h⟩

/-- What is done at a route is orderly: only routes with a name register single applications. -/
theorem orderly_handler {path : List Char} {route : Route} (hr : Route.ofPath? path = some route)
    {method : Method} {ps : Params} {m : Action Response}
    (h : Service.handler? route method ps = some (.ok m)) : Orderly m := by
  cases route with
  | service =>
      cases method <;> cases h
      exact Or.inl (.pure _)
  | health =>
      cases method <;> cases h
      exact Or.inl (.pure _)
  | apps =>
      cases method with
      | get =>
          obtain ⟨⟨request, type, search⟩, -, rfl⟩ := exists_of_map_eq_ok (Option.some.inj h)
          exact Or.inl (.bind (stays_list request _) fun _ => .pure _)
      | post =>
          obtain ⟨⟨request, uri, apps, force⟩, -, rfl⟩ := exists_of_map_eq_ok (Option.some.inj h)
          cases apps with
          | none =>
              exact Or.inr ⟨.registerAll request uri .none force, trivial, bind_pure_on _ _⟩
          | some text =>
              exact Or.inr ⟨.registerAll request uri (.text text) force, trivial, bind_pure_on _ _⟩
      | delete => cases h
  | app type name =>
      obtain ⟨-, -, -, hne⟩ := Route.ofPath?_eq_app hr
      cases method with
      | get =>
          obtain ⟨⟨t, exhaustive⟩, -, rfl⟩ := exists_of_map_eq_ok (Option.some.inj h)
          exact Or.inl (.bind (stays_info t _ exhaustive) fun _ => .pure _)
      | post =>
          obtain ⟨⟨t, uri, metadataUri, force⟩, -, rfl⟩ :=
            exists_of_map_eq_ok (Option.some.inj h)
          refine Or.inr ⟨.register ⟨t, String.ofList name, uri, metadataUri⟩ force, ?_, ?_⟩
          · intro he
            exact hne (String.ofList_inj.1 he)
          · exact bind_pure_on _ _
      | delete =>
          obtain ⟨t, -, rfl⟩ := exists_of_map_eq_ok (Option.some.inj h)
          exact Or.inr ⟨.unregister t (String.ofList name), trivial, bind_pure_on _ _⟩

/-- A request leaves the catalog as it is, or runs what is to be done for its method at the route that
its path names. -/
theorem answer_cases (request : Request) (c : Catalog) :
    (Service.answer request c).2 = c ∨
      ∃ route method m, Route.ofPath? (Percent.decode request.path) = some route ∧
        Method.ofWord? request.method = some method ∧
        Service.handler? route method (Form.decode request.query) = some (.ok m) ∧
        (Service.answer request c).2 = (m.on c).2 := by
  have hanswer : (Service.answer request c).2 = (Service.answerAny request c).2 := by
    rw [Service.answer]
  rw [hanswer, Service.answerAny]
  rcases hr : Route.ofPath? (Percent.decode request.path) with _ | route
  · simp only
    split <;> exact Or.inl rfl
  · simp only [Service.answerAt]
    rcases hm : Method.ofWord? request.method with _ | method
    · exact Or.inl rfl
    · rw [Option.bind_some]
      rcases hh : Service.handler? route method (Form.decode request.query) with _ | faults | m
      · exact Or.inl rfl
      · exact Or.inl rfl
      · exact Or.inr ⟨route, method, m, rfl, rfl, hh, run_snd m c⟩

/-- The catalogs that a service comes to. -/
inductive Served : Catalog → Prop
  | opened {loader : Loader} {folder : Path} {before w : World} {c : Catalog}
    (h : (Catalog.opened loader folder).on before = (.ok c, w))
    (hf : w.disk.isThere c.store.file = .ok false) : Served c
  /-- The world turns into another one, and other registrations wait to be fetched. -/
  | elsewhere {c : Catalog} (h : Served c) (w : World) (waiting : List Registration) :
    Served { c with world := w, waiting }
  | answered {c : Catalog} (h : Served c) (request : Request) : Served (Service.answer request c).2
  /-- The service is started again where a file holds the index of some catalog: of this one, or of an
  earlier one if not everything could be written since. -/
  | reopened {c d d' : Catalog} {folder : Path} (hd : Served d) (hc : Served c)
    (ho : (reopen folder).on d = (.ok (), d'))
    (hr : d'.world.disk.read d'.store.file = .ok (Store.indexBytes c.store.index)) : Served d'
  /-- The service is started again and nothing was ever written. -/
  | emptied {d d' : Catalog} {folder : Path} (hd : Served d)
    (ho : (reopen folder).on d = (.ok (), d'))
    (hf : d'.world.disk.isThere d'.store.file = .ok false) : Served d'

/-- A service comes to a catalog by orders that name what they register. -/
theorem Served.reachedBy {c : Catalog} (h : Served c) :
    ∃ os, ReachedBy os c ∧ ∀ o ∈ os, IsNamed o := by
  induction h with
  | opened h hf => exact ⟨[], .opened h hf, nofun⟩
  | elsewhere _ w waiting ih =>
      obtain ⟨os, hos, hn⟩ := ih
      exact ⟨os, hos.elsewhere w waiting, hn⟩
  | @answered c _ request ih =>
      obtain ⟨os, hos, hn⟩ := ih
      rcases answer_cases request c with hc | ⟨route, method, m, hr, -, hm, hc⟩
      · rw [hc]
        exact ⟨os, hos, hn⟩
      · rcases orderly_handler hr hm with hstays | ⟨o, ho, horder⟩
        · rw [hc, hstays c]
          exact ⟨os, hos.elsewhere _ c.waiting, hn⟩
        · rw [hc, horder]
          exact ⟨o :: os, hos.ordered o, List.forall_mem_cons.2 ⟨ho, hn⟩⟩
  | reopened _ _ ho hr ihd ih =>
      obtain ⟨later, hlater, -⟩ := ihd
      obtain ⟨os, hos, hn⟩ := ih
      exact ⟨os, .reopened hlater hos ho hr, hn⟩
  | emptied _ ho hf ih =>
      obtain ⟨later, hlater, -⟩ := ih
      exact ⟨[], .emptied hlater ho hf, nofun⟩

/-- The store of a service holds entries with names. -/
theorem Served.exists_entries {c : Catalog} (h : Served c) :
    ∃ es : Entries, (Assoc.keys es).Nodup ∧ (∀ k ∈ Assoc.keys es, k.2 ≠ "") ∧
      c.store = Store.ofEntries c.store.file es := by
  obtain ⟨os, hos, hn⟩ := h.reachedBy
  obtain ⟨es, hl, hs⟩ := hos.exists_leftBy
  refine ⟨es, hl.nodup, ?_, hs⟩
  rintro ⟨type, name⟩ hk rfl
  exact not_leavesNameless hn type ((hl.nameless type).1 hk)

/-! ## What is listed -/

/-- Whether a field of a JSON value is a certain text. -/
def holdsText (v : Json) (field text : String) : Bool :=
  match v.field? field with
  | some (.str s) => s == text
  | _ => false

theorem holdsText_eq_true_iff {v : Json} {field text : String} :
    holdsText v field text = true ↔ v.field? field = some (.str text) := by
  rw [holdsText]
  split
  · next s hs => rw [hs, beq_iff_eq, Option.some.injEq, Json.str.injEq]
  · next hs => exact iff_of_false Bool.false_ne_true (hs text)

/-- Whether an answer lists an application of a type and a name. -/
def Response.lists (response : Response) (type : AppType) (name : String) : Bool :=
  match response.content with
  | .json body =>
    match body.field? "entries" with
    | some (.arr entries) => entries.any fun e => holdsText e "type" type.word && holdsText e "name" name
    | _ => false
  | _ => false

theorem Response.lists_eq_true {response : Response} {type : AppType} {name : String}
    (h : response.lists type name = true) :
    ∃ body entries entry, response.content = .json body ∧
      body.field? "entries" = some (.arr entries) ∧ entry ∈ entries ∧
      entry.field? "type" = some (.str type.word) ∧ entry.field? "name" = some (.str name) := by
  rw [lists] at h
  split at h
  · next body hbody =>
      split at h
      · next entries hentries =>
          obtain ⟨entry, hentry, htexts⟩ := List.any_eq_true.1 h
          obtain ⟨htype, hname⟩ := Bool.and_eq_true_iff.1 htexts
          exact ⟨body, entries, entry, hbody, hentries, hentry, holdsText_eq_true_iff.1 htype,
            holdsText_eq_true_iff.1 hname⟩
      · cases h
  · cases h

theorem mem_of_mem_cut {rs : List Registration} {request : PageRequest} {r : Registration}
    (h : r ∈ (Page.cut rs request).content) : r ∈ rs :=
  List.mem_of_mem_drop (List.mem_of_mem_take h)

theorem mem_of_mem_page {rs : List Registration} {request : PageRequest} {query : Query}
    {r : Registration} (h : r ∈ (query.page request rs).content) : r ∈ rs := by
  rw [Query.page] at h
  split at h
  · exact mem_of_mem_cut h
  · exact List.mem_of_mem_filter (mem_of_mem_cut h)

/-- A page shows registrations of the store. -/
theorem mem_of_list {c c' : Catalog} {request : PageRequest} {query : Query} {page : Page}
    (h : (list request query).on c = (.ok page, c')) {r : Registration} (hr : r ∈ page.content) :
    ∃ rs, c.store.all = .ok rs ∧ r ∈ rs := by
  rw [list_on] at h
  rcases ha : c.store.all with f | rs
  · rw [ha] at h
    cases h
  · rw [ha] at h
    cases h
    exact ⟨rs, rfl, mem_of_mem_page hr⟩

theorem mem_of_lists_page {p : Page} {status : Nat} {type : AppType} {name : String}
    (h : (Response.ofBody status (Body.page p)).lists type name = true) :
    ∃ r ∈ p.content, r.key = (type, name) := by
  obtain ⟨body, entries, entry, hbody, hentries, hentry, htype, hname⟩ := Response.lists_eq_true h
  rw [Body.page] at hbody
  rcases ht : p.totalPages? with _ | pages
  · rw [ht] at hbody
    cases hbody
  · rw [ht] at hbody
    cases hbody
    cases hentries
    obtain ⟨r, hr, rfl⟩ := List.mem_map.1 hentry
    have hword : r.type.word = type.word := Json.str.inj (Option.some.inj htype)
    have hsame : r.name = name := Json.str.inj (Option.some.inj hname)
    exact ⟨r, hr, Prod.ext (AppType.word_injective hword) hsame⟩

/-- The answer to a request for a known method at a route. -/
theorem answer_of_route {request : Request} {route : Route} {method : Method}
    (hr : Route.ofPath? (Percent.decode request.path) = some route)
    (hm : request.method = method.word) (c : Catalog) :
    Service.answer request c =
      match Service.handler? route method (Form.decode request.query) with
      | none => (.notAllowed, c)
      | some (.error faults) => (.ofFaults faults, c)
      | some (.ok m) => Service.run m c := by
  have hword : Method.ofWord? request.method = some method := by
    rw [hm]
    cases method <;> rfl
  have hhead : request.method ≠ "HEAD" := by
    rw [hm]
    cases method <;> decide
  rcases hh : Service.handler? route method (Form.decode request.query) with _ | faults | m <;>
    simp only [Service.answer, Service.answerAny, hr, Service.answerAt, hword, Option.bind_some,
      if_neg hhead, hh, Prod.eta]

theorem lists_ofFailure (f : Failure) (type : AppType) (name : String) :
    (Response.ofFailure f).lists type name = false := by
  cases f <;> rfl

/-- What is listed is in the store. -/
theorem Served.of_lists {c : Catalog} (h : Served c) {request : Request}
    (hr : Route.ofPath? (Percent.decode request.path) = some .apps)
    (hm : request.method = Method.get.word) {type : AppType} {name : String}
    (hl : (Service.answer request c).1.lists type name = true) :
    ∃ r : Registration, r.key = (type, name) ∧ c.store.find type name = .ok (some r) := by
  obtain ⟨es, hn, -, hs⟩ := h.exists_entries
  rw [answer_of_route hr hm, Service.handler?] at hl
  rcases hh : Service.listApps (Form.decode request.query) with faults | m
  · rw [hh] at hl
    cases hl
  · rw [hh] at hl
    obtain ⟨⟨window, type', search⟩, -, rfl⟩ := exists_of_map_eq_ok hh
    simp only [Service.run, Run.on_bind] at hl
    rcases hpage : (list window ⟨type', search⟩).on c with ⟨f | page, c'⟩
    · rw [hpage] at hl
      cases (lists_ofFailure f type name).symm.trans hl
    · rw [hpage] at hl
      obtain ⟨r, hr, hk⟩ := mem_of_lists_page hl
      obtain ⟨rs, hall, hmem⟩ := mem_of_list hpage hr
      rw [hs, Store.all, Store.ofEntries, Index.all_ofEntries, Except.ok.injEq] at hall
      rw [← hall, (perm_sort _).mem_iff, Entries.mem_registrations hn, hk] at hmem
      refine ⟨r, hk, ?_⟩
      rw [hs, Store.find_ofEntries, hmem]
      rw [← hk]
      rfl

/-! ## Names with and without a slash -/

/-- The answer about the options of an application. -/
def shown (type : AppType) (name : String) (c : Catalog) : Reading Bool → Response × Catalog
  | .ok exhaustive =>
    Service.run (do
      let details ← info type name exhaustive
      pure (.ofBody 200 (Body.details details))) c
  | .error faults => (.ofFaults faults, c)

theorem pathType_word (type : AppType) : pathType type.word = .ok type := by
  rw [pathType, readType, AppType.ofWord?_word]

section Answers

variable {c : Catalog} {type : AppType} {name : String} {request : Request}

/-- A request that reads an application is answered with its options. -/
theorem answer_get
    (hr : Route.ofPath? (Percent.decode request.path) = some (.app type.word.toList name.toList))
    (hm : request.method = Method.get.word) :
    Service.answer request c = shown type name c (Params.bool (Form.decode request.query) "exhaustive") := by
  rw [answer_of_route hr hm, Service.handler?, Service.showApp]
  simp only [String.ofList_toList, pathType_word]
  rcases Params.bool (Form.decode request.query) "exhaustive" with faults | exhaustive <;> rfl

/-- A request that removes an application has it unregistered. -/
theorem answer_delete
    (hr : Route.ofPath? (Percent.decode request.path) = some (.app type.word.toList name.toList))
    (hm : request.method = Method.delete.word) :
    Service.answer request c = Service.run (do
      unregister type name
      pure ⟨200, .nothing, none⟩) c := by
  rw [answer_of_route hr hm, Service.handler?, Service.removeApp]
  simp only [String.ofList_toList, pathType_word]
  rfl

/-- However the name is escaped, the path of a type and a name leads to the application. -/
theorem ofPath?_encode (type : AppType) {name : String} (hne : name ≠ "") (hn : '/' ∉ name.toList)
    {isSafe : Char → Bool} (h : isSafe '%' = false) :
    Route.ofPath? (Percent.decode
        (Route.app type.word.toList (Percent.encode isSafe name.toList)).path) =
      some (.app type.word.toList name.toList) := by
  have hsplit : ∀ cs, (Route.app type.word.toList cs).path =
      (Route.appsPath ++ '/' :: type.word.toList ++ ['/']) ++ cs := by
    intro cs
    rw [Route.path, List.append_assoc, List.append_assoc, List.append_assoc]
    rfl
  have hdecode : Percent.decode
      (Route.app type.word.toList (Percent.encode isSafe name.toList)).path =
        (Route.app type.word.toList name.toList).path := by
    rw [hsplit, hsplit]
    apply Percent.decode_append_encode _ _ h
    · cases type <;> exact List.all_eq_true.1 (by decide)
    · cases type <;> decide
  have hnil : ¬ ('/' ∈ name.toList ∨ name.toList = []) := by
    rintro (hs | he)
    · exact hn hs
    · exact hne (String.toList_inj.1 he)
  rw [hdecode, Route.ofPath?_app (slash_notMem_word type) (by cases type <;> decide), if_neg hnil]

theorem registration_of_info {r : Registration} (hr : c.store.find type name = .ok (some r))
    {exhaustive : Bool} {d : Details} (h : ((info type name exhaustive).on c).1 = .ok d) :
    d.registration = r := by
  obtain ⟨description, hinfo⟩ := info_outcome hr exhaustive .standard
  rw [h] at hinfo
  rcases hb : ((c.loader.bytes r.metadataPlace).on c.world).1 with f | data
  all_goals rw [hb] at hinfo
  · cases f <;> cases hinfo
  · obtain ⟨m, -, rfl⟩ := exists_of_map_eq_ok hinfo.symm
    rfl

/-- A path that names nothing leads nowhere, or to another path. -/
theorem answer_of_no_route (hr : Route.ofPath? (Percent.decode request.path) = none) :
    (Service.answer request c).2 = c ∧
      ((Service.answer request c).1.status = 404 ∨ (Service.answer request c).1.status = 307) := by
  simp only [Service.answer, Service.answerAny, hr]
  rcases Route.redirect? (Percent.decode request.path) with _ | other
  · refine ⟨rfl, Or.inl ?_⟩
    split <;> rfl
  · refine ⟨rfl, Or.inr ?_⟩
    split <;> rfl

/-- What is registered is gone once it is unregistered, and is removed without a failure if the index
can be written. -/
theorem unregister_registered {es : Entries} {file : Path} (hs : c.store = Store.ofEntries file es)
    (hc : Assoc.contains (type, name) es = true) :
    let result := (unregister type name).on c
    result.2.store = Store.ofEntries file (Assoc.erase (type, name) es) ∧
      (result.1 = .ok () ∨
        ∃ fault bytes, (c.world.disk.write file bytes).1 = .error fault) := by
  intro result
  refine ⟨?_, ?_⟩
  · rw [unregister_store, hs, Store.delete_on_store]
  · have hresult : result = _ := Run.on_bind _ _ c
    rw [inStore_on, hs, Store.delete_on file es c.world hc] at hresult
    rcases Store.written_cases file (Assoc.erase (type, name) es) c.world with
      ⟨t, -, he⟩ | ⟨fault, t, ht, -⟩
    · rw [he] at hresult
      rw [hresult]
      exact Or.inl rfl
    · exact Or.inr ⟨fault, _, congrArg Prod.fst ht⟩

/-- A request that removes an application leaves one alone whose name holds a slash. -/
theorem find_after_delete {es : Entries} {file : Path} (hs : c.store = Store.ofEntries file es)
    (hn : (Assoc.keys es).Nodup) (hslash : '/' ∈ name.toList)
    (hm : request.method = Method.delete.word) :
    (Service.answer request c).2.store.find type name = c.store.find type name := by
  rcases answer_cases request c with hc | ⟨route, method, m, hr, hword, hh, hc⟩
  · rw [hc]
  · rw [hm] at hword
    cases hword
    cases route with
    | service => cases hh
    | health => cases hh
    | apps => cases hh
    | app type' name' =>
        obtain ⟨-, -, hfree, -⟩ := Route.ofPath?_eq_app hr
        obtain ⟨t, -, rfl⟩ := exists_of_map_eq_ok (Option.some.inj hh)
        have hne : (t, String.ofList name') ≠ (type, name) := by
          intro he
          rw [← (Prod.mk.inj he).2, String.toList_ofList] at hslash
          exact hfree hslash
        have hstore : (((unregister t (String.ofList name')).on c).2.store).find type name =
            c.store.find type name := by
          rw [unregister_store, hs, Store.delete_on_store, Store.find_ofEntries,
            Store.find_ofEntries, Assoc.get?_erase hn, if_neg hne]
        rw [hc, bind_pure_on]
        exact hstore

end Answers

/-- Every application that is listed is in the store. If its name holds no slash, the path of its type
and its name, in whatever way the name is escaped, leads to it: what is read there are its options,
and what is removed is this application and no other, with an answer of success if the index can be
written. If its name holds a slash, its path leads to nothing or elsewhere, and no request removes
it. -/
theorem Served.addressed {c : Catalog} (h : Served c) {request : Request}
    (hr : Route.ofPath? (Percent.decode request.path) = some .apps)
    (hm : request.method = Method.get.word) {type : AppType} {name : String}
    (hl : (Service.answer request c).1.lists type name = true) :
    ∃ r : Registration, r.key = (type, name) ∧ c.store.find type name = .ok (some r) ∧
      ('/' ∉ name.toList → ∀ isSafe, isSafe '%' = false → ∀ origin query,
        let path := (Route.app type.word.toList (Percent.encode isSafe name.toList)).path
        Service.answer ⟨origin, Method.get.word, path, query⟩ c =
          shown type name c (Params.bool (Form.decode query) "exhaustive") ∧
        (∀ exhaustive d, ((info type name exhaustive).on c).1 = .ok d → d.registration = r) ∧
        let removed := Service.answer ⟨origin, Method.delete.word, path, query⟩ c
        (removed.1 = ⟨200, .nothing, none⟩ ∨
          ∃ fault bytes, (c.world.disk.write c.store.file bytes).1 = .error fault) ∧
        ∀ t n, removed.2.store.find t n =
          if (t, n) = (type, name) then .ok none else c.store.find t n) ∧
      ('/' ∈ name.toList →
        (∀ other : Request,
          Percent.decode other.path = (Route.app type.word.toList name.toList).path →
          (Service.answer other c).2 = c ∧ ((Service.answer other c).1.status = 404 ∨
            (Service.answer other c).1.status = 307)) ∧
        ∀ other : Request, other.method = Method.delete.word →
          (Service.answer other c).2.store.find type name = .ok (some r)) := by
  obtain ⟨r, hk, hfind⟩ := h.of_lists hr hm hl
  obtain ⟨es, hn, hnamed, hs⟩ := h.exists_entries
  generalize c.store.file = file at hs
  have hget : Assoc.get? (type, name) es = some r.place := by
    rw [hs, Store.find_ofEntries, Except.ok.injEq] at hfind
    obtain ⟨place, hplace, rfl⟩ := Option.map_eq_some_iff.1 hfind
    exact hplace
  have hcontains : Assoc.contains (type, name) es = true := by
    rw [Assoc.contains, hget]
    rfl
  refine ⟨r, hk, hfind, ?_, ?_⟩
  · intro hfree isSafe hsafe origin query path
    have hroute := ofPath?_encode type (hnamed _ (Assoc.contains_eq_true_iff.1 hcontains)) hfree hsafe
    obtain ⟨hstore, houtcome⟩ := unregister_registered hs hcontains
    refine ⟨answer_get hroute rfl, fun exhaustive d hd => registration_of_info hfind hd, ?_⟩
    intro removed
    have hremoved : removed = _ := answer_delete (c := c) hroute rfl
    have hafter : removed.2.store = Store.ofEntries file (Assoc.erase (type, name) es) := by
      rw [hremoved, run_snd, bind_pure_on, hstore]
    refine ⟨?_, ?_⟩
    · refine houtcome.imp_left fun hok => ?_
      rw [hremoved, Service.run, Run.on_bind_ok (Prod.ext hok rfl)]
      rfl
    · intro t n
      rw [hafter, Store.find_ofEntries, Assoc.get?_erase hn, hs, Store.find_ofEntries]
      by_cases he : (type, name) = (t, n)
      · rw [if_pos he, if_pos he.symm]
        rfl
      · rw [if_neg he, if_neg (Ne.symm he)]
  · intro hslash
    refine ⟨?_, ?_⟩
    · intro other hpath
      apply answer_of_no_route
      rw [hpath, Route.ofPath?_app (slash_notMem_word type) (by cases type <;> decide),
        if_pos (Or.inl hslash)]
    · intro other hdelete
      rw [find_after_delete hs hn hslash hdelete, hfind]

/-- An application with a slash in its name is imported and listed, but not found and not removed. -/
theorem addressed_slash :
    let fresh : Catalog := ⟨Store.freshStart.1, ⟨.standard, none⟩, Store.freshStart.2, []⟩
    let c := (Service.answer
      ⟨[], "POST", "/apps".toList, "apps=app.a/b%3Dhttp://h/x".toList⟩ fresh).2
    let all : Request := ⟨[], "GET", "/apps".toList, []⟩
    let one : Request := ⟨[], "DELETE", "/apps/app/a%2Fb".toList, []⟩
    Served c ∧ (Service.answer all c).1.lists .app "a/b" = true ∧
      (Service.answer one c).2 = c ∧ ∃ r, c.store.find .app "a/b" = .ok (some r) := by
  intro fresh c all one
  have hfresh : Served fresh := by
    have ho : (Catalog.opened ⟨.standard, none⟩ ⟨.relative, ["registry".toList]⟩).on World.empty =
        (.ok fresh, Store.freshStart.2) := rfl
    exact .opened ho rfl
  have hc : Served c := hfresh.answered _
  have hl : (Service.answer all c).1.lists .app "a/b" = true := by decide +kernel
  have hroute : Route.ofPath? (Percent.decode all.path) = some .apps := by decide +kernel
  obtain ⟨r, -, hfind, -, hslash⟩ := hc.addressed hroute rfl hl
  refine ⟨hc, hl, ?_, r, hfind⟩
  exact ((hslash (by decide)).1 one (by decide +kernel)).1

end AppCatalog.Web
