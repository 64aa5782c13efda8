import AppCatalog.Proofs.Assoc
import AppCatalog.Proofs.Registration
import AppCatalog.Proofs.Resource
import AppCatalog.Proofs.Store.Grammar

/-!
# What listings ask for

A listing is read into a plan entry by entry, and the first faulty entry ends the reading
(`foldlM_add_eq_ok_iff`, `foldlM_add_eq_error_iff`). So a listing is accepted exactly if it is in
order, and then the registrations are those that its entries state (`ofListing_eq_ok_iff`,
`asks_stated`); otherwise it is refused for what it is to be refused for
(`ofListing_eq_error_iff`).
-/

namespace AppCatalog

open AppCatalog.Registration AppCatalog.Text

namespace ImportPlan

/-! ## Entries -/

variable {p q : ImportPlan} {e : List Char × List Char} {k : AppType × String} {isMetadata : Bool}

/-- The application that a key names, or whose metadata it names. -/
def named? (isMetadata : Bool) (key : List Char) : Option (AppType × String) :=
  match target key with
  | .ok (type, name, m) => if m = isMetadata then some (type, name) else none
  | .error _ => none

/-- What an entry puts among the applications of a plan, or among their metadata. -/
def placed? (isMetadata : Bool) (e : List Char × List Char) :
    Option ((AppType × String) × String) :=
  (named? isMetadata e.1).map fun k => (k, String.ofList e.2)

/-- A plan with what the entries of a listing put into it. -/
def extend (p : ImportPlan) (l : Listing) : ImportPlan where
  uris := Assoc.update p.uris (l.filterMap (placed? false))
  metadataUris := Assoc.update p.metadataUris (l.filterMap (placed? true))

theorem named?_eq_some_iff {key : List Char} :
    named? isMetadata key = some k ↔ Names key k isMetadata := by
  rw [named?]
  constructor
  · intro h
    split at h
    · next ht =>
        split at h
        · next hm =>
            cases h
            exact target_eq_ok_iff.1 (hm ▸ ht)
        · cases h
    · cases h
  · intro h
    rw [target_eq_ok_iff.2 h]
    exact if_pos rfl

theorem named?_of_names {key : List Char} (h : Names key k isMetadata) (m : Bool) :
    named? m key = if isMetadata = m then some k else none := by
  by_cases hm : isMetadata = m
  · subst hm
    rw [if_pos rfl, named?_eq_some_iff.2 h]
  · rw [if_neg hm, Option.eq_none_iff_forall_ne_some]
    intro j hj
    exact hm (h.unique (named?_eq_some_iff.1 hj)).2

theorem add_eq_of_sound (h : Sound e) : p.add e.1 e.2 = .ok (p.extend [e]) := by
  obtain ⟨⟨⟨type, name⟩, isMetadata, hn⟩, hu⟩ := h
  rw [add, target_eq_ok_iff.2 hn, hu]
  cases isMetadata <;> simp [extend, placed?, named?_of_names hn, Assoc.update]

theorem add_eq_error_iff {f : Failure} : p.add e.1 e.2 = .error f ↔ FaultyEntry e f := by
  rw [add]
  constructor
  · intro h
    split at h
    · next ht =>
        cases h
        exact .key (target_eq_error_iff.1 ht)
    · next ht =>
        split at h
        · next hu =>
            cases h
            exact .value ⟨_, _, target_eq_ok_iff.1 ht⟩ hu
        · split at h <;> cases h
  · intro h
    cases h with
    | key hk => rw [target_eq_error_iff.2 hk]
    | value hn hu =>
        obtain ⟨⟨type, name⟩, m, hn⟩ := hn
        rw [target_eq_ok_iff.2 hn, hu]

theorem sound_or_faulty (e : List Char × List Char) : Sound e ∨ ∃ f, FaultyEntry e f := by
  rcases ht : target e.1 with fault | ⟨type, name, isMetadata⟩
  · exact Or.inr ⟨_, .key (target_eq_error_iff.1 ht)⟩
  · have hn := target_eq_ok_iff.1 ht
    rcases hu : Uri.fault? e.2 with _ | fault
    · exact Or.inl ⟨⟨_, _, hn⟩, hu⟩
    · exact Or.inr ⟨_, .value ⟨_, _, hn⟩ hu⟩

theorem FaultyEntry.not_sound {f : Failure} (h : FaultyEntry e f) : ¬ Sound e := by
  intro hs
  have ha := (add_eq_error_iff (p := ⟨[], []⟩)).2 h
  rw [add_eq_of_sound hs] at ha
  cases ha

theorem extend_cons (p : ImportPlan) (e : List Char × List Char) (l : Listing) :
    p.extend (e :: l) = (p.extend [e]).extend l := by
  have h : ∀ m : Bool, (e :: l).filterMap (placed? m) =
      [e].filterMap (placed? m) ++ l.filterMap (placed? m) := by
    intro m
    rw [← List.filterMap_append, List.singleton_append]
  simp only [extend, h, Assoc.update, List.foldl_append]

/-! ## Reading a listing -/

/-- All entries are read exactly if all are sound. -/
theorem foldlM_add_eq_ok_iff {l : Listing} :
    l.foldlM (fun (p : ImportPlan) e => p.add e.1 e.2) p = .ok q ↔
      (∀ e ∈ l, Sound e) ∧ q = p.extend l := by
  induction l generalizing p with
  | nil =>
      rw [List.foldlM_nil]
      constructor
      · intro h
        cases h
        exact ⟨fun e he => absurd he List.not_mem_nil, rfl⟩
      · rintro ⟨-, rfl⟩
        rfl
  | cons e l ih =>
      rw [List.foldlM_cons, List.forall_mem_cons, and_assoc]
      rcases sound_or_faulty e with hs | ⟨f, hf⟩
      · rw [add_eq_of_sound hs, extend_cons p e l, and_iff_right hs]
        exact ih
      · rw [add_eq_error_iff.2 hf]
        exact ⟨nofun, fun h => absurd h.1 hf.not_sound⟩

/-- Otherwise the first faulty entry ends the reading. -/
theorem foldlM_add_eq_error_iff {l : Listing} {f : Failure} :
    l.foldlM (fun (p : ImportPlan) e => p.add e.1 e.2) p = .error f ↔
      ∃ front e back, l = front ++ e :: back ∧ (∀ e' ∈ front, Sound e') ∧ FaultyEntry e f := by
  induction l generalizing p with
  | nil =>
      rw [List.foldlM_nil]
      constructor
      · intro h
        cases h
      · rintro ⟨front, e, back, h, -⟩
        exact absurd h (List.append_ne_nil_of_right_ne_nil _ (List.cons_ne_nil _ _)).symm
  | cons e l ih =>
      rw [List.foldlM_cons]
      rcases sound_or_faulty e with hs | ⟨g, hg⟩
      · rw [add_eq_of_sound hs]
        refine ih.trans ?_
        constructor
        · rintro ⟨front, e', back, rfl, hfront, he'⟩
          exact ⟨e :: front, e', back, rfl, List.forall_mem_cons.2 ⟨hs, hfront⟩, he'⟩
        · rintro ⟨front, e', back, h, hfront, he'⟩
          cases front with
          | nil =>
              cases h
              exact absurd hs he'.not_sound
          | cons d front =>
              cases h
              exact ⟨front, e', back, rfl, (List.forall_mem_cons.1 hfront).2, he'⟩
      · rw [add_eq_error_iff.2 hg]
        constructor
        · intro h
          cases h
          exact ⟨[], e, l, rfl, fun e he => absurd he List.not_mem_nil, hg⟩
        · rintro ⟨front, e', back, h, hfront, he'⟩
          cases front with
          | nil =>
              cases h
              have ha := (add_eq_error_iff (p := p)).2 hg
              rw [(add_eq_error_iff (p := p)).2 he'] at ha
              exact congrArg Except.error (Except.error.inj ha).symm
          | cons d front =>
              cases h
              exact absurd (hfront e List.mem_cons_self) hg.not_sound

/-! ## Orphans -/

theorem mem_keys_filterMap_placed {l : Listing} :
    k ∈ Assoc.keys (l.filterMap (placed? isMetadata)) ↔ ∃ e ∈ l, Names e.1 k isMetadata := by
  simp only [Assoc.keys, List.mem_map, List.mem_filterMap, placed?, Option.map_eq_some_iff,
    named?_eq_some_iff]
  constructor
  · rintro ⟨-, ⟨e, he, j, hj, rfl⟩, rfl⟩
    exact ⟨e, he, hj⟩
  · rintro ⟨e, he, hn⟩
    exact ⟨(k, String.ofList e.2), ⟨e, he, k, hn, rfl⟩, rfl⟩

/-- The plan of a listing by itself. -/
def ofEntries (l : Listing) : ImportPlan := extend ⟨[], []⟩ l

theorem mem_keys_ofEntries {l : Listing} :
    (k ∈ Assoc.keys (ofEntries l).uris ↔ ∃ e ∈ l, Names e.1 k false) ∧
      (k ∈ Assoc.keys (ofEntries l).metadataUris ↔ ∃ e ∈ l, Names e.1 k true) := by
  rw [ofEntries, extend, Assoc.mem_keys_update, Assoc.mem_keys_update,
    mem_keys_filterMap_placed, mem_keys_filterMap_placed]
  simp only [Assoc.keys_nil, List.not_mem_nil, false_or, and_self]

theorem mem_orphans_ofEntries {l : Listing} : k ∈ (ofEntries l).orphans ↔ l.Orphan k := by
  obtain ⟨huris, hmetadata⟩ := mem_keys_ofEntries (l := l) (k := k)
  rw [orphans, List.mem_filter, Bool.not_eq_true', ← Bool.not_eq_true,
    Assoc.contains_eq_true_iff, huris, hmetadata, Listing.Orphan]
  push Not
  rfl

/-- Keeping the lesser of two keys again and again leaves the least. -/
theorem foldl_least (ks : List (AppType × String)) (j : AppType × String) :
    let m := ks.foldl (fun a b => if keyBefore b a then b else a) j
    m ∈ j :: ks ∧ ∀ i ∈ j :: ks, keyUpTo m i := by
  induction ks generalizing j with
  | nil =>
      refine ⟨List.mem_cons_self, ?_⟩
      intro i hi
      rw [List.mem_singleton.1 hi]
      exact keyBefore_irrefl j
  | cons i ks ih =>
      have hkept : ∀ a ∈ [j, i], keyUpTo a j → keyUpTo a i →
          let m := ks.foldl (fun a b => if keyBefore b a then b else a) a
          m ∈ j :: i :: ks ∧ ∀ x ∈ j :: i :: ks, keyUpTo m x := by
        intro a ha haj hai
        obtain ⟨hmem, hall⟩ := ih a
        have hm := hall a List.mem_cons_self
        refine ⟨?_, ?_⟩
        · rcases List.mem_cons.1 hmem with h | h
          · rw [h]
            exact List.mem_append_left ks ha
          · exact List.mem_append_right [j, i] h
        · intro x hx
          rcases List.mem_cons.1 hx with rfl | hx
          · exact trans_of keyUpTo hm haj
          · rcases List.mem_cons.1 hx with rfl | hx
            · exact trans_of keyUpTo hm hai
            · exact hall x (List.mem_cons_of_mem a hx)
      rw [List.foldl_cons]
      by_cases h : keyBefore i j = true
      · rw [if_pos h]
        exact hkept i (List.mem_cons_of_mem j List.mem_cons_self) (keyBefore_asymm h)
          (keyBefore_irrefl i)
      · rw [if_neg h]
        exact hkept j List.mem_cons_self (keyBefore_irrefl j) (Bool.eq_false_iff.2 h)

/-- The least of some keys is one of them, and every other one is behind it. -/
theorem least?_eq_some_iff {ks : List (AppType × String)} :
    least? ks = some k ↔ k ∈ ks ∧ ∀ j ∈ ks, j ≠ k → keyBefore k j = true := by
  cases ks with
  | nil => exact ⟨nofun, fun h => absurd h.1 List.not_mem_nil⟩
  | cons j ks =>
      obtain ⟨hmem, hall⟩ := foldl_least ks j
      rw [least?, Option.some.injEq]
      constructor
      · rintro rfl
        exact ⟨hmem, fun i hi hne => keyBefore_of_keyUpTo (hall i hi) (Ne.symm hne)⟩
      · rintro ⟨hk, hleast⟩
        by_contra hne
        have hbefore := hleast _ hmem hne
        rw [hall k hk] at hbefore
        cases hbefore

theorem least?_eq_none_iff {ks : List (AppType × String)} : least? ks = none ↔ ks = [] := by
  cases ks with
  | nil => exact ⟨fun _ => rfl, fun _ => rfl⟩
  | cons k ks => exact ⟨nofun, nofun⟩

/-! ## Acceptance -/

/-- The registrations that a plan states. -/
def stated (p : ImportPlan) : List Registration :=
  p.uris.map fun e => ⟨e.1.1, e.1.2, e.2, Assoc.get? e.1 p.metadataUris⟩

theorem map_key_stated (p : ImportPlan) : p.stated.map key = Assoc.keys p.uris := by
  rw [stated, List.map_map]
  rfl

theorem inOrder_iff {l : Listing} : l.InOrder ↔ (∀ e ∈ l, Sound e) ∧ (ofEntries l).orphans = [] := by
  rw [List.eq_nil_iff_forall_not_mem]
  constructor
  · rintro ⟨hsound, hmetadata⟩
    refine ⟨hsound, ?_⟩
    intro k hk
    obtain ⟨⟨e, he, hn⟩, hnone⟩ := mem_orphans_ofEntries.1 hk
    obtain ⟨e', he', hn'⟩ := hmetadata e he k hn
    exact hnone e' he' hn'
  · rintro ⟨hsound, horphans⟩
    refine ⟨hsound, ?_⟩
    intro e he k hn
    by_contra hnone
    push Not at hnone
    exact horphans k (mem_orphans_ofEntries.2 ⟨⟨e, he, hn⟩, hnone⟩)

theorem ofListing_eq_ok_iff {l : Listing} {rs : List Registration} :
    ofListing l = .ok rs ↔ l.InOrder ∧ rs = (ofEntries l).stated := by
  rw [inOrder_iff, ofListing]
  rcases hp : l.foldlM (fun (p : ImportPlan) e => p.add e.1 e.2) ⟨[], []⟩ with f | p
  · obtain ⟨front, e, back, rfl, -, he⟩ := foldlM_add_eq_error_iff.1 hp
    rw [hp]
    constructor
    · intro h
      cases h
    · rintro ⟨⟨hsound, -⟩, -⟩
      exact absurd (hsound e (List.mem_append_right _ List.mem_cons_self)) he.not_sound
  · rw [hp]
    obtain ⟨hsound, rfl⟩ := foldlM_add_eq_ok_iff.1 hp
    change (ofEntries l).registrations = .ok rs ↔ _
    rw [and_iff_right hsound, registrations, ← least?_eq_none_iff]
    rcases least? (ofEntries l).orphans with _ | k
    · rw [and_iff_right rfl]
      exact ⟨fun h => (Except.ok.inj h).symm, fun h => congrArg Except.ok h.symm⟩
    · exact ⟨nofun, fun h => nomatch h.1⟩

/-- An accepted listing registers the names that its keys hold. -/
theorem mem_map_key_iff {l : Listing} {rs : List Registration} (h : ofListing l = .ok rs) :
    k ∈ rs.map key ↔ ∃ e ∈ l, Names e.1 k false := by
  rw [(ofListing_eq_ok_iff.1 h).2, map_key_stated, mem_keys_ofEntries.1]

theorem ofListing_eq_error_iff {l : Listing} {f : Failure} :
    ofListing l = .error f ↔ l.RefusedFor f := by
  rw [ofListing]
  rcases hp : l.foldlM (fun (p : ImportPlan) e => p.add e.1 e.2) ⟨[], []⟩ with g | p
  · obtain ⟨front, e, back, hl, hfront, he⟩ := foldlM_add_eq_error_iff.1 hp
    rw [hp]
    constructor
    · intro h
      cases h
      exact .entry hl hfront he
    · intro h
      cases h with
      | entry hl hfront he =>
          have h' := (foldlM_add_eq_error_iff (p := ⟨[], []⟩)).2 ⟨_, _, _, hl, hfront, he⟩
          rw [hp] at h'
          exact congrArg Except.error (Except.error.inj h')
      | orphan hsound =>
          rw [hl] at hsound
          exact absurd (hsound e (List.mem_append_right _ List.mem_cons_self)) he.not_sound
  · rw [hp]
    obtain ⟨hsound, rfl⟩ := foldlM_add_eq_ok_iff.1 hp
    change (ofEntries l).registrations = .error f ↔ _
    rw [registrations]
    constructor
    · intro h
      split at h
      · next k hk =>
          cases h
          obtain ⟨hmem, hleast⟩ := least?_eq_some_iff.1 hk
          refine .orphan hsound (mem_orphans_ofEntries.1 hmem) ?_
          intro j hj
          exact hleast j (mem_orphans_ofEntries.2 hj)
      · cases h
    · intro h
      cases h with
      | entry hl _ he =>
          rw [hl] at hsound
          exact absurd (hsound _ (List.mem_append_right _ List.mem_cons_self)) he.not_sound
      | orphan _ hk hleast =>
          have hs := least?_eq_some_iff.2 ⟨mem_orphans_ofEntries.2 hk, fun j hj =>
            hleast j (mem_orphans_ofEntries.1 hj)⟩
          simp only [hs]

/-- Whatever a listing is refused for, it is no fault of the disk. -/
theorem ofListing_not_osFault {l : Listing} {f : Failure} (h : ofListing l = .error f) :
    f.isOsFault = false := by
  cases ofListing_eq_error_iff.1 h with
  | entry _ _ he => cases he <;> rfl
  | orphan => rfl

/-! ## Registrations -/

theorem nodup_keys_filterMap_placed {l : Listing} (h : (Assoc.keys l).Nodup) (isMetadata : Bool) :
    (Assoc.keys (l.filterMap (placed? isMetadata))).Nodup := by
  have hkeys : Assoc.keys (l.filterMap (placed? isMetadata)) =
      (Assoc.keys l).filterMap (named? isMetadata) := by
    rw [Assoc.keys, List.map_filterMap, Assoc.keys, List.filterMap_map]
    apply List.filterMap_congr
    intro e _
    rw [Function.comp_apply, placed?, Option.map_map]
    exact congrFun Option.map_id _
  rw [hkeys]
  refine h.filterMap ?_
  intro key key' k hk hk'
  rw [Option.mem_def, named?_eq_some_iff] at hk hk'
  rw [hk.shape.eq, hk'.shape.eq]

theorem ofEntries_eq {l : Listing} (h : (Assoc.keys l).Nodup) :
    ofEntries l = ⟨l.filterMap (placed? false), l.filterMap (placed? true)⟩ := by
  have hself : ∀ m, Assoc.update [] (l.filterMap (placed? m)) = l.filterMap (placed? m) :=
    fun m => Assoc.ofPairs_eq_self (nodup_keys_filterMap_placed h m)
  rw [ofEntries, extend, hself, hself]

theorem mem_filterMap_placed {l : Listing} {uri : String} :
    (k, uri) ∈ l.filterMap (placed? isMetadata) ↔
      ∃ e ∈ l, Names e.1 k isMetadata ∧ e.2 = uri.toList := by
  simp only [List.mem_filterMap, placed?, Option.map_eq_some_iff, Prod.mk.injEq,
    named?_eq_some_iff]
  constructor
  · rintro ⟨e, he, j, hn, rfl, rfl⟩
    exact ⟨e, he, hn, String.toList_ofList.symm⟩
  · rintro ⟨e, he, hn, hu⟩
    exact ⟨e, he, k, hn, rfl, by rw [hu, String.ofList_toList]⟩

theorem nodup_map_key_stated {l : Listing} (h : (Assoc.keys l).Nodup) :
    ((ofEntries l).stated.map key).Nodup := by
  rw [map_key_stated, ofEntries_eq h]
  exact nodup_keys_filterMap_placed h false

/-- A listing without repeated keys asks for the registrations of its plan. -/
theorem asks_stated {l : Listing} (h : (Assoc.keys l).Nodup) : l.Asks (ofEntries l).stated := by
  refine ⟨?_, ?_⟩
  · rw [stated, ofEntries_eq h]
    have hfront : ∀ es : Listing, ∃ es', es'.Sublist es ∧
        List.Forall₂ l.States es' ((es.filterMap (placed? false)).map fun e =>
          ⟨e.1.1, e.1.2, e.2, Assoc.get? e.1 (l.filterMap (placed? true))⟩) := by
      intro es
      induction es with
      | nil => exact ⟨[], List.Sublist.refl _, .nil⟩
      | cons e es ih =>
          obtain ⟨es', hsub, hall⟩ := ih
          rcases hp : placed? false e with _ | ⟨k, uri⟩
          · rw [List.filterMap_cons_none hp]
            exact ⟨es', hsub.cons e, hall⟩
          · rw [List.filterMap_cons_some hp]
            refine ⟨e :: es', hsub.cons_cons e, .cons ?_ hall⟩
            obtain ⟨e', he', hn, hu⟩ := mem_filterMap_placed.1
              (List.mem_filterMap.2 ⟨e, List.mem_singleton_self e, hp⟩)
            rw [List.mem_singleton] at he'
            subst he'
            refine ⟨hn, hu, ?_⟩
            intro uri'
            rw [← Assoc.mem_iff_get? (nodup_keys_filterMap_placed h true)]
            exact mem_filterMap_placed
    exact hfront l
  · intro e he k hn
    rw [map_key_stated, mem_keys_ofEntries.1]
    exact ⟨e, he, hn⟩

end ImportPlan

end AppCatalog
