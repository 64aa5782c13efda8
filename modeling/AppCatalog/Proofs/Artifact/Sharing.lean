import AppCatalog.Proofs.Artifact.Callers

/-!
# Calls share one download

However many calls run at the same time and in whatever order they go on, a URI is being downloaded
by one call at most and is downloaded successfully once at most; a call that gives a resource has a
whole file of its own URI; and a download that fails takes nothing with it, so that the next call
begins one of its own (`callers_share_downloads`).
-/

namespace AppCatalog

open FileTree

namespace Callers

variable {l : Loader} {cache target : Path} {w₀ : World} {nets : List Network} {s s' : Callers}
  {i j : Nat} {c c' : LoadCall} {e : Event} {es : List Event} {uri : String}

/-! ## Files that stay -/

theorem world_perform (s : Callers) (i : Nat) (m : Run World CallPhase) :
    (s.perform i m).world = (m.on s.world).2 := rfl

theorem keeps_start (hk : s.world.disk.Keeps target) (i : Nat) (c : LoadCall) :
    (s.perform i (start c)).world.disk.Keeps target := by
  rw [world_perform, start_on]
  rcases ho : (Reception.opened c.target).on s.world with ⟨f | r, w'⟩
  · obtain ⟨t, rfl, hfiles, hfolders⟩ := Reception.opened_error ho
    refine hk.mono hfolders fun k _ hb => ?_
    rw [bytesAt?, hfiles]
    exact hb
  · obtain ⟨t, key, hm, -, hr, rfl, hnew⟩ := Reception.opened_ok ho
    change (t.put r.temporary []).Keeps target
    have hfolders : KeepsFolders s.world.disk t := keepsFolders_of_makeFolders hm
    refine hk.mono hfolders fun k _ hb => ?_
    rw [bytesAt?_put]
    split
    · exact Option.some_ne_none _
    · rw [bytesAt?, (hasFolders_of_makeFolders hm).1]
      exact hb

theorem Sound.keeps_land (h : Sound l cache w₀ nets s) (hp : CacheLayout.IsPlace cache target)
    (hk : s.world.disk.Keeps target) {r : Reception} (hi : s.calls[i]? = some c)
    (hr : c.phase.reception? = some r) :
    (s.perform i (Callers.land c r)).world.disk.Keeps target := by
  obtain ⟨-, -, hopened, htemp⟩ := (h.fits i c hi).opened r hr
  have hkept : (s.world.disk.remove r.temporary).Keeps target := by
    refine hk.mono (keepsFolders_of_eq rfl) fun k hr' hb => ?_
    rw [bytesAt?_remove_of_ne (htemp.ne_place hp hr')]
    exact hb
  have hon := land_on c r s.world
  rw [world_perform]
  obtain ⟨room, -, ⟨f, hf⟩ | ⟨d, k, hok, -⟩⟩ := Reception.finish_cases hopened c.url
  · rw [hf] at hon
    rw [hon]
    exact hkept.mono (keepsFolders_of_eq rfl) fun _ _ hb => hb
  · rw [hok] at hon
    rw [hon]
    refine hkept.mono (keepsFolders_of_eq rfl) fun j _ hb => ?_
    change ((s.world.disk.remove r.temporary).put k d.pieces.flatten).bytesAt? j ≠ none
    rw [bytesAt?_put]
    split
    · exact Option.some_ne_none _
    · exact hb

/-- A kept file stays kept. -/
theorem Sound.keeps (h : Sound l cache w₀ nets s) (hp : CacheLayout.IsPlace cache target)
    (hs : s.step l e = some s') (hk : s.world.disk.Keeps target) : s'.world.disk.Keeps target := by
  cases e with
  | call uri =>
      rw [Callers.step] at hs
      split at hs
      · cases hs
        exact hk
      · cases hs
  | turn net =>
      cases hs
      exact hk
  | advance i =>
      obtain ⟨c, hi, hs⟩ := Option.bind_eq_some_iff.1 hs
      rw [Callers.advance] at hs
      split at hs
      · split at hs
        · cases hs
        · cases hs
          exact hk
      · cases hs
        rw [world_perform, look_on]
        have hsame : ((Loader.isKept c.target).on s.world).2 = s.world := by rw [Loader.isKept_on]
        rcases hon : (Loader.isKept c.target).on s.world with ⟨f | (_ | _), w'⟩
        all_goals
          rw [hon] at hsame
          obtain rfl : w' = s.world := hsame
          exact hk
      · cases hs
        exact keeps_start hk i c
      · next r hphase =>
          cases hs
          exact h.keeps_land hp hk hi (by rw [hphase]; rfl)
      · cases hs
        exact hk
      · cases hs

/-! ## Downloads that succeed -/

/-- The URI whose download an event brings to a good end, if it does so. -/
def landed? (s : Callers) : Event → Option String
  | .advance i => do
    let c ← s.calls[i]?
    let r ← c.phase.reception?
    match ((land c r).on s.world).1 with
    | .ok _ => some c.uri
    | .error _ => none
  | _ => none

/-- The URIs that a run downloads successfully, in order. -/
def downloads (l : Loader) : List Event → Callers → List String
  | [], _ => []
  | e :: es, s =>
    match s.step l e with
    | none => []
    | some s' => (s.landed? e).toList ++ downloads l es s'

/-- A successful download puts a file where none was. -/
theorem Sound.landed (h : Sound l cache w₀ nets s) (hcache : l.cache = some cache)
    (hnet : ∀ net, e.network? = some net → net ∈ nets) (hs : s.step l e = some s')
    (hl : s.landed? e = some uri) :
    ∃ url target, l.lead uri = .ok (.kept url target) ∧ ¬ s.world.disk.Keeps target ∧
      s'.world.disk.Keeps target := by
  have hafter := h.step hcache hnet hs
  cases e with
  | call uri => cases hl
  | turn net => cases hl
  | advance i =>
      obtain ⟨c, hi, hl⟩ := Option.bind_eq_some_iff.1 hl
      obtain ⟨r, hr, hl⟩ := Option.bind_eq_some_iff.1 hl
      obtain ⟨hphase, hloading⟩ := CallPhase.isLoading_of_reception? hr
      have hfits := h.fits i c hi
      obtain ⟨c', hi', hs⟩ := Option.bind_eq_some_iff.1 hs
      cases hi.symm.trans hi'
      rw [Callers.advance, hphase] at hs
      cases hs
      rcases hon : (Callers.land c r).on s.world with ⟨f | phase, v⟩
      · rw [hon] at hl
        cases hl
      · rw [hon] at hl
        cases hl
        refine ⟨c.url, c.target, hfits.leads, hfits.missing hloading, ?_⟩
        rw [perform_of_ok hon] at hafter ⊢
        have hcall := (getElem?_setPhase (s := { s with world := v }) hi phase i).trans (if_pos rfl)
        have hgiven : phase.result? = some (.ok (.ofPath c.target c.uri)) := by
          rw [land_on] at hon
          split at hon
          · cases hon
            rfl
          · cases hon
        exact ((hafter.fits i _ hcall).given _ hgiven).2

/-- What a run downloads was not there when it began, and is downloaded once. -/
theorem Sound.downloads (h : Sound l cache w₀ nets s) (hcache : l.cache = some cache)
    (hnet : ∀ e ∈ es, ∀ net, e.network? = some net → net ∈ nets) :
    (Callers.downloads l es s).Nodup ∧ ∀ uri ∈ Callers.downloads l es s,
      ∃ url target, l.lead uri = .ok (.kept url target) ∧ ¬ s.world.disk.Keeps target := by
  induction es generalizing s with
  | nil => exact ⟨List.nodup_nil, nofun⟩
  | cons e es ih =>
      rw [Callers.downloads]
      rcases hs : s.step l e with _ | s'
      · exact ⟨List.nodup_nil, nofun⟩
      · have hnet' := hnet e List.mem_cons_self
        obtain ⟨hnodup, hmissing⟩ := ih (h.step hcache hnet' hs)
          fun e' he' => hnet e' (List.mem_cons_of_mem e he')
        have hbefore : ∀ uri ∈ Callers.downloads l es s', ∃ url target,
            l.lead uri = .ok (.kept url target) ∧ ¬ s.world.disk.Keeps target := by
          intro uri huri
          obtain ⟨url, target, hlead, hno⟩ := hmissing uri huri
          exact ⟨url, target, hlead,
            fun hk => hno (h.keeps (Loader.isPlace_of_lead hcache hlead) hs hk)⟩
        simp only
        rcases hl : s.landed? e with _ | uri
        · exact ⟨hnodup, hbefore⟩
        · obtain ⟨url, target, hlead, hno, hkeeps⟩ := h.landed hcache hnet' hs hl
          rw [Option.toList_some, List.singleton_append]
          refine ⟨List.nodup_cons.2 ⟨?_, hnodup⟩, ?_⟩
          · intro hmem
            obtain ⟨url', target', hlead', hno'⟩ := hmissing uri hmem
            cases hlead.symm.trans hlead'
            exact hno' hkeeps
          · intro uri' huri'
            rcases List.mem_cons.1 huri' with rfl | huri'
            · exact ⟨url, target, hlead, hno⟩
            · exact hbefore uri' huri'

/-! ## Downloads that fail -/

theorem step_advance (hi : s.calls[i]? = some c) : s.step l (.advance i) = s.advance i c := by
  rw [step, hi, Option.bind_some]

theorem run_advance_twice {t u : Callers} (ht : s.step l (.advance i) = some t)
    (hu : t.step l (.advance i) = some u) : run l [.advance i, .advance i] s = some u := by
  rw [run, ht, Option.bind_some, run, hu]
  rfl

/-- The phase of a call that has just gone on. -/
theorem phase_setPhase (hi : s.calls[i]? = some c) (phase : CallPhase) :
    (s.setPhase i phase).calls[i]? = some { c with phase } :=
  (getElem?_setPhase hi phase i).trans (if_pos rfl)

/-- A call whose file is not there begins a download of its own once it gets the lock, unless the
name of its file is one that cannot even be looked at. -/
theorem retries (hj : s.calls[j]? = some c) (hw : c.phase = .waiting)
    (hfree : s.isLocked (CacheLayout.lockOf c.uri) = false) (hno : ¬ s.world.disk.Keeps c.target) :
    ∃ t, run l [.advance j, .advance j] s = some t ∧
      (t.calls[j]? = some { c with phase := .starting } ∨
        ∃ fault, s.world.disk.isFile c.target = .error fault) := by
  have htake : s.step l (.advance j) = some (s.setPhase j .looking) := by
    rw [step_advance hj, advance, hw]
    exact if_neg (by rw [hfree]; exact Bool.false_ne_true)
  have hlooking := phase_setPhase hj .looking
  have hlook : (s.setPhase j .looking).step l (.advance j) = some
      ((s.setPhase j .looking).perform j (look { c with phase := .looking })) := by
    rw [step_advance hlooking, advance]
  refine ⟨_, run_advance_twice htake hlook, ?_⟩
  have hkept := Loader.isKept_on c.target s.world
  have hon := look_on { c with phase := .looking } (s.setPhase j .looking).world
  rcases hk : (Loader.isKept c.target).on s.world with ⟨f | (_ | _), v⟩
  · right
    rw [hk] at hkept
    cases hn : c.target.hasNul with
    | true =>
        rw [hn, if_pos rfl] at hkept
        cases hkept
    | false =>
        rw [hn, if_neg Bool.false_ne_true] at hkept
        rcases hf : s.world.disk.isFile c.target with fault | b
        · exact ⟨fault, rfl⟩
        · rw [hf] at hkept
          cases hkept
  · left
    have hk' : (Loader.isKept c.target).on (s.setPhase j .looking).world = (.ok false, v) := hk
    simp only [hk'] at hon
    rw [perform_of_ok hon]
    exact phase_setPhase (s := { s.setPhase j .looking with world := v }) hlooking .starting
  · obtain rfl : v = s.world := by
      rw [hk] at hkept
      exact congrArg Prod.snd hkept
    exact absurd (Loader.isKept_eq_true_iff.1 hk) hno

/-- A download that fails ends its own call only: the call gives its failure and its lock back, and
of all files only the temporary one has changed, which is gone. -/
theorem Sound.land_error (h : Sound l cache w₀ nets s) {r : Reception} {f : Failure}
    (hi : s.calls[i]? = some c) (hp : c.phase = .receiving r)
    (hf : ((Callers.land c r).on s.world).1 = .error f) :
    ∃ t, Callers.run l [.advance i, .advance i] s = some t ∧
      (∀ j : Nat, t.calls[j]? =
        if i = j then some { c with phase := .returned (.error f) } else s.calls[j]?) ∧
      t.world.disk.folders = s.world.disk.folders ∧ ∀ k, t.world.disk.bytesAt? k =
        if r.temporary = k then none else s.world.disk.bytesAt? k := by
  obtain ⟨-, honce, hopened, -⟩ := (h.fits i c hi).opened r (by rw [hp]; rfl)
  have hon := land_on c r s.world
  obtain ⟨room, -, ⟨f', hf'⟩ | ⟨d, k, hok, -⟩⟩ := Reception.finish_cases hopened c.url
  · rw [hf'] at hon
    obtain rfl : f' = f := by
      rw [hon] at hf
      exact Except.error.inj hf
    obtain ⟨v, hv, hfolders, hbytes⟩ : ∃ v, (Callers.land c r).on s.world = (.error f', v) ∧
        v.disk.folders = s.world.disk.folders ∧
        ∀ k, v.disk.bytesAt? k = (s.world.disk.remove r.temporary).bytesAt? k :=
      ⟨_, hon, rfl, fun _ => rfl⟩
    have hland : s.step l (.advance i) =
        some ({ s with world := v }.setPhase i (.leaving (.error f'))) := by
      rw [step_advance hi, Callers.advance, hp, ← perform_of_error hv]
    have hleaving := phase_setPhase (s := { s with world := v }) hi (.leaving (.error f'))
    have hleave : ({ s with world := v }.setPhase i (.leaving (.error f'))).step l (.advance i) =
        some (({ s with world := v }.setPhase i (.leaving (.error f'))).setPhase i
          (.returned (.error f'))) := by
      rw [step_advance hleaving, Callers.advance]
    refine ⟨_, run_advance_twice hland hleave, ?_, hfolders, ?_⟩
    · intro j
      rw [getElem?_setPhase hleaving]
      split
      · rfl
      · next hij => exact (getElem?_setPhase (s := { s with world := v }) hi _ j).trans (if_neg hij)
    · intro k
      refine (hbytes k).trans ?_
      split
      · next hk =>
          rw [← hk]
          exact honce.bytesAt?_remove
      · next hk => exact bytesAt?_remove_of_ne hk
  · rw [hok] at hon
    rw [hon] at hf
    cases hf

/-- What a call has come to give does not wait for another call of its URI: after a failed download
the lock is free and no file is there. -/
theorem Sound.after_land_error (h : Sound l cache w₀ nets s) {r : Reception} {f : Failure}
    {t : Callers} (hi : s.calls[i]? = some c) (hp : c.phase = .receiving r)
    (hcalls : ∀ j : Nat, t.calls[j]? =
      if i = j then some { c with phase := .returned (.error f) } else s.calls[j]?)
    (hfolders : t.world.disk.folders = s.world.disk.folders)
    (hfiles : ∀ k, t.world.disk.bytesAt? k =
      if r.temporary = k then none else s.world.disk.bytesAt? k) :
    t.isLocked (CacheLayout.lockOf c.uri) = false ∧ ¬ t.world.disk.Keeps c.target := by
  have hloading : c.phase.isLoading = true := by rw [hp]; rfl
  constructor
  · rw [isLocked_eq_false_iff]
    intro j c' hj hlock heq
    rw [hcalls] at hj
    split at hj
    · cases hj
      cases hlock
    · next hij =>
        exact hij (h.alone i j c c' hi hj (CallPhase.hasLock_of_isLoading hloading) hlock heq.symm)
  · intro hk
    refine (h.fits i c hi).missing hloading (hk.mono (keepsFolders_of_eq hfolders.symm) ?_)
    intro k _ hb
    rw [hfiles] at hb
    split at hb
    · exact absurd rfl hb
    · exact hb

theorem call_on {t u : Callers} (h : t.step l (.call uri) = some u) :
    u.world = t.world ∧ (∀ lock, u.isLocked lock = t.isLocked lock) := by
  rw [step] at h
  split at h
  · cases h
    refine ⟨rfl, fun lock => ?_⟩
    rw [isLocked, List.any_append]
    exact Bool.or_false _
  · cases h

/-! ## All together -/

/-- The networks that the calls of a run may meet. -/
def networks (w : World) (es : List Event) : List Network := w.network :: es.filterMap Event.network?

/-- The file of a call is whole: it was there before anything was called for, or it holds the whole
body that a network has answered to a call. -/
def HasWhole (w : World) (nets : List Network) (s : Callers) (c c' : LoadCall) : Prop :=
  ∃ k bytes, s.world.disk.resolve c.target = .ok k ∧ s.world.disk.bytesAt? k = some bytes ∧
    (w.disk.bytesAt? k = some bytes ∨
      ∃ net ∈ nets, ∃ d, (net.fetch c'.url).2 = .ok (.ok d) ∧ d.body = .ok bytes)

/-- No two URIs that are called for have one digest. -/
def DistinctDigests (s : Callers) : Prop :=
  ∀ c ∈ s.calls, ∀ c' ∈ s.calls, CacheLayout.digestOf c.uri = CacheLayout.digestOf c'.uri →
    c.uri = c'.uri

theorem sound_of_prepare {w before : World} (hcache : l.cache = some cache)
    (hprepared : l.prepare.on before = (.ok (), w)) (hg : before.disk.Grounded)
    (hnet : w.network ∈ nets) : Sound l cache w nets ⟨w, []⟩ := by
  obtain ⟨t, hm, rfl⟩ : ∃ t, before.disk.makeFolders cache = .ok t ∧
      w = { before with disk := t } := by
    rw [Loader.prepare_on hcache] at hprepared
    split at hprepared
    · next t hm => exact ⟨t, hm, (congrArg Prod.snd hprepared).symm⟩
    · cases hprepared
  have hnone : ∀ (i : Nat) (c : LoadCall), ([] : List LoadCall)[i]? ≠ some c := by
    intro i c
    rw [List.getElem?_nil]
    exact Option.some_ne_none c |>.symm
  refine ⟨hnet, exists_folder_of_makeFolders hm, ?_, fun i c hi => absurd hi (hnone i c),
    fun i _ c _ hi => absurd hi (hnone i c), fun i _ c _ _ _ hi => absurd hi (hnone i c),
    fun k bytes hb => .before hb⟩
  refine hg.keepsFolders (keepsFolders_of_makeFolders hm) fun k hk => ?_
  rw [bytesAt?, (hasFolders_of_makeFolders hm).1] at hk
  exact hk

/-- A call that gives a resource has a whole file, of a call with the same digest. -/
theorem Sound.hasWhole (h : Sound l cache w₀ nets s) (hcache : l.cache = some cache)
    (hc : c ∈ s.calls) (hk : s.world.disk.Keeps c.target) :
    ∃ c' ∈ s.calls, CacheLayout.digestOf c.uri = CacheLayout.digestOf c'.uri ∧
      HasWhole w₀ nets s c c' := by
  obtain ⟨i, hi⟩ := List.getElem?_of_mem hc
  obtain ⟨-, bytes, k, hr, hb⟩ := hk
  have hplace := Loader.isPlace_of_lead hcache (h.fits i c hi).leads
  cases h.files k bytes hb with
  | before h => exact ⟨c, hc, rfl, k, bytes, hr, hb, Or.inl h⟩
  | @temporary j c' r hj hr' hk =>
      exact absurd hk (((h.fits j c' hj).opened r hr').2.2.2.ne_place hplace hr)
  | @served j c' net d hj hr' hnet hd hbody =>
      have hplace' := Loader.isPlace_of_lead hcache (h.fits j c' hj).leads
      obtain ⟨_, _, hkeep, -, hp⟩ := Loader.lead_eq_kept_iff.1 (h.fits i c hi).leads
      obtain ⟨_, _, hkeep', -, hp'⟩ := Loader.lead_eq_kept_iff.1 (h.fits j c' hj).leads
      cases hcache.symm.trans hkeep
      cases hcache.symm.trans hkeep'
      rw [← hplace.eq_of_resolve hplace' hr hr'] at hp'
      exact ⟨c', List.mem_of_getElem? hj, CacheLayout.digestOf_eq_of_pathOf hp hp', k, bytes, hr, hb,
        Or.inr ⟨net, hnet, d, hd, hbody⟩⟩

/-- However many calls there are, whatever they are for, and in whatever order they go on: no URI is
downloaded by two calls at a time; none is downloaded successfully twice; a call that gives a resource
has a whole file by then, of its own URI and of no other as far as digests tell URIs apart; and a
download that fails ends its own call alone and leaves the files as they were, so that a call of the
same URI that waits or comes later downloads by itself, unless the name of its file is one that cannot
be looked at. -/
theorem callers_share_downloads {w before : World} (hcache : l.cache = some cache)
    (hprepared : l.prepare.on before = (.ok (), w)) (hg : before.disk.Grounded)
    (hrun : run l es ⟨w, []⟩ = some s) :
    (∀ (i j : Nat) (c c' : LoadCall) (r r' : Reception), s.calls[i]? = some c →
      s.calls[j]? = some c' → c.phase.reception? = some r → c'.phase.reception? = some r' →
      c.uri = c'.uri → i = j) ∧
    (downloads l es ⟨w, []⟩).Nodup ∧
    (∀ c ∈ s.calls, ∀ r, c.phase = .returned (.ok r) → r = .ofPath c.target c.uri ∧
      ∃ c' ∈ s.calls, CacheLayout.digestOf c.uri = CacheLayout.digestOf c'.uri ∧
        HasWhole w (networks w es) s c c') ∧
    (s.DistinctDigests →
      (∀ c ∈ s.calls, ∀ r, c.phase = .returned (.ok r) → HasWhole w (networks w es) s c c) ∧
      ∀ c ∈ s.calls, ∀ c' ∈ s.calls, c.uri ≠ c'.uri → c.target ≠ c'.target) ∧
    ∀ (i : Nat) (c : LoadCall) (r : Reception) (f : Failure), s.calls[i]? = some c →
      c.phase = .receiving r → ((land c r).on s.world).1 = .error f →
      ∃ t, run l [.advance i, .advance i] s = some t ∧
        (∀ j : Nat, t.calls[j]? =
          if i = j then some { c with phase := .returned (.error f) } else s.calls[j]?) ∧
        (∀ k, t.world.disk.bytesAt? k =
          if r.temporary = k then none else s.world.disk.bytesAt? k) ∧
        ∀ (u : Callers) (j : Nat) (c' : LoadCall), u = t ∨ t.step l (.call c.uri) = some u →
          u.calls[j]? = some c' → c'.uri = c.uri → c'.phase = .waiting →
          ∃ v, run l [.advance j, .advance j] u = some v ∧
            (v.calls[j]? = some { c' with phase := .starting } ∨
              ∃ fault, u.world.disk.isFile c'.target = .error fault) := by
  have hnet : ∀ e ∈ es, ∀ net, e.network? = some net → net ∈ networks w es :=
    fun e he net hn => List.mem_cons_of_mem _ (List.mem_filterMap.2 ⟨e, he, hn⟩)
  have hstart : Sound l cache w (networks w es) ⟨w, []⟩ :=
    sound_of_prepare hcache hprepared hg List.mem_cons_self
  have h := hstart.run hcache hnet hrun
  have hleads : ∀ c ∈ s.calls, l.lead c.uri = .ok (.kept c.url c.target) := by
    intro c hc
    obtain ⟨i, hi⟩ := List.getElem?_of_mem hc
    exact (h.fits i c hi).leads
  have hgiven : ∀ c ∈ s.calls, ∀ r, c.phase = .returned (.ok r) →
      r = .ofPath c.target c.uri ∧ s.world.disk.Keeps c.target := by
    intro c hc r hr
    obtain ⟨i, hi⟩ := List.getElem?_of_mem hc
    exact (h.fits i c hi).given r (by rw [hr]; rfl)
  refine ⟨?_, (hstart.downloads hcache hnet).1, ?_, ?_, ?_⟩
  · intro i j c c' r r' hi hj hr hr' heq
    exact h.alone i j c c' hi hj
      (CallPhase.hasLock_of_isLoading (CallPhase.isLoading_of_reception? hr).2)
      (CallPhase.hasLock_of_isLoading (CallPhase.isLoading_of_reception? hr').2) (by rw [heq])
  · intro c hc r hr
    exact ⟨(hgiven c hc r hr).1, h.hasWhole hcache hc (hgiven c hc r hr).2⟩
  · intro hdigests
    refine ⟨?_, ?_⟩
    · intro c hc r hr
      obtain ⟨c', hc', hdigest, hwhole⟩ := h.hasWhole hcache hc (hgiven c hc r hr).2
      have huri := hdigests c hc c' hc' hdigest
      have hurl : c'.url = c.url := by
        have hlead := hleads c' hc'
        rw [← huri, hleads c hc, Except.ok.injEq, Lead.kept.injEq] at hlead
        exact hlead.1.symm
      rw [HasWhole, hurl] at hwhole
      exact hwhole
    · intro c hc c' hc' hne htarget
      obtain ⟨_, _, hk, -, hp⟩ := Loader.lead_eq_kept_iff.1 (hleads c hc)
      obtain ⟨_, _, hk', -, hp'⟩ := Loader.lead_eq_kept_iff.1 (hleads c' hc')
      cases hk.symm.trans hk'
      rw [← htarget] at hp'
      exact hne (hdigests c hc c' hc' (CacheLayout.digestOf_eq_of_pathOf hp hp'))
  · intro i c r f hi hp hf
    obtain ⟨t, ht, hcalls, hfolders, hfiles⟩ := h.land_error hi hp hf
    refine ⟨t, ht, hcalls, hfiles, ?_⟩
    obtain ⟨hfree, hno⟩ := h.after_land_error hi hp hcalls hfolders hfiles
    have hsound : Sound l cache w (networks w es) t := by
      refine h.run hcache ?_ ht
      intro e he net hn
      obtain rfl : e = .advance i := by
        rw [List.mem_cons, List.mem_singleton, or_self] at he
        exact he
      cases hn
    intro u j c' hu hj huri hwaiting
    have hstate : Sound l cache w (networks w es) u ∧ u.world = t.world ∧
        ∀ lock, u.isLocked lock = t.isLocked lock := by
      rcases hu with rfl | hu
      · exact ⟨hsound, rfl, fun _ => rfl⟩
      · exact ⟨hsound.step hcache (fun _ hn => by cases hn) hu, call_on hu⟩
    obtain ⟨hsound', hworld, hlocks⟩ := hstate
    have htarget : c'.target = c.target := by
      have hlead := (hsound'.fits j c' hj).leads
      rw [huri, hleads c (List.mem_of_getElem? hi), Except.ok.injEq, Lead.kept.injEq] at hlead
      exact hlead.2.symm
    exact retries hj hwaiting (by rw [hlocks, huri]; exact hfree)
      (by rw [hworld, htarget]; exact hno)

/-- Three calls for one URI: the download of the first fails, the second downloads by itself, and
the third finds the file. -/
theorem callers_share_downloads_after_failure :
    let l : Loader := ⟨.standard, some ⟨.relative, ["cache".toList]⟩⟩
    let broken : Network := ([("http://h/a", .answer 200 [] [[1]] (some "peer closed"))] : Replies)
    let whole : Network := ([("http://h/a", .answer 200 [] [[1], [2]] none)] : Replies)
    let before : World := ⟨.empty, broken, [], []⟩
    let w : World := ⟨⟨[], [["cache".toList]], [], none⟩, broken, [], []⟩
    let es : List Event := List.replicate 3 (.call "http://h/a") ++ List.replicate 5 (.advance 0) ++
      [.turn whole] ++ List.replicate 5 (.advance 1) ++ List.replicate 3 (.advance 2)
    l.prepare.on before = (.ok (), w) ∧ before.disk.Grounded ∧
      ∃ s, run l es ⟨w, []⟩ = some s ∧ downloads l es ⟨w, []⟩ = ["http://h/a"] ∧
        s.calls.map (fun c => c.phase.result?.map (·.isOk)) = [some false, some true, some true] ∧
        ∀ c ∈ s.calls, ∀ r, c.phase = .returned (.ok r) → r = .ofPath c.target c.uri ∧
          ∃ c' ∈ s.calls, CacheLayout.digestOf c.uri = CacheLayout.digestOf c'.uri ∧
            HasWhole w (networks w es) s c c' := by
  intro l broken whole before w es
  have hprepared : l.prepare.on before = (.ok (), w) := rfl
  have hg : before.disk.Grounded := fun k segment h => absurd rfl h
  have hresults : (run l es ⟨w, []⟩).map
      (fun s => s.calls.map fun c => c.phase.result?.map (·.isOk)) =
        some [some false, some true, some true] := by decide +kernel
  rcases hrun : run l es ⟨w, []⟩ with _ | s
  · rw [hrun] at hresults
    cases hresults
  · rw [hrun] at hresults
    exact ⟨hprepared, hg, s, rfl, by decide +kernel, Option.some.inj hresults,
      (callers_share_downloads rfl hprepared hg hrun).2.2.1⟩

end Callers

end AppCatalog
