import AppCatalog.Artifact.Callers
import AppCatalog.Proofs.Artifact.Keeping

/-!
# What callers of one loader can rely on

Whatever steps the calls of a loader take, and in whatever order, the calls and the files fit each
other: a call that loads has not its file there, a call that receives has a temporary file of its
own, and a call that gives a resource has its file there (`Fits`); of the calls that share a lock one
has it; and every file was there before, is a temporary one, or is the whole body of an answer
(`Sound`). Every step keeps this (`Sound.step`), so every run does (`Sound.run`).
-/

namespace AppCatalog

open FileTree

/-- Whether the call has found no file and its download has not come to its end. -/
def CallPhase.isLoading : CallPhase → Bool
  | starting | receiving _ => true
  | _ => false

theorem CallPhase.isLoading_of_reception? {phase : CallPhase} {r : Reception}
    (h : phase.reception? = some r) : phase = .receiving r ∧ phase.isLoading = true := by
  cases phase with
  | receiving r' =>
      cases h
      exact ⟨rfl, rfl⟩
  | _ => cases h

theorem CallPhase.hasLock_of_isLoading {phase : CallPhase} (h : phase.isLoading = true) :
    phase.hasLock = true := by
  cases phase with
  | starting | receiving _ => rfl
  | _ => cases h

namespace Callers

variable {l : Loader} {cache : Path} {w₀ v : World} {nets : List Network} {s s' : Callers}
  {i j : Nat} {c c' : LoadCall} {phase : CallPhase} {t u : FileTree} {k : FileKey}

/-! ## One call and the files -/

/-- A call and the files fit each other. -/
structure Fits (l : Loader) (t : FileTree) (c : LoadCall) : Prop where
  leads : l.lead c.uri = .ok (.kept c.url c.target)
  missing : c.phase.isLoading = true → ¬ t.Keeps c.target
  opened : ∀ r, c.phase.reception? = some r → r.target = c.target ∧ t.HoldsOnce r.temporary ∧
    t.bytesAt? r.temporary = some [] ∧ Reception.IsTemporary r.temporary
  given : ∀ r, c.phase.result? = some (.ok r) → r = .ofPath c.target c.uri ∧ t.Keeps c.target

/-- A call goes on fitting files that have changed, if what it relies on has not. -/
theorem Fits.mono (h : Fits l t c)
    (hmissing : c.phase.isLoading = true → u.Keeps c.target → t.Keeps c.target)
    (hopened : ∀ r, c.phase.reception? = some r →
      (t.HoldsOnce r.temporary → u.HoldsOnce r.temporary) ∧
        u.bytesAt? r.temporary = t.bytesAt? r.temporary)
    (hgiven : t.Keeps c.target → u.Keeps c.target) : Fits l u c where
  leads := h.leads
  missing hl hu := h.missing hl (hmissing hl hu)
  opened r hr := by
    obtain ⟨htarget, honce, hbytes, htemp⟩ := h.opened r hr
    exact ⟨htarget, (hopened r hr).1 honce, (hopened r hr).2.trans hbytes, htemp⟩
  given r hr := ⟨(h.given r hr).1, hgiven (h.given r hr).2⟩

/-- Making folders disturbs no call: where a call has found no file, none comes to light. -/
theorem Fits.makeFolders (h : Fits l t c) (hc : l.cache = some cache) (hg : t.Grounded)
    (hready : ∃ folder, t.resolve cache = .ok folder ∧ t.isFolder folder = true)
    (hfolders : KeepsFolders t u) (hfiles : u.files = t.files) : Fits l u c := by
  have hplace := Loader.isPlace_of_lead hc h.leads
  obtain ⟨folder, hfolder, hisFolder⟩ := hready
  have hbytes : ∀ j, u.bytesAt? j = t.bytesAt? j := fun j => by rw [bytesAt?, hfiles]; rfl
  refine h.mono ?_ ?_ ?_
  · rintro - ⟨hn, bytes, j, hr, hb⟩
    rw [hbytes] at hb
    have hr' := hplace.resolve_of_grounded hr hfolders hfolder hisFolder hg (by simp [hb])
    exact ⟨hn, bytes, j, hr', hb⟩
  · intro r _
    exact ⟨fun honce => by rw [HoldsOnce, hfiles]; exact honce, hbytes _⟩
  · exact fun hk => hk.mono hfolders fun j _ hj => hbytes j ▸ hj

/-- Putting a new temporary file disturbs no call. -/
theorem Fits.putTemporary (h : Fits l t c) (hc : l.cache = some cache)
    (hk : Reception.IsTemporary k) (hnew : t.bytesAt? k = none) : Fits l (t.put k []) c := by
  have hplace := Loader.isPlace_of_lead hc h.leads
  have hbytes : ∀ j, k ≠ j → (t.put k []).bytesAt? j = t.bytesAt? j :=
    fun j hj => (bytesAt?_put t k j []).trans (if_neg hj)
  refine h.mono ?_ ?_ ?_
  · rintro - ⟨hn, bytes, j, hr, hb⟩
    rw [hbytes j (hk.ne_place hplace hr)] at hb
    exact ⟨hn, bytes, j, (resolve_eq_ok_iff (by rfl)).1 hr, hb⟩
  · intro r hr
    have hne : k ≠ r.temporary := by
      rintro rfl
      cases hnew.symm.trans (h.opened r hr).2.2.1
    exact ⟨fun honce => Assoc.HasOnce.insert honce k [], hbytes _ hne⟩
  · refine fun hkeeps => hkeeps.mono (keepsFolders_of_eq rfl) fun j hr hj => ?_
    rw [hbytes j (hk.ne_place hplace hr)]
    exact hj

/-- Removing a temporary file disturbs no call but the one that has opened it. -/
theorem Fits.remove (h : Fits l t c) (hc : l.cache = some cache) (hk : Reception.IsTemporary k)
    (hother : ∀ r, c.phase.reception? = some r → k ≠ r.temporary)
    (hfolders : u.folders = t.folders) (hfiles : u.files = (t.remove k).files) : Fits l u c := by
  have hplace := Loader.isPlace_of_lead hc h.leads
  have hbytes : ∀ j, k ≠ j → u.bytesAt? j = t.bytesAt? j := by
    intro j hj
    rw [bytesAt?, hfiles]
    exact bytesAt?_remove_of_ne hj
  refine h.mono ?_ ?_ ?_
  · rintro - ⟨hn, bytes, j, hr, hb⟩
    rw [hbytes j (hk.ne_place hplace hr)] at hb
    exact ⟨hn, bytes, j, (resolve_eq_ok_iff hfolders).1 hr, hb⟩
  · intro r hr
    refine ⟨fun honce => ?_, hbytes _ (hother r hr)⟩
    rw [HoldsOnce, hfiles]
    exact Assoc.HasOnce.erase honce (hother r hr)
  · refine fun hkeeps => hkeeps.mono (keepsFolders_of_eq hfolders) fun j hr hj => ?_
    rw [hbytes j (hk.ne_place hplace hr)]
    exact hj

/-- Putting a file at a place disturbs no call but one that loads it. -/
theorem Fits.put (h : Fits l t c) (hc : l.cache = some cache) {target : Path}
    (htarget : CacheLayout.IsPlace cache target) (hk : t.resolve target = .ok k)
    (hother : c.phase.isLoading = true → c.target ≠ target) {bytes : Bytes}
    (hfolders : u.folders = t.folders) (hfiles : u.files = (t.put k bytes).files) :
    Fits l u c := by
  have hplace := Loader.isPlace_of_lead hc h.leads
  have hbytes : ∀ j, u.bytesAt? j = if k = j then some bytes else t.bytesAt? j := by
    intro j
    rw [bytesAt?, hfiles]
    exact bytesAt?_put t k j bytes
  refine h.mono ?_ ?_ ?_
  · rintro hl ⟨hn, bytes', j, hr, hb⟩
    have hr' := (resolve_eq_ok_iff hfolders).1 hr
    have hne : k ≠ j := by
      rintro rfl
      exact hother hl (hplace.eq_of_resolve htarget hr' hk)
    rw [hbytes, if_neg hne] at hb
    exact ⟨hn, bytes', j, hr', hb⟩
  · intro r hr
    have hne := (h.opened r hr).2.2.2.ne_place htarget hk
    refine ⟨fun honce => ?_, (hbytes _).trans (if_neg hne.symm)⟩
    rw [HoldsOnce, hfiles]
    exact Assoc.HasOnce.insert honce k bytes
  · refine fun hkeeps => hkeeps.mono (keepsFolders_of_eq hfolders) fun j _ hj => ?_
    rw [hbytes]
    split
    · exact Option.some_ne_none _
    · exact hj

/-! ## All calls and the files -/

/-- Where the bytes at a key come from: they were there before, they are a temporary file's, or they
are the whole body that a network answered to a call. -/
inductive Accounts (l : Loader) (w₀ : World) (nets : List Network) (s : Callers) (k : FileKey)
    (bytes : Bytes) : Prop
  | before (h : w₀.disk.bytesAt? k = some bytes)
  | temporary {j : Nat} {c : LoadCall} {r : Reception} (hc : s.calls[j]? = some c)
    (hr : c.phase.reception? = some r) (hk : r.temporary = k)
  | served {j : Nat} {c : LoadCall} {net : Network} {d : Download} (hc : s.calls[j]? = some c)
    (hr : s.world.disk.resolve c.target = .ok k) (hnet : net ∈ nets)
    (hd : (net.fetch c.url).2 = .ok (.ok d)) (hb : d.body = .ok bytes)

/-- What holds of a loader's calls at any time. -/
structure Sound (l : Loader) (cache : Path) (w₀ : World) (nets : List Network) (s : Callers) :
    Prop where
  network : s.world.network ∈ nets
  ready : ∃ folder, s.world.disk.resolve cache = .ok folder ∧
    s.world.disk.isFolder folder = true
  grounded : s.world.disk.Grounded
  fits : ∀ (i : Nat) (c : LoadCall), s.calls[i]? = some c → Fits l s.world.disk c
  alone : ∀ (i j : Nat) (c c' : LoadCall), s.calls[i]? = some c → s.calls[j]? = some c' →
    c.phase.hasLock = true → c'.phase.hasLock = true →
    CacheLayout.lockOf c.uri = CacheLayout.lockOf c'.uri → i = j
  apart : ∀ (i j : Nat) (c c' : LoadCall) (r r' : Reception), s.calls[i]? = some c →
    s.calls[j]? = some c' → c.phase.reception? = some r → c'.phase.reception? = some r' →
    r.temporary = r'.temporary → i = j
  files : ∀ k bytes, s.world.disk.bytesAt? k = some bytes → s.Accounts l w₀ nets k bytes

theorem getElem?_setPhase (hc : s.calls[i]? = some c) (phase : CallPhase) (j : Nat) :
    (s.setPhase i phase).calls[j]? = if i = j then some { c with phase } else s.calls[j]? := by
  rw [setPhase, List.getElem?_modify]
  split
  · next hj =>
      subst hj
      rw [hc]
      rfl
  · cases s.calls[j]? <;> rfl

/-- A call after one of the calls has come to another phase. -/
theorem setPhase_cases (hc : s.calls[i]? = some c)
    (h : (s.setPhase i phase).calls[j]? = some c') :
    (i = j ∧ c' = { c with phase }) ∨ (i ≠ j ∧ s.calls[j]? = some c') := by
  rw [getElem?_setPhase hc] at h
  split at h
  · next hj =>
      cases h
      exact Or.inl ⟨hj, rfl⟩
  · next hj => exact Or.inr ⟨hj, h⟩

theorem isLocked_eq_false_iff {lock : Nat} : s.isLocked lock = false ↔
    ∀ (j : Nat) (c : LoadCall), s.calls[j]? = some c → c.phase.hasLock = true →
      CacheLayout.lockOf c.uri ≠ lock := by
  rw [isLocked, List.any_eq_false]
  constructor
  · intro h j c hc hlock heq
    exact h c (List.mem_of_getElem? hc) (by rw [hlock, heq, beq_self_eq_true]; rfl)
  · intro h c hc hany
    obtain ⟨j, hj⟩ := List.getElem?_of_mem hc
    rw [Bool.and_eq_true, beq_iff_eq] at hany
    exact h j c hj hany.1 hany.2

/-- What accounts for the bytes of a file still does when a call has gone on, unless they were in
its own temporary file. -/
theorem Accounts.setPhase {bytes : Bytes} (h : s.Accounts l w₀ nets k bytes)
    (hc : s.calls[i]? = some c) (phase : CallPhase) (hfolders : KeepsFolders s.world.disk v.disk)
    (hother : ∀ r, c.phase.reception? = some r → r.temporary ≠ k) :
    (({ s with world := v }).setPhase i phase).Accounts l w₀ nets k bytes := by
  have hcalls := getElem?_setPhase (s := { s with world := v }) hc phase
  cases h with
  | before h => exact .before h
  | @temporary j c' r hj hr hk =>
      have hij : i ≠ j := by
        rintro rfl
        cases hc.symm.trans hj
        exact hother r hr hk
      exact .temporary ((hcalls j).trans ((if_neg hij).trans hj)) hr hk
  | @served j c' net d hj hr hnet hd hb =>
      have hr' := resolve_of_keepsFolders hfolders hr
      by_cases hij : i = j
      · subst hij
        cases hc.symm.trans hj
        exact .served ((hcalls i).trans (if_pos rfl)) hr' hnet hd hb
      · exact .served ((hcalls j).trans ((if_neg hij).trans hj)) hr' hnet hd hb

/-- A call that goes on keeps everything sound, if it fits the files that it leaves, the other calls
still do, and it shares neither a lock nor a temporary file with them. -/
theorem Sound.setPhase (h : Sound l cache w₀ nets s) (hc : s.calls[i]? = some c)
    (hnet : v.network = s.world.network) (hfolders : KeepsFolders s.world.disk v.disk)
    (hgrounded : v.disk.Grounded)
    (hlock : phase.hasLock = true →
      c.phase.hasLock = true ∨ s.isLocked (CacheLayout.lockOf c.uri) = false)
    (hown : Fits l v.disk { c with phase })
    (hothers : ∀ (j : Nat) (c' : LoadCall), i ≠ j → s.calls[j]? = some c' → Fits l v.disk c')
    (happart : ∀ r, phase.reception? = some r → ∀ (j : Nat) (c' : LoadCall) (r' : Reception),
      i ≠ j → s.calls[j]? = some c' → c'.phase.reception? = some r' → r.temporary ≠ r'.temporary)
    (hfiles : ∀ k bytes, v.disk.bytesAt? k = some bytes →
      (({ s with world := v }).setPhase i phase).Accounts l w₀ nets k bytes) :
    Sound l cache w₀ nets (({ s with world := v }).setPhase i phase) where
  network := hnet ▸ h.network
  ready := by
    obtain ⟨folder, hr, hf⟩ := h.ready
    exact ⟨folder, resolve_of_keepsFolders hfolders hr, hfolders folder hf⟩
  grounded := hgrounded
  fits j c' hj := by
    rcases setPhase_cases (s := { s with world := v }) hc hj with ⟨-, rfl⟩ | ⟨hij, hj⟩
    · exact hown
    · exact hothers j c' hij hj
  alone a b ca cb ha hb hla hlb heq := by
    have hfree : ∀ (j : Nat) (c' : LoadCall), i ≠ j → s.calls[j]? = some c' → phase.hasLock = true →
        c'.phase.hasLock = true → CacheLayout.lockOf c.uri ≠ CacheLayout.lockOf c'.uri := by
      intro j c' hij hj hl hl' heq
      rcases hlock hl with hown | hfree
      · exact hij (h.alone i j c c' hc hj hown hl' heq)
      · exact isLocked_eq_false_iff.1 hfree j c' hj hl' heq.symm
    rcases setPhase_cases (s := { s with world := v }) hc ha with ⟨rfl, rfl⟩ | ⟨hia, ha⟩
    · rcases setPhase_cases (s := { s with world := v }) hc hb with ⟨rfl, rfl⟩ | ⟨hib, hb⟩
      · rfl
      · exact absurd heq (hfree b cb hib hb hla hlb)
    · rcases setPhase_cases (s := { s with world := v }) hc hb with ⟨rfl, rfl⟩ | ⟨hib, hb⟩
      · exact absurd heq.symm (hfree a ca hia ha hlb hla)
      · exact h.alone a b ca cb ha hb hla hlb heq
  apart a b ca cb ra rb ha hb hra hrb heq := by
    rcases setPhase_cases (s := { s with world := v }) hc ha with ⟨rfl, rfl⟩ | ⟨hia, ha⟩
    · rcases setPhase_cases (s := { s with world := v }) hc hb with ⟨rfl, rfl⟩ | ⟨hib, hb⟩
      · rfl
      · exact absurd heq (happart ra hra b cb rb hib hb hrb)
    · rcases setPhase_cases (s := { s with world := v }) hc hb with ⟨rfl, rfl⟩ | ⟨hib, hb⟩
      · exact absurd heq.symm (happart rb hrb a ca ra hia ha hra)
      · exact h.apart a b ca cb ra rb ha hb hra hrb heq
  files := hfiles

/-! ## One step -/

/-- A call that neither loads nor gives a resource fits whatever it fitted before. -/
theorem Fits.idle (h : Fits l t c) (hl : phase.isLoading = false)
    (hr : ∀ r, phase.result? ≠ some (.ok r)) : Fits l t { c with phase } where
  leads := h.leads
  missing hl' := by cases hl.symm.trans hl'
  opened r hr' := by cases hl.symm.trans (CallPhase.isLoading_of_reception? hr').2
  given r hr' := absurd hr' (hr r)

theorem perform_of_ok {m : Run World CallPhase} (h : m.on s.world = (.ok phase, v)) :
    s.perform i m = ({ s with world := v }).setPhase i phase := by
  rw [perform, h]

theorem perform_of_error {m : Run World CallPhase} {f : Failure}
    (h : m.on s.world = (.error f, v)) :
    s.perform i m = ({ s with world := v }).setPhase i (.leaving (.error f)) := by
  rw [perform, h]

/-- A call that goes on without touching the files keeps everything sound. -/
theorem Sound.setPhase_same (h : Sound l cache w₀ nets s) (hc : s.calls[i]? = some c)
    (hno : c.phase.reception? = none) (hno' : phase.reception? = none)
    (hlock : phase.hasLock = true →
      c.phase.hasLock = true ∨ s.isLocked (CacheLayout.lockOf c.uri) = false)
    (hown : Fits l s.world.disk { c with phase }) :
    Sound l cache w₀ nets (s.setPhase i phase) := by
  refine h.setPhase (v := s.world) hc rfl (.refl _) h.grounded hlock hown ?_ ?_ ?_
  · exact fun j c' _ hj => h.fits j c' hj
  · intro r hr
    rw [hno'] at hr
    cases hr
  · intro k bytes hb
    refine (h.files k bytes hb).setPhase hc phase (.refl _) ?_
    intro r hr
    rw [hno] at hr
    cases hr

theorem look_on (c : LoadCall) (w : World) :
    (look c).on w = match (Loader.isKept c.target).on w with
      | (.ok true, w') => (.ok (.leaving (.ok (.ofPath c.target c.uri))), w')
      | (.ok false, w') => (.ok .starting, w')
      | (.error f, w') => (.error f, w') := by
  rw [look, Run.on_bind]
  rcases (Loader.isKept c.target).on w with ⟨f | (_ | _), w'⟩ <;> rfl

/-- A call that looks finds its file, or none, and changes nothing. -/
theorem Sound.look (h : Sound l cache w₀ nets s) (hi : s.calls[i]? = some c)
    (hp : c.phase = .looking) : Sound l cache w₀ nets (s.perform i (Callers.look c)) := by
  have hfits := h.fits i c hi
  have hno : c.phase.reception? = none := by rw [hp]; rfl
  have hown : c.phase.hasLock = true := by rw [hp]; rfl
  have hsame : ((Loader.isKept c.target).on s.world).2 = s.world := by rw [Loader.isKept_on]
  have hon := look_on c s.world
  rcases hk : (Loader.isKept c.target).on s.world with ⟨f | (_ | _), w'⟩
  all_goals
    rw [hk] at hsame
    change w' = _ at hsame
    subst hsame
    rw [hk] at hon
  · rw [perform_of_error hon]
    exact h.setPhase_same hi hno rfl (fun _ => Or.inl hown) (hfits.idle rfl nofun)
  · rw [perform_of_ok hon]
    refine h.setPhase_same hi hno rfl (fun _ => Or.inl hown) ⟨hfits.leads, ?_, nofun, nofun⟩
    intro _ hkeeps
    cases hk.symm.trans (Loader.isKept_eq_true_iff.2 hkeeps)
  · rw [perform_of_ok hon]
    refine h.setPhase_same hi hno rfl (fun _ => Or.inl hown) ⟨hfits.leads, nofun, nofun, ?_⟩
    rintro r ⟨⟩
    exact ⟨rfl, Loader.isKept_eq_true_iff.1 hk⟩

theorem start_on (c : LoadCall) (w : World) :
    (start c).on w = (((Reception.opened c.target).on w).1.map .receiving,
      ((Reception.opened c.target).on w).2) := Run.on_map _ _ _

/-- A call that begins to download opens a temporary file that no other call has. -/
theorem Sound.start (h : Sound l cache w₀ nets s) (hcache : l.cache = some cache)
    (hi : s.calls[i]? = some c) (hp : c.phase = .starting) :
    Sound l cache w₀ nets (s.perform i (Callers.start c)) := by
  have hfits := h.fits i c hi
  have hno : ∀ r, c.phase.reception? ≠ some r := by
    intro r hr
    rw [hp] at hr
    cases hr
  have hown : c.phase.hasLock = true := by rw [hp]; rfl
  have hon := start_on c s.world
  rcases ho : (Reception.opened c.target).on s.world with ⟨f | r, w'⟩
  · rw [ho] at hon
    obtain ⟨t, rfl, hfiles, hfolders⟩ := Reception.opened_error ho
    have hmade : ∀ (j : Nat) (c' : LoadCall), s.calls[j]? = some c' → Fits l t c' :=
      fun j c' hj => (h.fits j c' hj).makeFolders hcache h.grounded h.ready hfolders hfiles
    have hbytes : ∀ k, t.bytesAt? k = s.world.disk.bytesAt? k := fun k => by
      rw [bytesAt?, hfiles]
      rfl
    rw [perform_of_error hon]
    refine h.setPhase hi rfl hfolders ?_ (fun _ => Or.inl hown)
      ((hmade i c hi).idle rfl fun r hr => by cases hr) (fun j c' _ hj => hmade j c' hj)
      (fun r hr => by cases hr) ?_
    · exact h.grounded.keepsFolders hfolders fun k hk => hbytes k ▸ hk
    · intro k bytes hb
      exact (h.files k bytes (hbytes k ▸ hb)).setPhase hi _ hfolders fun r hr => absurd hr (hno r)
  · rw [ho] at hon
    obtain ⟨t, key, hm, hkey, hr, rfl, hnew⟩ := Reception.opened_ok ho
    have hfiles := (hasFolders_of_makeFolders hm).1
    have hfolders : KeepsFolders s.world.disk t := keepsFolders_of_makeFolders hm
    have htemp : Reception.IsTemporary r.temporary := by
      rw [hr]
      exact Reception.isTemporary_temporaryKey t key
    have hmade : ∀ (j : Nat) (c' : LoadCall), s.calls[j]? = some c' → Fits l t c' :=
      fun j c' hj => (h.fits j c' hj).makeFolders hcache h.grounded h.ready hfolders hfiles
    have hput : ∀ (j : Nat) (c' : LoadCall), s.calls[j]? = some c' →
        Fits l (t.put r.temporary []) c' :=
      fun j c' hj => (hmade j c' hj).putTemporary hcache htemp hnew
    have hbytes : ∀ k, t.bytesAt? k = s.world.disk.bytesAt? k := fun k => by
      rw [bytesAt?, hfiles]
      rfl
    rw [perform_of_ok hon]
    refine h.setPhase hi rfl hfolders ?_ (fun _ => Or.inl hown) ?_ (fun j c' _ hj => hput j c' hj)
      ?_ ?_
    · obtain ⟨key', hkey', hfolder⟩ := exists_folder_of_makeFolders hm
      cases hkey.symm.trans hkey'
      have hg : t.Grounded := h.grounded.keepsFolders hfolders fun k hk => hbytes k ▸ hk
      obtain ⟨n, hn⟩ := Reception.exists_temporaryKey t key
      have hk : r.temporary = key ++ [Reception.temporaryName n] := by rw [hr]; exact hn
      rw [hk]
      exact hg.put hfolder _ []
    · refine ⟨hfits.leads, fun _ => (hput i c hi).missing (by rw [hp]; rfl), ?_,
        fun r' hr' => by cases hr'⟩
      rintro r' ⟨⟩
      exact ⟨by rw [hr], holdsOnce_put hnew [], (bytesAt?_put t _ _ []).trans (if_pos rfl), htemp⟩
    · rintro r' ⟨⟩ j c' r'' _ hj hr'' heq
      rw [heq] at hnew
      cases hnew.symm.trans ((hmade j c' hj).opened r'' hr'').2.2.1
    · intro k bytes hb
      by_cases hk : r.temporary = k
      · refine .temporary (j := i) (c := { c with phase := .receiving r }) ?_ rfl hk
        exact (getElem?_setPhase (s := { s with world := _ }) hi _ i).trans (if_pos rfl)
      · have hb' := (bytesAt?_put t _ k []).symm.trans hb
        rw [if_neg hk, hbytes] at hb'
        exact (h.files k bytes hb').setPhase hi _ hfolders fun r' hr' => absurd hr' (hno r')

theorem land_on (c : LoadCall) (r : Reception) (w : World) :
    (land c r).on w = match (r.finish c.url).on w with
      | (.ok (), w') => (.ok (.leaving (.ok (.ofPath c.target c.uri))), w')
      | (.error f, w') => (.error f, w') := by
  rw [land, Run.on_bind]
  rcases (r.finish c.url).on w with ⟨f | u, w'⟩ <;> rfl

/-- A call that loads is the only one for its place. -/
theorem Sound.target_ne (h : Sound l cache w₀ nets s) (hcache : l.cache = some cache)
    (hi : s.calls[i]? = some c) (hj : s.calls[j]? = some c') (hij : i ≠ j)
    (hl : c.phase.isLoading = true) (hl' : c'.phase.isLoading = true) : c'.target ≠ c.target := by
  intro heq
  obtain ⟨_, _, hk, -, hp⟩ := Loader.lead_eq_kept_iff.1 (h.fits i c hi).leads
  obtain ⟨_, _, hk', -, hp'⟩ := Loader.lead_eq_kept_iff.1 (h.fits j c' hj).leads
  cases hcache.symm.trans hk
  cases hcache.symm.trans hk'
  rw [heq] at hp'
  exact hij (h.alone i j c c' hi hj (CallPhase.hasLock_of_isLoading hl)
    (CallPhase.hasLock_of_isLoading hl')
    (CacheLayout.lockOf_eq_of_digestOf (CacheLayout.digestOf_eq_of_pathOf hp hp')))

/-- What is left when the temporary file of a call is removed. -/
theorem Sound.remove_temporary (h : Sound l cache w₀ nets s) (hcache : l.cache = some cache)
    {r : Reception} (hi : s.calls[i]? = some c) (hr : c.phase.reception? = some r) :
    (s.world.disk.remove r.temporary).Grounded ∧
      (∀ (j : Nat) (c' : LoadCall), i ≠ j → s.calls[j]? = some c' →
        Fits l (s.world.disk.remove r.temporary) c') ∧
      ∀ k bytes, (s.world.disk.remove r.temporary).bytesAt? k = some bytes →
        r.temporary ≠ k ∧ s.world.disk.bytesAt? k = some bytes := by
  obtain ⟨-, honce, -, htemp⟩ := (h.fits i c hi).opened r hr
  refine ⟨h.grounded.keepsFolders (.refl _) fun k hk => mem_keys_of_remove hk, ?_, ?_⟩
  · intro j c' hij hj
    refine (h.fits j c' hj).remove hcache htemp ?_ rfl rfl
    intro r' hr' heq
    exact hij (h.apart i j c c' r r' hi hj hr hr' heq)
  · intro k bytes hb
    have hne : r.temporary ≠ k := by
      rintro rfl
      cases honce.bytesAt?_remove.symm.trans hb
    exact ⟨hne, (bytesAt?_remove_of_ne hne).symm.trans hb⟩

/-- A call that brings its download to the end has put a whole body at its place, or it fails and
leaves the files as they were. -/
theorem Sound.land (h : Sound l cache w₀ nets s) (hcache : l.cache = some cache) {r : Reception}
    (hi : s.calls[i]? = some c) (hp : c.phase = .receiving r) :
    Sound l cache w₀ nets (s.perform i (Callers.land c r)) := by
  have hr : c.phase.reception? = some r := by rw [hp]; rfl
  have hloading : c.phase.isLoading = true := by rw [hp]; rfl
  have hown : c.phase.hasLock = true := by rw [hp]; rfl
  have hfits := h.fits i c hi
  obtain ⟨htarget, -, hopened, -⟩ := hfits.opened r hr
  obtain ⟨hground, hothers, hback⟩ := h.remove_temporary hcache hi hr
  have hsame : ∀ k bytes, (s.world.disk.remove r.temporary).bytesAt? k = some bytes →
      ∀ r', c.phase.reception? = some r' → r'.temporary ≠ k := by
    intro k bytes hb r' hr'
    rw [hr] at hr'
    cases hr'
    exact (hback k bytes hb).1
  have hon := land_on c r s.world
  obtain ⟨room, -, ⟨f, hf⟩ | ⟨d, k, hok, hd, hw, hn, hk, hfolder⟩⟩ :=
    Reception.finish_cases hopened c.url
  · rw [hf] at hon
    rw [perform_of_error hon]
    refine h.setPhase hi rfl (keepsFolders_of_eq rfl) ?_ (fun _ => Or.inl hown) ?_ ?_ nofun ?_
    · exact hground.keepsFolders (keepsFolders_of_eq rfl) fun _ hk => hk
    · exact ⟨hfits.leads, nofun, nofun, nofun⟩
    · intro j c' hij hj
      refine (hothers j c' hij hj).makeFolders hcache hground ?_ (keepsFolders_of_eq rfl) rfl
      obtain ⟨folder, hr', hf'⟩ := h.ready
      exact ⟨folder, (resolve_eq_ok_iff (by rfl)).2 hr', hf'⟩
    · intro k bytes hb
      exact (h.files k bytes (hback k bytes hb).2).setPhase hi _ (keepsFolders_of_eq rfl)
        (hsame k bytes hb)
  · rw [hok] at hon
    rw [htarget] at hn hk
    have hplace := Loader.isPlace_of_lead hcache hfits.leads
    have hbytes : ∀ j, ((s.world.disk.remove r.temporary).put k d.pieces.flatten).bytesAt? j =
        if k = j then some d.pieces.flatten else (s.world.disk.remove r.temporary).bytesAt? j :=
      fun j => bytesAt?_put _ _ _ _
    rw [perform_of_ok hon]
    refine h.setPhase hi rfl (keepsFolders_of_eq rfl) ?_ (fun _ => Or.inl hown) ?_ ?_ nofun ?_
    · exact (hplace.grounded_put ((resolve_eq_ok_iff (by rfl)).2 hk) hground
        d.pieces.flatten).keepsFolders (keepsFolders_of_eq rfl) fun _ hb => hb
    · refine ⟨hfits.leads, nofun, nofun, ?_⟩
      rintro r' ⟨⟩
      refine ⟨rfl, hn, d.pieces.flatten, k, (resolve_eq_ok_iff (by rfl)).2 hk, ?_⟩
      exact (hbytes k).trans (if_pos rfl)
    · intro j c' hij hj
      refine (hothers j c' hij hj).put hcache hplace ((resolve_eq_ok_iff (by rfl)).2 hk) ?_ rfl rfl
      exact fun hl => h.target_ne hcache hi hj hij hloading hl
    · intro j bytes hb
      have hb' := (hbytes j).symm.trans hb
      split at hb'
      · next hkj =>
          have hbody : d.body = .ok bytes := by
            rw [Download.body, hw]
            exact congrArg Except.ok (Option.some.inj hb')
          refine .served (j := i)
            (c := { c with phase := .leaving (.ok (.ofPath c.target c.uri)) }) ?_
            (hkj ▸ (resolve_eq_ok_iff (by rfl)).2 hk) h.network hd hbody
          exact (getElem?_setPhase (s := { s with world := _ }) hi _ i).trans (if_pos rfl)
      · exact (h.files j bytes (hback j bytes hb').2).setPhase hi _ (keepsFolders_of_eq rfl)
          (hsame j bytes hb')

theorem Sound.call (h : Sound l cache w₀ nets s) {uri url : String} {target : Path}
    (hlead : l.lead uri = .ok (.kept url target)) :
    Sound l cache w₀ nets { s with calls := s.calls ++ [⟨uri, url, target, .waiting⟩] } := by
  have hold : ∀ (j : Nat) (c : LoadCall), s.calls[j]? = some c →
      (s.calls ++ [⟨uri, url, target, .waiting⟩])[j]? = some c := by
    intro j c hj
    rw [List.getElem?_append_left (List.getElem?_eq_some_iff.1 hj).1]
    exact hj
  have hcases : ∀ (j : Nat) (c : LoadCall),
      (s.calls ++ [⟨uri, url, target, .waiting⟩])[j]? = some c →
      s.calls[j]? = some c ∨ c = ⟨uri, url, target, .waiting⟩ := by
    intro j c hj
    rcases Nat.lt_or_ge j s.calls.length with hlt | hge
    · rw [List.getElem?_append_left hlt] at hj
      exact Or.inl hj
    · rw [List.getElem?_append_right hge] at hj
      exact Or.inr (List.mem_singleton.1 (List.mem_of_getElem? hj))
  refine ⟨h.network, h.ready, h.grounded, ?_, ?_, ?_, ?_⟩
  · intro j c hj
    rcases hcases j c hj with hj | rfl
    · exact h.fits j c hj
    · exact ⟨hlead, nofun, nofun, nofun⟩
  · intro i j c c' hi hj hl hl' heq
    rcases hcases i c hi with hi | rfl
    · rcases hcases j c' hj with hj | rfl
      · exact h.alone i j c c' hi hj hl hl' heq
      · cases hl'
    · cases hl
  · intro i j c c' r r' hi hj hr hr' heq
    rcases hcases i c hi with hi | rfl
    · rcases hcases j c' hj with hj | rfl
      · exact h.apart i j c c' r r' hi hj hr hr' heq
      · cases hr'
    · cases hr
  · intro k bytes hb
    cases h.files k bytes hb with
    | before h => exact .before h
    | temporary hc hr hk => exact .temporary (hold _ _ hc) hr hk
    | served hc hr hnet hd hb => exact .served (hold _ _ hc) hr hnet hd hb

theorem Sound.advance (h : Sound l cache w₀ nets s) (hcache : l.cache = some cache)
    (hi : s.calls[i]? = some c) (hs : s.advance i c = some s') : Sound l cache w₀ nets s' := by
  have hfits := h.fits i c hi
  rw [Callers.advance] at hs
  split at hs
  · next hp =>
      split at hs
      · cases hs
      · next hfree =>
          cases hs
          rw [Bool.not_eq_true] at hfree
          exact h.setPhase_same hi (by rw [hp]; rfl) rfl (fun _ => Or.inr hfree)
            (hfits.idle rfl nofun)
  · next hp =>
      cases hs
      exact h.look hi hp
  · next hp =>
      cases hs
      exact h.start hcache hi hp
  · next r hp =>
      cases hs
      exact h.land hcache hi hp
  · next result hp =>
      cases hs
      refine h.setPhase_same hi (by rw [hp]; rfl) rfl nofun ⟨hfits.leads, nofun, nofun, ?_⟩
      rintro r ⟨⟩
      exact hfits.given r (by rw [hp]; rfl)
  · cases hs

/-- The network that an event turns to. -/
def Event.network? : Event → Option Network
  | turn net => some net
  | _ => none

/-- Every step keeps the calls sound. -/
theorem Sound.step (h : Sound l cache w₀ nets s) (hcache : l.cache = some cache) {e : Event}
    (hnet : ∀ net, e.network? = some net → net ∈ nets) (hs : s.step l e = some s') :
    Sound l cache w₀ nets s' := by
  cases e with
  | call uri =>
      rw [Callers.step] at hs
      split at hs
      · next url target hlead =>
          cases hs
          exact h.call hlead
      · cases hs
  | advance i =>
      obtain ⟨c, hi, hs⟩ := Option.bind_eq_some_iff.1 hs
      exact h.advance hcache hi hs
  | turn net =>
      cases hs
      refine ⟨hnet net rfl, h.ready, h.grounded, h.fits, h.alone, h.apart, ?_⟩
      intro k bytes hb
      cases h.files k bytes hb with
      | before h => exact .before h
      | temporary hc hr hk => exact .temporary hc hr hk
      | served hc hr hnet hd hb => exact .served hc hr hnet hd hb

/-- Whatever steps are taken, the calls stay sound. -/
theorem Sound.run (h : Sound l cache w₀ nets s) (hcache : l.cache = some cache) {es : List Event}
    (hnet : ∀ e ∈ es, ∀ net, e.network? = some net → net ∈ nets)
    (hs : Callers.run l es s = some s') : Sound l cache w₀ nets s' := by
  induction es generalizing s with
  | nil =>
      cases hs
      exact h
  | cons e es ih =>
      obtain ⟨t, ht, hs⟩ := Option.bind_eq_some_iff.1 hs
      exact ih (h.step hcache (hnet e List.mem_cons_self) ht)
        (fun e' he' => hnet e' (List.mem_cons_of_mem e he')) hs

end Callers

end AppCatalog
