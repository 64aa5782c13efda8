import AppCatalog.Proofs.Artifact.Keeping

/-!
# The cache holds whole downloads

Calls come one after another, and the network answers each of them as it likes. A file in the cache
folder is always the whole body of a successful answer to one of the calls, at the place of its URI;
a call that fails leaves no trace among the files; and a call that has succeeded once is answered from
its file ever after (`cache_holds_whole_downloads`).
-/

namespace AppCatalog

open FileTree

namespace Loader

variable {l : Loader} {cache : Path} {folder : FileKey} {w v : World} {uri : String}
  {result : Except Failure Resource}

/-- The world after calls for resources, each with what the network answers at its time. -/
def afterCalls (l : Loader) (calls : List (Network × String)) (w : World) : World :=
  calls.foldl (fun w call => ((l.resource call.2).on { w with network := call.1 }).2) w

theorem afterCalls_concat (l : Loader) (calls : List (Network × String)) (net : Network)
    (uri : String) (w : World) :
    l.afterCalls (calls ++ [(net, uri)]) w =
      ((l.resource uri).on { l.afterCalls calls w with network := net }).2 := by
  rw [afterCalls, List.foldl_append]
  rfl

/-- A loader keeps its downloads, in a folder where there is no file yet. -/
structure StartsEmpty (l : Loader) (cache : Path) (folder : FileKey) (w : World) : Prop where
  keeps : l.cache = some cache
  leads : w.disk.resolve cache = .ok folder
  empty : ∀ k, LiesIn folder k → w.disk.bytesAt? k = none

/-- A key is the place of a URI that has been called for, and the bytes are the whole body that was
the answer to a call. -/
def Served (l : Loader) (cache : Path) (calls : List (Network × String)) (t : FileTree)
    (k : FileKey) (bytes : Bytes) : Prop :=
  ∃ net uri url timeout target d, (net, uri) ∈ calls ∧
    l.locator.locate uri = .ok (.remote url timeout) ∧ CacheLayout.pathOf cache uri = .ok target ∧
    t.resolve target = .ok k ∧ (net.fetch url).2 = .ok (.ok d) ∧ d.body = .ok bytes

/-- Every file in a folder has been served. -/
def HoldsServed (l : Loader) (cache : Path) (folder : FileKey) (calls : List (Network × String))
    (t : FileTree) : Prop :=
  ∀ k bytes, LiesIn folder k → t.bytesAt? k = some bytes → l.Served cache calls t k bytes

theorem Served.mono {calls calls' : List (Network × String)} {t t' : FileTree} {k : FileKey}
    {bytes : Bytes} (h : l.Served cache calls t k bytes) (hcalls : calls ⊆ calls')
    (hfolders : KeepsFolders t t') : l.Served cache calls' t' k bytes := by
  obtain ⟨net, uri, url, timeout, target, d, hmem, hl, hp, hr, hd, hb⟩ := h
  exact ⟨net, uri, url, timeout, target, d, hcalls hmem, hl, hp,
    resolve_of_keepsFolders hfolders hr, hd, hb⟩

theorem HoldsServed.mono {calls calls' : List (Network × String)} {t t' : FileTree}
    (h : l.HoldsServed cache folder calls t) (hcalls : calls ⊆ calls')
    (hfiles : t'.files = t.files) (hfolders : KeepsFolders t t') :
    l.HoldsServed cache folder calls' t' := by
  intro k bytes hk hb
  rw [bytesAt?, hfiles] at hb
  exact (h k bytes hk hb).mono hcalls hfolders

/-! ## One call -/

/-- A call puts a body that it was served, or no file at all. -/
theorem Loads.holdsServed {calls : List (Network × String)} (h : l.Loads uri w result v)
    (hc : l.cache = some cache) (hs : l.HoldsServed cache folder calls w.disk) :
    l.HoldsServed cache folder (calls ++ [(w.network, uri)]) v.disk := by
  have hcalls : calls ⊆ calls ++ [(w.network, uri)] := List.subset_append_left _ _
  cases h with
  | nowhere | atHand | unseen | found => exact hs.mono hcalls rfl (.refl w.disk)
  | failed _ _ hfiles hfolders => exact hs.mono hcalls hfiles hfolders
  | @downloaded url target d k v h hk hd hw hn hr hfiles hfolders =>
      intro j bytes hj hb
      rw [bytesAt?, hfiles, Assoc.get?_insert] at hb
      by_cases hkj : k = j
      · rw [if_pos hkj, Option.some.injEq] at hb
        obtain ⟨cache', timeout, hc', hl, hp⟩ := lead_eq_kept_iff.1 h
        cases hc.symm.trans hc'
        have hbody : d.body = .ok bytes := by
          rw [Download.body, hw, hb]
        exact ⟨w.network, uri, url, timeout, target, d,
          List.mem_append_right _ (List.mem_singleton_self _), hl, hp, hkj ▸ hr, hd, hbody⟩
      · rw [if_neg hkj] at hb
        exact (hs j bytes hj hb).mono hcalls hfolders

theorem Loads.files_of_error {f : Failure} (h : l.Loads uri w (.error f) v) :
    v.disk.files = w.disk.files := by
  cases h with
  | nowhere | unseen => rfl
  | failed _ _ hfiles _ => exact hfiles

/-! ## Many calls -/

theorem keepsDownloads_afterCalls (hc : l.cache = some cache) (calls : List (Network × String))
    (w : World) : KeepsDownloads cache w.disk (l.afterCalls calls w).disk := by
  induction calls using List.reverseRecOn with
  | nil => exact .refl cache w.disk
  | append_singleton calls call ih =>
      obtain ⟨net, uri⟩ := call
      rw [afterCalls_concat]
      have hkeeps :=
        (l.loads uri { l.afterCalls calls w with network := net }).keepsDownloads hc
      exact ih.trans hkeeps

theorem holdsServed_afterCalls (h : l.StartsEmpty cache folder w)
    (calls : List (Network × String)) :
    l.HoldsServed cache folder calls (l.afterCalls calls w).disk := by
  induction calls using List.reverseRecOn with
  | nil =>
      intro k bytes hk hb
      cases (h.empty k hk).symm.trans hb
  | append_singleton calls call ih =>
      obtain ⟨net, uri⟩ := call
      rw [afterCalls_concat]
      exact (l.loads uri { l.afterCalls calls w with network := net }).holdsServed h.keeps ih

/-- Whatever is called for and whatever the network answers, the cache folder holds whole downloads
only, a call that fails changes no file, and a call that has succeeded is answered from its file from
then on, without a request and with the same bytes. -/
theorem cache_holds_whole_downloads (h : l.StartsEmpty cache folder w)
    (calls : List (Network × String)) :
    let v := l.afterCalls calls w
    (∀ k bytes, LiesIn folder k → v.disk.bytesAt? k = some bytes →
      l.Served cache calls v.disk k bytes) ∧
    (∀ net uri f, ((l.resource uri).on { v with network := net }).1 = .error f →
      ((l.resource uri).on { v with network := net }).2.disk.files = v.disk.files) ∧
    ∀ net uri url timeout r v', l.locator.locate uri = .ok (.remote url timeout) →
      (l.resource uri).on { v with network := net } = (.ok r, v') →
      ∃ target bytes, CacheLayout.pathOf cache uri = .ok target ∧ r = .ofPath target uri ∧
        ∀ later net', let u := { l.afterCalls later v' with network := net' }
          (l.resource uri).on u = (.ok r, u) ∧ r.read.on u = (.ok bytes, u) := by
  intro v
  refine ⟨holdsServed_afterCalls h calls, ?_, ?_⟩
  · intro net uri f hf
    have hloads := l.loads uri { v with network := net }
    rw [hf] at hloads
    exact hloads.files_of_error
  · intro net uri url timeout r v' hl hr
    have hloads := l.loads uri { v with network := net }
    rw [hr] at hloads
    obtain ⟨target, hp⟩ := pathOf_of_locate cache hl
    have hlead := lead_eq_kept_iff.2 ⟨cache, timeout, h.keeps, hl, hp⟩
    obtain ⟨rfl, hn, bytes, hb, -⟩ := hloads.holds_of_ok hlead
    refine ⟨target, bytes, hp, rfl, ?_⟩
    intro later net'
    exact resource_of_holds hlead hn
      (keepsDownloads_afterCalls h.keeps later v' target bytes ⟨uri, hp⟩ hb)

/-- A download that breaks off leaves nothing; the next one is kept and answers from then on. -/
theorem cache_holds_whole_downloads_after_break :
    let l : Loader := ⟨.standard, some ⟨.relative, ["cache".toList]⟩⟩
    let w : World := ⟨⟨[], [["cache".toList]], [], none⟩, ([] : Replies), [], []⟩
    let broken : Network := ([("http://h/a", .answer 200 [] [[1]] (some "peer closed"))] : Replies)
    let whole : Network := ([("http://h/a", .answer 200 [] [[1], [2]] none)] : Replies)
    let v := l.afterCalls [(broken, "http://h/a"), (whole, "http://h/a")] w
    l.StartsEmpty ⟨.relative, ["cache".toList]⟩ ["cache".toList] w ∧
      (l.afterCalls [(broken, "http://h/a")] w).disk.files = [] ∧
      ∃ r, ∀ net, (l.resource "http://h/a").on { v with network := net } =
          (.ok r, { v with network := net }) ∧
        r.read.on { v with network := net } = (.ok [1, 2], { v with network := net }) := by
  intro l w broken whole v
  have h : l.StartsEmpty ⟨.relative, ["cache".toList]⟩ ["cache".toList] w :=
    ⟨rfl, by decide, fun _ _ => rfl⟩
  obtain ⟨-, hfails, -⟩ := cache_holds_whole_downloads h []
  obtain ⟨-, -, hkeeps⟩ := cache_holds_whole_downloads h [(broken, "http://h/a")]
  obtain ⟨f, hf⟩ : ∃ f, ((l.resource "http://h/a").on
      { l.afterCalls [] w with network := broken }).1 = .error f :=
    ⟨.resource (.unfetchable "URL [http://h/a]" (.noAnswer "peer closed")), by decide +kernel⟩
  have hwhole : ((l.bytes "http://h/a").on
      { l.afterCalls [(broken, "http://h/a")] w with network := whole }).1 = .ok [1, 2] := by
    decide +kernel
  have hv : v = ((l.resource "http://h/a").on
      { l.afterCalls [(broken, "http://h/a")] w with network := whole }).2 :=
    l.afterCalls_concat [(broken, "http://h/a")] whole "http://h/a" w
  rw [bytes_on] at hwhole
  rcases hr : (l.resource "http://h/a").on
    { l.afterCalls [(broken, "http://h/a")] w with network := whole } with ⟨f' | r, v'⟩
  · rw [hr] at hwhole
    cases hwhole
  · rw [hr] at hwhole hv
    clear_value v
    obtain rfl : v = v' := hv
    obtain ⟨target, bytes, -, -, hafter⟩ :=
      hkeeps whole "http://h/a" "http://h/a" l.locator.timeout r v (by decide +kernel) hr
    obtain rfl : bytes = [1, 2] :=
      Except.ok.inj ((congrArg Prod.fst (hafter [] v.network).2).symm.trans hwhole)
    refine ⟨h, ?_, r, fun net => hafter [] net⟩
    have hbroken := l.afterCalls_concat [] broken "http://h/a" w
    rw [List.nil_append] at hbroken
    rw [hbroken, hfails broken "http://h/a" f hf]
    rfl

end Loader

end AppCatalog
