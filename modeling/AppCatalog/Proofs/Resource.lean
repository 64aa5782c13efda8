import AppCatalog.Artifact.Cache
import AppCatalog.Proofs.Except
import AppCatalog.Proofs.Run

/-!
# Reading resources

Reading a resource requests addresses and does nothing else to the world (`Resource.read_on`). It
fails in many ways, yet never the way a write to the disk fails: a fault of the disk is reported as a
fault of the resource (`Resource.read_not_osFault`).
-/

namespace AppCatalog

/-- Whether a failure is a fault of the disk that nothing has dealt with. -/
def Failure.isOsFault : Failure → Bool
  | .breakdown (.os _) => true
  | _ => false

theorem World.fetch_on (url : Points) (w : World) :
    (World.fetch url).on w =
      ((w.network.fetch url).2, { w with requested := w.requested ++ (w.network.fetch url).1 }) := by
  rw [World.fetch, Run.on_bind_ok (Run.on_get w)]
  exact (Run.on_bind_ok (Run.on_modify _ w)).trans (Run.on_ofExcept _ _)

theorem Network.fetch_not_osFault {net : Network} {url : Points} {f : Failure}
    (h : (net.fetch url).2 = .error f) : f.isOsFault = false := by
  obtain ⟨kind, -, rfl⟩ := mapError_eq_error.1 h
  rfl

namespace Resource

theorem readFile_on (path : Path) (description : String) (w : World) :
    (readFile path description).on w =
      (if path.hasNul then .error (.breakdown .badValue)
        else (w.disk.read path).mapError fun f =>
          .resource (.unreadable description path.toString f), w) := by
  rw [readFile]
  cases path.hasNul with
  | true => rfl
  | false =>
      rw [if_neg Bool.false_ne_true, if_neg Bool.false_ne_true]
      refine (Run.on_bind_ok (Run.on_pure _ w)).trans ?_
      refine (Run.on_bind_ok (Run.on_get w)).trans ?_
      rcases w.disk.read path with f | bytes
      · rfl
      · rfl

theorem readRemote_on (url : Points) (description : String) (w : World) :
    (readRemote url description).on w =
      ((w.network.fetch url).2.bind fun d => (d.bind Download.body).mapError fun f =>
          .resource (.unfetchable description f),
        { w with requested := w.requested ++ (w.network.fetch url).1 }) := by
  rw [readRemote, Run.on_bind, World.fetch_on]
  rcases (w.network.fetch url).2 with f | (f | d)
  · rfl
  · rfl
  · simp only [Except.bind]
    rcases d.body with f | bytes
    · rfl
    · rfl

/-- Reading a resource requests addresses and does nothing else to the world. -/
theorem read_on (resource : Resource) (w : World) :
    ∃ urls, (resource.read.on w).2 = { w with requested := w.requested ++ urls } := by
  cases resource with
  | file path description =>
      refine ⟨[], ?_⟩
      rw [read, readFile_on, List.append_nil]
  | remote url timeout =>
      refine ⟨(w.network.fetch url).1, ?_⟩
      rw [read, readRemote_on]
  | inline data description =>
      refine ⟨[], ?_⟩
      rw [List.append_nil]
      rfl

theorem read_not_osFault {resource : Resource} {w : World} {f : Failure}
    (h : (resource.read.on w).1 = .error f) : f.isOsFault = false := by
  cases resource with
  | file path description =>
      rw [read, readFile_on] at h
      split at h
      · cases h
        rfl
      · rcases hr : w.disk.read path with g | bytes
        · rw [hr] at h
          cases h
          rfl
        · rw [hr] at h
          cases h
  | remote url timeout =>
      rw [read, readRemote_on] at h
      rcases hn : (w.network.fetch url).2 with g | d
      · rw [hn] at h
        cases h
        exact Network.fetch_not_osFault hn
      · rw [hn] at h
        rcases hd : d.bind Download.body with g | bytes
        · simp only [Except.bind] at h hd
          rw [hd] at h
          cases h
          rfl
        · simp only [Except.bind] at h hd
          rw [hd] at h
          cases h
  | inline data description => cases h

end Resource

end AppCatalog
