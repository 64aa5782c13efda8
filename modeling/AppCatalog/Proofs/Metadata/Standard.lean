import AppCatalog.Proofs.Metadata.Breakdown
import AppCatalog.Proofs.Yaml.Document

/-!
# What breaks through the standard readers

The readers that the catalog is run with raise little that is not caught: an archive that is not even
sound enough to be told from a document, what it takes to unpack a member, values that are too large,
too deep or no values of their kind. An artifact that breaks through them does so in one of twelve
ways (`Metadata.BreaksThrough.mem_standardBreakdowns`).
-/

namespace AppCatalog.Metadata

variable {data : Bytes} {b : Breakdown}

/-- What the readers that the catalog is run with raise where it is not caught. -/
def standardBreakdowns : List Breakdown :=
  [.badArchive, .unknownCompression, .lockedMember, .badDeflate, .badBzip, .badLzma, .badValue,
    .tooLarge, .tooDeep, .missingPart, .missingKey, .missingAttribute]

theorem mem_of_archive {f : Archive.Fault} (h : caughtInArchive f.breakdown = none) :
    f.breakdown ∈ standardBreakdowns := by
  cases f <;> first | decide | cases h

theorem mem_of_member {members : Members} (hm : Readers.standard.members data = .ok members)
    {name : List Char} (h : members name = .error b) (hb : caughtInArchive b = none) :
    b ∈ standardBreakdowns := by
  obtain ⟨d, -, rfl⟩ := except_map_ok (mapError_eq_ok hm)
  obtain ⟨f, -, rfl⟩ := mapError_eq_error.1 h
  exact mem_of_archive hb

theorem failsOnly_write (v : Value) :
    FailsOnly (· ∈ standardBreakdowns) (Readers.standard.write v) := by
  simp only [Readers.standard, Value.written]
  -- The bound on the digits is too large a number to be evaluated.
  generalize Text.integerBound = bound
  exact .ite (.ok _) (.error (by decide))

theorem failsOnly_ofEntries (entries : List (Value × Value)) :
    FailsOnly (· ∈ standardBreakdowns) (ConfigOption.ofEntries Readers.standard.write entries) := by
  have htext : ∀ v, FailsOnly (· ∈ standardBreakdowns)
      (ConfigOption.textOf Readers.standard.write v) := by
    rintro (_ | v)
    · exact .ok _
    · exact failsOnly_write v
  rw [ConfigOption.ofEntries]
  exact .bind (htext _) fun _ => .bind (htext _) fun _ => .bind (htext _) fun _ => .ok _

theorem failsOnly_optionsOf (properties : List Value) :
    FailsOnly (· ∈ standardBreakdowns) (optionsOf .standard properties) := by
  have hall := Yaml.failsOnly_mapM failsOnly_ofEntries (properties.filterMap entries?)
  rw [optionsOf]
  exact hall.map _

theorem failsOnly_wide? (data : Bytes) (location : Nat) :
    FailsOnly (· = .unsound) (Archive.EndRecord.wide? data location) := by
  rw [Archive.EndRecord.wide?]
  simp only
  split
  · exact .ok _
  · split
    · exact .error rfl
    · exact .ite (.ok _) (.ok _)

theorem failsOnly_find (data : Bytes) :
    FailsOnly (· = .unsound) (Archive.EndRecord.find data) := by
  intro f h
  unfold Archive.EndRecord.find at h
  rcases hlocate : Archive.EndRecord.locate? data with _ | location
  · rw [hlocate] at h
    cases h
  · rw [hlocate] at h
    simp only at h
    rcases hwide : Archive.EndRecord.wide? data location with fault | _ | wide
    · rw [hwide] at h
      cases h
      exact failsOnly_wide? data location _ hwide
    · rw [hwide] at h
      cases h
    · rw [hwide] at h
      cases h

theorem failsOnly_isArchive (data : Bytes) :
    FailsOnly (· ∈ standardBreakdowns) (Readers.standard.isArchive data) := by
  intro b h
  obtain ⟨f, hf, rfl⟩ := mapError_eq_error.1 h
  obtain rfl := (failsOnly_find data).map Option.isSome f hf
  decide

/-- An artifact that breaks through the readers that the catalog is run with does so in one of twelve
ways. -/
theorem BreaksThrough.mem_standardBreakdowns (h : BreaksThrough .standard data b) :
    b ∈ standardBreakdowns := by
  cases h with
  | isArchive h => exact failsOnly_isArchive data b h
  | members ha h hb =>
      obtain ⟨f, -, rfl⟩ := mapError_eq_error.1 h
      exact mem_of_archive hb
  | properties ha hm h hb => exact mem_of_member hm h hb
  | json ha hm hp ht h hb =>
      obtain ⟨f, -, rfl⟩ := mapError_eq_error.1 h
      cases f <;> first | decide | cases hb
  | visible ha hm hp h hb => exact mem_of_member hm h hb
  | document ha ht h hb =>
      obtain ⟨f, hf, rfl⟩ := mapError_eq_error.1 h
      cases Yaml.failsOnly_load _ _ f hf <;> first | decide | cases hb
  | name ha ht hd hp hn h => exact Yaml.failsOnly_mapM failsOnly_write _ b h
  | option hc h => exact failsOnly_optionsOf _ b h

end AppCatalog.Metadata
