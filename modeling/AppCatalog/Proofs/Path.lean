import AppCatalog.Path
import AppCatalog.Proofs.Text.Split

/-!
# Paths and their texts

The segments of a path that is read from a text are plain: they are not empty, they are not one dot,
and they hold no slash (`isPlain_ofText`). The text of a path with plain segments reads back as the
path (`ofText_text`), so a text that is written in this form is kept as it is, with both slashes in
front if there are two. Of any other text slashes and dots are dropped and nothing else
(`significant_ofText`).
-/

namespace AppCatalog.Path

open AppCatalog.Text

variable {p : Path} {s cs : List Char} {segments : List (List Char)}

/-- A segment that a path keeps. -/
structure IsPlainSegment (s : List Char) : Prop where
  isSegment : isSegment s = true
  notMem : '/' ∉ s

/-- A path of plain segments. -/
def IsPlain (p : Path) : Prop := ∀ s ∈ p.segments, IsPlainSegment s

theorem isSegment_iff : isSegment s = true ↔ s ≠ [] ∧ s ≠ ['.'] := by
  rw [isSegment, Bool.and_eq_true, bne_iff_ne, bne_iff_ne]

theorem isPlain_ofText (cs : List Char) : (ofText cs).IsPlain := by
  intro s hs
  obtain ⟨hmem, hs⟩ := List.mem_filter.1 hs
  exact ⟨hs, notMem_of_mem_splitAll hmem⟩

/-- A path keeps two slashes in front if there are no more than two. -/
theorem anchor_ofText_eq_doubleRoot_iff :
    (ofText cs).anchor = .doubleRoot ↔ ['/', '/'] <+: cs ∧ ¬ ['/', '/', '/'] <+: cs := by
  rw [ofText, anchorOf.eq_def]
  split <;> simp_all [List.IsPrefix, eq_comm]

/-! ## Texts read back -/

theorem anchorOf_append (anchor : Anchor) (h : cs.head? ≠ some '/') :
    anchorOf (anchor.text ++ cs) = anchor := by
  rcases cs with _ | ⟨c, cs⟩
  · cases anchor <;> rfl
  · have hc : c ≠ '/' := fun hslash => h (congrArg some hslash)
    cases anchor <;> simp [Anchor.text, anchorOf, hc]

/-- The slashes in front of a text add no segments to it. -/
theorem segments_ofText_append (anchor : Anchor) (cs : List Char) :
    (ofText (anchor.text ++ cs)).segments = (ofText cs).segments := by
  cases anchor <;> simp [ofText, Anchor.text, splitAll, isSegment]

theorem head?_intercalate_ne (h : ∀ s ∈ segments, IsPlainSegment s) :
    (List.intercalate ['/'] segments).head? ≠ some '/' := by
  rcases segments with _ | ⟨s, segments⟩
  · exact nofun
  · obtain ⟨hs, hslash⟩ := h s List.mem_cons_self
    obtain ⟨c, s, rfl⟩ := List.exists_cons_of_ne_nil (isSegment_iff.1 hs).1
    have hhead : (List.intercalate ['/'] ((c :: s) :: segments)).head? = some c := by
      cases segments <;> simp [List.intercalate]
    rw [hhead]
    rintro ⟨⟩
    exact hslash List.mem_cons_self

theorem segments_ofText_intercalate (h : ∀ s ∈ segments, IsPlainSegment s) :
    (ofText (List.intercalate ['/'] segments)).segments = segments := by
  rcases segments with _ | ⟨s, segments⟩
  · rfl
  · have hparts := splitAll_intercalate (List.cons_ne_nil s segments) fun s hs => (h s hs).notMem
    rw [ofText, hparts]
    exact List.filter_eq_self.2 fun s hs => (h s hs).isSegment

/-- The text of a plain path reads back as the path. -/
theorem ofText_text (h : p.IsPlain) : ofText p.text = p := by
  obtain ⟨anchor, segments⟩ := p
  rw [text]
  split
  · next hempty =>
      simp only [Bool.and_eq_true, decide_eq_true_eq] at hempty
      rw [hempty.1, hempty.2]
      rfl
  · have hanchor : anchorOf (anchor.text ++ List.intercalate ['/'] segments) = anchor :=
      anchorOf_append anchor (head?_intercalate_ne h)
    have hsegments := segments_ofText_append anchor (List.intercalate ['/'] segments)
    rw [segments_ofText_intercalate h] at hsegments
    exact congrArg₂ Path.mk hanchor hsegments

/-- A plain segment that is joined to a path is one segment more. -/
theorem join_ofText (hs : IsPlainSegment s) (p : Path) : p.join (ofText s) = p.child s := by
  have hplain : (⟨.relative, [s]⟩ : Path).IsPlain := fun s' h => List.mem_singleton.1 h ▸ hs
  have hread : ofText s = ⟨.relative, [s]⟩ := by
    have htext := ofText_text hplain
    simpa [text, Anchor.text] using htext
  rw [hread]
  rfl

/-! ## What reading drops -/

/-- A character that no path drops. -/
def isSignificant (c : Char) : Bool := c != '/' && c != '.'

theorem significant_intercalate (segments : List (List Char)) :
    (List.intercalate ['/'] segments).filter isSignificant =
      segments.flatten.filter isSignificant := by
  induction segments with
  | nil => rfl
  | cons s segments ih =>
      by_cases h : segments = []
      · simp [h]
      · have hslash : ['/'].filter isSignificant = [] := rfl
        rw [List.intercalate_cons_of_ne_nil h, List.filter_append, List.filter_append, ih, hslash,
          List.append_nil, List.flatten_cons, List.filter_append]

theorem significant_filter_isSegment (parts : List (List Char)) :
    (parts.filter isSegment).flatten.filter isSignificant = parts.flatten.filter isSignificant := by
  induction parts with
  | nil => rfl
  | cons s parts ih =>
      rw [List.flatten_cons, List.filter_append, ← ih]
      by_cases h : isSegment s = true
      · rw [List.filter_cons_of_pos h, List.flatten_cons, List.filter_append]
      · have hdropped : s.filter isSignificant = [] := by
          rw [isSegment_iff, not_and_or, not_not, not_not] at h
          rcases h with rfl | rfl <;> rfl
        rw [List.filter_cons_of_neg h, hdropped, List.nil_append]

theorem significant_text (p : Path) :
    p.text.filter isSignificant = p.segments.flatten.filter isSignificant := by
  have hanchor : p.anchor.text.filter isSignificant = [] := by
    cases p.anchor <;> rfl
  rw [text]
  split
  · next hempty =>
      simp only [Bool.and_eq_true, decide_eq_true_eq] at hempty
      rw [hempty.2]
      rfl
  · rw [List.filter_append, hanchor, List.nil_append, significant_intercalate]

/-- A path that is read from a text has every character of it but slashes and dots, in order. -/
theorem significant_ofText (cs : List Char) :
    (ofText cs).text.filter isSignificant = cs.filter isSignificant := by
  have hcs := significant_intercalate (splitAll '/' cs)
  rw [intercalate_splitAll] at hcs
  rw [significant_text, hcs]
  exact significant_filter_isSegment (splitAll '/' cs)

end AppCatalog.Path
