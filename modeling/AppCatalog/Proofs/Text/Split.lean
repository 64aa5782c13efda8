import AppCatalog.Text.Split
import Mathlib.Data.List.Infix

/-!
# Texts cut at a separator

Parts that are free of the separator are cut out of a text again when they have been joined
(`splitAll_append_cons`), and no other parts are ever cut out (`notMem_of_mem_splitAll`). A text and
what goes on behind it with a separator are told by their parts: the parts of the one begin those of
the other (`splitAll_prefix_iff`). A separating text is found where it occurs, and nowhere else
(`isSome_cutAt?_iff`).
-/

namespace AppCatalog.Text

variable {α : Type} [DecidableEq α]

theorem splitAll_of_notMem {sep : α} {cs : List α} (h : sep ∉ cs) :
    splitAll sep cs = [cs] := by
  induction cs with
  | nil => rfl
  | cons c cs ih =>
      rw [List.mem_cons, not_or] at h
      rw [splitAll, if_neg (Ne.symm h.1), ih h.2]

theorem splitAll_append (sep : α) (front rest : List α) :
    splitAll sep (front ++ sep :: rest) = splitAll sep front ++ splitAll sep rest := by
  induction front with
  | nil => exact if_pos rfl
  | cons c front ih =>
      rw [List.cons_append, splitAll, splitAll, ih]
      rcases hs : splitAll sep front with _ | ⟨part, parts⟩
      · exact absurd hs (splitAll_ne_nil sep front)
      · split <;> rfl

theorem splitAll_append_cons {sep : α} {part : List α} (h : sep ∉ part) (cs : List α) :
    splitAll sep (part ++ sep :: cs) = part :: splitAll sep cs := by
  rw [splitAll_append, splitAll_of_notMem h, List.singleton_append]

/-- The parts together are the text without its separators. -/
theorem flatten_splitAll (sep : α) (cs : List α) :
    (splitAll sep cs).flatten = cs.filter (· != sep) := by
  induction cs with
  | nil => rfl
  | cons c cs ih =>
      rw [splitAll]
      split
      · next hc => rw [hc, List.flatten_cons, List.nil_append, ih, List.filter_cons_of_neg (by simp)]
      · next hc =>
          rw [List.filter_cons, if_pos (bne_iff_ne.2 hc), ← ih]
          rcases hs : splitAll sep cs with _ | ⟨part, parts⟩
          · exact absurd hs (splitAll_ne_nil sep cs)
          · rfl

/-- One separator written in another one's place cuts a text where the first one did. -/
theorem splitAll_replace {old new : α} {cs : List α} (h : new ∉ cs) :
    splitAll new (cs.map fun c => if c = old then new else c) = splitAll old cs := by
  induction cs with
  | nil => rfl
  | cons c cs ih =>
      rw [List.mem_cons, not_or] at h
      rw [List.map_cons, splitAll, splitAll, ih h.2]
      by_cases hc : c = old
      · simp only [hc, if_true]
      · simp only [hc, if_false, Ne.symm h.1]

theorem splitAll_injective (sep : α) : Function.Injective (splitAll sep) :=
  Function.LeftInverse.injective (intercalate_splitAll sep)

omit [DecidableEq α] in
theorem intercalate_append (sep : α) {parts rest : List (List α)} (h : parts ≠ [])
    (hr : rest ≠ []) : List.intercalate [sep] (parts ++ rest) =
      List.intercalate [sep] parts ++ sep :: List.intercalate [sep] rest := by
  induction parts with
  | nil => exact absurd rfl h
  | cons part parts ih =>
      by_cases hp : parts = []
      · rw [hp, List.singleton_append, List.intercalate_cons_of_ne_nil hr,
          List.intercalate_singleton, List.append_assoc, List.singleton_append]
      · have hne : parts ++ rest ≠ [] := fun he => hp (List.append_eq_nil_iff.1 he).1
        rw [List.cons_append, List.intercalate_cons_of_ne_nil hne, ih hp,
          List.intercalate_cons_of_ne_nil hp, List.append_assoc _ _ (sep :: _)]

/-- The parts of a text begin those of another exactly if the other is the same text or goes on behind
it with a separator. -/
theorem splitAll_prefix_iff {sep : α} {front cs : List α} :
    splitAll sep front <+: splitAll sep cs ↔ cs = front ∨ ∃ rest, cs = front ++ sep :: rest := by
  constructor
  · rintro ⟨parts, hparts⟩
    by_cases hn : parts = []
    · rw [hn, List.append_nil] at hparts
      exact Or.inl (splitAll_injective sep hparts).symm
    · refine Or.inr ⟨List.intercalate [sep] parts, ?_⟩
      rw [← intercalate_splitAll sep cs, ← hparts,
        intercalate_append sep (splitAll_ne_nil sep front) hn, intercalate_splitAll]
  · rintro (rfl | ⟨rest, rfl⟩)
    · exact List.prefix_rfl
    · rw [splitAll_append]
      exact List.prefix_append _ _

theorem takeWhile_reverse_append {sep : α} {cs : List α} (h : sep ∉ cs)
    (rest : List α) : (cs.reverse ++ rest).takeWhile (· != sep) =
      cs.reverse ++ rest.takeWhile (· != sep) := by
  refine List.takeWhile_append_of_pos fun c hc => ?_
  exact bne_iff_ne.2 fun he => h (he ▸ List.mem_reverse.1 hc)

theorem afterLast_of_notMem {sep : α} {cs : List α} (h : sep ∉ cs) :
    afterLast sep cs = cs := by
  have hall := takeWhile_reverse_append h []
  rw [List.append_nil, List.takeWhile_nil, List.append_nil] at hall
  rw [afterLast, hall, List.reverse_reverse]

theorem afterLast_append {sep : α} {rest : List α} (h : sep ∉ rest) (front : List α) :
    afterLast sep (front ++ sep :: rest) = rest := by
  rw [afterLast, List.reverse_append, List.reverse_cons, List.append_assoc,
    takeWhile_reverse_append h, List.singleton_append, List.takeWhile_cons_of_neg (by simp),
    List.append_nil, List.reverse_reverse]

/-- What follows the last separator is the last of the parts. -/
theorem getLast?_splitAll (sep : α) (cs : List α) :
    (splitAll sep cs).getLast? = some (afterLast sep cs) := by
  by_cases h : sep ∈ cs
  · obtain ⟨rest, front, hcs, hrest⟩ := List.eq_append_cons_of_mem (List.mem_reverse.2 h)
    have hrev : cs = front.reverse ++ sep :: rest.reverse := by
      rw [← List.reverse_reverse cs, hcs, List.reverse_append, List.reverse_cons,
        List.append_assoc, List.singleton_append]
    have hlast : sep ∉ rest.reverse := fun hm => hrest (List.mem_reverse.1 hm)
    rw [hrev, splitAll_append, splitAll_of_notMem hlast, List.getLast?_concat,
      afterLast_append hlast]
  · rw [splitAll_of_notMem h, afterLast_of_notMem h, List.getLast?_singleton]

theorem notMem_of_mem_splitAll {sep : α} {cs part : List α} (h : part ∈ splitAll sep cs) :
    sep ∉ part := by
  induction cs generalizing part with
  | nil =>
      rw [splitAll, List.mem_singleton] at h
      subst h
      exact List.not_mem_nil
  | cons c cs ih =>
      rw [splitAll] at h
      split at h
      · rcases List.mem_cons.1 h with rfl | h
        · exact List.not_mem_nil
        · exact ih h
      · next hc =>
          rcases hs : splitAll sep cs with _ | ⟨front, rest⟩
          · exact absurd hs (splitAll_ne_nil sep cs)
          · rw [hs] at h ih
            rcases List.mem_cons.1 h with rfl | h
            · rw [List.mem_cons, not_or]
              exact ⟨Ne.symm hc, ih List.mem_cons_self⟩
            · exact ih (List.mem_cons_of_mem front h)

/-- Parts without the separator are cut out of the text that they are joined to. -/
theorem splitAll_intercalate {sep : α} {parts : List (List α)} (hne : parts ≠ [])
    (h : ∀ part ∈ parts, sep ∉ part) : splitAll sep (List.intercalate [sep] parts) = parts := by
  induction parts with
  | nil => exact absurd rfl hne
  | cons part parts ih =>
      obtain ⟨hpart, hparts⟩ := List.forall_mem_cons.1 h
      by_cases hp : parts = []
      · rw [hp, List.intercalate_singleton, splitAll_of_notMem hpart]
      · rw [List.intercalate_cons_of_ne_nil hp, List.append_assoc, List.singleton_append,
          splitAll_append_cons hpart, ih hp hparts]

/-! ## The first occurrence -/

/-- A text is cut exactly where another one occurs in it. -/
theorem isSome_cutAt?_iff {needle hay : List α} :
    (cutAt? needle hay).isSome = true ↔ needle <:+: hay := by
  induction hay with
  | nil =>
      rw [cutAt?, List.infix_nil]
      by_cases h : needle = [] <;> simp [h]
  | cons c hay ih =>
      rw [cutAt?, List.infix_cons_iff, ← ih]
      rcases hd : dropLead? needle (c :: hay) with _ | rest
      · have hp : ¬ needle <+: c :: hay := by
          rintro ⟨rest, hr⟩
          rw [← hr, dropLead?_append] at hd
          cases hd
        rw [or_iff_right hp]
        exact Bool.eq_iff_iff.1 Option.isSome_map
      · exact iff_of_true rfl (Or.inl ⟨rest, (dropLead?_eq_some_iff.1 hd).symm⟩)

/-- What holds a character that a text lacks does not occur in the text. -/
theorem cutAt?_of_notMem {c : α} {needle cs : List α} (hc : c ∈ needle) (h : c ∉ cs) :
    cutAt? needle cs = none := by
  rw [← Option.not_isSome_iff_eq_none, isSome_cutAt?_iff]
  exact fun hoccurs => h (hoccurs.subset hc)

end AppCatalog.Text
