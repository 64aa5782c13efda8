import AppCatalog.Proofs.Properties.Composition
import AppCatalog.Proofs.Properties.Continuation
import AppCatalog.Proofs.Properties.Pairs

/-!
# Entries on lines of their own

A listing may be put together of entries that take a line each. An entry hangs if its line goes on
and something is left of it without its last backslash: then the next entry is read as the rest of
it. Glueing what hangs to what follows (`glue`) gives entries that can be read one by one and merged
in order (`Listing.parse_intercalate`), so that only through a hanging entry does one reach into
another. Every entry that hangs does so: there is another behind which it is read amiss, and there
is none for an entry that does not hang (`Listing.merged_pair_iff_not_hangs`).
-/

namespace AppCatalog

open AppCatalog.Text

namespace Properties

/-- An entry whose line goes on, with something left of it. -/
def Hangs (e : List Char) : Prop :=
  isSkipped (trimStart e) = false ∧ goesOn (trimStart e) = true ∧ trimStart e ≠ ['\\']

instance (e : List Char) : Decidable (Hangs e) :=
  inferInstanceAs (Decidable (isSkipped (trimStart e) = false ∧ goesOn (trimStart e) = true ∧
    trimStart e ≠ ['\\']))

/-- What a hanging entry and the one behind it are read as. -/
def joint (e next : List Char) : List Char := (trimStart e).dropLast ++ trimStart next

/-- Entries behind one that they may belong to, each glued to the one before if that hangs. -/
def glueFrom (e : List Char) : List (List Char) → List (List Char)
  | [] => [e]
  | next :: es => if Hangs e then glueFrom (joint e next) es else e :: glueFrom next es

def glue : List (List Char) → List (List Char)
  | [] => []
  | e :: es => glueFrom e es

/-! ## Hanging entries -/

/-- What is left of a hanging entry begins with neither a blank nor a comment mark, and does not go
on. -/
theorem Hangs.exists_left {e : List Char} (h : Hangs e) :
    ∃ c left, trimStart e = c :: left ++ ['\\'] ∧ isBlank c = false ∧
      isSkipped (c :: left) = false ∧ goesOn (c :: left) = false := by
  obtain ⟨hskip, hgoes, hne⟩ := h
  obtain ⟨ds, hds⟩ := eq_concat_of_goesOn hgoes
  rcases ds with _ | ⟨c, left⟩
  · exact absurd hds hne
  · refine ⟨c, left, hds, isBlank_head_trimStart hds, ?_, ?_⟩
    · rw [hds] at hskip
      exact hskip
    · rw [hds, goesOn_concat_backslash, Bool.not_eq_true'] at hgoes
      exact hgoes

/-! ## Joining -/

theorem joinLines_cons_of_not_hangs {l : List Char} (h : ¬ Hangs l) (ls : List (List Char)) :
    joinLines [] (l :: ls) = joinLines [] [l] ++ joinLines [] ls := by
  by_cases hskip : isSkipped (trimStart l) = true
  · simp only [joinLines, hskip, decide_true, Bool.and_self, if_true, List.nil_append]
  · rw [Bool.not_eq_true] at hskip
    by_cases hgoes : goesOn (trimStart l) = true
    · have hslash : trimStart l = ['\\'] := by
        by_contra hne
        exact h ⟨hskip, hgoes, hne⟩
      have hlone : goesOn ['\\'] = true := rfl
      rw [hslash] at hskip
      simp only [joinLines, hslash, hskip, hlone, decide_true, Bool.and_false, Bool.false_eq_true,
        if_false, if_true, List.dropLast_singleton, List.nil_append]
    · have hlast : ∀ m ∈ [l].getLast?, goesOn (trimStart m) = false := by
        rintro m ⟨⟩
        exact Bool.eq_false_iff.2 hgoes
      exact joinLines_append (fun he => absurd he (List.cons_ne_nil l [])) hlast ls

/-- What is left of a hanging entry is pending for the next. -/
theorem joinLines_cons_of_hangs {e : List Char} (h : Hangs e) (ls : List (List Char)) :
    joinLines [] (e :: ls) = joinLines (trimStart e).dropLast ls := by
  obtain ⟨hskip, hgoes, -⟩ := h
  simp only [joinLines, hskip, hgoes, decide_true, Bool.and_false, Bool.false_eq_true, if_false,
    if_true, List.nil_append]

theorem Hangs.dropLast_ne_nil {e : List Char} (h : Hangs e) : (trimStart e).dropLast ≠ [] := by
  obtain ⟨c, left, he, -⟩ := h.exists_left
  rw [he, List.dropLast_concat]
  exact List.cons_ne_nil c left

/-- A hanging entry and the next are read as if they were one. -/
theorem joinLines_joint {e : List Char} (h : Hangs e) (next : List Char) (ls : List (List Char)) :
    joinLines [] (e :: next :: ls) = joinLines [] (joint e next :: ls) := by
  have hleft := h.dropLast_ne_nil
  rw [joinLines_cons_of_hangs h, joint]
  obtain ⟨c, left, he, hblank, hskip, hgoes⟩ := h.exists_left
  rw [he, List.dropLast_concat] at hleft ⊢
  have htrim : trimStart (c :: left ++ trimStart next) = c :: left ++ trimStart next :=
    trimStart_cons_of_not_blank hblank _
  have hskip : isSkipped (c :: left ++ trimStart next) = false := hskip
  simp only [joinLines, htrim, hskip, goesOn_append hgoes, hleft, decide_false, decide_true,
    Bool.false_and, Bool.and_false, Bool.false_eq_true, if_false, List.nil_append]
  split
  · next hgoes' =>
      obtain ⟨ds, hds⟩ := eq_concat_of_goesOn hgoes'
      rw [hds, ← List.append_assoc, List.dropLast_concat, List.dropLast_concat]
  · rfl

theorem joinLines_glueFrom (e : List Char) (es : List (List Char)) :
    joinLines [] (e :: es) = (glueFrom e es).flatMap fun d => joinLines [] [d] := by
  induction es generalizing e with
  | nil => exact (List.append_nil _).symm
  | cons next es ih =>
      rw [glueFrom]
      split
      · next h => rw [joinLines_joint h, ih]
      · next h => rw [joinLines_cons_of_not_hangs h, List.flatMap_cons, ih]

theorem joinLines_glue (es : List (List Char)) :
    joinLines [] es = (glue es).flatMap fun e => joinLines [] [e] := by
  cases es with
  | nil => rfl
  | cons e es => exact joinLines_glueFrom e es

/-- Nothing is glued where only the last entry may hang. -/
theorem glue_eq_self {es : List (List Char)} (h : ∀ e ∈ es.dropLast, ¬ Hangs e) : glue es = es := by
  rcases es with _ | ⟨e, es⟩
  · rfl
  · rw [glue]
    induction es generalizing e with
    | nil => rfl
    | cons next es ih =>
        rw [List.dropLast_cons_cons, List.forall_mem_cons] at h
        rw [glueFrom, if_neg h.1, ih next h.2]

/-- The characters of glued entries are characters of the entries. -/
theorem forall_mem_glueFrom {P : Char → Prop} {e : List Char} {es : List (List Char)}
    (he : ∀ c ∈ e, P c) (hes : ∀ d ∈ es, ∀ c ∈ d, P c) : ∀ d ∈ glueFrom e es, ∀ c ∈ d, P c := by
  induction es generalizing e with
  | nil =>
      intro d hd
      rw [List.mem_singleton.1 hd]
      exact he
  | cons next es ih =>
      rw [List.forall_mem_cons] at hes
      rw [glueFrom]
      split
      · refine ih (fun c hc => ?_) hes.2
        rcases List.mem_append.1 hc with hc | hc
        · exact he c ((List.dropWhile_sublist _).mem ((List.dropLast_sublist _).mem hc))
        · exact hes.1 c ((List.dropWhile_sublist _).mem hc)
      · exact List.forall_mem_cons.2 ⟨he, ih hes.1 hes.2⟩

theorem forall_mem_glue {P : Char → Prop} {es : List (List Char)} (h : ∀ e ∈ es, ∀ c ∈ e, P c) :
    ∀ e ∈ glue es, ∀ c ∈ e, P c := by
  cases es with
  | nil => exact List.forall_mem_nil _
  | cons e es =>
      rw [List.forall_mem_cons] at h
      exact forall_mem_glueFrom h.1 h.2

/-! ## Lines of entries -/

theorem joinLines_concat_nil (pending : List Char) (ls : List (List Char)) :
    joinLines pending (ls ++ [[]]) = joinLines pending ls := by
  have hempty : ∀ pending, joinLines pending [[]] = joinLines pending [] := by
    intro pending
    by_cases hp : pending = []
    · subst hp
      rfl
    · have hgoes : goesOn [] = false := rfl
      simp only [joinLines, trimStart_nil, hp, hgoes, decide_false, Bool.false_and,
        Bool.false_eq_true, if_false, if_true, List.append_nil]
  have hcongr := joinLines_congr hempty ls pending
  rwa [List.append_nil] at hcongr

/-- Entries on lines of their own are joined like their lines; only an empty one at the end has
none. -/
theorem logicalLines_intercalate {es : List (List Char)}
    (h : ∀ e ∈ es, ∀ c ∈ e, isLineEnd c = false) :
    logicalLines (List.intercalate ['\n'] es) = joinLines [] es := by
  have hlines : lines (List.intercalate ['\n'] es) = es ∨
      lines (List.intercalate ['\n'] es) ++ [[]] = es := by
    induction es with
    | nil => exact Or.inl rfl
    | cons e es ih =>
        rw [List.forall_mem_cons] at h
        rcases es with _ | ⟨next, es⟩
        · rw [List.intercalate_singleton]
          by_cases hnil : e = []
          · exact Or.inr (by rw [hnil]; rfl)
          · have hline := lines_append h.1 hnil []
            rw [List.append_nil, lines_nil] at hline
            exact Or.inl hline
        · rw [List.intercalate_cons_of_ne_nil (List.cons_ne_nil next es), List.append_assoc,
            List.singleton_append, lines_line h.1, List.cons_append]
          exact (ih h.2).imp (congrArg (e :: ·)) (congrArg (e :: ·))
  rw [logicalLines]
  rcases hlines with hes | hes
  · rw [hes]
  · rw [← joinLines_concat_nil, hes]

theorem logicalLines_entry {e : List Char} (h : ∀ c ∈ e, isLineEnd c = false) :
    logicalLines e = joinLines [] [e] := by
  have hone := logicalLines_intercalate (List.forall_mem_singleton.2 h)
  rwa [List.intercalate_singleton] at hone

theorem joinLines_ne_nil_of_pending {pending : List Char} (h : pending ≠ [])
    (ls : List (List Char)) : joinLines pending ls ≠ [] := by
  induction ls generalizing pending with
  | nil =>
      rw [joinLines, if_neg h]
      exact List.cons_ne_nil _ _
  | cons l ls ih =>
      have happend : ∀ more, pending ++ more ≠ [] :=
        fun more => List.append_ne_nil_of_left_ne_nil h more
      simp only [joinLines, h, happend, decide_false, Bool.false_and, Bool.false_eq_true, if_false]
      split
      · exact ih (happend _)
      · exact List.cons_ne_nil _ _

/-- What an entry has on its own is not lost among others. -/
theorem joinLines_ne_nil_of_mem {e : List Char} {es : List (List Char)} (he : e ∈ es)
    (h : joinLines [] [e] ≠ []) : joinLines [] es ≠ [] := by
  induction es with
  | nil => cases he
  | cons d es ih =>
      by_cases hd : Hangs d
      · rw [joinLines_cons_of_hangs hd]
        exact joinLines_ne_nil_of_pending hd.dropLast_ne_nil es
      · rw [joinLines_cons_of_not_hangs hd]
        rcases List.mem_cons.1 he with rfl | he
        · exact List.append_ne_nil_of_left_ne_nil h _
        · exact List.append_ne_nil_of_right_ne_nil _ (ih he)

end Properties

namespace Listing

open AppCatalog.Properties

/-- The listings of entries, merged in order. -/
def merged (es : List (List Char)) : Listing :=
  es.foldl (fun l e => Assoc.update l (parse e)) []

theorem merged_eq_ofPairs {es : List (List Char)} (h : ∀ e ∈ es, ∀ c ∈ e, isLineEnd c = false) :
    merged es = Assoc.ofPairs ((es.flatMap fun e => joinLines [] [e]).map entry) := by
  have hfold : ∀ (l : Listing), es.foldl (fun l e => Assoc.update l (parse e)) l =
      Assoc.update l ((es.flatMap fun e => joinLines [] [e]).map entry) := by
    induction es with
    | nil => exact fun _ => rfl
    | cons e es ih =>
        rw [List.forall_mem_cons] at h
        intro l
        rw [List.foldl_cons, ih h.2, List.flatMap_cons, List.map_append, parse, entries,
          logicalLines_entry h.1, Assoc.update_ofPairs]
        exact (List.foldl_append).symm
  exact hfold []

/-- Entries on lines of their own are read as the merged listings of the glued entries. -/
theorem parse_intercalate {es : List (List Char)} (h : ∀ e ∈ es, ∀ c ∈ e, isLineEnd c = false) :
    parse (List.intercalate ['\n'] es) = merged (glue es) := by
  rw [merged_eq_ofPairs (forall_mem_glue h), ← joinLines_glue, parse, entries,
    logicalLines_intercalate h]

theorem ofPairs_ne_nil {ps : List (List Char × List Char)} (h : ps ≠ []) :
    Assoc.ofPairs ps ≠ [] := by
  obtain ⟨p, qs, rfl⟩ := List.exists_cons_of_ne_nil h
  have hmem : p.1 ∈ Assoc.keys (Assoc.update [] (p :: qs)) :=
    Assoc.mem_keys_update.2 (Or.inr List.mem_cons_self)
  intro hnil
  rw [Assoc.ofPairs] at hnil
  rw [Assoc.update, hnil] at hmem
  cases hmem

/-- As long as one of them holds something, so do the entries together. -/
theorem merged_glue_ne_nil {es : List (List Char)} (h : ∀ e ∈ es, ∀ c ∈ e, isLineEnd c = false)
    (hsome : ∃ e ∈ es, parse e ≠ []) : merged (glue es) ≠ [] := by
  obtain ⟨e, he, hparse⟩ := hsome
  have hline : joinLines [] [e] ≠ [] := by
    intro hnil
    rw [parse, entries, logicalLines_entry (h e he), hnil] at hparse
    exact hparse rfl
  rw [← parse_intercalate h, parse, entries, logicalLines_intercalate h]
  refine ofPairs_ne_nil ?_
  rw [Ne, List.map_eq_nil_iff]
  exact joinLines_ne_nil_of_mem he hline

/-- An entry is read on its own whatever entry follows if and only if it does not hang. -/
theorem merged_pair_iff_not_hangs {e : List Char} (he : ∀ c ∈ e, isLineEnd c = false) :
    (∀ next : List Char, (∀ c ∈ next, isLineEnd c = false) →
      parse (List.intercalate ['\n'] [e, next]) = merged [e, next]) ↔ ¬ Hangs e := by
  have hpair : ∀ {next : List Char}, (∀ c ∈ next, isLineEnd c = false) →
      ∀ d ∈ [e, next], ∀ c ∈ d, isLineEnd c = false :=
    fun hnext => List.forall_mem_cons.2 ⟨he, List.forall_mem_singleton.2 hnext⟩
  constructor
  · intro hall hangs
    -- A next entry of one character, so chosen that its key is not the key of the first.
    obtain ⟨c, hc, hkey⟩ : ∃ c : Char, (c = 'x' ∨ c = 'y') ∧
        (entry (trimStart e).dropLast).1 ≠ [c] := by
      by_cases hx : (entry (trimStart e).dropLast).1 = ['x']
      · exact ⟨'y', Or.inr rfl, by rw [hx]; decide⟩
      · exact ⟨'x', Or.inl rfl, hx⟩
    have hchar : isLineEnd c = false ∧ trimStart [c] = [c] ∧ isSkipped [c] = false ∧
        goesOn [c] = false ∧ entry [c] = ([c], []) := by
      rcases hc with rfl | rfl
      · decide
      · decide
    obtain ⟨hend, htrim, hskip, hgoes, hentry⟩ := hchar
    have hnext : ∀ d ∈ [c], isLineEnd d = false := List.forall_mem_singleton.2 hend
    have hleft := hangs.dropLast_ne_nil
    have htogether : joinLines [] [e, [c]] = [(trimStart e).dropLast ++ [c]] := by
      rw [joinLines_cons_of_hangs hangs]
      simp only [joinLines, htrim, hgoes, hleft, decide_false, Bool.false_and, Bool.false_eq_true,
        if_false, if_true, List.append_eq_nil_iff, List.cons_ne_nil, and_false]
    have hfirst : joinLines [] [e] = [(trimStart e).dropLast] := by
      rw [joinLines_cons_of_hangs hangs, joinLines, if_neg hleft]
    have hsecond : joinLines [] [[c]] = [[c]] := by
      simp only [joinLines, htrim, hskip, hgoes, decide_true, Bool.and_false, Bool.false_eq_true,
        if_false, if_true, List.nil_append, List.cons_ne_nil]
    have hglued : (parse (List.intercalate ['\n'] [e, [c]])).length = 1 := by
      rw [parse, entries, logicalLines_intercalate (hpair hnext), htogether]
      rfl
    have hmerged : (merged [e, [c]]).length = 2 := by
      rw [merged_eq_ofPairs (hpair hnext), List.flatMap_cons, List.flatMap_singleton, hfirst,
        hsecond]
      have hinsert : Assoc.ofPairs [entry (trimStart e).dropLast, entry [c]] =
          [entry (trimStart e).dropLast, entry [c]] := by
        refine Assoc.ofPairs_eq_self ?_
        rw [hentry]
        exact List.nodup_cons.2 ⟨fun h => hkey (List.mem_singleton.1 h), List.nodup_singleton _⟩
      exact congrArg List.length hinsert
    rw [hall [c] hnext, hmerged] at hglued
    cases hglued
  · intro hangs next hnext
    have hglue : glue [e, next] = [e, next] := glue_eq_self (List.forall_mem_singleton.2 hangs)
    rw [parse_intercalate (hpair hnext), hglue]

end Listing

end AppCatalog
