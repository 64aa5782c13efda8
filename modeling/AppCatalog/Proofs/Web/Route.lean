import AppCatalog.Proofs.Registration
import AppCatalog.Proofs.Text.Split
import AppCatalog.Proofs.Uri.Percent
import AppCatalog.Web.Route

/-!
# Paths that name applications

A path of a type and a name names this application unless the name is empty or holds a slash
(`Route.ofPath?_app`); a name with a slash is named by no path at all (`Route.ofPath?_eq_app`).
-/

namespace AppCatalog

open AppCatalog.Text

namespace Web.Route

variable {type name path : List Char}

/-- The parts of the path of a type and a name. -/
theorem splitAll_path (ht : '/' ∉ type) (name : List Char) :
    splitAll '/' (app type name).path = [] :: "apps".toList :: type :: splitAll '/' name := by
  have hpath : (app type name).path =
      [] ++ '/' :: ("apps".toList ++ '/' :: (type ++ '/' :: name)) := by
    rw [path, List.append_assoc]
    rfl
  rw [hpath, splitAll_append_cons List.not_mem_nil, splitAll_append_cons (by decide),
    splitAll_append_cons ht]

/-- A name that holds a slash is not one part of a path. -/
theorem splitAll_ne_singleton (h : '/' ∈ name) (part : List Char) : splitAll '/' name ≠ [part] := by
  intro hs
  have hpart : '/' ∉ part := notMem_of_mem_splitAll (hs ▸ List.mem_singleton_self part)
  have hname := intercalate_splitAll '/' name
  rw [hs] at hname
  rw [← hname] at h
  exact hpart (by simpa using h)

/-- What the path of a type and a name names. -/
theorem ofPath?_app (ht : '/' ∉ type) (hne : type ≠ []) (name : List Char) :
    ofPath? (app type name).path =
      if '/' ∈ name ∨ name = [] then none else some (app type name) := by
  have hservice : isAt (app type name).path ['/'] = false := rfl
  have hhealth : isAt (app type name).path healthPath = false := rfl
  have happs : isAt (app type name).path appsPath = false := rfl
  rw [ofPath?, hservice, hhealth, happs, splitAll_path ht]
  simp only [Bool.false_eq_true, if_false]
  by_cases hn : '/' ∈ name
  · rw [if_pos (Or.inl hn)]
    rcases hs : splitAll '/' name with _ | ⟨part, _ | ⟨next, rest⟩⟩
    · rfl
    · exact absurd hs (splitAll_ne_singleton hn part)
    · rfl
  · have hroot : '/' :: "apps".toList = appsPath := rfl
    rw [splitAll_of_notMem hn]
    simp only [hroot, hne, hn, false_or, decide_true, Bool.true_and, decide_eq_true_eq, ne_eq,
      not_false_eq_true]
    by_cases he : name = []
    · rw [if_neg (fun h => h he), if_pos he]
    · rw [if_pos he, if_neg he]

/-- A path names an application only if it is the path of a type and a name that are not empty and
hold no slash. -/
theorem ofPath?_eq_app (h : ofPath? path = some (app type name)) :
    path = (app type name).path ∧ ('/' ∉ type ∧ type ≠ []) ∧ '/' ∉ name ∧ name ≠ [] := by
  rw [ofPath?] at h
  split at h
  · cases h
  split at h
  · cases h
  split at h
  · cases h
  split at h
  · next root type' name' hs =>
      split at h
      · next hc =>
          cases h
          simp only [Bool.and_eq_true, decide_eq_true_eq] at hc
          obtain ⟨⟨hroot, ht⟩, hn⟩ := hc
          have hparts : ∀ part ∈ splitAll '/' path, '/' ∉ part := fun _ => notMem_of_mem_splitAll
          rw [hs] at hparts
          refine ⟨?_, ⟨hparts type (by simp), ht⟩, hparts name (by simp), hn⟩
          have hpath := intercalate_splitAll '/' path
          rw [hs] at hpath
          rw [← hpath, Route.path, ← hroot]
          simp [List.intercalate, List.intersperse]
      · cases h
  · cases h

end Web.Route

end AppCatalog
