import AppCatalog.Proofs.Except
import AppCatalog.Proofs.Json.Numeral

/-!
# What a JSON text consists of

The readers of JSON taken apart: what they read a value, the items of a list or the fields of an
object from. A value is read from one of the forms of `ReadFrom`, which a list or an object holds
further ones in.
-/

namespace AppCatalog.Json

section Forms

variable {τ : Type}

/-- The words of JSON and what they stand for. -/
inductive Word : List Char → Json τ → Prop
  | null : Word "null".toList null
  | true : Word "true".toList (bool .true)
  | false : Word "false".toList (bool .false)

/-- What a value is read from within some limits, in front of the rest of a text. -/
inductive ReadFrom [Spelling τ] (l : Limits) (fuel : Nat) (cs rest : List Char) : Json τ → Prop
  | string {r : List Char} {s : τ} (hcs : cs = '"' :: r)
    (hs : readString r = some (s, rest)) : ReadFrom l fuel cs rest (str s)
  | noFields {r : List Char} {l' : Limits} (hcs : cs = '\x7b' :: r) (hl : l.deeper? = some l')
    (hr : skipSpace r = '\x7d' :: rest) : ReadFrom l fuel cs rest (obj [])
  | fields {r : List Char} {l' : Limits} {fs : List (τ × Json τ)} (hcs : cs = '\x7b' :: r)
    (hl : l.deeper? = some l') (hfs : readFields l' fuel (skipSpace r) = .ok (fs, rest)) :
    ReadFrom l fuel cs rest (obj fs)
  | noItems {r : List Char} {l' : Limits} (hcs : cs = '[' :: r) (hl : l.deeper? = some l')
    (hr : skipSpace r = ']' :: rest) : ReadFrom l fuel cs rest (arr [])
  | items {r : List Char} {l' : Limits} {vs : List (Json τ)} (hcs : cs = '[' :: r)
    (hl : l.deeper? = some l') (hvs : readItems l' fuel (skipSpace r) = .ok (vs, rest)) :
    ReadFrom l fuel cs rest (arr vs)
  | word {w : List Char} {v : Json τ} (hw : Word w v) (hcs : cs = w ++ rest) :
    ReadFrom l fuel cs rest v
  /-- A word for what is no number or beyond all numbers, which JSON does not have. -/
  | beyond {r : List Char} {x : Binary64}
    (hcs : cs = 'N' :: r ∨ cs = 'I' :: r ∨ cs = '-' :: 'I' :: r) :
    ReadFrom l fuel cs rest (float x)
  | number {negative : Bool} {ds : List Char} {v : Json τ} (hcs : cs = withSign negative ds)
    (hv : readNumber l negative ds = .ok (v, rest)) : ReadFrom l fuel cs rest v

end Forms

variable {τ : Type} [Spelling τ] {l : Limits} {fuel : Nat} {cs rest : List Char}

theorem readValue_cases {v : Json τ} (h : readValue l (fuel + 1) cs = .ok (v, rest)) :
    ReadFrom l fuel cs rest v := by
  rw [readValue.eq_def] at h
  split at h
  · cases h
  · next he =>
    cases he
    split at h
    · split at h
      · next s r hs =>
        cases h
        exact .string rfl hs
      · cases h
    · split at h
      · cases h
      · next l' hl =>
        split at h
        · next hr =>
          cases h
          exact .noFields rfl hl hr
        · obtain ⟨⟨fs, r⟩, hfs, hv⟩ := except_bind_ok h
          cases hv
          exact .fields rfl hl hfs
    · split at h
      · cases h
      · next l' hl =>
        split at h
        · next hr =>
          cases h
          exact .noItems rfl hl hr
        · obtain ⟨⟨vs, r⟩, hvs, hv⟩ := except_bind_ok h
          cases hv
          exact .items rfl hl hvs
    · cases h
      exact .word .null rfl
    · cases h
      exact .word .true rfl
    · cases h
      exact .word .false rfl
    · cases h
      exact .beyond (Or.inl rfl)
    · cases h
      exact .beyond (Or.inr (Or.inl rfl))
    · cases h
      exact .beyond (Or.inr (Or.inr rfl))
    · exact @ReadFrom.number _ _ _ _ _ _ .true _ _ rfl h
    · exact @ReadFrom.number _ _ _ _ _ _ .false _ _ rfl h

/-- The items of a list are one item, perhaps with others behind a comma. -/
theorem readItems_cases {vs : List (Json τ)} (h : readItems l (fuel + 1) cs = .ok (vs, rest)) :
    ∃ v r, readValue l fuel cs = .ok (v, r) ∧
      (skipSpace r = ']' :: rest ∧ vs = [v] ∨
        ∃ r' vs', skipSpace r = ',' :: r' ∧ readItems l fuel (skipSpace r') = .ok (vs', rest) ∧
          vs = v :: vs') := by
  rw [readItems] at h
  obtain ⟨⟨v, r⟩, hv, h⟩ := except_bind_ok h
  refine ⟨v, r, hv, ?_⟩
  simp only at h
  split at h
  · next hr =>
    cases h
    exact Or.inl ⟨hr, rfl⟩
  · next r' hr =>
    obtain ⟨⟨vs', r''⟩, hvs, he⟩ := except_bind_ok h
    cases he
    exact Or.inr ⟨r', vs', hr, hvs, rfl⟩
  · cases h

/-- The fields of an object are one field, perhaps with others behind a comma. -/
theorem readFields_cases {fs : List (τ × Json τ)}
    (h : readFields l (fuel + 1) cs = .ok (fs, rest)) :
    ∃ r k r₁ r₂ v r₃, cs = '"' :: r ∧ readString r = some (k, r₁) ∧ skipSpace r₁ = ':' :: r₂ ∧
      readValue l fuel (skipSpace r₂) = .ok (v, r₃) ∧
      (skipSpace r₃ = '\x7d' :: rest ∧ fs = [(k, v)] ∨
        ∃ r₄ fs', skipSpace r₃ = ',' :: r₄ ∧ readFields l fuel (skipSpace r₄) = .ok (fs', rest) ∧
          fs = (k, v) :: fs') := by
  rw [readFields.eq_def] at h
  split at h
  · cases h
  · next he =>
    cases he
    split at h
    · next r =>
      split at h
      · cases h
      · next k r₁ hs =>
        split at h
        · next r₂ hr₁ =>
          obtain ⟨⟨v, r₃⟩, hv, h⟩ := except_bind_ok h
          refine ⟨r, k, r₁, r₂, v, r₃, rfl, hs, hr₁, hv, ?_⟩
          simp only at h
          split at h
          · next hr₃ =>
            cases h
            exact Or.inl ⟨hr₃, rfl⟩
          · next r₄ hr₃ =>
            obtain ⟨⟨fs', r₅⟩, hfs, he⟩ := except_bind_ok h
            cases he
            exact Or.inr ⟨r₄, fs', hr₃, hfs, rfl⟩
          · cases h
        · cases h
    · cases h

/-- A text in which a value is written is that value between white space. -/
theorem parse_cases {v : Json τ} (h : parse l cs = .ok v) :
    ∃ rest, readValue l (cs.length + 1) (skipSpace cs) = .ok (v, rest) ∧ skipSpace rest = [] := by
  rw [parse] at h
  obtain ⟨⟨v, rest⟩, hv, h⟩ := except_bind_ok h
  simp only at h
  split at h
  · next hrest =>
    cases h
    exact ⟨rest, hv, hrest⟩
  · cases h

end AppCatalog.Json
