import AppCatalog.Json.Reader
import AppCatalog.Json.Writer
import AppCatalog.Proofs.Assoc
import AppCatalog.Proofs.Text.Units

/-!
# JSON text read back

What `Json.pretty` writes of null, strings, and objects with distinct field names reads back as the
same value. A value that stands somewhere inside a text is followed by whatever comes next, and the
reader takes fuel; `ReadsBack` says that neither matters as long as there is a unit of fuel for every
character. It is proved of each kind of value from the values inside it, whose reader has one level
less left.
-/

namespace AppCatalog

open AppCatalog.Text

namespace Json

theorem fourHex?_hexDigits {u : Nat} (h : u < 0x10000) :
    fourHex? (hexDigit (u / 4096 % 16)) (hexDigit (u / 256 % 16)) (hexDigit (u / 16 % 16))
      (hexDigit (u % 16)) = some u := by
  simp only [fourHex?, hexValue?_hexDigit_mod, Option.bind_eq_bind, Option.bind_some, pure,
    value_hexDigits h]

theorem readUnits_escapedUnit {u : Nat} (h : u < 0x10000) (rest : List Char) :
    readUnits ('\\' :: 'u' :: hexDigits 4 u ++ rest) =
      (readUnits rest).map fun p => (u :: p.1, p.2) := by
  rw [hexDigits_four]
  simp only [List.cons_append, List.nil_append]
  rw [readUnits, fourHex?_hexDigits h]

theorem readUnits_escapedUnits {us : List Nat} (h : ∀ u ∈ us, u < 0x10000) (rest : List Char) :
    readUnits ((us.flatMap fun u => '\\' :: 'u' :: hexDigits 4 u) ++ rest) =
      (readUnits rest).map fun p => (us ++ p.1, p.2) := by
  induction us with
  | nil =>
      rw [List.flatMap_nil, List.nil_append]
      cases readUnits rest <;> rfl
  | cons u us ih =>
      rw [List.flatMap_cons, List.append_assoc,
        readUnits_escapedUnit (h u (List.mem_cons_self)),
        ih (fun v hv => h v (List.mem_cons_of_mem _ hv))]
      cases readUnits rest <;> rfl

theorem readUnits_plain {c : Char} (hq : c ≠ '"') (hb : c ≠ '\\') (hc : 0x20 ≤ c.toNat)
    (rest : List Char) :
    readUnits (c :: rest) = (readUnits rest).map fun p => (unitsOf c ++ p.1, p.2) := by
  rw [readUnits, if_neg (Nat.not_lt.2 hc)]
  · exact hq
  · rintro _ _ _ _ _ rfl _
    exact hb rfl
  · rintro _ _ rfl _
    exact hb rfl

/-- A character of a string is read back as its code units. -/
theorem readUnits_escapeChar (c : Char) (rest : List Char) :
    readUnits (escapeChar c ++ rest) = (readUnits rest).map fun p => (unitsOf c ++ p.1, p.2) := by
  unfold escapeChar
  by_cases hq : c = '"'
  · subst hq
    simp [readUnits, unitsOf]
  by_cases hb : c = '\\'
  · subst hb
    simp [readUnits, unitsOf]
  by_cases hn : c = '\n'
  · subst hn
    simp [readUnits, unitsOf]
  by_cases hr : c = '\r'
  · subst hr
    simp [readUnits, unitsOf]
  by_cases ht : c = '\t'
  · subst ht
    simp [readUnits, unitsOf]
  by_cases hf : c = '\x0c'
  · subst hf
    simp [readUnits, unitsOf]
  by_cases h8 : c = '\x08'
  · subst h8
    simp [readUnits, unitsOf]
  simp only [if_neg hq, if_neg hb, if_neg hn, if_neg hr, if_neg ht, if_neg hf, if_neg h8]
  split
  · next hp =>
    simp only [Bool.and_eq_true, decide_eq_true_eq] at hp
    exact readUnits_plain hq hb hp.1 rest
  · exact readUnits_escapedUnits (fun u hu => unitsOf_lt hu) rest

/-- A string reads back, whatever follows its closing quotation mark. -/
theorem readString_quoted (s : String) (rest : List Char) :
    readString (s.toList.flatMap escapeChar ++ '"' :: rest) = some (s, rest) := by
  have h : ∀ cs : List Char, readUnits (cs.flatMap escapeChar ++ '"' :: rest) =
      some (toUnits cs, rest) := by
    intro cs
    induction cs with
    | nil => simp [readUnits, Text.toUnits]
    | cons c cs ih =>
      rw [List.flatMap_cons, List.append_assoc, readUnits_escapeChar, ih]
      rfl
  rw [readString, h, Option.map_some]
  change some (String.ofList (decodeUnits (toUnits s.toList)), rest) = _
  rw [decodeUnits_toUnits, String.ofList_toList]

theorem skipSpace_newline (level : Nat) (cs : List Char) :
    skipSpace (newline level ++ cs) = skipSpace cs := by
  have hb : ∀ n : Nat, skipSpace (List.replicate n ' ' ++ cs) = skipSpace cs := by
    intro n
    induction n with
    | zero => rfl
    | succ n ih =>
      rw [List.replicate_succ, List.cons_append, ← ih]
      rfl
  exact hb (2 * level)

/-- Within some limits, the text of a value at a level begins with no white space and reads back as
the value, whatever follows it. -/
structure ReadsBack (l : Limits) (level : Nat) (v : Json) : Prop where
  begins : ∀ rest, skipSpace (prettyAt level v ++ rest) = prettyAt level v ++ rest
  reads : ∀ fuel rest, (prettyAt level v).length ≤ fuel →
    readValue l fuel (prettyAt level v ++ rest) = .ok (v, rest)

variable {l l' : Limits}

/-- The first character of a text takes a unit of fuel, and the rest is left to read. -/
theorem readsBack_of_cons {level : Nat} {v : Json} {c : Char} {cs : List Char}
    (hv : prettyAt level v = c :: cs) (hc : ∀ r, skipSpace (c :: r) = c :: r)
    (h : ∀ fuel rest, cs.length ≤ fuel →
      readValue l (fuel + 1) (c :: (cs ++ rest)) = .ok (v, rest)) : ReadsBack l level v := by
  constructor
  · intro rest
    rw [hv]
    exact hc (cs ++ rest)
  · intro fuel rest hf
    rw [hv] at hf ⊢
    cases fuel with
    | zero => cases hf
    | succ fuel => exact h fuel rest (Nat.le_of_succ_le_succ hf)

theorem readsBack_null (l : Limits) (level : Nat) : ReadsBack l level null := by
  have hp : prettyAt level null = 'n' :: ['u', 'l', 'l'] := rfl
  apply readsBack_of_cons hp (fun _ => rfl)
  intro fuel rest _
  simp [readValue]

theorem readsBack_str (l : Limits) (level : Nat) (s : String) : ReadsBack l level (str s) := by
  have hp : prettyAt level (str s) = '"' :: (s.toList.flatMap escapeChar ++ ['"']) := rfl
  apply readsBack_of_cons hp (fun _ => rfl)
  intro fuel rest _
  simp only [List.append_assoc, List.cons_append, List.nil_append, readValue, readString_quoted]

/-- A field of an object reads back; what follows its value decides how the object goes on. -/
theorem readFields_field {level fuel : Nat} {v : Json} (k : String) (hv : ReadsBack l level v)
    (hf : (prettyAt level v).length ≤ fuel) (rest : List Char) :
    readFields l (fuel + 1) (quoted k ++ ':' :: ' ' :: (prettyAt level v ++ rest)) =
      match skipSpace rest with
      | '}' :: r => .ok ([(k, v)], r)
      | ',' :: r => do
        let (fs, r) ← readFields l fuel (skipSpace r)
        pure ((k, v) :: fs, r)
      | _ => .error .malformed := by
  have hs : skipSpace (':' :: ' ' :: (prettyAt level v ++ rest)) =
      ':' :: ' ' :: (prettyAt level v ++ rest) := rfl
  have hv' : skipSpace (' ' :: (prettyAt level v ++ rest)) = prettyAt level v ++ rest :=
    hv.begins rest
  simp only [quoted, List.cons_append, List.append_assoc, List.nil_append, readFields,
    readString_quoted, hs, hv', hv.reads fuel rest hf]
  rfl

theorem readFields_prettyFields {level : Nat} (fs : List (String × Json)) :
    ∀ (k : String) (v : Json), ReadsBack l level v → (∀ f ∈ fs, ReadsBack l level f.2) →
    ∀ (fuel outer : Nat) (rest : List Char),
      (prettyAt level v ++ prettyFields level fs).length < fuel →
      readFields l fuel (quoted k ++ ':' :: ' ' :: (prettyAt level v ++ (prettyFields level fs ++
        (newline outer ++ '}' :: rest)))) = .ok ((k, v) :: fs, rest) := by
  induction fs with
  | nil =>
      intro k v hv _ fuel outer rest hf
      obtain ⟨fuel, rfl⟩ := Nat.exists_eq_succ_of_ne_zero (Nat.ne_of_gt (Nat.zero_lt_of_lt hf))
      rw [List.length_append] at hf
      rw [readFields_field k hv (by omega), prettyFields, List.nil_append, skipSpace_newline]
      rfl
  | cons f fs ih =>
      intro k v hv hfs fuel outer rest hf
      obtain ⟨k', v'⟩ := f
      obtain ⟨fuel, rfl⟩ := Nat.exists_eq_succ_of_ne_zero (Nat.ne_of_gt (Nat.zero_lt_of_lt hf))
      have hv' : ReadsBack l level v' := hfs (k', v') List.mem_cons_self
      have hl : (prettyAt level v' ++ prettyFields level fs).length < fuel := by
        simp only [prettyFields, quoted, List.length_append, List.length_cons] at hf ⊢
        omega
      have hnext := ih k' v' hv' (fun g hg => hfs g (List.mem_cons_of_mem _ hg)) fuel outer rest hl
      have hq : ∀ r, skipSpace (quoted k' ++ r) = quoted k' ++ r := fun r => rfl
      rw [List.length_append] at hf
      rw [readFields_field k hv (by omega)]
      simp only [prettyFields, List.cons_append, List.append_assoc]
      have hc : ∀ r, skipSpace (',' :: r) = ',' :: r := fun r => rfl
      rw [hc]
      simp only [skipSpace_newline, hq]
      rw [hnext]
      rfl

/-- An object with a field is read as its fields. -/
theorem readValue_quotedField (hl : l.deeper? = some l') (fuel : Nat) {cs r : List Char}
    (h : skipSpace cs = '"' :: r) : (readValue l (fuel + 1) ('{' :: cs) : Except Fault (Json × _)) =
      (readFields l' fuel ('"' :: r)).map fun x => (obj x.1, x.2) := by
  simp only [readValue, hl, h]
  change (readFields l' fuel ('"' :: r)).bind (fun x => .ok (obj x.1, x.2)) = _
  rcases readFields l' fuel ('"' :: r) with f | x <;> rfl

/-- An object reads back if its values read back with one level less. -/
theorem readsBack_obj {level : Nat} {fs : List (String × Json)} (hl : l.deeper? = some l')
    (hfs : ∀ f ∈ fs, ReadsBack l' (level + 1) f.2) : ReadsBack l level (obj fs) := by
  cases fs with
  | nil =>
      apply readsBack_of_cons rfl (fun _ => rfl)
      intro fuel rest _
      rw [readValue.eq_def]
      simp only [hl]
      rfl
  | cons f fs =>
      obtain ⟨k, v⟩ := f
      have hp : prettyAt level (obj ((k, v) :: fs)) = '{' :: (newline (level + 1) ++ quoted k ++
          ':' :: ' ' :: prettyAt (level + 1) v ++ prettyFields (level + 1) fs ++ newline level ++
            ['}']) := rfl
      apply readsBack_of_cons hp (fun _ => rfl)
      intro fuel rest h
      have hlength : (prettyAt (level + 1) v ++ prettyFields (level + 1) fs).length < fuel := by
        simp only [quoted, List.length_append, List.length_cons] at h ⊢
        omega
      have hr := readFields_prettyFields fs k v (hfs _ List.mem_cons_self)
        (fun g hg => hfs g (List.mem_cons_of_mem _ hg)) fuel level rest hlength
      obtain ⟨r, hq⟩ : ∃ r, quoted k ++ ':' :: ' ' :: (prettyAt (level + 1) v ++
          (prettyFields (level + 1) fs ++ (newline level ++ '}' :: rest))) = '"' :: r := ⟨_, rfl⟩
      have hs : skipSpace (newline (level + 1) ++ '"' :: r) = '"' :: r := by
        rw [skipSpace_newline]
        rfl
      rw [hq] at hr
      simp only [List.cons_append, List.append_assoc, List.nil_append, hq]
      rw [readValue_quotedField hl fuel hs, hr]
      rfl

/-! ## Repeated fields -/

theorem mergedFields_eq_self {fs : List (String × Json)} (h : ∀ f ∈ fs, f.2.merged = f.2) :
    mergedFields fs = fs := by
  induction fs with
  | nil => rfl
  | cons f fs ih =>
      obtain ⟨k, v⟩ := f
      rw [mergedFields, h _ List.mem_cons_self, ih fun g hg => h g (List.mem_cons_of_mem _ hg)]

/-- An object whose field names are distinct has nothing to merge but what is in its values. -/
theorem merged_obj {fs : List (String × Json)} (hn : (Assoc.keys fs).Nodup)
    (h : ∀ f ∈ fs, f.2.merged = f.2) : (obj fs).merged = obj fs := by
  rw [merged, mergedFields_eq_self h, Assoc.ofPairs_eq_self hn]

/-- A value that reads back at the outermost level is what its text stands for. -/
theorem read_pretty {v : Json} (h : ReadsBack .standard 0 v) (hm : v.merged = v) :
    read (pretty v) = .ok v := by
  have hb := h.begins []
  have hr := h.reads ((pretty v).length + 1) [] (Nat.le_succ _)
  rw [List.append_nil] at hb hr
  rw [read, parse, pretty, hb]
  rw [pretty] at hr
  rw [hr]
  exact congrArg Except.ok hm

end Json

end AppCatalog
