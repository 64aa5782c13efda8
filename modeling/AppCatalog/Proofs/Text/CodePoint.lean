import AppCatalog.Proofs.Text.Surrogate
import AppCatalog.Text.Points
import AppCatalog.Text.Utf8

/-!
# Code points

A run of code points may hold surrogates, each half of a character and none by itself, for which no
encoding has a form. `joinSurrogates` leaves a run without them as it is; any other it takes through
its code units, so that a high surrogate and the low one behind it become one character and the rest
are replaced. The run that it gives is that of a text, the one that the code units stand for
(`joinSurrogates_eq`), and a text has no surrogates and can be encoded (`isTextOf_map_toNat`).
-/

namespace AppCatalog.Text

/-- The code units of a code point; a surrogate is one itself. -/
def pointUnits (n : Nat) : List Nat :=
  if n < 0x10000 then [n] else [0xd800 + (n - 0x10000) / 0x400, 0xdc00 + (n - 0x10000) % 0x400]

/-- The code points of a run of code units, with a replacement for every surrogate whose partner is
not beside it. -/
def decodePoints : List Nat → List Nat
  | [] => []
  | [u] => [if isSurrogate u then 0xfffd else u]
  | u :: v :: us =>
    if isHighSurrogate u && isLowSurrogate v then
      (0x10000 + (u - 0xd800) * 0x400 + (v - 0xdc00)) :: decodePoints us
    else (if isSurrogate u then 0xfffd else u) :: decodePoints (v :: us)

def joinSurrogates (ns : List Nat) : List Nat :=
  if ns.any isSurrogate then decodePoints (ns.flatMap pointUnits) else ns

/-- A run of code points in an encoding, or nothing if one of them has no form in it. -/
def encodePoints? {α : Type} (form : Char → List α) (ns : List Nat) : Option (List α) :=
  (ofPoints? ns).map (·.flatMap form)

/-- A run of code points is that of a text: there is no surrogate in it, and it can be encoded. -/
structure IsTextOf (ns : List Nat) (cs : List Char) : Prop where
  points : cs.map Char.toNat = ns
  noSurrogate : ∀ n ∈ ns, isSurrogate n = false
  utf8 : encodePoints? Utf8.encodeChar ns = some (Utf8.encode cs)
  utf16 : encodePoints? unitsOf ns = some (toUnits cs)

/-! ## Characters -/

theorem isSurrogate_eq (n : Nat) : isSurrogate n = (isHighSurrogate n || isLowSurrogate n) := by
  rw [Bool.eq_iff_iff]
  simp only [isSurrogate, isHighSurrogate, isLowSurrogate, Bool.or_eq_true, Bool.and_eq_true,
    decide_eq_true_eq]
  omega

theorem isSurrogate_toNat (c : Char) : isSurrogate c.toNat = false := by
  have hc := char_toNat_lt c
  simp only [isSurrogate, Bool.and_eq_false_iff, decide_eq_false_iff_not]
  omega

theorem toNat_ofNat_of_not_surrogate {n : Nat} (h : n < 0x110000) (hs : isSurrogate n = false) :
    (Char.ofNat n).toNat = n := by
  simp only [isSurrogate, Bool.and_eq_false_iff, decide_eq_false_iff_not] at hs
  exact toNat_ofNat (by omega)

/-- Only the code points of a text are taken for one. -/
theorem ofPoints?_eq_some_iff {ns : List Nat} {cs : List Char} :
    ofPoints? ns = some cs ↔ cs.map Char.toNat = ns := by
  constructor
  · intro h
    induction ns generalizing cs with
    | nil =>
        cases h
        rfl
    | cons n ns ih =>
        rw [ofPoints?] at h
        split at h
        · next hn =>
            obtain ⟨ds, hds, rfl⟩ := Option.map_eq_some_iff.1 h
            rw [List.map_cons, ih hds, toNat_ofNat hn]
        · cases h
  · rintro rfl
    induction cs with
    | nil => rfl
    | cons c cs ih =>
        have hc : c.toNat.isValidChar := c.valid
        rw [List.map_cons, ofPoints?, if_pos hc, ih, Option.map_some, Char.ofNat_toNat]

/-- The code points of a text are a run that can be encoded. -/
theorem isTextOf_map_toNat (cs : List Char) : IsTextOf (cs.map Char.toNat) cs where
  points := rfl
  noSurrogate := by
    intro n hn
    obtain ⟨c, -, rfl⟩ := List.mem_map.1 hn
    exact isSurrogate_toNat c
  utf8 := by
    rw [encodePoints?, ofPoints?_eq_some_iff.2 rfl]
    rfl
  utf16 := by
    rw [encodePoints?, ofPoints?_eq_some_iff.2 rfl]
    rfl

/-! ## Code units -/

theorem flatMap_pointUnits (cs : List Char) :
    (cs.map Char.toNat).flatMap pointUnits = toUnits cs := by
  rw [List.flatMap_map]
  rfl

theorem pointUnits_of_lt {u : Nat} (h : u < 0x10000) : pointUnits u = [u] := if_pos h

theorem lt_of_mem_pointUnits {n u : Nat} (h : n < 0x110000) (hu : u ∈ pointUnits n) :
    u < 0x10000 := by
  rw [pointUnits] at hu
  split at hu
  · next hn => exact List.mem_singleton.1 hu ▸ hn
  · rw [List.mem_cons, List.mem_singleton] at hu
    omega

theorem toNat_joinPair {u v : Nat} (hu : isHighSurrogate u = true) (hv : isLowSurrogate v = true) :
    (joinPair u v).toNat = 0x10000 + (u - 0xd800) * 0x400 + (v - 0xdc00) := by
  simp only [isHighSurrogate, isLowSurrogate, Bool.and_eq_true, decide_eq_true_eq] at hu hv
  exact toNat_ofNat (by omega)

theorem toNat_unpaired {u : Nat} (h : u < 0x10000) :
    (if isSurrogate u then replacement else Char.ofNat u).toNat =
      if isSurrogate u then 0xfffd else u := by
  split
  · rfl
  · next hs => exact toNat_ofNat_of_not_surrogate (by omega) (eq_false_of_ne_true hs)

/-- The characters of code units have the code points of the units: none of them is made up for a
number that is no code point. -/
theorem map_toNat_decodeUnits {us : List Nat} (h : ∀ u ∈ us, u < 0x10000) :
    (decodeUnits us).map Char.toNat = decodePoints us := by
  fun_induction decodeUnits us with
  | case1 => rfl
  | case2 u =>
      rw [← isSurrogate_eq, List.map_singleton, toNat_unpaired (h u List.mem_cons_self)]
      rfl
  | case3 u v us hu hv ih =>
      rw [List.map_cons, toNat_joinPair hu hv, decodePoints, hu, hv, Bool.and_self, if_pos rfl,
        ih fun w hw => h w (List.mem_cons_of_mem u (List.mem_cons_of_mem v hw))]
  | case4 u v us hu hv ih =>
      rw [List.map_cons, decodePoints, eq_false_of_ne_true hv, Bool.and_false,
        if_neg Bool.false_ne_true, isSurrogate_eq, hu, Bool.true_or, if_pos rfl,
        ih fun w hw => h w (List.mem_cons_of_mem u hw)]
      rfl
  | case5 u v us hu ih =>
      have hunpaired := toNat_unpaired (h u List.mem_cons_self)
      rw [isSurrogate_eq, eq_false_of_ne_true hu, Bool.false_or] at hunpaired
      rw [List.map_cons, hunpaired, decodePoints, isSurrogate_eq, eq_false_of_ne_true hu,
        Bool.false_and, if_neg Bool.false_ne_true, Bool.false_or,
        ih fun w hw => h w (List.mem_cons_of_mem u hw)]

/-- Joining gives the text of the code units, whether or not there are surrogates to join. -/
theorem joinSurrogates_eq {ns : List Nat} (h : ∀ n ∈ ns, n < 0x110000) :
    joinSurrogates ns = (decodeUnits (ns.flatMap pointUnits)).map Char.toNat := by
  rw [joinSurrogates]
  split
  · refine (map_toNat_decodeUnits fun u hu => ?_).symm
    obtain ⟨n, hn, hu⟩ := List.mem_flatMap.1 hu
    exact lt_of_mem_pointUnits (h n hn) hu
  · next hs =>
      have hnone : ∀ n ∈ ns, isSurrogate n = false := fun n hn =>
        eq_false_of_ne_true fun hsn => hs (List.any_eq_true.2 ⟨n, hn, hsn⟩)
      have htext : (ns.map Char.ofNat).map Char.toNat = ns :=
        calc (ns.map Char.ofNat).map Char.toNat
            = ns.map id := by
              rw [List.map_map]
              exact List.map_congr_left fun n hn =>
                toNat_ofNat_of_not_surrogate (h n hn) (hnone n hn)
          _ = ns := List.map_id ns
      rw [← htext, flatMap_pointUnits, decodeUnits_toUnits]

end AppCatalog.Text

namespace AppCatalog.Points

/-- The runs that are texts are those of the texts' characters. -/
theorem text?_eq_some_iff {p : Points} {s : String} : p.text? = some s ↔ p = .ofString s := by
  obtain ⟨ns⟩ := p
  rw [text?, Option.map_eq_some_iff, ofString, ofChars, mk.injEq]
  constructor
  · rintro ⟨cs, hcs, rfl⟩
    rw [String.toList_ofList]
    exact (Text.ofPoints?_eq_some_iff.1 hcs).symm
  · rintro rfl
    exact ⟨s.toList, Text.ofPoints?_eq_some_iff.2 rfl, String.ofList_toList⟩

end AppCatalog.Points
