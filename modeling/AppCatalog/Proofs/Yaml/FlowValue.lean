import AppCatalog.Proofs.Yaml.FlowNode
import AppCatalog.Proofs.Yaml.Number
import AppCatalog.Yaml.Document
import Mathlib.Data.List.Forall2

/-!
# Values of JSON in a document

A node means a value if it is made into it on every level (`Means`). The nodes of JSON text mean the
values of JSON: keys are texts, which no merge key or default key is, and a repeated key keeps its
first place and its last value on either side.
-/

namespace AppCatalog

open AppCatalog.Text

namespace Value

/-- Inserting under a text key is inserting a field. -/
theorem insertEntry_ofFields (k : Points) (v : Json Points) (fs : List (Points × Json Points)) :
    insertEntry (text k) (ofJson v) (ofFields fs) = ofFields (Assoc.insert k v fs) := by
  induction fs with
  | nil => rfl
  | cons f fs ih =>
      obtain ⟨j, w⟩ := f
      have hsame : sameKey (text j) (text k) = (j == k) := rfl
      have hfields : ofFields ((j, w) :: fs) = (text j, ofJson w) :: ofFields fs := rfl
      rw [hfields, insertEntry, Assoc.insert, hsame, ih]
      by_cases hj : j = k
      · rw [if_pos (beq_iff_eq.2 hj), if_pos hj]
        rfl
      · rw [if_neg (by simpa using hj), if_neg hj]
        rfl

/-- The map that fields build is the same with either kind of keys. -/
theorem ofEntries_ofFields (fs : List (Points × Json Points)) :
    ofEntries (ofFields fs) = ofFields (Assoc.ofPairs fs) := by
  have hfold : ∀ (fs gs : List (Points × Json Points)),
      (ofFields fs).foldl (fun m e => insertEntry e.1 e.2 m) (ofFields gs) =
        ofFields (fs.foldl (fun m f => Assoc.insert f.1 f.2 m) gs) := by
    intro fs
    induction fs with
    | nil => exact fun gs => rfl
    | cons f fs ih =>
        intro gs
        obtain ⟨k, v⟩ := f
        have hfields : ofFields ((k, v) :: fs) = (text k, ofJson v) :: ofFields fs := rfl
        rw [hfields, List.foldl_cons, List.foldl_cons, insertEntry_ofFields, ih]
  exact hfold fs []

end Value

namespace Yaml

open Json (IsPointed withSign)

/-- A node is made into a value, with a unit of fuel for each level. -/
def Means (n : Node) (v : Value) : Prop :=
  ∀ fuel level, n.depth ≤ fuel → n.make fuel level = .ok v

/-! ## Scalars -/

/-- A scalar means a value if it is made into it on every level. -/
theorem means_scalar {tag : Tag} {text : Points} {v : Value}
    (h : ∀ fuel level, (Node.scalar tag text).make (fuel + 1) level = .ok v) :
    Means (.scalar tag text) v := by
  intro fuel level hf
  have hdepth : (Node.scalar tag text).depth = 1 := rfl
  obtain ⟨fuel, rfl⟩ : ∃ k, fuel = k + 1 := ⟨fuel - 1, by omega⟩
  exact h fuel level

theorem means_text (text : Points) : Means (.scalar .text text) (.text text) :=
  means_scalar fun _ _ => rfl

theorem means_null : Means (.ofWord "null".toList) .null :=
  means_scalar fun _ _ => rfl

theorem means_bool {w : List Char} {b : Bool} (htag : Tag.ofPlain w = .bool)
    (hbool : boolOf w = .ok b) : Means (.ofWord w) (.bool b) := by
  rw [Node.ofWord, htag]
  refine means_scalar fun fuel level => ?_
  change Made.ofScalar level ((boolOf (Points.ofChars w).replaced).map Value.bool) = _
  rw [Points.replaced_ofChars, hbool]
  rfl

theorem means_true : Means (.ofWord "true".toList) (.bool true) :=
  means_bool (by decide) (by decide +kernel)

theorem means_false : Means (.ofWord "false".toList) (.bool false) :=
  means_bool (by decide) (by decide +kernel)

/-- A number means the number that it is in JSON. -/
theorem means_whole {ds : List Char} (h : IsWhole ds) (hlength : ds.length ≤ maxDigits)
    (negative : Bool) :
    Means (.ofWord (withSign negative ds))
      (.int (if negative then -(Binary64.digitsValue ds : Int) else Binary64.digitsValue ds)) := by
  rw [Node.ofWord, Tag.ofPlain_whole h]
  refine means_scalar fun fuel level => ?_
  change Made.ofScalar level
    ((intOf (Points.ofChars (withSign negative ds)).replaced).map Value.int) = _
  rw [Points.replaced_ofChars, intOf_whole h hlength]
  rfl

theorem means_pointed {whole fraction power : List Char} {x : Binary64} {negative : Bool}
    (h : IsPointed whole fraction power)
    (hx : Binary64.readDigits? negative (whole ++ '.' :: fraction ++ power) = some x) :
    Means (.ofWord (withSign negative (whole ++ '.' :: fraction ++ power))) (.float x) := by
  rw [Node.ofWord, Tag.ofPlain_pointed h]
  refine means_scalar fun fuel level => ?_
  change Made.ofScalar level ((floatOf (Points.ofChars (withSign negative
    (whole ++ '.' :: fraction ++ power))).replaced).map Value.float) = _
  rw [Points.replaced_ofChars, floatOf_pointed h hx]
  rfl

/-! ## Sequences and mappings -/

/-- A node means what a JSON value stands for, with one field for each name, and is no deeper. -/
structure MeansJson (n : Node) (v : Json Points) : Prop where
  value : Means n (Value.ofJson v.merged)
  depth : n.depth ≤ v.depth + 1

theorem meansJson_scalar {tag : Tag} {text : Points} {v : Json Points}
    (h : Means (.scalar tag text) (Value.ofJson v.merged)) : MeansJson (.scalar tag text) v :=
  ⟨h, Nat.le_add_left 1 v.depth⟩

theorem all_means {ns : List Node} {vs : List (Json Points)}
    (h : List.Forall₂ MeansJson ns vs) {fuel level : Nat}
    (hf : Node.depthOfItems ns ≤ fuel) :
    Made.all (Node.make fuel level) ns = .ok (Value.ofItems (Json.mergedItems vs)) := by
  induction h with
  | nil => rfl
  | cons hn _ ih =>
      rw [Node.depthOfItems] at hf
      rw [Made.all, hn.value fuel level (by omega), ih (by omega)]
      rfl

theorem depthOfItems_le {ns : List Node} {vs : List (Json Points)}
    (h : List.Forall₂ MeansJson ns vs) : Node.depthOfItems ns ≤ Json.depthOfItems vs + 1 := by
  induction h with
  | nil => exact Nat.zero_le _
  | cons hn _ ih =>
      have := hn.depth
      rw [Node.depthOfItems, Json.depthOfItems]
      omega

theorem means_sequence {ns : List Node} {vs : List (Json Points)}
    (h : List.Forall₂ MeansJson ns vs) :
    MeansJson (.sequence .sequence ns) (.arr vs) := by
  refine ⟨?_, Nat.succ_le_succ (depthOfItems_le h)⟩
  intro fuel level hf
  rw [Node.depth] at hf
  obtain ⟨fuel, rfl⟩ : ∃ k, fuel = k + 1 := ⟨fuel - 1, by omega⟩
  change (Made.all (Node.make fuel (level + 1)) ns).map Value.list = _
  rw [all_means h (by omega)]
  rfl

/-- An entry of a mapping means a field of an object. -/
structure MeansField (e : Node × Node) (f : Points × Json Points) : Prop where
  key : e.1 = .scalar .text f.1
  value : MeansJson e.2 f.2

variable {es : List (Node × Node)} {fs : List (Points × Json Points)}

/-- Among keys that are texts there is no merge key and no default key. -/
theorem mergeAll?_cons_text (name : Points) (v : Node) (es : List (Node × Node)) :
    Node.mergeAll? ((.scalar .text name, v) :: es) =
      match Node.mergeAll? es with
      | none => none
      | some (taken, own) => some (taken, (.scalar .text name, v) :: own) := rfl

theorem merged?_fields (h : List.Forall₂ MeansField es fs) :
    (Node.mapping .mapping es).merged? = some es := by
  have hall : Node.mergeAll? es = some ([], es) := by
    induction h with
    | nil => rfl
    | @cons e f es fs he _ ih =>
        obtain ⟨k, v⟩ := e
        obtain ⟨rfl, -⟩ := he
        rw [mergeAll?_cons_text, ih]
  rw [Node.merged?, hall]
  rfl

theorem all_fields (h : List.Forall₂ MeansField es fs) {fuel level : Nat}
    (hf : Node.depthOfEntries es ≤ fuel) :
    Made.all (fun (e : Node × Node) => Made.both ((e.1.make fuel level).bind fun k =>
      if k.isSimple then .ok k else Made.fault level .malformed) (e.2.make fuel level)) es =
      .ok (Value.ofFields (Json.mergedFields fs)) := by
  induction h with
  | nil => rfl
  | @cons e f es fs he _ ih =>
      obtain ⟨k, v⟩ := e
      obtain ⟨key, w⟩ := f
      obtain ⟨rfl, hv⟩ := he
      rw [Node.depthOfEntries] at hf
      dsimp only at hf hv
      have hk := means_text key fuel level (by omega)
      rw [Made.all, ih (by omega)]
      simp only [hk, hv.value fuel level (by omega)]
      rfl

theorem depthOfEntries_le (h : List.Forall₂ MeansField es fs) :
    Node.depthOfEntries es ≤ Json.depthOfFields fs + 1 := by
  induction h with
  | nil => exact Nat.zero_le _
  | @cons e f es fs he _ ih =>
      obtain ⟨k, v⟩ := e
      obtain ⟨key, w⟩ := f
      obtain ⟨rfl, hv⟩ := he
      have hdepth : v.depth ≤ w.depth + 1 := hv.depth
      have hkey : (Node.scalar .text key).depth = 1 := rfl
      rw [Node.depthOfEntries, Json.depthOfFields, hkey]
      omega

theorem make_mapping (es : List (Node × Node)) (fuel level : Nat) :
    (Node.mapping .mapping es).make (fuel + 1) level =
      match (Node.mapping .mapping es).merged? with
      | some es => ((Made.all (fun (e : Node × Node) =>
          Made.both ((e.1.make fuel (level + 1)).bind fun k =>
            if k.isSimple then .ok k else Made.fault (level + 1) .malformed)
            (e.2.make fuel (level + 1))) es).map Value.ofEntries).map .map
      | none => Made.fault (level + 1) .malformed := rfl

/-- The entries of a mapping mean the fields of an object. -/
theorem means_mapping (h : List.Forall₂ MeansField es fs) :
    MeansJson (.mapping .mapping es) (.obj fs) := by
  refine ⟨?_, Nat.succ_le_succ (depthOfEntries_le h)⟩
  intro fuel level hf
  rw [Node.depth] at hf
  obtain ⟨fuel, rfl⟩ : ∃ k, fuel = k + 1 := ⟨fuel - 1, by omega⟩
  rw [make_mapping, merged?_fields h]
  simp only [all_fields h (show Node.depthOfEntries es ≤ fuel by omega)]
  exact congrArg (fun m => Except.ok (Value.map m)) (Value.ofEntries_ofFields _)

end Yaml

end AppCatalog
