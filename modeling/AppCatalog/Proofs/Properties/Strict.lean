import AppCatalog.Proofs.Assoc
import AppCatalog.Proofs.Properties.Escape
import AppCatalog.Proofs.Properties.Pairs
import AppCatalog.Proofs.Text.Surrogate
import AppCatalog.Properties.Listing

/-!
# Escapes read strictly

An escape with `u` stands for a code unit in four hexadecimal digits. `strictUnits` takes no other:
where four such digits do not follow, the `u` stands for itself. The reader takes more than digits for
a number (`Spells`), and `ReadsStrictly` says of a text that its escapes hold nothing of the kind. A
text is given its strict reading exactly if it reads strictly (`Listing.parse_strict_iff`): where other
characters are taken for a number, they leave one character at most instead of five.
-/

namespace AppCatalog

open AppCatalog.Text

namespace Properties

/-- The control character that a mark stands for. -/
def control? : Char → Option Char
  | 't' => some '\t'
  | 'n' => some '\n'
  | 'r' => some '\r'
  | 'f' => some '\x0c'
  | _ => none

/-- Four hexadecimal digits. -/
def IsHexField (field : List Char) : Prop := field.length = 4 ∧ ∀ c ∈ field, c ∈ hexCharacters

instance (field : List Char) : Decidable (IsHexField field) :=
  decidable_of_decidable_of_iff
    (and_congr Iff.rfl List.all_iff_forall_prop : field.length = 4 ∧
      (field.all fun c => c ∈ hexCharacters) = true ↔ IsHexField field)

/-- The code units of a text whose escapes are read strictly, surrogates not joined yet. -/
def strictUnits : List Char → List Nat
  | [] => []
  | ['\\'] => unitsOf '\\'
  | '\\' :: c :: cs =>
    match control? c with
    | some d => unitsOf d ++ strictUnits cs
    | none =>
      if c = 'u' ∧ IsHexField (cs.take 4) then hexNumber (cs.take 4) :: strictUnits (cs.drop 4)
      else unitsOf c ++ strictUnits cs
  | c :: cs => unitsOf c ++ strictUnits cs
termination_by cs => cs.length
decreasing_by
  all_goals
    simp only [List.length_cons, List.length_drop]
    omega

/-- What stands behind a `u` that a backslash gives its meaning, as far as it goes. -/
inductive FollowsEscape : List Char → List Char → Prop
  | intro (front field rest : List Char) (he : trailingBackslashes front % 2 = 0) :
    FollowsEscape (front ++ '\\' :: 'u' :: (field ++ rest)) field

/-- Four characters that are taken for the number of a code unit. -/
def IsNumeral (field : List Char) : Prop :=
  field.length = 4 ∧ ∃ u : Nat, Spells (asciiDigits field) u

/-- Whatever is taken for the number of a code unit is four hexadecimal digits. -/
def ReadsStrictly (cs : List Char) : Prop :=
  ∀ field, FollowsEscape cs field → IsNumeral field → IsHexField field

/-! ## What follows escapes -/

theorem even_append {cs : List Char} (h : goesOn cs = false) (ds : List Char) :
    trailingBackslashes (cs ++ ds) % 2 = 0 ↔ trailingBackslashes ds % 2 = 0 := by
  rw [← goesOn_eq_false_iff, goesOn_append h, goesOn_eq_false_iff]

theorem FollowsEscape.append {cs field : List Char} (h : FollowsEscape cs field)
    {front : List Char} (hf : goesOn front = false) : FollowsEscape (front ++ cs) field := by
  obtain ⟨front', field, rest, he⟩ := h
  rw [← List.append_assoc]
  exact .intro (front ++ front') field rest ((even_append hf front').2 he)

theorem followsEscape_plain {c : Char} (h : c ≠ '\\') {cs field : List Char} :
    FollowsEscape (c :: cs) field ↔ FollowsEscape cs field := by
  refine ⟨?_, fun hf => hf.append (goesOn_singleton h)⟩
  intro hf
  generalize hds : c :: cs = ds at hf
  obtain ⟨front, field, rest, he⟩ := hf
  cases front with
  | nil => exact absurd (List.cons.inj hds).1 h
  | cons d front =>
      rw [List.cons_append, List.cons.injEq] at hds
      obtain ⟨rfl, rfl⟩ := hds
      exact .intro front field rest ((even_append (goesOn_singleton h) front).1 he)

theorem followsEscape_pair {c : Char} {cs field : List Char} :
    FollowsEscape ('\\' :: c :: cs) field ↔ c = 'u' ∧ field <+: cs ∨ FollowsEscape cs field := by
  constructor
  · intro hf
    generalize hds : '\\' :: c :: cs = ds at hf
    obtain ⟨front, field, rest, he⟩ := hf
    match front with
    | [] =>
        rw [List.nil_append, List.cons.injEq, List.cons.injEq] at hds
        obtain ⟨-, rfl, rfl⟩ := hds
        exact Or.inl ⟨rfl, List.prefix_append field rest⟩
    | [d] =>
        rw [List.singleton_append, List.cons.injEq] at hds
        rw [← hds.1] at he
        exact absurd he (by decide)
    | d :: e :: front =>
        rw [List.cons_append, List.cons_append, List.cons.injEq, List.cons.injEq] at hds
        obtain ⟨rfl, rfl, rfl⟩ := hds
        exact Or.inr (.intro front field rest ((even_append (goesOn_pair c) front).1 he))
  · rintro (⟨rfl, rest, rfl⟩ | hf)
    · exact .intro [] field rest rfl
    · exact hf.append (goesOn_pair c)

theorem not_followsEscape_of_short {cs field : List Char} (h : cs.length < 2) :
    ¬ FollowsEscape cs field := by
  rintro ⟨front, field, rest, -⟩
  simp only [List.length_append, List.length_cons] at h
  omega

/-! ## Texts that read strictly -/

theorem readsStrictly_of_short {cs : List Char} (h : cs.length < 2) : ReadsStrictly cs :=
  fun _ hf => absurd hf (not_followsEscape_of_short h)

theorem readsStrictly_plain {front : List Char} (h : '\\' ∉ front) (cs : List Char) :
    ReadsStrictly (front ++ cs) ↔ ReadsStrictly cs := by
  induction front with
  | nil => rfl
  | cons c front ih =>
      rw [List.mem_cons, not_or] at h
      rw [← ih h.2]
      simp only [ReadsStrictly, List.cons_append, followsEscape_plain (Ne.symm h.1)]

theorem readsStrictly_pair {c : Char} (h : c ≠ 'u') (cs : List Char) :
    ReadsStrictly ('\\' :: c :: cs) ↔ ReadsStrictly cs := by
  simp only [ReadsStrictly, followsEscape_pair, h, false_and, false_or]

theorem readsStrictly_unit (cs : List Char) :
    ReadsStrictly ('\\' :: 'u' :: cs) ↔
      (IsNumeral (cs.take 4) → IsHexField (cs.take 4)) ∧ ReadsStrictly cs := by
  have htake : ∀ field, field <+: cs → IsNumeral field → field = cs.take 4 := by
    rintro _ ⟨rest, rfl⟩ hn
    rw [← hn.1, List.take_left]
  constructor
  · intro h
    refine ⟨fun hn => h _ (followsEscape_pair.2 (Or.inl ⟨rfl, List.take_prefix 4 cs⟩)) hn, ?_⟩
    exact fun field hf hn => h field (followsEscape_pair.2 (Or.inr hf)) hn
  · rintro ⟨hunit, hrest⟩ field hf hn
    rcases followsEscape_pair.1 hf with ⟨-, hp⟩ | hf
    · have he := htake field hp hn
      rw [he] at hn ⊢
      exact hunit hn
    · exact hrest field hf hn

/-! ## The two readings -/

theorem isNumeral_iff {field : List Char} (hl : field.length = 4) :
    IsNumeral field ↔ ∃ u, unitOf? field = some u := by
  simp only [IsNumeral, hl, true_and, unitOf?_eq_some_iff, readInteger?_eq_some_iff]

theorem IsNumeral.notMem {field : List Char} (h : IsNumeral field) : '\\' ∉ field := by
  obtain ⟨-, u, hu⟩ := h
  intro hc
  exact hu.notMem (List.mem_map.2 ⟨'\\', hc, rfl⟩)

theorem IsHexField.unitOf? {field : List Char} (h : IsHexField field) :
    Properties.unitOf? field = some (hexNumber field) := by
  have hne : field ≠ [] := by
    rintro rfl
    exact absurd h.1 (by decide)
  exact unitOf?_eq_some_iff.2 (readInteger?_hexCharacters hne h.2)

theorem escaped_eq (c : Char) : escaped c = (control? c).getD c := by
  rw [control?.eq_def]
  split
  · rfl
  · rfl
  · rfl
  · rfl
  · next ht hn hr hf =>
      rw [escaped.eq_def]
      split
      · exact (ht rfl).elim
      · exact (hn rfl).elim
      · exact (hr rfl).elim
      · exact (hf rfl).elim
      · rfl

/-- Fewer characters, whatever stands in front. -/
def Shorter (us vs : List Nat) : Prop :=
  ∀ front, (decodeUnits (front ++ us)).length < (decodeUnits (front ++ vs)).length

/-- A text reads strictly, and then the readings agree, or it does not, and then the strict one gives
more. -/
def Compares (cs : List Char) : Prop :=
  (ReadsStrictly cs ∧ unescapeUnits cs = strictUnits cs) ∨
    (¬ ReadsStrictly cs ∧ Shorter (unescapeUnits cs) (strictUnits cs))

theorem Compares.step {cs ds : List Char} {us : List Nat} (h : Compares cs)
    (hr : ReadsStrictly ds ↔ ReadsStrictly cs) (hu : unescapeUnits ds = us ++ unescapeUnits cs)
    (hs : strictUnits ds = us ++ strictUnits cs) : Compares ds := by
  rw [Compares, hr, hu, hs]
  refine h.imp (fun h => ⟨h.1, congrArg (us ++ ·) h.2⟩) (fun h => ⟨h.1, fun front => ?_⟩)
  rw [← List.append_assoc, ← List.append_assoc]
  exact h.2 (front ++ us)

theorem Compares.le {cs : List Char} (h : Compares cs) :
    (decodeUnits (unescapeUnits cs)).length ≤ (decodeUnits (strictUnits cs)).length := by
  rcases h with ⟨-, he⟩ | ⟨-, hs⟩
  · rw [he]
  · exact Nat.le_of_lt (hs [])

/-- Four characters that are read as one unit are more than the one character it can be. -/
theorem shorter_of_taken {field rest : List Char} (hl : field.length = 4) (hb : '\\' ∉ field)
    (u : Nat) {us : List Nat}
    (h : (decodeUnits (unescapeUnits (field ++ rest))).length ≤ (decodeUnits us).length) :
    Shorter (u :: unescapeUnits rest) (unitsOf 'u' ++ us) := by
  intro front
  rw [unescapeUnits_append hb, decodeUnits_toUnits_append, List.length_append, hl] at h
  rw [decodeUnits_append_unitsOf, List.length_append, List.length_cons]
  calc (decodeUnits (front ++ u :: unescapeUnits rest)).length
      ≤ (decodeUnits front).length + (decodeUnits (u :: unescapeUnits rest)).length :=
        length_decodeUnits_append_le front _
    _ ≤ (decodeUnits front).length + ((decodeUnits (unescapeUnits rest)).length + 1) :=
        Nat.add_le_add_left (length_decodeUnits_cons_le u _) _
    _ < (decodeUnits front).length + ((decodeUnits us).length + 1) := by omega

/-- A `u` without four hexadecimal digits behind it. -/
theorem Compares.noHex {cs : List Char} (h : Compares cs) (hx : ¬ IsHexField (cs.take 4))
    (hs : strictUnits ('\\' :: 'u' :: cs) = unitsOf 'u' ++ strictUnits cs) :
    Compares ('\\' :: 'u' :: cs) := by
  by_cases hn : IsNumeral (cs.take 4)
  · obtain ⟨u, hu⟩ := (isNumeral_iff hn.1).1 hn
    have hle : (decodeUnits (unescapeUnits (cs.take 4 ++ cs.drop 4))).length ≤
        (decodeUnits (strictUnits cs)).length := by
      rw [List.take_append_drop]
      exact h.le
    have hread := unescapeUnits_field hn.1 hu (cs.drop 4)
    rw [List.take_append_drop] at hread
    refine Or.inr ⟨fun hr => hx (((readsStrictly_unit cs).1 hr).1 hn), ?_⟩
    rw [hread, hs]
    exact shorter_of_taken hn.1 hn.notMem u hle
  · have hr : ReadsStrictly ('\\' :: 'u' :: cs) ↔ ReadsStrictly cs := by
      rw [readsStrictly_unit]
      exact and_iff_right fun h => absurd h hn
    refine h.step hr (unescapeUnits_noField ?_) hs
    rintro field rest rfl hl
    rw [← hl, List.take_left] at hn
    rw [isNumeral_iff hl, not_exists] at hn
    exact Option.eq_none_iff_forall_ne_some.2 hn

/-- Both readers take the same step until a field is taken that is not four hexadecimal digits. -/
theorem compares (cs : List Char) : Compares cs := by
  fun_induction strictUnits cs with
  | case1 => exact Or.inl ⟨readsStrictly_of_short (by decide), by simp [unescapeUnits, strictUnits]⟩
  | case2 => exact Or.inl ⟨readsStrictly_of_short (by decide), by simp [unescapeUnits, strictUnits]⟩
  | case3 c cs d hd ih =>
      have hc : c ≠ 'u' := by
        rintro rfl
        cases hd
      have he : escaped c = d := by rw [escaped_eq, hd, Option.getD_some]
      refine ih.step (readsStrictly_pair hc cs) (he ▸ unescapeUnits_backslash_cons hc cs) ?_
      rw [strictUnits, hd]
  | case4 c cs hd hu ih =>
      obtain ⟨rfl, hx⟩ := hu
      have hb : '\\' ∉ cs.take 4 := fun hc => absurd (hx.2 _ hc) (by decide)
      have hread : unescapeUnits ('\\' :: 'u' :: (cs.take 4 ++ cs.drop 4)) =
          [hexNumber (cs.take 4)] ++ unescapeUnits (cs.drop 4) :=
        unescapeUnits_field hx.1 hx.unitOf? (cs.drop 4)
      have hstrict := readsStrictly_plain hb (cs.drop 4)
      rw [List.take_append_drop] at hread hstrict
      refine ih.step ?_ hread ?_
      · rw [readsStrictly_unit, hstrict]
        exact and_iff_right fun _ => hx
      · rw [strictUnits, hd]
        exact if_pos ⟨rfl, hx⟩
  | case5 c cs hd hu ih =>
      have hs : strictUnits ('\\' :: c :: cs) = unitsOf c ++ strictUnits cs := by
        rw [strictUnits, hd]
        exact if_neg hu
      by_cases hc : c = 'u'
      · subst hc
        exact ih.noHex (fun hx => hu ⟨rfl, hx⟩) hs
      · have he : escaped c = c := by rw [escaped_eq, hd, Option.getD_none]
        refine ih.step (readsStrictly_pair hc cs) ?_ hs
        rw [unescapeUnits_backslash_cons hc, he]
  | case6 c cs h1 h2 ih =>
      have hc : c ≠ '\\' := by
        rintro rfl
        cases cs with
        | nil => exact h1 rfl rfl
        | cons d cs => exact h2 d cs rfl rfl
      have hstrict : ReadsStrictly (c :: cs) ↔ ReadsStrictly cs :=
        readsStrictly_plain (by simpa using Ne.symm hc : '\\' ∉ [c]) cs
      refine ih.step hstrict (unescapeUnits_plain hc cs) ?_
      rw [strictUnits]
      · exact h1
      · exact h2

/-! ## The reader -/

theorem strictUnits_lt (cs : List Char) : ∀ u ∈ strictUnits cs, u < 0x10000 := by
  have happend : ∀ {c : Char} {us : List Nat}, (∀ u ∈ us, u < 0x10000) →
      ∀ u ∈ unitsOf c ++ us, u < 0x10000 := by
    intro c us h u hu
    exact (List.mem_append.1 hu).elim unitsOf_lt (h u)
  fun_induction strictUnits cs with
  | case1 => exact fun _ hu => nomatch hu
  | case2 => exact fun _ hu => unitsOf_lt hu
  | case3 _ _ _ _ ih => exact happend ih
  | case4 _ cs _ hu ih =>
      have hlt := hexNumber_lt (cs.take 4)
      rw [hu.2.1] at hlt
      exact List.forall_mem_cons.2 ⟨hlt, ih⟩
  | case5 _ _ _ _ ih => exact happend ih
  | case6 _ _ _ _ ih => exact happend ih

/-- A text is given its strict reading exactly if it reads strictly. -/
theorem joins_strictUnits_iff (cs : List Char) :
    Joins (strictUnits cs) (unescape cs) ↔ ReadsStrictly cs := by
  rw [joins_iff (strictUnits_lt cs), unescape]
  rcases compares cs with ⟨hr, he⟩ | ⟨hr, hs⟩
  · rw [he]
    exact iff_of_true rfl hr
  · refine iff_of_false (fun he => ?_) hr
    exact absurd (congrArg List.length he) (Nat.ne_of_gt (hs []))

end Properties

namespace Listing

open AppCatalog.Properties

/-- Every text has one strict reading, and it is given that reading exactly if it reads strictly. So
are the keys and values of a listing, each of which is read off a part of a line. -/
theorem parse_strict_iff (cs text : List Char) :
    (∃! reading, Joins (strictUnits cs) reading) ∧
      (Joins (strictUnits cs) (unescape cs) ↔ ReadsStrictly cs) ∧
      ∀ p ∈ parse text, ∃ line ∈ logicalLines text, p = entry line ∧
        (Joins (strictUnits (splitKey line).1) p.1 ↔ ReadsStrictly (splitKey line).1) ∧
        (Joins (strictUnits (valuePart (splitKey line).2)) p.2 ↔
          ReadsStrictly (valuePart (splitKey line).2)) := by
  refine ⟨⟨_, joins_decodeUnits (strictUnits_lt cs), ?_⟩, joins_strictUnits_iff cs, ?_⟩
  · exact fun ds hj => hj.decodeUnits_eq.symm
  · intro p hp
    obtain ⟨line, hline, rfl⟩ := List.mem_map.1 (Assoc.mem_of_mem_ofPairs hp)
    exact ⟨line, hline, rfl, joins_strictUnits_iff _, joins_strictUnits_iff _⟩

/-- A sign in front of three digits is taken for part of the number. -/
theorem parse_strict_iff_signed :
    let text := ['k', '=', '\\', 'u', '+', '0', '4', '1']
    let value := ['\\', 'u', '+', '0', '4', '1']
    parse text = [(['k'], ['A'])] ∧ ¬ Joins (strictUnits value) ['A'] ∧
      Joins (strictUnits value) ['u', '+', '0', '4', '1'] := by
  intro text value
  refine ⟨by decide, ?_, ?_⟩
  · obtain ⟨line, hline, -, -, hvalue⟩ :=
      (parse_strict_iff value text).2.2 (['k'], ['A']) (by decide)
    obtain rfl : line = text := List.mem_singleton.1 hline
    intro hj
    have hx := hvalue.1 hj ['+', '0', '4', '1'] (.intro [] ['+', '0', '4', '1'] [] (by decide))
      ((isNumeral_iff rfl).2 ⟨0x41, by decide⟩)
    exact absurd hx (by decide)
  · rw [joins_iff (strictUnits_lt _)]
    decide +kernel

end Listing

end AppCatalog
