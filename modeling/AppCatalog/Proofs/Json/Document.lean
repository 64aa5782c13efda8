import AppCatalog.Proofs.Json.Limits
import AppCatalog.Proofs.Yaml.FlowNode
import AppCatalog.Proofs.Yaml.FlowScan
import AppCatalog.Proofs.Yaml.FlowValue

/-!
# A JSON text is a document

A document reads a portable JSON object as what it stands for (`load_object`), as long as none of its
integers has too many digits, which is too many for either reader. Scanning and the reader of
JSON go through the text together, value by value: where the one comes to the end of a value, the
other has taken tokens that give a node for it.
-/

namespace AppCatalog.Yaml

open AppCatalog.Text
open Json (skipSpace readValue readItems readFields ReadFrom IsPortable withSign)
open Reading (Yields YieldsItems YieldsEntries)
open Scalar (EndsValue isBareChar)
open Scanner (At Comes)

/-- The limits that documents share: an integer of too many digits cannot be read. -/
def limits : Json.Limits := ⟨some maxDigits, none⟩

/-! ## Words and numbers -/

/-- A word of JSON, or a number, is a plain scalar that means the same. -/
structure IsWord (w : List Char) (v : Json Points) : Prop where
  begins : Scanner.BeginsWord w
  chars : ∀ ch ∈ w, isBareChar ch = true
  means : MeansJson (.ofWord w) v

theorem isWord_of_word {w : List Char} {v : Json Points} (h : Json.Word w v) : IsWord w v := by
  cases h with
  | null => exact ⟨Or.inl ⟨_, _, rfl, rfl⟩, List.all_eq_true.1 (by decide), meansJson_scalar means_null⟩
  | true => exact ⟨Or.inl ⟨_, _, rfl, rfl⟩, List.all_eq_true.1 (by decide), meansJson_scalar means_true⟩
  | false => exact ⟨Or.inl ⟨_, _, rfl, rfl⟩, List.all_eq_true.1 (by decide), meansJson_scalar means_false⟩

theorem isBareChar_of_isNumberChar {c : Char} (h : isNumberChar c = true) :
    isBareChar c = true :=
  of_isNumberChar (P := fun c => isBareChar c = true) (by decide) h

/-- A number with its sign begins like a word and has only characters of words. -/
theorem isWord_withSign {c : Char} {cs : List Char} {v : Json Points} (hc : Binary64.isDigit c = true)
    (hcs : ∀ d ∈ c :: cs, isNumberChar d = true) (negative : Bool)
    (h : MeansJson (.ofWord (withSign negative (c :: cs))) v) :
    IsWord (withSign negative (c :: cs)) v := by
  have halnum : c.isAlphanum = true := of_isDigit (P := fun c => c.isAlphanum = true) (by decide) hc
  cases negative with
  | true =>
      refine ⟨Or.inr ⟨c, cs, rfl, halnum⟩, ?_, h⟩
      intro d hd
      rcases List.mem_cons.1 hd with rfl | hd
      · decide
      · exact isBareChar_of_isNumberChar (hcs d hd)
  | false =>
      exact ⟨Or.inl ⟨c, cs, rfl, halnum⟩, fun d hd => isBareChar_of_isNumberChar (hcs d hd), h⟩

/-- A number is a word in front of the rest of a text. -/
theorem isWord_of_numeral {negative : Bool} {cs rest : List Char} {v : Json Points}
    (h : Json.Numeral limits negative cs rest v) :
    ∃ w, withSign negative cs = w ++ rest ∧ IsWord w v := by
  have happend : ∀ ds, withSign negative (ds ++ rest) = withSign negative ds ++ rest := by
    intro ds
    cases negative <;> rfl
  cases h with
  | @whole ds hds hlength hcs =>
      refine ⟨withSign negative ds, by rw [hcs, happend], ?_⟩
      have hmeans := means_whole hds (hlength maxDigits rfl) negative
      have hchars := isNumberChar_whole hds
      obtain ⟨c, cs, rfl⟩ := List.exists_cons_of_ne_nil hds.nonempty
      exact isWord_withSign (hds.digits c List.mem_cons_self) hchars negative (meansJson_scalar hmeans)
  | @pointed whole fraction power x hpointed hx hcs =>
      refine ⟨withSign negative (whole ++ '.' :: fraction ++ power), by rw [hcs, happend], ?_⟩
      have hmeans := means_pointed hpointed hx
      have hchars := isNumberChar_pointed hpointed
      obtain ⟨c, cs, rfl⟩ := List.exists_cons_of_ne_nil hpointed.whole.nonempty
      exact isWord_withSign (hpointed.whole.digits c List.mem_cons_self) hchars negative
        (meansJson_scalar hmeans)

/-! ## Values -/

/-- From a scanner at a value, scanning comes to what follows the value, with tokens of a node that
means the value. -/
def Passes (s : Scanner) (v : Json Points) (rest : List Char) : Prop :=
  ∃ s' ts n, Comes s ts s.flowLevel (skipSpace rest) s' ∧ Yields ts n ∧ MeansJson n v

/-- The same of the items of a list, whose closing bracket is passed over too. -/
def PassesItems (s : Scanner) (vs : List (Json Points)) (rest : List Char) : Prop :=
  ∃ s' ts ns, Comes s ts (s.flowLevel - 1) (skipSpace rest) s' ∧ YieldsItems ts ns ∧
    List.Forall₂ MeansJson ns vs

/-- The same of the fields of an object. -/
def PassesFields (s : Scanner) (fs : List (Points × Json Points)) (rest : List Char) : Prop :=
  ∃ s' ts es, Comes s ts (s.flowLevel - 1) (skipSpace rest) s' ∧ YieldsEntries ts es ∧
    List.Forall₂ MeansField es fs

/-- What the readers of JSON take from a text with some fuel, scanning passes over. Words need a
bracket around them and an end behind them. -/
structure PassesAll (fuel : Nat) : Prop where
  value : ∀ {cs v rest}, readValue limits fuel cs = .ok (v, rest) → IsPortable cs → EndsValue rest →
    IsPortable rest ∧ ∀ s, At s cs → 0 < s.flowLevel → Passes s v rest
  items : ∀ {cs vs rest}, readItems limits fuel cs = .ok (vs, rest) → IsPortable cs →
    IsPortable rest ∧ ∀ s, At s cs → 0 < s.flowLevel → PassesItems s vs rest
  fields : ∀ {cs fs rest}, readFields limits fuel cs = .ok (fs, rest) → IsPortable cs →
    IsPortable rest ∧ ∀ s, At s cs → 0 < s.flowLevel → s.keyAllowed = true →
      PassesFields s fs rest

variable {s : Scanner} {v : Json Points} {r cs rest : List Char} {fuel : Nat}

/-- A string whose escapes are whole gives the same text in a document. -/
theorem exists_text {text : Points} (hs : Json.readString r = some (text, rest))
    (hw : Json.hasWholeEscapes r = true) :
    ∃ cs, Json.readUnits r = some (toUnits cs, rest) ∧ text = .ofChars cs := by
  rw [Json.readString, Option.map_eq_some_iff] at hs
  obtain ⟨⟨us, rest'⟩, hus, he⟩ := hs
  cases he
  obtain ⟨cs, rfl⟩ := Json.exists_toUnits_eq hw hus
  exact ⟨cs, hus, Points.ofUnits_toUnits cs⟩

theorem passes_string {text : Points} (h : At s ('"' :: r))
    (hs : Json.readString r = some (text, rest)) (hw : Json.hasWholeEscapes r = true) :
    Passes s (.str text) rest := by
  obtain ⟨cs, hcs, rfl⟩ := exists_text hs hw
  obtain ⟨s', hcomes⟩ := Scanner.comes_string h hcs hw
  exact ⟨s', _, _, hcomes, Reading.yields_scalar _ false, meansJson_scalar (means_text _)⟩

theorem passes_word {w : List Char} (h : At s (w ++ rest)) (hflow : 0 < s.flowLevel)
    (hw : IsWord w v) (he : EndsValue rest) : Passes s v rest := by
  obtain ⟨s', hcomes⟩ := Scanner.comes_word h hflow hw.begins hw.chars he
  exact ⟨s', _, _, hcomes, Reading.yields_word w, hw.means⟩

theorem passes_noItems (h : At s ('[' :: r)) (hr : skipSpace r = ']' :: rest) :
    Passes s (.arr []) rest := by
  obtain ⟨s₁, hopen, -⟩ := Scanner.comes_open h (Or.inl ⟨rfl, rfl⟩)
  rw [hr] at hopen
  obtain ⟨s₂, hclose⟩ := Scanner.comes_close hopen.isAt (Or.inl ⟨rfl, rfl⟩)
  rw [hopen.level, Nat.add_sub_cancel] at hclose
  exact ⟨s₂, _, _, hopen.trans hclose, Reading.yields_emptySequence, means_sequence .nil⟩

theorem passes_items {vs : List (Json Points)} (h : At s ('[' :: r))
    (hvs : ∀ s, At s (skipSpace r) → 0 < s.flowLevel → PassesItems s vs rest) :
    Passes s (.arr vs) rest := by
  obtain ⟨s₁, hopen, -⟩ := Scanner.comes_open h (Or.inl ⟨rfl, rfl⟩)
  obtain ⟨s₂, ts, ns, hitems, hyields, hmeans⟩ :=
    hvs s₁ hopen.isAt (by rw [hopen.level]; exact Nat.succ_pos _)
  rw [hopen.level, Nat.add_sub_cancel] at hitems
  exact ⟨s₂, _, _, hopen.trans hitems, Reading.yields_sequence hyields.reads, means_sequence hmeans⟩

theorem passes_noFields (h : At s ('\x7b' :: r)) (hr : skipSpace r = '\x7d' :: rest) :
    Passes s (.obj []) rest := by
  obtain ⟨s₁, hopen, -⟩ := Scanner.comes_open h (Or.inr ⟨rfl, rfl⟩)
  rw [hr] at hopen
  obtain ⟨s₂, hclose⟩ := Scanner.comes_close hopen.isAt (Or.inr ⟨rfl, rfl⟩)
  rw [hopen.level, Nat.add_sub_cancel] at hclose
  exact ⟨s₂, _, _, hopen.trans hclose, Reading.yields_emptyMapping, means_mapping .nil⟩

theorem passes_fields {fs : List (Points × Json Points)} (h : At s ('\x7b' :: r))
    (hfs : ∀ s, At s (skipSpace r) → 0 < s.flowLevel → s.keyAllowed = true →
      PassesFields s fs rest) : Passes s (.obj fs) rest := by
  obtain ⟨s₁, hopen, hallowed⟩ := Scanner.comes_open h (Or.inr ⟨rfl, rfl⟩)
  obtain ⟨s₂, ts, es, hfields, hyields, hmeans⟩ :=
    hfs s₁ hopen.isAt (by rw [hopen.level]; exact Nat.succ_pos _) hallowed
  rw [hopen.level, Nat.add_sub_cancel] at hfields
  exact ⟨s₂, _, _, hopen.trans hfields, Reading.yields_mapping hyields.reads, means_mapping hmeans⟩

/-! ## Whole texts -/

theorem isPortable_word {w : List Char} (hw : Json.Word w v) (hp : IsPortable (w ++ rest)) :
    IsPortable rest := by
  have hletters : ∀ c ∈ w, c ≠ '"' ∧ Binary64.isDigit c = false := by
    cases hw <;> exact List.all_iff_forall_prop.1 (by decide)
  clear hw
  induction w with
  | nil => exact hp
  | cons c w ih =>
      have hc := hletters c List.mem_cons_self
      exact ih (hp.tail hc.1 hc.2).1 fun d hd => hletters d (List.mem_cons_of_mem c hd)

/-- A portable number has portable text behind it. -/
theorem numeral_of_readNumber {negative : Bool} {ds : List Char}
    (hv : Json.readNumber limits negative ds = .ok (v, rest))
    (hp : IsPortable (withSign negative ds)) :
    IsPortable rest ∧ Json.Numeral limits negative ds rest v := by
  have hds : IsPortable ds := by
    cases negative with
    | true => exact (hp.tail (by decide) (by decide)).1
    | false => exact hp
  obtain ⟨c, ds, rfl, hc⟩ := Json.readNumber_digit hv
  obtain ⟨hpower, hrest⟩ := hds.number hc
  obtain ⟨hnumeral, rfl⟩ := Json.readNumber_cases hv hpower
  exact ⟨hrest, hnumeral⟩

/-- A value as long as what it holds is passed over. -/
theorem passes_value (ih : PassesAll fuel) (hv : ReadFrom limits fuel cs rest v) (hp : IsPortable cs)
    (he : EndsValue rest) :
    IsPortable rest ∧ ∀ s, At s cs → 0 < s.flowLevel → Passes s v rest := by
  cases hv with
  | string hcs hs =>
      subst hcs
      obtain ⟨hw, -, hrest⟩ := hp.readString hs
      exact ⟨hrest, fun s h _ => passes_string h hs hw⟩
  | noFields hcs hl hr =>
      subst hcs
      have hclose := (hp.tail (by decide) (by decide)).1.skipSpace
      rw [hr] at hclose
      exact ⟨(hclose.tail (by decide) (by decide)).1, fun s h _ => passes_noFields h hr⟩
  | fields hcs hl hfs =>
      subst hcs
      cases hl
      obtain ⟨hrest, hpasses⟩ := ih.fields hfs (hp.tail (by decide) (by decide)).1.skipSpace
      exact ⟨hrest, fun s h _ => passes_fields h hpasses⟩
  | noItems hcs hl hr =>
      subst hcs
      have hclose := (hp.tail (by decide) (by decide)).1.skipSpace
      rw [hr] at hclose
      exact ⟨(hclose.tail (by decide) (by decide)).1, fun s h _ => passes_noItems h hr⟩
  | items hcs hl hvs =>
      subst hcs
      cases hl
      obtain ⟨hrest, hpasses⟩ := ih.items hvs (hp.tail (by decide) (by decide)).1.skipSpace
      exact ⟨hrest, fun s h _ => passes_items h hpasses⟩
  | word hw hcs =>
      subst hcs
      exact ⟨isPortable_word hw hp, fun s h hflow => passes_word h hflow (isWord_of_word hw) he⟩
  | beyond hcs =>
      rcases hcs with rfl | rfl | rfl
      · exact absurd rfl (hp.tail (by decide) (by decide)).2.1
      · exact absurd rfl (hp.tail (by decide) (by decide)).2.2
      · have htail := (hp.tail (by decide) (by decide)).1
        exact absurd rfl (htail.tail (by decide) (by decide)).2.2
  | number hcs hv =>
      subst hcs
      obtain ⟨hrest, hnumeral⟩ := numeral_of_readNumber hv hp
      obtain ⟨w, hw, hword⟩ := isWord_of_numeral hnumeral
      rw [hw]
      exact ⟨hrest, fun s h hflow => passes_word h hflow hword he⟩

/-- What ends a value may follow white space. -/
theorem endsValue_of_skipSpace {c : Char} (h : skipSpace cs = c :: r)
    (hc : c ∈ [',', ']', '\x7d']) : EndsValue cs := by
  intro ch hch
  rw [h] at hch
  cases hch
  exact hc

theorem passesAll_items (ih : PassesAll fuel) {vs : List (Json Points)}
    (h : readItems limits (fuel + 1) cs = .ok (vs, rest)) (hp : IsPortable cs) :
    IsPortable rest ∧ ∀ s, At s cs → 0 < s.flowLevel → PassesItems s vs rest := by
  obtain ⟨v, r, hv, hend⟩ := Json.readItems_cases h
  have he : EndsValue r := by
    rcases hend with ⟨hr, -⟩ | ⟨r', vs', hr, -⟩
    · exact endsValue_of_skipSpace hr (by decide)
    · exact endsValue_of_skipSpace hr (by decide)
  obtain ⟨hportable, hpasses⟩ := ih.value hv hp he
  have hmark := hportable.skipSpace
  rcases hend with ⟨hr, rfl⟩ | ⟨r', vs', hr, hvs, rfl⟩
  · rw [hr] at hmark
    refine ⟨(hmark.tail (by decide) (by decide)).1, fun s hs hflow => ?_⟩
    obtain ⟨s₁, ts, n, hcomes, hyields, hmeans⟩ := hpasses s hs hflow
    rw [hr] at hcomes
    obtain ⟨s₂, hclose⟩ := Scanner.comes_close hcomes.isAt (Or.inl ⟨rfl, rfl⟩)
    rw [hcomes.level] at hclose
    exact ⟨s₂, _, _, hcomes.trans hclose, .last hyields, .cons hmeans .nil⟩
  · rw [hr] at hmark
    obtain ⟨hrest, hitems⟩ := ih.items hvs (hmark.tail (by decide) (by decide)).1.skipSpace
    refine ⟨hrest, fun s hs hflow => ?_⟩
    obtain ⟨s₁, ts, n, hcomes, hyields, hmeans⟩ := hpasses s hs hflow
    rw [hr] at hcomes
    obtain ⟨s₂, hcomma, -⟩ := Scanner.comes_comma hcomes.isAt
    rw [hcomes.level] at hcomma
    obtain ⟨s₃, us, ns, hmore, hyields', hmeans'⟩ :=
      hitems s₂ hcomma.isAt (by rw [hcomma.level]; exact hflow)
    rw [hcomma.level] at hmore
    refine ⟨s₃, _, _, (hcomes.trans hcomma).trans hmore, ?_, .cons hmeans hmeans'⟩
    have hall := YieldsItems.cons hyields hyields'
    rwa [List.append_assoc]

theorem passesAll_fields (ih : PassesAll fuel) {fs : List (Points × Json Points)}
    (h : readFields limits (fuel + 1) cs = .ok (fs, rest)) (hp : IsPortable cs) :
    IsPortable rest ∧ ∀ s, At s cs → 0 < s.flowLevel → s.keyAllowed = true →
      PassesFields s fs rest := by
  obtain ⟨r, k, r₁, r₂, v, r₃, rfl, hk, hr₁, hv, hend⟩ := Json.readFields_cases h
  obtain ⟨hw, hnear, hcolon⟩ := hp.readString hk
  obtain ⟨name, hname, rfl⟩ := exists_text hk hw
  have hcolon := hcolon.skipSpace
  rw [hr₁] at hcolon
  have he : EndsValue r₃ := by
    rcases hend with ⟨hr₃, -⟩ | ⟨r₄, fs', hr₃, -⟩
    · exact endsValue_of_skipSpace hr₃ (by decide)
    · exact endsValue_of_skipSpace hr₃ (by decide)
  obtain ⟨hmark, hpasses⟩ := ih.value hv (hcolon.tail (by decide) (by decide)).1.skipSpace he
  have hmark := hmark.skipSpace
  have hfield : ∀ s, At s ('"' :: r) → 0 < s.flowLevel → s.keyAllowed = true → ∃ s' ts n,
      Comes s ([.key, .scalar (.ofChars name) false, .value] ++ ts) s.flowLevel (skipSpace r₃) s' ∧
        Yields ts n ∧ MeansJson n v := by
    intro s hs hflow hallowed
    obtain ⟨s₁, hkey⟩ := Scanner.comes_key hs hflow hallowed hname hw hnear hr₁
    obtain ⟨s₂, ts, n, hvalue, hyields, hmeans⟩ :=
      hpasses s₁ hkey.isAt (by rw [hkey.level]; exact hflow)
    rw [hkey.level] at hvalue
    exact ⟨s₂, ts, n, hkey.trans hvalue, hyields, hmeans⟩
  rcases hend with ⟨hr₃, rfl⟩ | ⟨r₄, fs', hr₃, hfs, rfl⟩
  · rw [hr₃] at hmark
    refine ⟨(hmark.tail (by decide) (by decide)).1, fun s hs hflow hallowed => ?_⟩
    obtain ⟨s₁, ts, n, hcomes, hyields, hmeans⟩ := hfield s hs hflow hallowed
    rw [hr₃] at hcomes
    obtain ⟨s₂, hclose⟩ := Scanner.comes_close hcomes.isAt (Or.inr ⟨rfl, rfl⟩)
    rw [hcomes.level] at hclose
    exact ⟨s₂, _, [(.scalar .text (.ofChars name), n)], hcomes.trans hclose,
      .last (.ofChars name) hyields, .cons ⟨rfl, hmeans⟩ .nil⟩
  · rw [hr₃] at hmark
    obtain ⟨hrest, hfields⟩ := ih.fields hfs (hmark.tail (by decide) (by decide)).1.skipSpace
    refine ⟨hrest, fun s hs hflow hallowed => ?_⟩
    obtain ⟨s₁, ts, n, hcomes, hyields, hmeans⟩ := hfield s hs hflow hallowed
    rw [hr₃] at hcomes
    obtain ⟨s₂, hcomma, hallowed'⟩ := Scanner.comes_comma hcomes.isAt
    rw [hcomes.level] at hcomma
    obtain ⟨s₃, us', es, hmore, hyields', hmeans'⟩ :=
      hfields s₂ hcomma.isAt (by rw [hcomma.level]; exact hflow) hallowed'
    rw [hcomma.level] at hmore
    refine ⟨s₃, _, (.scalar .text (.ofChars name), n) :: es, (hcomes.trans hcomma).trans hmore, ?_,
      .cons ⟨rfl, hmeans⟩ hmeans'⟩
    have hall := YieldsEntries.cons (.ofChars name) hyields hyields'
    rwa [List.append_assoc]

/-- Whatever JSON reads with some fuel, scanning passes over. -/
theorem passesAll (fuel : Nat) : PassesAll fuel := by
  induction fuel with
  | zero =>
      refine ⟨fun h => ?_, fun h => ?_, fun h => ?_⟩
      · rw [readValue] at h
        cases h
      · rw [readItems] at h
        cases h
      · rw [readFields] at h
        cases h
  | succ fuel ih =>
      exact ⟨fun h => passes_value ih (Json.readValue_cases h), passesAll_items ih,
        passesAll_fields ih⟩

/-- An object is passed over with no bracket around it, too. -/
theorem passes_object {fs : List (Points × Json Points)} (hv : ReadFrom limits fuel cs rest (.obj fs))
    (hp : IsPortable cs) (h : At s cs) : Passes s (.obj fs) rest := by
  cases hv with
  | noFields hcs hl hr =>
      subst hcs
      exact passes_noFields h hr
  | fields hcs hl hfs =>
      subst hcs
      cases hl
      have hr := (hp.tail (by decide) (by decide)).1.skipSpace
      exact passes_fields h ((passesAll fuel).fields hfs hr).2
  | word hw hcs => cases hw
  | number hcs hv =>
      subst hcs
      cases (numeral_of_readNumber hv hp).2

/-- The tokens of a portable object give a node that means it. -/
theorem scan_object {fs : List (Points × Json Points)} (h : Json.parse limits cs = .ok (.obj fs))
    (hp : Json.isPortable cs = true) :
    ∃ ts n, Token.scan cs = (ts, none) ∧ Yields ts n ∧ MeansJson n (.obj fs) := by
  obtain ⟨hportable, hchars⟩ := IsPortable.of_isPortable hp
  obtain ⟨rest, hv, hrest⟩ := Json.parse_cases h
  let s : Scanner := ⟨Cursor.start cs, [], 0, 0, -1, [], true, []⟩
  have hs : At s (skipSpace cs) := ⟨rfl, hchars, List.forall_mem_nil _, rfl, rfl⟩
  obtain ⟨s', ts, n, hcomes, hyields, hmeans⟩ :=
    passes_object (Json.readValue_cases hv) hportable.skipSpace hs
  rw [hrest] at hcomes
  obtain ⟨k, hk, hrun⟩ := hcomes.reaches
  have hdocument : cs.all isDocumentChar = true := by
    refine List.all_eq_true.2 fun c hc => ?_
    exact (Bool.and_eq_true_iff.1 (hchars c hc)).1
  have hmark : ((Cursor.start cs).peek 0 == '\ufeff') = false := by
    rw [beq_eq_false_iff_ne]
    cases cs with
    | nil => decide
    | cons c cs =>
        -- No value of JSON begins with a byte order mark.
        rintro rfl
        cases h
  have hfuel : cs.length + 2 = cs.length - k + 1 + 1 + k := by
    have hle : k ≤ cs.length := Nat.le_trans (Nat.le_add_right _ _) hk
    omega
  refine ⟨ts, n, ?_, hyields, hmeans⟩
  rw [Token.scan, if_pos hdocument]
  simp only [hmark, if_neg Bool.false_ne_true]
  rw [hfuel, hrun, Scanner.run_end hcomes.isAt, hcomes.tokens]
  simp [s]

/-- A portable JSON object is read as a document of what it stands for. -/
theorem load_object {fs : List (Points × Json Points)} {levels : Option Nat}
    (h : Json.parse .unbounded cs = .ok (.obj fs))
    (hgreatest : (Json.obj fs).greatest < 10 ^ maxDigits)
    (hdepth : ∀ n ∈ levels, (Json.obj fs).depth < n) (hp : Json.isPortable cs = true) :
    load levels cs = .ok (Value.ofJson (Json.obj fs).merged) := by
  have hallows : limits.Allows (.obj fs) := by
    refine ⟨fun n hn => ?_, fun n hn => by cases hn⟩
    cases hn
    exact ⟨by decide, hgreatest⟩
  obtain ⟨ts, n, hscan, hyields, hmeans⟩ := scan_object (Json.parse_of_allows h hallows) hp
  have hfuel : 2 * ts.length ≤ 4 * ts.length + 16 := by omega
  have hdocument := Reading.run_document hyields hfuel Reading.standardHandles
  have hnode : Node.ofText cs = .ok (some n) := by
    rw [Node.ofText, hscan]
    simp only [hdocument]
    rfl
  have hlevels : ¬ levels.any (· < n.depth) = true := by
    rw [Option.any_eq_true]
    rintro ⟨m, hm, hlt⟩
    have hle := Nat.le_trans hmeans.depth (Nat.succ_le_of_lt (hdepth m hm))
    exact absurd (of_decide_eq_true hlt) (Nat.not_lt.2 hle)
  rw [load, hnode]
  simp only [bind, Except.bind, if_neg hlevels, hmeans.value (n.depth + 1) 0 (Nat.le_succ _)]
  rfl

end AppCatalog.Yaml
