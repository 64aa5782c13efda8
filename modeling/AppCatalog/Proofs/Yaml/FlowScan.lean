import AppCatalog.Proofs.Assoc
import AppCatalog.Proofs.Yaml.FlowScalar
import AppCatalog.Proofs.Yaml.Scanner

/-!
# Scanning JSON

Inside of brackets neither lines nor columns count, and a scanner takes the lexemes of a portable
JSON text one by one. `Comes` says that it gets from one place to another with some tokens. There is
a lemma for each kind of lexeme; a key and its colon are taken together, since the colon puts the key
token in front of the key.
-/

namespace AppCatalog.Yaml.Scanner

open AppCatalog.Text
open Cursor (SameLine)
open Json (skipSpace isPortableChar)
open Scalar (isBareChar EndsValue)

/-- A scanner that has come to a text, up to the white space in front of it. No block is open and no
key is required. -/
structure At (s : Scanner) (cs : List Char) : Prop where
  rest : skipSpace s.cursor.rest = cs
  chars : ∀ ch ∈ s.cursor.rest, isPortableChar ch = true
  keys : ∀ p ∈ s.keys, p.2.isRequired = false
  indent : s.indent = -1
  outer : s.outer = []

/-- Scanning gets from one scanner to another, with a character for each step at least. -/
def Reaches (s s' : Scanner) : Prop :=
  ∃ n, n + s'.cursor.rest.length ≤ s.cursor.rest.length ∧ ∀ fuel, run (fuel + n) s = run fuel s'

theorem Reaches.trans {s s' s'' : Scanner} (h : Reaches s s') (h' : Reaches s' s'') :
    Reaches s s'' := by
  obtain ⟨n, hn, hrun⟩ := h
  obtain ⟨m, hm, hrun'⟩ := h'
  refine ⟨m + n, by omega, fun fuel => ?_⟩
  rw [← Nat.add_assoc, hrun, hrun']

/-- A scanner comes to a text on a level with some tokens. -/
structure Comes (s : Scanner) (ts : List Token) (level : Nat) (cs : List Char) (s' : Scanner) :
    Prop where
  reaches : Reaches s s'
  isAt : At s' cs
  tokens : s'.tokens = ts.reverse ++ s.tokens
  level : s'.flowLevel = level

theorem Comes.trans {s s' s'' : Scanner} {ts ts' : List Token} {level level' : Nat}
    {cs cs' : List Char} (h : Comes s ts level cs s') (h' : Comes s' ts' level' cs' s'') :
    Comes s (ts ++ ts') level' cs' s'' where
  reaches := h.reaches.trans h'.reaches
  isAt := h'.isAt
  tokens := by rw [h'.tokens, h.tokens, List.reverse_append, List.append_assoc]
  level := h'.level

/-! ## Keys -/

section Keys

variable {s : Scanner}

theorem dropStale_eq (h : ∀ p ∈ s.keys, p.2.isRequired = false) :
    s.dropStale = .ok { s with keys := s.keys.filter fun p => !s.isStale p.2 } := by
  rw [dropStale, if_neg]
  rw [Bool.not_eq_true, List.any_eq_false]
  intro p hp
  rw [h p hp, Bool.and_false]
  exact Bool.false_ne_true

theorem dropKey_eq (h : ∀ p ∈ s.keys, p.2.isRequired = false) :
    s.dropKey = .ok { s with keys := Assoc.erase s.flowLevel s.keys } := by
  rw [dropKey]
  split
  · next k hk =>
      rw [h _ (Assoc.mem_of_get? hk), if_neg Bool.false_ne_true]
  · next hk =>
      rw [Assoc.erase_of_notMem (Assoc.get?_eq_none_iff.1 hk)]

theorem keys_erase (h : ∀ p ∈ s.keys, p.2.isRequired = false) (level : Nat) :
    ∀ p ∈ Assoc.erase level s.keys, p.2.isRequired = false :=
  fun p hp => h p ((Assoc.erase_sublist level s.keys).subset hp)

/-- The key that may begin where a scanner stands. -/
def keyHere (s : Scanner) : PossibleKey :=
  ⟨s.count, false, s.cursor.index, s.cursor.line, s.cursor.column⟩

/-- The possible keys once the one that may begin here is remembered, if one may. -/
def savedKeys (s : Scanner) : Assoc Nat PossibleKey :=
  if s.keyAllowed then Assoc.insert s.flowLevel s.keyHere (Assoc.erase s.flowLevel s.keys)
  else s.keys

theorem saveKey_eq (h : ∀ p ∈ s.keys, p.2.isRequired = false) (hi : s.indent = -1) :
    s.saveKey = .ok { s with keys := s.savedKeys } := by
  have hrequired : (!s.inFlow && s.indent == (s.cursor.column : Int)) = false := by
    have hcolumn : (s.indent == (s.cursor.column : Int)) = false := by
      rw [hi, beq_eq_false_iff_ne]
      omega
    rw [hcolumn, Bool.and_false]
  rw [saveKey, savedKeys]
  split
  · simp only [hrequired, dropKey_eq h]
    rfl
  · rfl

theorem keys_savedKeys (h : ∀ p ∈ s.keys, p.2.isRequired = false) :
    ∀ p ∈ s.savedKeys, p.2.isRequired = false := by
  intro p hp
  rw [savedKeys] at hp
  split at hp
  · rcases Assoc.mem_of_mem_insert hp with rfl | hp
    · rfl
    · exact keys_erase h _ p hp
  · exact h p hp

end Keys

/-! ## One token -/

/-- A scanner that stands at a token, with what it keeps from before the gap. -/
structure Settled (s s' : Scanner) : Prop where
  suffix : s'.cursor.rest <:+ s.cursor.rest
  tokens : s'.tokens = s.tokens
  count : s'.count = s.count
  level : s'.flowLevel = s.flowLevel
  allowed : s.keyAllowed = true → s'.keyAllowed = true

variable {s s' : Scanner} {cs : List Char}

theorem unwind_eq (s : Scanner) (hi : s.indent = -1) (ho : s.outer = []) {column : Int}
    (hc : -1 ≤ column) : s.unwind column = s := by
  rw [unwind, ho, unwindTo, hi, if_neg (Int.not_lt.2 hc), ite_self]

theorem settle_eq (hk : ∀ p ∈ s.keys, p.2.isRequired = false) (hi : s.indent = -1)
    (ho : s.outer = []) : s.settle =
      let c := (s.cursor.skipToToken (s.cursor.rest.length + 1)).2
      let broke := (s.cursor.skipToToken (s.cursor.rest.length + 1)).1
      .ok { s with
        cursor := c
        keyAllowed := s.keyAllowed || (broke && !s.inFlow)
        keys := s.keys.filter fun p => !(s.moveTo c).isStale p.2 } := by
  rw [settle]
  generalize s.cursor.skipToToken (s.cursor.rest.length + 1) = p
  obtain ⟨broke, c⟩ := p
  let t : Scanner := { s.moveTo c with keyAllowed := s.keyAllowed || (broke && !s.inFlow) }
  have hstale : t.dropStale = .ok { t with keys := t.keys.filter fun p => !t.isStale p.2 } :=
    dropStale_eq hk
  have hcolumn : (-1 : Int) ≤ (c.column : Int) := by omega
  change (t.dropStale >>= fun s => pure (s.unwind s.cursor.column)) = _
  rw [hstale]
  exact congrArg Except.ok (unwind_eq { t with keys := t.keys.filter _ } hi ho hcolumn)

/-- A scanner settles at the next token. -/
theorem At.settle (h : At s cs) (hh : cs.head? ≠ some '#') :
    ∃ s', s.settle = .ok s' ∧ At s' cs ∧ s'.cursor.rest = cs ∧ Settled s s' := by
  have hrest : (s.cursor.skipToToken (s.cursor.rest.length + 1)).2.rest = cs := by
    rw [Cursor.skipToToken_rest (Nat.lt_succ_self _) h.chars (by rw [h.rest]; exact hh), h.rest]
  have hsuffix : cs <:+ s.cursor.rest := by
    rw [← h.rest]
    exact Json.skipSpace_suffix _
  refine ⟨_, settle_eq h.keys h.indent h.outer, ?_, hrest, ?_⟩
  · refine ⟨?_, ?_, ?_, h.indent, h.outer⟩
    · simp only [hrest]
      rw [← h.rest, Json.skipSpace_skipSpace]
    · simp only [hrest]
      exact fun ch hch => h.chars ch (hsuffix.subset hch)
    · exact fun p hp => h.keys p (List.mem_of_mem_filter hp)
  · refine ⟨?_, rfl, rfl, rfl, fun ha => ?_⟩
    · simp only [hrest]
      exact hsuffix
    · simp only [ha, Bool.true_or]

/-- A token that is taken from a text is a step of scanning. -/
theorem reaches_token {s s' s'' : Scanner} (h : s.settle = .ok s') (hs : Settled s s')
    (ht : s'.token = .ok s'') (hlt : s''.cursor.rest.length < s'.cursor.rest.length) :
    Reaches s s'' := by
  have hlength := hs.suffix.length_le
  refine ⟨1, by omega, fun fuel => ?_⟩
  have hne : s'.cursor.rest ≠ [] := List.ne_nil_of_length_pos (Nat.zero_lt_of_lt hlt)
  rw [run_succ, h]
  simp only [if_neg hne, ht]

/-- A scanner that moves on along its text and gives a token for what it passes over. -/
theorem comes_moveTo {t : Token} {d : Cursor} {s' s'' : Scanner} (hsettle : s.settle = .ok s')
    (hs : Settled s s') (h : At s'' cs) (hc : s''.cursor = s'.cursor) (ht : s''.tokens = s'.tokens)
    (hd : d.rest <:+ s'.cursor.rest) (hlt : d.rest.length < s'.cursor.rest.length)
    (htoken : s'.token = .ok ((s''.moveTo d).emit t)) :
    Comes s [t] s''.flowLevel (skipSpace d.rest) ((s''.moveTo d).emit t) := by
  refine ⟨reaches_token hsettle hs htoken hlt, ⟨rfl, ?_, h.keys, h.indent, h.outer⟩, ?_, rfl⟩
  · exact fun ch hch => h.chars ch (by rw [hc]; exact hd.subset hch)
  · change t :: s''.tokens = _
    rw [ht, hs.tokens]
    rfl

/-! ## Brackets and commas -/

/-- A scanner that passes over one character and gives a token for it. -/
theorem comes_forward {t : Token} {ch : Char} {r : List Char} {s' s'' : Scanner}
    (hsettle : s.settle = .ok s') (hs : Settled s s') (h : At s'' (ch :: r))
    (hc : s''.cursor = s'.cursor) (hr : s'.cursor.rest = ch :: r) (ht : s''.tokens = s'.tokens)
    (htoken : s'.token = .ok ((s''.forward 1).emit t)) :
    Comes s [t] s''.flowLevel (skipSpace r) ((s''.forward 1).emit t) := by
  have hnext : (s''.cursor.advance 1).rest = r := by
    rw [Cursor.advance_rest, hc, hr]
    rfl
  have hcomes := comes_moveTo (d := s''.cursor.advance 1) hsettle hs h hc ht
    (by rw [hnext, hr]; exact List.suffix_cons ch r)
    (by rw [hnext, hr]; exact Nat.lt_succ_self r.length) htoken
  rwa [hnext] at hcomes

/-- An opening bracket or brace. -/
theorem comes_open {t : Token} {ch : Char} {r : List Char} (h : At s (ch :: r))
    (ht : ch = '[' ∧ t = .flowSequence ∨ ch = '\x7b' ∧ t = .flowMapping) :
    ∃ s', Comes s [t] (s.flowLevel + 1) (skipSpace r) s' ∧ s'.keyAllowed = true := by
  have hh : (ch :: r).head? ≠ some '#' := by
    rcases ht with ⟨rfl, -⟩ | ⟨rfl, -⟩ <;> simp
  obtain ⟨s', hsettle, hat, hr, hs⟩ := h.settle hh
  have htoken : s'.token = s'.openFlow t := by
    rcases ht with ⟨rfl, rfl⟩ | ⟨rfl, rfl⟩ <;>
      simp [token, Cursor.atMark, Cursor.peek_zero hr]
  rw [openFlow, saveKey_eq hat.keys hat.indent] at htoken
  let s'' := { s' with
    keys := s'.savedKeys, flowLevel := s'.flowLevel + 1, keyAllowed := true }
  have hat' : At s'' (ch :: r) :=
    ⟨hat.rest, hat.chars, keys_savedKeys hat.keys, hat.indent, hat.outer⟩
  have hcomes := comes_forward hsettle hs hat' rfl hr rfl htoken
  rw [← hs.level]
  exact ⟨_, hcomes, rfl⟩

/-- A closing bracket or brace. -/
theorem comes_close {t : Token} {ch : Char} {r : List Char} (h : At s (ch :: r))
    (ht : ch = ']' ∧ t = .flowSequenceEnd ∨ ch = '\x7d' ∧ t = .flowMappingEnd) :
    ∃ s', Comes s [t] (s.flowLevel - 1) (skipSpace r) s' := by
  have hh : (ch :: r).head? ≠ some '#' := by
    rcases ht with ⟨rfl, -⟩ | ⟨rfl, -⟩ <;> simp
  obtain ⟨s', hsettle, hat, hr, hs⟩ := h.settle hh
  have htoken : s'.token = s'.closeFlow t := by
    rcases ht with ⟨rfl, rfl⟩ | ⟨rfl, rfl⟩ <;>
      simp [token, Cursor.atMark, Cursor.peek_zero hr]
  rw [closeFlow, dropKey_eq hat.keys] at htoken
  let s'' := { s' with
    keys := Assoc.erase s'.flowLevel s'.keys, flowLevel := s'.flowLevel - 1, keyAllowed := false }
  have hat' : At s'' (ch :: r) :=
    ⟨hat.rest, hat.chars, keys_erase hat.keys _, hat.indent, hat.outer⟩
  have hcomes := comes_forward hsettle hs hat' rfl hr rfl htoken
  rw [← hs.level]
  exact ⟨_, hcomes⟩

/-- A comma, behind which a key may begin. -/
theorem comes_comma {r : List Char} (h : At s (',' :: r)) :
    ∃ s', Comes s [.flowEntry] s.flowLevel (skipSpace r) s' ∧ s'.keyAllowed = true := by
  obtain ⟨s', hsettle, hat, hr, hs⟩ := h.settle (by simp)
  have htoken : s'.token = s'.flowEntry := by
    simp [token, Cursor.atMark, Cursor.peek_zero hr]
  let s'' := { s' with keys := Assoc.erase s'.flowLevel s'.keys, keyAllowed := true }
  rw [flowEntry, dropKey_eq (s := { s' with keyAllowed := true }) hat.keys] at htoken
  have hat' : At s'' (',' :: r) :=
    ⟨hat.rest, hat.chars, keys_erase hat.keys _, hat.indent, hat.outer⟩
  have hcomes := comes_forward hsettle hs hat' rfl hr rfl htoken
  rw [← hs.level]
  exact ⟨_, hcomes, rfl⟩

/-! ## Words and strings -/

/-- How the words and numbers of JSON begin: with a letter or digit, perhaps behind a minus. -/
def BeginsWord (w : List Char) : Prop :=
  (∃ ch r, w = ch :: r ∧ ch.isAlphanum = true) ∨
    ∃ ch r, w = '-' :: ch :: r ∧ ch.isAlphanum = true

/-- What is no letter or digit of ASCII is no beginning of a word. -/
theorem ne_of_isAlphanum {ch d : Char} (h : ch.isAlphanum = true) (hd : d.isAlphanum = false) :
    ch ≠ d := by
  rintro rfl
  rw [h] at hd
  cases hd

theorem isGapOrEnd_of_isAlphanum {ch : Char} (h : ch.isAlphanum = true) :
    isGapOrEnd ch = false := by
  have hne : ∀ d ∈ ['\t', ' ', '\x00', '\n', '\r', '\x85', '\u2028', '\u2029'], ch ≠ d := by
    have hall : ∀ d ∈ ['\t', ' ', '\x00', '\n', '\r', '\x85', '\u2028', '\u2029'],
        d.isAlphanum = false := List.all_iff_forall_prop.1 (by decide)
    exact fun d hd => ne_of_isAlphanum h (hall d hd)
  simp only [List.forall_mem_cons] at hne
  simp [isGapOrEnd, isSpaceOrEnd, isBreakOrEnd, isBreak, hne]

/-- The characters that begin something else than a word. -/
def indicators : List Char :=
  ['%', '-', '.', '[', ']', '\x7b', '\x7d', ',', '?', ':', '*', '&', '!', '|', '>', '\'', '"', '#',
    '@', '\x60']

/-- A word is read as a plain scalar. -/
theorem token_word {w rest : List Char} (hr : s.cursor.rest = w ++ rest) (hb : BeginsWord w)
    (hflow : 0 < s.flowLevel) : s.token = s.plainScalar := by
  have hin : s.inFlow = true := decide_eq_true hflow
  have hall : ∀ d ∈ indicators, d.isAlphanum = false := List.all_iff_forall_prop.1 (by decide)
  rcases hb with ⟨ch, r, rfl, hch⟩ | ⟨ch, r, rfl, hch⟩
  · have hne : ∀ d ∈ indicators, ch ≠ d := fun d hd => ne_of_isAlphanum hch (hall d hd)
    simp only [indicators, List.forall_mem_cons] at hne
    simp [token, beginsPlain, Cursor.atMark, Cursor.peek_zero hr, isGapOrEnd_of_isAlphanum hch, hne]
  · have hne : ∀ d ∈ indicators, ch ≠ d := fun d hd => ne_of_isAlphanum hch (hall d hd)
    simp only [indicators, List.forall_mem_cons] at hne
    have hpeek : s.cursor.peek 1 = ch := by
      rw [Cursor.peek_succ hr]
      rfl
    simp [token, beginsPlain, Cursor.atMark, Cursor.peek_zero hr, hpeek,
      isGapOrEnd_of_isAlphanum hch, hne]

/-- A word in front of what ends a value. -/
theorem comes_word {w rest : List Char} (h : At s (w ++ rest)) (hflow : 0 < s.flowLevel)
    (hb : BeginsWord w) (hw : ∀ ch ∈ w, isBareChar ch = true) (hrest : EndsValue rest) :
    ∃ s', Comes s [.scalar (.ofChars w) true] s.flowLevel (skipSpace rest) s' := by
  have hh : (w ++ rest).head? ≠ some '#' := by
    rcases hb with ⟨ch, r, rfl, hch⟩ | ⟨ch, r, rfl, -⟩
    · intro he
      cases he
      cases hch
    · simp
  have hne : w ≠ [] := by
    rcases hb with ⟨ch, r, rfl, -⟩ | ⟨ch, r, rfl, -⟩ <;> exact List.cons_ne_nil _ _
  obtain ⟨s', hsettle, hat, hr, hs⟩ := h.settle hh
  have hflow' : 0 < s'.flowLevel := by rwa [hs.level]
  obtain ⟨broke, d, hplain, hd⟩ := Scalar.plain_word hr hne hw hat.chars hrest (s'.indent + 1).toNat
  have htoken := token_word hr hb hflow'
  let s'' := { s' with keys := s'.savedKeys, keyAllowed := broke }
  have htoken : s'.token = .ok ((s''.moveTo d).emit (.scalar (.ofChars w) true)) := by
    rw [token_word hr hb hflow', plainScalar, saveKey_eq hat.keys hat.indent]
    have hin' : inFlow { s' with keys := s'.savedKeys } = true := decide_eq_true hflow'
    simp only [bind, Except.bind, hin', hplain]
    rfl
  have hat' : At s'' (w ++ rest) :=
    ⟨hat.rest, hat.chars, keys_savedKeys hat.keys, hat.indent, hat.outer⟩
  have hsuffix : d.rest <:+ rest := by
    rw [hd]
    exact Json.skipSpace_suffix rest
  have hcomes := comes_moveTo hsettle hs hat' rfl rfl
    (by rw [hr]; exact hsuffix.trans (List.suffix_append w rest))
    (by
      have := hsuffix.length_le
      have := List.length_pos_iff.2 hne
      rw [hr, List.length_append]
      omega) htoken
  rw [hd, Json.skipSpace_skipSpace] at hcomes
  rw [← hs.level]
  exact ⟨_, hcomes⟩

/-- A string is read as a scalar, and may be a key. -/
theorem token_string {cs rest text : List Char} (h : At s ('"' :: cs))
    (hr : s.cursor.rest = '"' :: cs) (hs : Json.readUnits cs = some (toUnits text, rest))
    (hw : Json.hasWholeEscapes cs = true) :
    ∃ d, s.token = .ok (({ s with keys := s.savedKeys, keyAllowed := false }.moveTo d).emit
      (.scalar (.ofChars text) false)) ∧ SameLine s.cursor d ∧ d.rest = rest ∧ rest <:+ cs := by
  obtain ⟨d, hflow, hd⟩ := Scalar.flow_string hr h.chars hs hw
  have htoken : s.token = s.flowScalar := by
    simp [token, Cursor.atMark, Cursor.peek_zero hr]
  refine ⟨d, ?_, hd⟩
  rw [htoken, flowScalar, property, saveKey_eq h.keys h.indent]
  simp only [bind, Except.bind, hflow]
  rfl

/-- A string that is no key. -/
theorem comes_string {cs rest text : List Char} (h : At s ('"' :: cs))
    (hs : Json.readUnits cs = some (toUnits text, rest)) (hw : Json.hasWholeEscapes cs = true) :
    ∃ s', Comes s [.scalar (.ofChars text) false] s.flowLevel (skipSpace rest) s' := by
  obtain ⟨s', hsettle, hat, hr, hsettled⟩ := h.settle (by simp)
  obtain ⟨d, htoken, -, rfl, hsuffix⟩ := token_string hat hr hs hw
  let s'' := { s' with keys := s'.savedKeys, keyAllowed := false }
  have hat' : At s'' ('"' :: cs) :=
    ⟨hat.rest, hat.chars, keys_savedKeys hat.keys, hat.indent, hat.outer⟩
  have hcomes := comes_moveTo hsettle hsettled hat' rfl rfl
    (by rw [hr]; exact hsuffix.trans (List.suffix_cons '"' cs))
    (by rw [hr]; exact Nat.lt_succ_of_le hsuffix.length_le) htoken
  rw [← hsettled.level]
  exact ⟨_, hcomes⟩

/-! ## Keys and their colons -/

/-- A possible key is remembered over spaces if its colon is on its line and within reach. -/
theorem settle_near {key : PossibleKey} {r : List Char}
    (hc : ∀ ch ∈ s.cursor.rest, isPortableChar ch = true)
    (hk : ∀ p ∈ s.keys, p.2.isRequired = false) (hi : s.indent = -1) (ho : s.outer = [])
    (hkey : Assoc.get? s.flowLevel s.keys = some key)
    (hr : s.cursor.rest.dropWhile (· == ' ') = ':' :: r) (hline : key.line = s.cursor.line)
    (hreach : s.cursor.index + s.cursor.rest.length ≤ key.index + keyReach + (r.length + 1)) :
    ∃ s', s.settle = .ok s' ∧ At s' (':' :: r) ∧ s'.cursor.rest = ':' :: r ∧ Settled s s' ∧
      Assoc.get? s'.flowLevel s'.keys = some key := by
  have hrest : (s.cursor.skip (· == ' ')).rest = ':' :: r := by rw [Cursor.skip_rest, hr]
  have hsame : SameLine s.cursor (s.cursor.skip (· == ' ')) := by
    refine .skip (fun ch hch => ?_) s.cursor
    rw [eq_of_beq hch]
    rfl
  have hskip : s.cursor.skipToToken (s.cursor.rest.length + 1) =
      (false, s.cursor.skip (· == ' ')) := by
    apply Cursor.skipToToken_spaces
    · rw [Cursor.peek_zero hrest]
      rfl
    · rw [Cursor.peek_zero hrest]
      decide
  have hsuffix : (':' :: r) <:+ s.cursor.rest := by
    rw [← hr]
    exact List.dropWhile_suffix _
  have hstale : (s.moveTo (s.cursor.skip (· == ' '))).isStale key = false := by
    have hplace := hsame.place
    rw [hrest, List.length_cons] at hplace
    simp only [isStale, moveTo, hsame.line, hline, ne_eq, not_true_eq_false, decide_false,
      Bool.false_or]
    exact decide_eq_false (by omega)
  have hsettle := settle_eq hk hi ho
  rw [hskip] at hsettle
  refine ⟨_, hsettle, ⟨?_, ?_, ?_, hi, ho⟩, hrest, ⟨?_, rfl, rfl, rfl, ?_⟩, ?_⟩
  · simp only [hrest]
    rfl
  · simp only [hrest]
    exact fun ch hch => hc ch (hsuffix.subset hch)
  · exact fun p hp => hk p (List.mem_of_mem_filter hp)
  · simp only [hrest]
    exact hsuffix
  · intro ha
    simp only [ha, Bool.true_or]
  · exact Assoc.get?_filter hkey (by simp only [hstale, Bool.not_false])

/-- A colon behind a possible key puts the key token in front of it. -/
theorem token_colon {key : PossibleKey} {r : List Char} (hr : s.cursor.rest = ':' :: r)
    (hflow : 0 < s.flowLevel) (hkey : Assoc.get? s.flowLevel s.keys = some key) :
    s.token = .ok ((({ s.insertAt key.place .key with
      keys := Assoc.erase s.flowLevel s.keys, keyAllowed := false }).forward 1).emit .value) := by
  have hin : s.inFlow = true := decide_eq_true hflow
  have htoken : s.token = s.value := by
    simp [token, Cursor.atMark, Cursor.peek_zero hr, hin]
  have hin' : (insertAt key.place .key { s with
      keys := Assoc.erase s.flowLevel s.keys }).inFlow = true := hin
  rw [htoken, value]
  simp only [hkey, hin', if_true]
  rfl

/-- A key with its colon, where a key may begin. -/
theorem comes_key {cs rest text r : List Char} (h : At s ('"' :: cs)) (hflow : 0 < s.flowLevel)
    (ha : s.keyAllowed = true) (hs : Json.readUnits cs = some (toUnits text, rest))
    (hw : Json.hasWholeEscapes cs = true) (hn : Json.isNearKey cs = true)
    (hr : skipSpace rest = ':' :: r) :
    ∃ s', Comes s [.key, .scalar (.ofChars text) false, .value] s.flowLevel (skipSpace r) s' := by
  obtain ⟨s₁, hsettle₁, hat₁, hr₁, hsettled₁⟩ := h.settle (by simp)
  obtain ⟨d, htoken₁, hline, hd, hsuffix⟩ := token_string hat₁ hr₁ hs hw
  subst hd
  rw [Json.isNearKey, hs] at hn
  simp only [hr, Bool.and_eq_true, beq_iff_eq, decide_eq_true_eq] at hn
  have hsub : d.rest <:+ s₁.cursor.rest := by
    rw [hr₁]
    exact hsuffix.trans (List.suffix_cons '"' cs)
  let s₂ := ({ s₁ with keys := s₁.savedKeys, keyAllowed := false }.moveTo d).emit
    (.scalar (.ofChars text) false)
  have hreaches₁ : Reaches s s₂ := by
    refine reaches_token hsettle₁ hsettled₁ htoken₁ ?_
    rw [hr₁]
    exact Nat.lt_succ_of_le hsuffix.length_le
  have hkey : Assoc.get? s₂.flowLevel s₂.keys = some s₁.keyHere := by
    change Assoc.get? s₁.flowLevel s₁.savedKeys = _
    rw [savedKeys, if_pos (hsettled₁.allowed ha), Assoc.get?_insert_self]
  have hplace := hline.place
  rw [hr₁, List.length_cons] at hplace
  obtain ⟨s₃, hsettle₂, hat₃, hr₃, hsettled₂, hkey₃⟩ := settle_near (s := s₂)
    (fun ch hch => hat₁.chars ch (hsub.subset hch)) (keys_savedKeys hat₁.keys) hat₁.indent
    hat₁.outer hkey hn.1 hline.line.symm (by
      change d.index + d.rest.length ≤ s₁.cursor.index + keyReach + (r.length + 1)
      omega)
  have hflow₃ : 0 < s₃.flowLevel := by
    rw [hsettled₂.level]
    exact hsettled₁.level ▸ hflow
  have htoken₂ := token_colon hr₃ hflow₃ hkey₃
  let s₄ := { s₃.insertAt s₁.keyHere.place .key with
    keys := Assoc.erase s₃.flowLevel s₃.keys, keyAllowed := false }
  have hat₄ : At s₄ (':' :: r) :=
    ⟨hat₃.rest, hat₃.chars, keys_erase hat₃.keys _, hat₃.indent, hat₃.outer⟩
  have htokens : s₄.tokens = .scalar (.ofChars text) false :: .key :: s₁.tokens := by
    have hlater : s₂.count - s₁.count = 1 := Nat.add_sub_cancel_left _ _
    change s₃.tokens.take (s₃.count - s₁.count) ++ .key :: s₃.tokens.drop (s₃.count - s₁.count) = _
    rw [hsettled₂.tokens, hsettled₂.count, hlater]
    rfl
  have hnext : ((s₄.forward 1).emit .value).cursor.rest = r := by
    change (s₃.cursor.advance 1).rest = r
    rw [Cursor.advance_rest, hr₃]
    rfl
  have hreaches₂ : Reaches s₂ ((s₄.forward 1).emit .value) := by
    refine reaches_token hsettle₂ hsettled₂ htoken₂ ?_
    rw [hnext, hr₃]
    exact Nat.lt_succ_self r.length
  refine ⟨_, hreaches₁.trans hreaches₂, ⟨by rw [hnext], ?_, hat₄.keys, hat₄.indent, hat₄.outer⟩,
    ?_, ?_⟩
  · intro ch hch
    rw [hnext] at hch
    refine hat₃.chars ch ?_
    rw [hr₃]
    exact List.mem_cons_of_mem ':' hch
  · change .value :: s₄.tokens = _
    rw [htokens, hsettled₁.tokens]
    rfl
  · exact hsettled₂.level.trans hsettled₁.level

/-- At the end of a text scanning ends with the tokens that have been read. -/
theorem run_end (h : At s []) (fuel : Nat) : run (fuel + 1) s = (s.tokens.reverse, none) := by
  obtain ⟨s', hsettle, hat, hr, hs⟩ := h.settle (by simp)
  have hfinish : ∃ s'', s'.finish = .ok s'' ∧ s''.tokens = s'.tokens := by
    rw [finish, unwind_eq s' hat.indent hat.outer (Int.le_refl _), dropKey_eq hat.keys]
    exact ⟨_, rfl, rfl⟩
  obtain ⟨s'', hfinish, htokens⟩ := hfinish
  rw [run_succ, hsettle]
  simp only [hr, if_true, hfinish, htokens, hs.tokens]

end AppCatalog.Yaml.Scanner
