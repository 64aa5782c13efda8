import AppCatalog.Yaml.Node

/-!
# Reading bracketed nodes

The tokens of scalars, bracketed sequences and braced mappings give their nodes back: `Yields` says
so of some tokens and a node, whatever tokens follow. It is put together from the parts of a node.
-/

namespace AppCatalog.Yaml

/-- The node of a plain scalar: its tag is what it looks like. -/
def Node.ofWord (w : List Char) : Node := .scalar (.ofPlain w) (.ofChars w)

namespace Reading

/-- A token that a scalar or a bracketed node begins with. -/
def beginsNode : Token → Bool
  | .scalar _ _ | .flowSequence | .flowMapping => true
  | _ => false

/-! ## Steps of reading -/

theorem run_bind_ok {α β : Type} {m : Reading α} {k : α → Reading β} {s s' : Reader} {a : α}
    (h : m.run s = .ok (a, s')) : (m >>= k).run s = (k a).run s' := by
  rw [StateT.run_bind, h]
  rfl

variable {r : Reader} {t : Token} {ts : List Token}

theorem run_peek : peek.run { r with tokens := t :: ts } = .ok (some t, { r with tokens := t :: ts }) :=
  rfl

theorem run_isAt (us : List Token) : (isAt us).run { r with tokens := t :: ts } =
    .ok (us.contains t, { r with tokens := t :: ts }) := rfl

theorem run_take : (take? t).run { r with tokens := t :: ts } =
    .ok (true, { r with tokens := ts }) := by
  rw [take?, StateT.run_bind, run_isAt, List.contains_cons, beq_self_eq_true]
  rfl

theorem run_take_of_ne {u : Token} (h : t ≠ u) : (take? u).run { r with tokens := t :: ts } =
    .ok (false, { r with tokens := t :: ts }) := by
  rw [take?, StateT.run_bind, run_isAt, List.contains_cons, beq_false_of_ne h]
  rfl

variable {fuel : Nat} {inBlock dashes : Bool} {r' : Reader}

/-- A token that a node begins with is no alias, and reading goes on with the properties. -/
theorem run_node_eq (h : beginsNode t = true) :
    (node (fuel + 1) inBlock dashes).run { r with tokens := t :: ts } = (do
      let (anchor, tag) ← properties
      match anchor with
      | some name => if (Assoc.get? name (← get).anchors).isSome then malformed
      | none => pure ()
      let n ← content fuel inBlock dashes anchor tag
      Reading.bind anchor (.whole n)
      pure n : Reading Node).run { r with tokens := t :: ts } := by
  rw [node, run_bind_ok run_peek]
  cases t <;> first | rfl | cases h

/-- A node without anchor and tag is its content. -/
theorem run_node {n : Node} (h : beginsNode t = true)
    (hc : (content fuel inBlock dashes none none).run { r with tokens := t :: ts } = .ok (n, r')) :
    (node (fuel + 1) inBlock dashes).run { r with tokens := t :: ts } = .ok (n, r') := by
  have hproperties : properties.run { r with tokens := t :: ts } =
      .ok ((none, none), { r with tokens := t :: ts }) := by
    cases t <;> first | rfl | cases h
  rw [run_node_eq h, run_bind_ok hproperties]
  change (content fuel inBlock dashes none none >>= fun n => pure n).run _ = _
  rw [bind_pure, hc]

theorem run_content_scalar (text : Points) (isPlain : Bool) :
    (content (fuel + 1) inBlock dashes none none).run
        { r with tokens := .scalar text isPlain :: ts } =
      .ok (.scalar (scalarTag none isPlain text) text, { r with tokens := ts }) := by
  rw [content, run_bind_ok run_peek]
  rfl

theorem run_content_sequence {items : List Node}
    (h : (flowItems fuel true).run { r with tokens := ts } = .ok (items, r')) :
    (content (fuel + 1) inBlock dashes none none).run { r with tokens := .flowSequence :: ts } =
      .ok (.sequence .sequence items, r') := by
  rw [content, run_bind_ok run_peek]
  change (flowItems fuel true >>= fun items => pure (Node.sequence .sequence items)).run
    { r with tokens := ts } = _
  rw [run_bind_ok h]
  rfl

theorem run_content_mapping {entries : List (Node × Node)}
    (h : (flowEntries fuel true).run { r with tokens := ts } = .ok (entries, r')) :
    (content (fuel + 1) inBlock dashes none none).run { r with tokens := .flowMapping :: ts } =
      .ok (.mapping .mapping entries, r') := by
  rw [content, run_bind_ok run_peek]
  change (flowEntries fuel true >>= fun entries => pure (Node.mapping .mapping entries)).run
    { r with tokens := ts } = _
  rw [run_bind_ok h]
  rfl

/-! ## Items and entries -/

theorem run_flowItems_end (isFirst : Bool) :
    (flowItems (fuel + 1) isFirst).run { r with tokens := .flowSequenceEnd :: ts } =
      .ok ([], { r with tokens := ts }) := by
  rw [flowItems, run_bind_ok run_take]
  rfl

theorem run_flowEntries_end (isFirst : Bool) :
    (flowEntries (fuel + 1) isFirst).run { r with tokens := .flowMappingEnd :: ts } =
      .ok ([], { r with tokens := ts }) := by
  rw [flowEntries, run_bind_ok run_take]
  rfl

theorem run_comma_first : (comma true).run { r with tokens := ts } =
    .ok ((), { r with tokens := ts }) := rfl

theorem run_comma : (comma false).run { r with tokens := .flowEntry :: ts } =
    .ok ((), { r with tokens := ts }) := by
  rw [comma, if_neg Bool.false_ne_true, run_bind_ok run_take]
  rfl

theorem ne_of_beginsNode (h : beginsNode t = true) {u : Token} (hu : beginsNode u = false) :
    t ≠ u := by
  rintro rfl
  rw [h] at hu
  cases hu

/-- Behind a comma the items go on as at their beginning. -/
theorem run_flowItems_comma (h : beginsNode t = true) :
    (flowItems fuel false).run { r with tokens := .flowEntry :: t :: ts } =
      (flowItems fuel true).run { r with tokens := t :: ts } := by
  cases fuel with
  | zero => rfl
  | succ fuel =>
      have hend : t ≠ .flowSequenceEnd := ne_of_beginsNode h rfl
      rw [flowItems, run_bind_ok (run_take_of_ne (by decide)), if_neg Bool.false_ne_true,
        run_bind_ok run_comma, flowItems, run_bind_ok (run_take_of_ne hend),
        if_neg Bool.false_ne_true, run_bind_ok run_comma_first]

/-- An item in front of further ones. -/
theorem run_flowItems {n : Node} {ns : List Node} {s s' : Reader} (ht : beginsNode t = true)
    (hn : (node fuel false false).run { r with tokens := t :: ts } = .ok (n, s))
    (hns : (flowItems fuel false).run s = .ok (ns, s')) :
    (flowItems (fuel + 1) true).run { r with tokens := t :: ts } = .ok (n :: ns, s') := by
  have hend : t ≠ .flowSequenceEnd := ne_of_beginsNode ht rfl
  have hkey : t ≠ .key := ne_of_beginsNode ht rfl
  rw [flowItems, run_bind_ok (run_take_of_ne hend), if_neg Bool.false_ne_true,
    run_bind_ok run_comma_first, run_bind_ok (run_take_of_ne hkey), if_neg Bool.false_ne_true,
    run_bind_ok (run_take_of_ne hend), if_neg Bool.false_ne_true, run_bind_ok hn, run_bind_ok hns]
  rfl

theorem run_flowEntries_comma :
    (flowEntries fuel false).run { r with tokens := .flowEntry :: .key :: ts } =
      (flowEntries fuel true).run { r with tokens := .key :: ts } := by
  cases fuel with
  | zero => rfl
  | succ fuel =>
      have hend : Token.key ≠ .flowMappingEnd := by decide
      rw [flowEntries, run_bind_ok (run_take_of_ne (by decide)), if_neg Bool.false_ne_true,
        run_bind_ok run_comma, flowEntries, run_bind_ok (run_take_of_ne hend),
        if_neg Bool.false_ne_true, run_bind_ok run_comma_first]

theorem notMem_of_beginsNode (h : beginsNode t = true) {us : List Token}
    (hus : us.all (!beginsNode ·) = true) : us.contains t = false := by
  rw [Bool.eq_false_iff]
  intro hm
  have := List.all_eq_true.1 hus t (List.contains_iff_mem.1 hm)
  rw [h] at this
  cases this

/-- An entry with key and value in front of further ones. -/
theorem run_flowEntries {k v : Node} {es : List (Node × Node)} {s s' : Reader} {u : Token}
    {us : List Token} (ht : beginsNode t = true) (hu : beginsNode u = true)
    (hk : (node fuel false false).run { r with tokens := t :: ts } =
      .ok (k, { r with tokens := .value :: u :: us }))
    (hv : (node fuel false false).run { r with tokens := u :: us } = .ok (v, s))
    (hes : (flowEntries fuel false).run s = .ok (es, s')) :
    (flowEntries (fuel + 1) true).run { r with tokens := .key :: t :: ts } =
      .ok ((k, v) :: es, s') := by
  have hend : Token.key ≠ .flowMappingEnd := by decide
  have ht' : [.value, .flowEntry, .flowMappingEnd].contains t = false :=
    notMem_of_beginsNode ht rfl
  have hu' : [.flowEntry, .flowMappingEnd].contains u = false := notMem_of_beginsNode hu rfl
  rw [flowEntries, run_bind_ok (run_take_of_ne hend), if_neg Bool.false_ne_true,
    run_bind_ok run_comma_first, run_bind_ok run_take, if_pos rfl]
  simp only
  rw [run_bind_ok (run_isAt _), ht', if_neg Bool.false_ne_true, run_bind_ok hk,
    run_bind_ok run_take, if_pos rfl, run_bind_ok (run_isAt _), hu', if_neg Bool.false_ne_true,
    run_bind_ok hv, run_bind_ok hes]
  rfl

/-! ## Nodes from their tokens -/

/-- Some tokens give a node, whatever follows them. Two units of fuel for each are enough. -/
structure Yields (ts : List Token) (n : Node) : Prop where
  begins : ∃ t us, ts = t :: us ∧ beginsNode t = true
  reads : ∀ (fuel : Nat) (inBlock dashes : Bool) (r : Reader) (more : List Token),
    2 * ts.length ≤ fuel → (node fuel inBlock dashes).run { r with tokens := ts ++ more } =
      .ok (n, { r with tokens := more })

/-- Some tokens give the items of a bracketed sequence up to its end. -/
structure YieldsItems (ts : List Token) (ns : List Node) : Prop where
  begins : ∃ t us, ts = t :: us ∧ beginsNode t = true
  reads : ∀ (fuel : Nat) (r : Reader) (more : List Token), 2 * ts.length ≤ fuel →
    (flowItems fuel true).run { r with tokens := ts ++ more } =
      .ok (ns, { r with tokens := more })

/-- Some tokens give the entries of a braced mapping up to its end. -/
structure YieldsEntries (ts : List Token) (es : List (Node × Node)) : Prop where
  begins : ∃ us, ts = .key :: us
  reads : ∀ (fuel : Nat) (r : Reader) (more : List Token), 2 * ts.length ≤ fuel →
    (flowEntries fuel true).run { r with tokens := ts ++ more } =
      .ok (es, { r with tokens := more })

theorem yields_scalar (text : Points) (isPlain : Bool) :
    Yields [.scalar text isPlain] (.scalar (scalarTag none isPlain text) text) where
  begins := ⟨_, [], rfl, rfl⟩
  reads fuel inBlock dashes r more hf := by
    obtain ⟨fuel, rfl⟩ : ∃ k, fuel = k + 2 := ⟨fuel - 2, (Nat.sub_add_cancel hf).symm⟩
    exact run_node rfl (run_content_scalar text isPlain)

theorem yields_word (w : List Char) : Yields [.scalar (.ofChars w) true] (.ofWord w) := by
  have h := yields_scalar (.ofChars w) true
  rwa [scalarTag, Points.replaced_ofChars] at h

theorem yields_sequence {ts : List Token} {ns : List Node}
    (h : ∀ (fuel : Nat) (r : Reader) (more : List Token), 2 * ts.length ≤ fuel →
      (flowItems fuel true).run { r with tokens := ts ++ more } =
        .ok (ns, { r with tokens := more })) :
    Yields (.flowSequence :: ts) (.sequence .sequence ns) where
  begins := ⟨_, ts, rfl, rfl⟩
  reads fuel inBlock dashes r more hf := by
    rw [List.length_cons] at hf
    obtain ⟨fuel, rfl⟩ : ∃ k, fuel = k + 2 := ⟨fuel - 2, by omega⟩
    exact run_node rfl (run_content_sequence (h fuel r more (by omega)))

theorem yields_mapping {ts : List Token} {es : List (Node × Node)}
    (h : ∀ (fuel : Nat) (r : Reader) (more : List Token), 2 * ts.length ≤ fuel →
      (flowEntries fuel true).run { r with tokens := ts ++ more } =
        .ok (es, { r with tokens := more })) :
    Yields (.flowMapping :: ts) (.mapping .mapping es) where
  begins := ⟨_, ts, rfl, rfl⟩
  reads fuel inBlock dashes r more hf := by
    rw [List.length_cons] at hf
    obtain ⟨fuel, rfl⟩ : ∃ k, fuel = k + 2 := ⟨fuel - 2, by omega⟩
    exact run_node rfl (run_content_mapping (h fuel r more (by omega)))

theorem yields_emptySequence : Yields [.flowSequence, .flowSequenceEnd] (.sequence .sequence []) :=
  yields_sequence fun fuel r more hf => by
    obtain ⟨fuel, rfl⟩ : ∃ k, fuel = k + 1 := ⟨fuel - 1, by simp at hf; omega⟩
    exact run_flowItems_end true

theorem yields_emptyMapping : Yields [.flowMapping, .flowMappingEnd] (.mapping .mapping []) :=
  yields_mapping fun fuel r more hf => by
    obtain ⟨fuel, rfl⟩ : ∃ k, fuel = k + 1 := ⟨fuel - 1, by simp at hf; omega⟩
    exact run_flowEntries_end true

namespace YieldsItems

variable {n : Node} {ns : List Node} {us : List Token}

theorem last (h : Yields ts n) : YieldsItems (ts ++ [.flowSequenceEnd]) [n] := by
  obtain ⟨⟨t, ts, rfl, ht⟩, hreads⟩ := h
  refine ⟨⟨t, _, rfl, ht⟩, fun fuel r more hf => ?_⟩
  simp only [List.length_append, List.length_cons, List.length_nil] at hf hreads
  obtain ⟨fuel, rfl⟩ : ∃ k, fuel = k + 2 := ⟨fuel - 2, by omega⟩
  rw [List.append_assoc]
  exact run_flowItems ht (hreads _ _ _ r _ (by omega)) (run_flowItems_end false)

theorem cons (h : Yields ts n) (h' : YieldsItems us ns) :
    YieldsItems (ts ++ .flowEntry :: us) (n :: ns) := by
  obtain ⟨⟨t, ts, rfl, ht⟩, hreads⟩ := h
  obtain ⟨⟨u, us, rfl, hu⟩, hreads'⟩ := h'
  refine ⟨⟨t, _, rfl, ht⟩, fun fuel r more hf => ?_⟩
  simp only [List.length_append, List.length_cons] at hf hreads hreads'
  obtain ⟨fuel, rfl⟩ : ∃ k, fuel = k + 1 := ⟨fuel - 1, by omega⟩
  rw [List.append_assoc]
  refine run_flowItems ht (hreads fuel _ _ r _ (by omega)) ?_
  exact (run_flowItems_comma hu).trans (hreads' fuel r more (by omega))

end YieldsItems

namespace YieldsEntries

variable {n : Node} {es : List (Node × Node)} {us : List Token}

theorem last (k : Points) (h : Yields ts n) :
    YieldsEntries (.key :: .scalar k false :: .value :: ts ++ [.flowMappingEnd])
      [(.scalar .text k, n)] := by
  obtain ⟨⟨t, ts, rfl, ht⟩, hreads⟩ := h
  refine ⟨⟨_, rfl⟩, fun fuel r more hf => ?_⟩
  simp only [List.length_append, List.length_cons, List.length_nil] at hf hreads
  obtain ⟨fuel, rfl⟩ : ∃ j, fuel = j + 2 := ⟨fuel - 2, by omega⟩
  rw [List.append_assoc]
  exact run_flowEntries rfl ht ((yields_scalar k false).reads _ _ _ r _ (by simp; omega))
    (hreads _ _ _ r _ (by omega)) (run_flowEntries_end false)

theorem cons (k : Points) (h : Yields ts n) (h' : YieldsEntries us es) :
    YieldsEntries (.key :: .scalar k false :: .value :: ts ++ .flowEntry :: us)
      ((.scalar .text k, n) :: es) := by
  obtain ⟨⟨t, ts, rfl, ht⟩, hreads⟩ := h
  obtain ⟨⟨us, rfl⟩, hreads'⟩ := h'
  refine ⟨⟨_, rfl⟩, fun fuel r more hf => ?_⟩
  simp only [List.length_append, List.length_cons] at hf hreads hreads'
  obtain ⟨fuel, rfl⟩ : ∃ j, fuel = j + 1 := ⟨fuel - 1, by omega⟩
  rw [List.append_assoc]
  refine run_flowEntries rfl ht ((yields_scalar k false).reads fuel _ _ r _ (by simp; omega))
    (hreads fuel _ _ r _ (by omega)) ?_
  exact run_flowEntries_comma.trans (hreads' fuel r more (by omega))

end YieldsEntries

/-! ## Documents -/

theorem run_atDocumentEnd (h : beginsNode t = true) :
    atDocumentEnd.run { r with tokens := t :: ts } = .ok (false, { r with tokens := t :: ts }) := by
  rw [atDocumentEnd, run_bind_ok run_peek]
  cases t <;> first | rfl | cases h

theorem run_dropEnds {handles : Assoc (List Char) (List Char)} (fuel : Nat) :
    (dropEnds fuel).run ⟨[], none, handles, []⟩ = .ok ((), ⟨[], none, handles, []⟩) := by
  cases fuel <;> rfl

/-- A document that begins with a node is that node, with nothing behind it. -/
theorem run_document_eq (h : beginsNode t = true) :
    (document fuel).run { r with tokens := t :: ts } = (do
      let n ← node fuel true false
      dropEnds fuel
      match ← peek with
      | none => pure (some n)
      | some _ => malformed : Reading (Option Node)).run { r with tokens := t :: ts } := by
  rw [document, run_bind_ok run_peek]
  cases t with
  | scalar | flowSequence | flowMapping => exact run_bind_ok (run_atDocumentEnd h)
  | _ => cases h

/-- Tokens that give a node make up a document of nothing else. -/
theorem run_document {n : Node} (h : Yields ts n) {fuel : Nat} (hf : 2 * ts.length ≤ fuel)
    (handles : Assoc (List Char) (List Char)) :
    (document fuel).run ⟨ts, none, handles, []⟩ = .ok (some n, ⟨[], none, handles, []⟩) := by
  obtain ⟨⟨t, us, rfl, ht⟩, hreads⟩ := h
  let r : Reader := ⟨[], none, handles, []⟩
  have hnode : (node fuel true false).run { r with tokens := t :: us } = .ok (n, r) := by
    have := hreads fuel true false r [] hf
    rwa [List.append_nil] at this
  change (document fuel).run { r with tokens := t :: us } = _
  rw [run_document_eq ht, run_bind_ok hnode, run_bind_ok (run_dropEnds fuel)]
  rfl

end Reading

end AppCatalog.Yaml
