import AppCatalog.Proofs.Yaml.Scanner
import AppCatalog.Yaml.Node

/-!
# How reading a document ends

The nodes of a document are read off its tokens. Behind the last token there may be a fault, at
which the scanner has stopped, and reading ends in it when it gets there. Every other way to fail is
that the tokens make up no document: a step of reading adds no fault of its own (`KeepsEnding`).
-/

namespace AppCatalog.Yaml

open Fault (OfScanner)

namespace Reading

/-- A step of reading that leaves the fault behind the tokens where it is, and ends in that fault or
in a malformed text if it fails. -/
structure KeepsEnding {α : Type} (m : Reading α) : Prop where
  state : ∀ {r r' : Reader} {a : α}, m.run r = .ok (a, r') → r'.ending = r.ending
  fault : ∀ {r : Reader} {f : Fault}, m.run r = .error f → f = .malformed ∨ r.ending = some f

namespace KeepsEnding

variable {α β : Type}

@[grind ←] theorem pure (a : α) : KeepsEnding (Pure.pure a) where
  state h := by
    cases h
    rfl
  fault h := by cases h

@[grind ←] theorem bind {m : Reading α} {k : α → Reading β} (hm : KeepsEnding m)
    (hk : ∀ a, KeepsEnding (k a)) : KeepsEnding (m >>= k) where
  state {r r' b} h := by
    rw [StateT.run_bind] at h
    rcases he : m.run r with g | ⟨a, s⟩
    · rw [he] at h
      cases h
    · rw [he] at h
      exact ((hk a).state h).trans (hm.state he)
  fault {r f} h := by
    rw [StateT.run_bind] at h
    rcases he : m.run r with g | ⟨a, s⟩
    · rw [he] at h
      cases h
      exact hm.fault he
    · rw [he] at h
      rw [← hm.state he]
      exact (hk a).fault h

@[grind ←] theorem get : KeepsEnding (MonadState.get : Reading Reader) where
  state h := by
    cases h
    rfl
  fault h := by cases h

theorem of_modify {g : Reader → Reader} (hg : ∀ r, (g r).ending = r.ending) :
    KeepsEnding (modify g) where
  state h := by
    cases h
    exact hg _
  fault h := by cases h

@[grind ←] theorem malformed : KeepsEnding (Reading.malformed : Reading α) where
  state h := by cases h
  fault h := by
    cases h
    exact Or.inl rfl

end KeepsEnding

@[grind ←] theorem keepsEnding_peek : KeepsEnding peek where
  state {r r' t} h := by
    obtain ⟨tokens, ending, handles, anchors⟩ := r
    cases tokens with
    | cons t ts =>
        cases h
        rfl
    | nil =>
        cases ending with
        | none =>
            cases h
            rfl
        | some g => cases h
  fault {r f} h := by
    obtain ⟨tokens, ending, handles, anchors⟩ := r
    cases tokens with
    | cons t ts => cases h
    | nil =>
        cases ending with
        | none => cases h
        | some g =>
            cases h
            exact Or.inr rfl

@[grind ←] theorem keepsEnding_drop : KeepsEnding drop := .of_modify fun _ => rfl

@[grind ←] theorem keepsEnding_isAt (ts : List Token) : KeepsEnding (isAt ts) := by
  unfold isAt
  grind

@[grind ←] theorem keepsEnding_take? (t : Token) : KeepsEnding (take? t) := by
  unfold take?
  grind

@[grind ←] theorem keepsEnding_comma (isFirst : Bool) : KeepsEnding (comma isFirst) := by
  unfold comma
  grind

@[grind ←] theorem keepsEnding_bind (anchor : Option (List Char)) (a : Anchored) :
    KeepsEnding (Reading.bind anchor a) := by
  cases anchor with
  | none => exact .pure ()
  | some name => exact .of_modify fun _ => rfl

@[grind ←] theorem keepsEnding_follow (name : List Char) : KeepsEnding (follow name) := by
  unfold follow
  grind

@[grind ←] theorem keepsEnding_fullName (handle : Option (List Char)) (suffix : List Char) :
    KeepsEnding (fullName handle suffix) := by
  unfold fullName
  grind

@[grind ←] theorem keepsEnding_anchor? : KeepsEnding anchor? := by
  unfold anchor?
  grind

@[grind ←] theorem keepsEnding_tag? : KeepsEnding tag? := by
  unfold tag?
  grind

@[grind ←] theorem keepsEnding_properties : KeepsEnding properties := by
  unfold properties
  grind

/-! ## Nodes -/

/-- The readers of nodes call each other with less fuel, and are taken together. -/
structure NodesKeepEnding (fuel : Nat) : Prop where
  node : ∀ inBlock dashes, KeepsEnding (node fuel inBlock dashes)
  content : ∀ inBlock dashes anchor tag, KeepsEnding (content fuel inBlock dashes anchor tag)
  blockItems : KeepsEnding (blockItems fuel)
  dashItems : KeepsEnding (dashItems fuel)
  blockEntries : KeepsEnding (blockEntries fuel)
  flowItems : ∀ isFirst, KeepsEnding (flowItems fuel isFirst)
  flowEntries : ∀ isFirst, KeepsEnding (flowEntries fuel isFirst)

theorem nodesKeepEnding (fuel : Nat) : NodesKeepEnding fuel := by
  induction fuel with
  | zero =>
      constructor
      · exact fun _ _ => .malformed
      · exact fun _ _ _ _ => .malformed
      · exact .malformed
      · exact .malformed
      · exact .malformed
      · exact fun _ => .malformed
      · exact fun _ => .malformed
  | succ fuel ih =>
      obtain ⟨hnode, hcontent, hblockItems, hdashItems, hblockEntries, hflowItems,
        hflowEntries⟩ := ih
      constructor
      · intro inBlock dashes
        unfold node
        refine .bind keepsEnding_peek fun t => ?_
        split
        · grind
        · refine .bind keepsEnding_properties fun p => ?_
          grind
      · intro inBlock dashes anchor tag
        unfold content
        grind
      · unfold blockItems
        grind
      · unfold dashItems
        grind
      · unfold blockEntries
        grind
      · intro isFirst
        unfold flowItems
        refine .bind (keepsEnding_take? _) fun closes => ?_
        split
        · exact .pure _
        refine .bind (keepsEnding_comma _) fun _ => ?_
        refine .bind (keepsEnding_take? _) fun hasKey => ?_
        split
        · refine .bind (keepsEnding_isAt _) fun _ => ?_
          grind
        · grind
      · intro isFirst
        unfold flowEntries
        refine .bind (keepsEnding_take? _) fun closes => ?_
        split
        · exact .pure _
        refine .bind (keepsEnding_comma _) fun _ => ?_
        refine .bind (keepsEnding_take? _) fun hasKey => ?_
        split
        · refine .bind (keepsEnding_isAt _) fun _ => ?_
          grind
        · grind

@[grind ←] theorem keepsEnding_node (fuel : Nat) (inBlock dashes : Bool) :
    KeepsEnding (node fuel inBlock dashes) :=
  (nodesKeepEnding fuel).node inBlock dashes

/-! ## Documents -/

@[grind ←] theorem keepsEnding_directives (fuel : Nat) (versioned : Bool)
    (handles : Assoc (List Char) (List Char)) :
    KeepsEnding (directives fuel versioned handles) := by
  induction fuel generalizing versioned handles with
  | zero => exact .malformed
  | succ fuel ih =>
      unfold directives
      grind

@[grind ←] theorem keepsEnding_atDocumentEnd : KeepsEnding atDocumentEnd := by
  unfold atDocumentEnd
  grind

@[grind ←] theorem keepsEnding_dropEnds (fuel : Nat) : KeepsEnding (dropEnds fuel) := by
  induction fuel with
  | zero => exact .pure ()
  | succ fuel ih =>
      unfold dropEnds
      grind

theorem keepsEnding_rest (fuel : Nat) (n : Node) : KeepsEnding (do
    dropEnds fuel
    match ← peek with
    | none => pure (some n)
    | some _ => malformed : Reading (Option Node)) := by
  grind

theorem keepsEnding_body (fuel : Nat) : KeepsEnding (do
    let n ← if ← atDocumentEnd then pure .missing else node fuel true false
    dropEnds fuel
    match ← peek with
    | none => pure (some n)
    | some _ => malformed : Reading (Option Node)) := by
  refine .bind keepsEnding_atDocumentEnd fun isEmpty => ?_
  split
  · exact .bind (.pure _) (keepsEnding_rest fuel)
  · exact .bind (keepsEnding_node _ _ _) (keepsEnding_rest fuel)

theorem keepsEnding_document (fuel : Nat) : KeepsEnding (document fuel) := by
  unfold document
  refine .bind keepsEnding_peek fun t => ?_
  split
  · exact .pure none
  · exact .malformed
  · refine .bind keepsEnding_atDocumentEnd fun hasDirectives => ?_
    split
    · refine .bind (keepsEnding_directives _ _ _) fun given => ?_
      refine .bind (keepsEnding_take? _) fun hasStart => ?_
      split
      · refine .bind .malformed fun _ => ?_
        exact .bind (.of_modify fun _ => rfl) fun _ => keepsEnding_body fuel
      · exact .bind (.of_modify fun _ => rfl) fun _ => keepsEnding_body fuel
    · exact .bind (keepsEnding_node _ _ _) (keepsEnding_rest fuel)

end Reading

/-- What is read off a text fails only where its tokens make up no document or end in a fault of the
scanner. -/
theorem Node.failsOnly_ofText (cs : List Char) : FailsOnly OfScanner (ofText cs) := by
  intro f h
  rcases hs : Token.scan cs with ⟨tokens, ending⟩
  have hd := Reading.keepsEnding_document (4 * tokens.length + 16)
  rw [ofText, hs] at h
  simp only at h
  rcases hr : (Reading.document (4 * tokens.length + 16)).run
      ⟨tokens, ending, Reading.standardHandles, []⟩ with g | p
  · rw [hr] at h
    cases h
    rcases hd.fault hr with rfl | he
    · exact .malformed
    · exact Token.scan_ending (show (Token.scan cs).2 = some f by rw [hs]; exact he)
  · rw [hr] at h
    cases h

end AppCatalog.Yaml
