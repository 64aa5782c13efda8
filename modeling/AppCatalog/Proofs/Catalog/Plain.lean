import AppCatalog.Catalog

/-!
# Operations that load nothing

An operation of a store that reads no resource is put together from questions, changes of the index
in memory, writes of the index and log lines (`Store.Plain`). An operation of the catalog that loads
nothing is put together from these, from log lines and from additions to the queue (`Catalog.Plain`).
What each part keeps, every such operation keeps, by induction on how it is put together.
-/

namespace AppCatalog

/-! ## Stores -/

namespace Store

inductive Plain : {α : Type} → Action α → Prop
  | pure {α : Type} (a : α) : Plain (pure a)
  | throw {α : Type} (f : Failure) : Plain (throw f : Action α)
  | ofExcept {α : Type} (x : Except Failure α) : Plain (Run.ofExcept x)
  | ask {α : Type} (question : Store → Except Failure α) : Plain (ask question)
  | setIndex (i : Index) : Plain (setIndex i)
  | writeIndex : Plain writeIndex
  | note (level : Level) (text : String) : Plain (inWorld (World.note level text))
  | bind {α β : Type} {m : Action α} {k : α → Action β} (hm : Plain m) (hk : ∀ a, Plain (k a)) :
    Plain (m >>= k)

theorem plain_save (r : Registration) (overwrite : Bool) : Plain (save r overwrite) := by
  refine .bind (.ask _) fun previous => ?_
  have hrest : Plain (do
      setIndex (← ask fun s => s.index.insert r)
      writeIndex
      Run.ofExcept (Index.decodeGiven previous) : Action (Option Registration)) :=
    .bind (.ask _) fun i => .bind (.setIndex i) fun _ => .bind .writeIndex fun _ => .ofExcept _
  split
  · split
    · exact .bind (.ofExcept _) fun _ => .bind (.throw _) fun _ => hrest
    · exact hrest
  · exact hrest

theorem plain_delete (type : AppType) (name : String) : Plain (delete type name) := by
  refine .bind (.ask _) fun p => .bind (.setIndex p.1) fun _ => ?_
  split
  · exact .bind .writeIndex fun _ => .pure _
  · exact .pure _

theorem plain_addAll (force : Bool) (rs : List Registration) : Plain (addAll force rs) := by
  induction rs with
  | nil => exact .pure _
  | cons r rs ih =>
      have hrest : ∀ isTaken : Bool, Plain (if isTaken = true then do
            inWorld (World.note .info ("Skipping existing registration " ++ r.id))
            addAll force rs
          else do
            setIndex (← ask fun s => s.index.insert r)
            let saved ← addAll force rs
            pure (r :: saved)) := by
        intro isTaken
        split
        · exact .bind (.note _ _) fun _ => ih
        · exact .bind (.ask _) fun i => .bind (.setIndex i) fun _ => .bind ih fun _ => .pure _
      rw [addAll]
      split
      · exact .bind (.pure _) hrest
      · exact .bind (.ask _) hrest

theorem plain_importRegistrations (force : Bool) (rs : List Registration) :
    Plain (importRegistrations force rs) := by
  refine .bind (plain_addAll force rs) fun saved => ?_
  split
  · exact .bind .writeIndex fun _ => .pure _
  · exact .pure _

end Store

/-! ## Catalogs -/

namespace Catalog

inductive Plain : {α : Type} → Action α → Prop
  | pure {α : Type} (a : α) : Plain (pure a)
  | throw {α : Type} (f : Failure) : Plain (throw f : Action α)
  | ofExcept {α : Type} (x : Except Failure α) : Plain (Run.ofExcept x)
  | inStore {α : Type} {m : Store.Action α} (h : Store.Plain m) : Plain (inStore m)
  | note (text : String) : Plain (note text)
  | prefetch (rs : List Registration) : Plain (prefetch rs)
  | bind {α β : Type} {m : Action α} {k : α → Action β} (hm : Plain m) (hk : ∀ a, Plain (k a)) :
    Plain (m >>= k)

theorem plain_list (request : PageRequest) (query : Query) : Plain (list request query) := by
  refine .inStore ?_
  split
  · exact .ask _
  · exact .bind (.ask _) fun _ => .pure _

theorem plain_register (r : Registration) (force : Bool) : Plain (register r force) := by
  have hrest : Plain (do
      let _ ← inStore (Store.save r force)
      note ("Registered " ++ r.id ++ " as " ++ r.uri)
      prefetch [r]
      pure r) :=
    .bind (.inStore (Store.plain_save r force)) fun _ => .bind (.note _) fun _ =>
      .bind (.prefetch _) fun _ => .pure _
  refine .bind (.ofExcept _) fun _ => ?_
  split
  · exact .bind (.ofExcept _) fun _ => hrest
  · exact hrest

theorem plain_unregister (type : AppType) (name : String) : Plain (unregister type name) := by
  refine .bind (.inStore (Store.plain_delete type name)) fun found => ?_
  split
  · exact .bind (.throw _) fun _ => .note _
  · exact .note _

theorem plain_importPage (request : PageRequest) (saved : List Registration) :
    Plain (importPage request saved) :=
  .bind (.inStore (.ask _)) fun _ => .pure _

end Catalog

end AppCatalog
