import Voyager.Session.Database

/-! The compiled statement of a bulk upsert, run on a batch, merges row by row. -/

namespace Voyager

open Lib QueryAstArena

def ItemsFor (arena : QueryAstArena) (nodeIdent rowIdent : NodeHandle) : List String → List NodeHandle → Prop :=
  List.Forall₂ fun prop item => ∃ target value,
    arena.nodes[item]? = some (.setItem target value false) ∧
      arena.nodes[target]? = some (.propertyAccess nodeIdent prop) ∧
      arena.nodes[value]? = some (.propertyAccess rowIdent prop)

variable {items : List NodeHandle} {props : List String}

lemma ItemsFor.grows {a b : QueryAstArena} {nodeIdent rowIdent : NodeHandle}
    (h : ItemsFor a nodeIdent rowIdent props items) (hab : a.Grows b) :
    ItemsFor b nodeIdent rowIdent props items := by
  refine h.imp fun prop item => ?_
  rintro ⟨target, value, hitem, htarget, hvalue⟩
  exact ⟨target, value, hab.node hitem, hab.node htarget, hab.node hvalue⟩

lemma allocSetItems_spec (nodeIdent rowIdent : NodeHandle) (props : List String) (arena : QueryAstArena) :
    arena.Grows (allocSetItems nodeIdent rowIdent props arena).2 ∧
      ItemsFor (allocSetItems nodeIdent rowIdent props arena).2 nodeIdent rowIdent props
        (allocSetItems nodeIdent rowIdent props arena).1 := by
  induction props generalizing arena with
  | nil => exact ⟨.refl arena, .nil⟩
  | cons prop props ih =>
    let a := arena.alloc (.propertyAccess nodeIdent prop)
    let b := a.2.alloc (.propertyAccess rowIdent prop)
    let c := b.2.alloc (.setItem a.1 b.1 false)
    obtain ⟨hgrows, hitems⟩ := ih c.2
    have hc : a.2.Grows c.2 := (grows_alloc _ _).trans (grows_alloc _ _)
    have hb : b.2.Grows c.2 := grows_alloc _ _
    refine ⟨((grows_alloc _ _).trans hc).trans hgrows, .cons ⟨a.1, b.1, ?_, ?_, ?_⟩ hitems⟩
    · exact hgrows.node (alloc_node _ _)
    · exact (hc.trans hgrows).node (alloc_node _ _)
    · exact (hb.trans hgrows).node (alloc_node _ _)

section

variable {D : Type} {arena : QueryAstArena}

variable {h : NodeHandle}

lemma found_of_node {node : AstNode} (hn : arena.nodes[h]? = some node) : found arena h = .ok node := by
  rw [found, hn]

lemma assignAll_cons (prop : String) (props : List String) (row : Record D) (n : DbNode D) :
    n.assignAll (prop :: props) row = (n.assign prop (row.get? prop).join).assignAll props row := by
  simp only [DbNode.assignAll, DbNode.assign, DbNode.mk.injEq, true_and]
  funext name
  by_cases hname : name = prop <;> simp [hname]

variable {scope : Scope D} {nodeIdent rowIdent : NodeHandle}
  (hnode : arena.nodes[nodeIdent]? = some (.identifier scope.nodeVar))
  (hrow : arena.nodes[rowIdent]? = some (.identifier scope.rowAlias))

include hrow

lemma property_row {name : String} (hh : arena.nodes[h]? = some (.propertyAccess rowIdent name)) (n : DbNode D) :
    property arena scope n h = .ok (scope.row.get? name).join := by
  simp only [property, found_of_node hh, found_of_node hrow, bind, Except.bind, if_true]
  rfl

lemma keyEntry_row {left right : NodeHandle} {keyField : String}
    (hh : arena.nodes[h]? = some (.binaryExpression left .eq right))
    (hleft : arena.nodes[left]? = some (.propertyAccess nodeIdent keyField))
    (hright : arena.nodes[right]? = some (.propertyAccess rowIdent keyField)) :
    keyEntry arena scope h =
      match (scope.row.get? keyField).join with
      | some key => .ok (keyField, key)
      | none => .error .nullKey := by
  have hentry : patternEntry arena h = .ok (some (keyField, right)) := by
    simp only [patternEntry, get_eq_ok.mpr hh, get_eq_ok.mpr hleft,
      get_eq_ok.mpr hright, bind, Except.bind]
    rfl
  simp only [keyEntry, hentry, property_row hrow hright, bind, Except.bind]
  cases (scope.row.get? keyField).join <;> rfl

include hnode

lemma setProperty_item {prop : String} {item target value : NodeHandle}
    (hitem : arena.nodes[item]? = some (.setItem target value false))
    (htarget : arena.nodes[target]? = some (.propertyAccess nodeIdent prop))
    (hvalue : arena.nodes[value]? = some (.propertyAccess rowIdent prop)) (n : DbNode D) :
    setProperty arena scope n item = .ok (n.assign prop (scope.row.get? prop).join) := by
  simp only [setProperty, found_of_node hitem, found_of_node htarget, found_of_node hnode,
    property_row hrow hvalue, bind, Except.bind, if_true]
  rfl

lemma foldlM_setProperty (h : ItemsFor arena nodeIdent rowIdent props items) (n : DbNode D) :
    items.foldlM (setProperty arena scope) n = .ok (n.assignAll props scope.row) := by
  induction h generalizing n with
  | nil => rfl
  | cons hitem _ ih =>
    obtain ⟨target, value, hitem, htarget, hvalue⟩ := hitem
    rw [List.foldlM_cons, setProperty_item hnode hrow hitem htarget hvalue, assignAll_cons, ← ih]
    rfl

end

section

variable {D : Type} [DecidableEq D] {arena : QueryAstArena}

lemma mapM_ok {α β ε : Type} (f : α → β) (xs : List α) :
    xs.mapM (fun x => (.ok (f x) : Except ε β)) = .ok (xs.map f) := by
  induction xs with
  | nil => rfl
  | cons x xs ih => rw [List.mapM_cons, ih]; rfl

structure Upsert (arena : QueryAstArena) (merge : NodeHandle) (rowAlias label keyField : String)
    (props : List String) : Prop where
  parts : ∃ nodeVar path nodeIdent rowIdent left right pred items,
    arena.nodes[merge]? = some (.mergeClause path items items) ∧
      arena.nodes[path]? = some (.nodePattern (some nodeVar) (some (.label label)) [pred]) ∧
      arena.nodes[nodeIdent]? = some (.identifier nodeVar) ∧
      arena.nodes[rowIdent]? = some (.identifier rowAlias) ∧
      arena.nodes[pred]? = some (.binaryExpression left .eq right) ∧
      arena.nodes[left]? = some (.propertyAccess nodeIdent keyField) ∧
      arena.nodes[right]? = some (.propertyAccess rowIdent keyField) ∧
      ItemsFor arena nodeIdent rowIdent props items

lemma Upsert.mergeNode {merge : NodeHandle} {rowAlias label keyField : String}
    (h : Upsert arena merge rowAlias label keyField props) (g : Graph D) (row : Record D) :
    mergeNode arena rowAlias merge g row = mergeRow label keyField props g row := by
  obtain ⟨nodeVar, path, nodeIdent, rowIdent, left, right, pred, items,
    hmerge, hpath, hnode, hrow, hpred, hleft, hright, hitems⟩ := h.parts
  have hkey : [pred].mapM (keyEntry arena (⟨rowAlias, row, nodeVar⟩ : Scope D)) =
      match (row.get? keyField).join with
      | some key => .ok [(keyField, key)]
      | none => .error .nullKey := by
    rw [List.mapM_cons, keyEntry_row hrow hpred hleft hright]
    cases (row.get? keyField).join <;> rfl
  have hset : ∀ n, items.foldlM (setProperty arena ⟨rowAlias, row, nodeVar⟩) n = .ok (n.assignAll props row) :=
    foldlM_setProperty hnode hrow hitems
  simp only [Voyager.mergeNode, found_of_node hmerge, found_of_node hpath, bind, Except.bind, mergeRow, hkey]
  cases (row.get? keyField).join with
  | none => rfl
  | some key =>
    simp only [hset]
    split
    · rw [← mapM_ok]
      congr 1
      funext n
      split <;> rfl
    · rfl

variable (lower : String → String)

lemma upsert_compileBulkMerge (label keyField : String) (props : List String) (batchParam rowAlias : String)
    (batch : List (Record D)) (g : Graph D) :
    runStatement (compileBulkMerge lower label keyField props batchParam rowAlias).2
        (compileBulkMerge lower label keyField props batchParam rowAlias).1 batch g =
      batch.foldlM (mergeRow label keyField props) g := by
  let nodeVar := "_" ++ lower label ++ "_0"
  let base : QueryAstArena := ⟨[.parameter batchParam, .unwindClause 0 rowAlias, .identifier nodeVar,
    .identifier rowAlias, .propertyAccess 2 keyField, .propertyAccess 3 keyField, .binaryExpression 4 .eq 5,
    .nodePattern (some nodeVar) (some (.label label)) [6]]⟩
  let items := allocSetItems 2 3 props base
  let merge := items.2.alloc (.mergeClause 7 items.1 items.1)
  let root := merge.2.alloc (.queryStatement .normal none [1] [] [] [] [merge.1] none)
  have hroot : compileBulkMerge lower label keyField props batchParam rowAlias = root := rfl
  obtain ⟨hbase, hitems⟩ := allocSetItems_spec 2 3 props base
  have hmerge : items.2.Grows root.2 := (grows_alloc _ _).trans (grows_alloc _ _)
  have hall : base.Grows root.2 := hbase.trans hmerge
  have hupsert : Upsert root.2 merge.1 rowAlias label keyField props :=
    ⟨nodeVar, 7, 2, 3, 4, 5, 6, items.1, (grows_alloc _ _).node (alloc_node _ _),
      hall.node rfl, hall.node rfl, hall.node rfl, hall.node rfl, hall.node rfl, hall.node rfl,
      hitems.grows hmerge⟩
  have hstatement : root.2.nodes[root.1]? = some _ := alloc_node _ _
  have hunwind : root.2.nodes[1]? = some (.unwindClause 0 rowAlias) := hall.node rfl
  rw [hroot, runStatement]
  simp only [found_of_node hstatement, found_of_node hunwind, bind, Except.bind]
  congr 1
  funext g row
  exact hupsert.mergeNode g row

lemma runBulk_createBulkMergePlan (model : Model) (keyField : String) (data : List (Record D)) (g : Graph D) :
    runBulk (createBulkMergePlan lower model keyField data) g =
      data.foldlM (mergeRow model.label keyField
        (mergeProperties model keyField (chunkRecords 50000 data))) g := by
  have hbatch : ∀ batches : List (List (Record D)), ∀ g,
      batches.foldlM (fun g batch => runStatement (createBulkMergePlan lower model keyField data).statement.2
        (createBulkMergePlan lower model keyField data).statement.1 batch g) g =
        batches.flatten.foldlM (mergeRow model.label keyField
          (mergeProperties model keyField (chunkRecords 50000 data))) g := by
    intro batches
    induction batches with
    | nil => exact fun g => rfl
    | cons batch batches ih =>
      intro g
      rw [List.foldlM_cons, List.flatten_cons, List.foldlM_append]
      simp only [ih]
      rw [createBulkMergePlan, upsert_compileBulkMerge]
  rw [runBulk, hbatch, createBulkMergePlan, flatten_chunkRecords (by decide)]

end

end Voyager
