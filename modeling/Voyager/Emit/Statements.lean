import Voyager.Emit.Cypher
import Voyager.Emit.Expressions
import Voyager.Emit.IsoGql

namespace Voyager

open Lib (Tracks)

namespace Finishes

variable {α : Type} {m : EmitM α} {f : α → EmitM CompiledQuery} {u v : List Event}

lemma finish (mode : ExecutionMode) (columns : List ColumnMeta) : Finishes (Emitter.finish mode columns) [] := by
  intro s compiled t h
  cases h
  exact ⟨s, Emits.refl s, rfl, rfl, rfl, rfl⟩

lemma throw (err : Error) (events : List Event) : Finishes (MonadExcept.throw err : EmitM CompiledQuery) events := by
  intro s compiled t h
  cases h

lemma bind (hm : Follows m u) (hf : ∀ a, Finishes (f a) v) : Finishes (m >>= f) (u ++ v) := by
  intro s compiled t h
  obtain ⟨a, s', ha, ht⟩ := Lib.bind_ok.mp h
  obtain ⟨r, hr, hfinished⟩ := hf a s' compiled t ht
  exact ⟨r, (hm s a s' ha).trans hr, hfinished⟩

lemma silent_bind (hm : Follows m []) (hf : ∀ a, Finishes (f a) v) : Finishes (m >>= f) v :=
  bind hm hf

lemma bind_finish (hm : Follows m u) (mode : ExecutionMode) (columns : α → List ColumnMeta) :
    Finishes (m >>= fun a => Emitter.finish mode (columns a)) u := by
  simpa using bind hm fun a => finish mode (columns a)

lemma compiles {arena : QueryAstArena} {root : NodeHandle} {f : AstNode → EmitM CompiledQuery}
    {events : List Event} (hf : ∀ n, arena.nodes[root]? = some n → Finishes (f n) events) :
    Compiles (do modify Emitter.clear; f (← node arena root)) events := by
  intro s compiled t h
  obtain ⟨_, s', hclear, hrest⟩ := Lib.bind_ok.mp h
  cases hclear
  obtain ⟨n, s', hnode, hbody⟩ := Lib.bind_ok.mp hrest
  obtain ⟨hget, rfl⟩ := Lib.lift_ok.mp hnode
  exact hf n (QueryAstArena.get_eq_ok.mp hget) _ _ _ hbody

end Finishes

section

variable {c : Callees} {k : Walks} (hc : c.Follow k) (w : Wording) (arena : QueryAstArena)

include hc

lemma projections_follow (projections : List ProjectionItem) :
    Follows (separated ", " (emitProjectionItem c) projections) (walkProjections k projections) := by
  refine separated_follows _ (fun proj => ?_) projections
  refine text_follows _ ((hc.expression proj.expression false).bind_silent fun _ => ?_)
  exact text_follows _ (pushStr_follows _)

lemma emitOrderBy_follows (orderBy : List (NodeHandle × Bool)) :
    Follows (emitOrderBy c orderBy) (walkOrderBy k orderBy) := by
  cases orderBy with
  | nil => exact Tracks.pure _
  | cons item items =>
    refine text_follows _ (separated_follows _ (fun item => ?_) (item :: items))
    exact followed_by_text (hc.expression item.1 false) _

omit hc in
lemma emitPaging_follows (skip limit : Option ℕ) : Follows (emitPaging w skip limit) [] :=
  text_follows _ (pushStr_follows _)

lemma emitReturnClause_follows (returnClause : Option NodeHandle) :
    Follows (emitReturnClause w arena c returnClause) (returnClause.elim [] (walkReturn arena k)) := by
  cases returnClause with
  | none => exact Tracks.pure _
  | some h =>
    refine node_follows fun n hn => ?_
    rw [Option.elim_some, walkReturn, hn]
    cases n with
    | returnClause distinct projections orderBy skip limit =>
      refine Tracks.bind_silent (text_follows _ ?_) fun _ => Tracks.pure _
      refine (projections_follow hc projections).bind fun _ => ?_
      exact (emitOrderBy_follows hc orderBy).bind_silent fun _ => emitPaging_follows w skip limit
    | _ => exact Tracks.pure _

variable (h : NodeHandle)

lemma emitWith_follows : Follows (emitWith w arena c h) (walkClause arena k h) := by
  refine node_follows fun n hn => ?_
  split
  · rw [walkClause, hn]
    refine text_follows _ ((projections_follow hc _).bind fun _ => ?_)
    refine (Tracks.optionForM (emitWhere_follows hc arena) _).bind fun _ => ?_
    exact (emitOrderBy_follows hc _).bind_silent fun _ => emitPaging_follows w _ _
  · exact violation_follows _ _ _

lemma emitSetItem_follows : Follows (emitSetItem arena c h) (walkSetItem arena k h) := by
  refine node_follows fun n hn => ?_
  split
  · rw [walkSetItem, hn]
    exact (hc.expression _ _).bind fun _ => text_follows _ (hc.expression _ _)
  · exact violation_follows _ _ _

lemma emitSetList_follows (keyword : String) (items : List NodeHandle) :
    Follows (emitSetList arena c keyword items) (items.flatMap (walkSetItem arena k)) := by
  cases items with
  | nil => exact Tracks.pure _
  | cons item items => exact text_follows _ (separated_follows _ (emitSetItem_follows hc arena) (item :: items))

lemma emitCreate_follows : Follows (emitCreate w arena c h) (walkClause arena k h) := by
  refine node_follows fun n hn => ?_
  split
  · rw [walkClause, hn]
    exact text_follows _ (separated_follows _ hc.path _)
  · exact violation_follows _ _ _

lemma emitSet_follows : Follows (emitSet arena c h) (walkClause arena k h) := by
  refine node_follows fun n hn => ?_
  split
  · rw [walkClause, hn]
    exact text_follows _ (separated_follows _ (emitSetItem_follows hc arena) _)
  · exact violation_follows _ _ _

lemma emitRemove_follows : Follows (emitRemove arena c h) (walkClause arena k h) := by
  refine node_follows fun n hn => ?_
  split
  · rw [walkClause, hn]
    exact text_follows _ (arguments_follow hc _)
  · exact violation_follows _ _ _

lemma emitUnwind_follows : Follows (emitUnwind arena c h) (walkClause arena k h) := by
  refine node_follows fun n hn => ?_
  split
  · rw [walkClause, hn]
    exact text_follows _ (followed_by_text (hc.expression _ _) _)
  · exact violation_follows _ _ _

lemma emitMatch_follows : Follows (emitMatch arena c h) (walkMatch arena k h) := by
  refine node_follows fun n hn => ?_
  rw [walkMatch, hn]
  cases n with
  | matchClause => exact emitMatchClause_follows hc arena _ _ _
  | _ => exact Tracks.pure _

lemma emitMutation_follows {emitMerge emitDelete : NodeHandle → EmitM Unit}
    (hmerge : ∀ h, Follows (emitMerge h) (walkClause arena k h))
    (hdelete : ∀ h, Follows (emitDelete h) (walkClause arena k h)) (h : NodeHandle) :
    Follows (emitMutation w arena c emitMerge emitDelete h) (walkClause arena k h) := by
  refine node_follows fun n hn => ?_
  cases n with
  | createClause => exact emitCreate_follows hc w arena h
  | mergeClause => exact hmerge h
  | setClause => exact emitSet_follows hc arena h
  | deleteClause => exact hdelete h
  | removeClause => exact emitRemove_follows hc arena h
  | _ => exact violation_follows _ _ _

lemma emitCall_follows (ns : Option String) (procedure : String) (arguments : List NodeHandle)
    (yieldItems : List String) :
    Follows (emitCall c ns procedure arguments yieldItems) (arguments.flatMap k.expression) :=
  text_follows _ ((arguments_follow hc arguments).bind_silent fun _ => text_follows _ (pushStr_follows _))

end

end Voyager
