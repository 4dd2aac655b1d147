import Voyager.Emit.Tracked

namespace Voyager

open Lib (Mark Tracks)

structure Finished (r : Emitter) (compiled : CompiledQuery) (t : Emitter) : Prop where
  statement : compiled.statement = r.buffer
  parameters : compiled.parameters = r.parameters
  counter : t.paramCounter = r.paramCounter
  written : t.written = r.written

def Finishes (m : EmitM CompiledQuery) (events : List Event) : Prop :=
  ∀ s compiled t, m s = .ok (compiled, t) → ∃ r, Emits s events r ∧ Finished r compiled t

def Compiles (visit : EmitM CompiledQuery) (events : List Event) : Prop :=
  ∀ s compiled t, visit s = .ok (compiled, t) → ∃ r, Emits s.clear events r ∧ Finished r compiled t

structure Callees.Follow (c : Callees) (k : Walks) : Prop where
  expression : ∀ h nested, Follows (c.expression h nested) (k.expression h)
  path : ∀ h, Follows (c.path h) (k.path h)
  visitQuery : ∀ h, Compiles (c.visitQuery h) (k.statement h)

section

variable {c : Callees} {k : Walks} (hc : c.Follow k) (w : Wording) (arena : QueryAstArena)

include hc

variable (h : NodeHandle)

lemma emitPatternPredicate_follows : Follows (emitPatternPredicate arena c h) (walkPatternPredicate arena k h) := by
  refine Tracks.lift_bind fun entry hentry => ?_
  rw [walkPatternPredicate, hentry]
  cases entry with
  | none => exact hc.expression h false
  | some entry => exact text_follows _ (hc.expression entry.2 false)

lemma emitPredicates_follows (predicates : List NodeHandle) :
    Follows (emitPredicates arena c predicates) (predicates.flatMap (walkPatternPredicate arena k)) := by
  cases predicates with
  | nil => exact Tracks.pure _
  | cons p ps =>
    exact text_follows _ (followed_by_text
      (separated_follows _ (emitPatternPredicate_follows hc arena) (p :: ps)) _)

lemma emitNodePattern_follows : Follows (emitNodePattern w arena c h) (walkNodePattern arena k h) := by
  refine node_follows fun n hn => ?_
  split
  · rw [walkNodePattern, hn]
    exact text_follows _ (followed_by_text (emitPredicates_follows hc arena _) _)
  · exact violation_follows _ _ _

lemma emitWhere_follows : Follows (emitWhere arena c h) (walkWhere arena k h) := by
  refine node_follows fun n hn => ?_
  split
  · rw [walkWhere, hn]
    exact text_follows _ (hc.expression _ _)
  · exact violation_follows _ _ _

lemma emitMatchClause_follows (optional : Bool) (paths : List NodeHandle) (whereClause : Option NodeHandle) :
    Follows (emitMatchClause arena c optional paths whereClause) (walkMatchClause arena k paths whereClause) :=
  text_follows _ ((separated_follows _ hc.path paths).bind fun _ =>
    Tracks.optionForM (emitWhere_follows hc arena) whereClause)

lemma emitNestedQuery_follows : Follows (emitNestedQuery c h) (.reset :: k.statement h) := by
  intro s a t ht
  obtain ⟨self, s', hself, hrest⟩ := Lib.bind_ok.mp ht
  cases hself
  obtain ⟨⟨compiled, nested⟩, s', hlift, hmerge⟩ := Lib.bind_ok.mp hrest
  obtain ⟨hvisit, rfl⟩ := Lib.lift_ok.mp hlift
  cases hmerge
  obtain ⟨r, hr, hfinished⟩ := hc.visitQuery h _ _ _ hvisit
  obtain ⟨text, htext, hwoven⟩ := hr.buffer
  refine ⟨hfinished.counter.trans hr.counter, ?_, fun name => ?_, text, ?_, hwoven⟩
  · change s'.written ++ nested.written = _
    rw [hfinished.written, hr.written]
    rfl
  · change (compiled.parameters ∪ s'.parameters).lookup name = _
    rw [Lib.lookup_union_eq_or, hfinished.parameters, hr.parameters,
      Lib.overlay_or _ _ (s'.parameters.lookup name)]
    rfl
  · change s'.buffer ++ compiled.statement = _
    rw [hfinished.statement, htext]
    exact congrArg (s'.buffer ++ ·) String.empty_append

lemma emitSubqueryBody_follows : Follows (emitSubqueryBody arena c h) (walkSubqueryBody arena k h) := by
  refine node_follows fun n hn => ?_
  unfold walkSubqueryBody
  rw [hn]
  cases n with
  | nodePattern | pathChain => exact text_follows _ (hc.path h)
  | matchClause => exact emitMatchClause_follows hc arena _ _ _
  | queryStatement => exact emitNestedQuery_follows hc h
  | whereClause => exact emitWhere_follows hc arena h
  | _ => exact hc.expression h false

lemma emitUnary_follows (op : UnaryOp) (operand : NodeHandle) :
    Follows (emitUnary c op operand) (k.expression operand) := by
  cases op with
  | not => exact text_follows _ (followed_by_text (hc.expression _ _) _)
  | neg => exact text_follows _ (hc.expression _ _)
  | isNull | isNotNull => exact followed_by_text (hc.expression _ _) _

lemma arguments_follow (arguments : List NodeHandle) :
    Follows (separated ", " (c.expression · false) arguments) (arguments.flatMap k.expression) :=
  separated_follows _ (fun h => hc.expression h false) arguments

lemma optional_expression_follows (keyword : String) (o : Option NodeHandle) :
    Follows (o.forM fun h => do pushStr keyword; c.expression h false) (o.elim [] k.expression) :=
  Tracks.optionForM (fun h => text_follows _ (hc.expression h false)) o

lemma emitCase_follows (operand : Option NodeHandle) (branches : List (NodeHandle × NodeHandle))
    (elseBranch : Option NodeHandle) :
    Follows (emitCase c operand branches elseBranch) (operand.elim [] k.expression ++
      (branches.flatMap (fun b => k.expression b.1 ++ k.expression b.2) ++ elseBranch.elim [] k.expression)) := by
  refine text_follows _ ((optional_expression_follows hc " " operand).bind fun _ => ?_)
  refine Tracks.bind (Tracks.forM (fun b => ?_) branches) fun _ => ?_
  · exact text_follows _ ((hc.expression b.1 false).bind fun _ => text_follows _ (hc.expression b.2 false))
  · exact followed_by_text (optional_expression_follows hc " ELSE " elseBranch) _

lemma emitListComprehension_follows (var : String) (listExpression : NodeHandle)
    (whereFilter mapExpression : Option NodeHandle) :
    Follows (emitListComprehension c var listExpression whereFilter mapExpression)
      (k.expression listExpression ++ (whereFilter.elim [] k.expression ++ mapExpression.elim [] k.expression)) := by
  refine text_follows _ ((hc.expression listExpression false).bind fun _ => ?_)
  refine (optional_expression_follows hc " WHERE " whereFilter).bind fun _ => ?_
  exact followed_by_text (optional_expression_follows hc " | " mapExpression) _

lemma emitPatternComprehension_follows (path : NodeHandle) (whereFilter : Option NodeHandle)
    (projection : NodeHandle) :
    Follows (emitPatternComprehension c path whereFilter projection)
      (k.path path ++ (whereFilter.elim [] k.expression ++ k.expression projection)) := by
  refine text_follows _ ((hc.path path).bind fun _ => ?_)
  refine (optional_expression_follows hc " WHERE " whereFilter).bind fun _ => ?_
  exact text_follows _ (followed_by_text (hc.expression projection false) _)

lemma emitExpression_follows (nested : Bool) :
    Follows (emitExpression w arena c h nested) (walkExpression arena k h) := by
  refine node_follows fun n hn => ?_
  rw [walkExpression, hn]
  cases n with
  | identifier | parameter => exact pushStr_follows _
  | nodePattern var | edgePattern var => cases var <;> first | exact pushStr_follows _ | exact violation_follows _ _ _
  | propertyAccess target property =>
    exact (hc.expression target false).bind_silent fun _ => Tracks.ite (Tracks.pure _) (pushStr_follows _)
  | literal lit => exact pushLiteral_follows lit
  | binaryExpression left op right =>
    refine text_follows _ ((hc.expression left true).bind fun _ => ?_)
    exact text_follows _ (followed_by_text (hc.expression right true) _)
  | unaryExpression op operand => exact emitUnary_follows hc op operand
  | functionCall _ arguments | listLiteral arguments =>
    exact text_follows _ (followed_by_text (arguments_follow hc arguments) _)
  | caseExpression => exact emitCase_follows hc _ _ _
  | listComprehension => exact emitListComprehension_follows hc _ _ _ _
  | patternComprehension => exact emitPatternComprehension_follows hc _ _ _
  | existsSubquery subquery | countSubquery subquery =>
    exact text_follows _ (followed_by_text (emitSubqueryBody_follows hc arena subquery) _)
  | _ => exact violation_follows _ _ _

end

end Voyager
