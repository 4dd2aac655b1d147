import Voyager.Optimizer.Denotation
import Voyager.Optimizer.Semantics

/-! An interpretation over the three-valued semantics in which a clause matches single node patterns. -/

namespace Voyager

open List Option

open AstOptimizer (patternNodes patternNodes_leaf)

def AstNode.patternVar : AstNode → Option String
  | .nodePattern var _ _ => var
  | _ => none

def scanVar (arena : QueryAstArena) : List NodeHandle → Option String
  | [path] => (arena.nodes[path]?).bind AstNode.patternVar
  | _ => none

def Row.set {V : Type} (r : Row V) (x : String) (v : V) : Row V :=
  fun y => if y = x then some v else r y

def scanRows (ids : Multiset ℕ) (x : String) (r : Row (Option Value)) : Multiset (Row (Option Value)) :=
  match r x with
  | some (some (.entity _)) => {r}
  | some _ => 0
  | none => ids.map fun i => r.set x (some (.entity i))

def scanAbsent (x : String) (r : Row (Option Value)) : Row (Option Value) :=
  if (r x).isSome then r else r.set x (some .null)

lemma patternVar_view (n : AstNode) : (Position.view .skeleton n).patternVar = n.patternVar := by
  cases n <;> rfl

variable {paths : List NodeHandle}

lemma scanVar_congr {a b : QueryAstArena} {sites : Set Site} (hview : SameView sites a b)
    (hpaths : ∀ path ∈ paths, (.skeleton, path) ∈ sites) : scanVar a paths = scanVar b paths := by
  match paths with
  | [] | _ :: _ :: _ => rfl
  | [path] =>
    have hnode := congrArg (Option.bind · AstNode.patternVar)
      (hview (.skeleton, path) (hpaths path (mem_singleton_self path)))
    simpa only [scanVar, bind_map, Function.comp_def, patternVar_view] using hnode

lemma Row.le_set {V : Type} {r : Row V} {x : String} (hx : r x = none) (v : V) : r ≤ r.set x v := by
  intro y w hw
  by_cases h : y = x
  · subst h
    simp [hx] at hw
  · simp [Row.set, h, hw]

lemma Row.set_self {V : Type} (r : Row V) (x : String) (v : V) : r.set x v x = some v := if_pos rfl

lemma le_of_mem_scanRows {ids : Multiset ℕ} {x : String} {r r' : Row (Option Value)} (h : r' ∈ scanRows ids x r) :
    r ≤ r' ∧ (r' x).isSome := by
  unfold scanRows at h
  split at h
  · rename_i i hx
    rw [Multiset.mem_singleton] at h
    subst h
    exact ⟨le_refl _, by simp [hx]⟩
  · cases h
  · rename_i hx
    obtain ⟨i, -, rfl⟩ := Multiset.mem_map.mp h
    exact ⟨Row.le_set hx _, by simp [Row.set_self]⟩

lemma le_scanAbsent (x : String) (r : Row (Option Value)) : r ≤ scanAbsent x r := by
  unfold scanAbsent
  split
  · exact le_refl r
  · rename_i hx
    exact Row.le_set (by simpa using hx) _

lemma patternVar_of_scanVar {arena : QueryAstArena} {x y : String} {labels predicates}
    (hvar : scanVar arena paths = some y) {path k : NodeHandle} (hpath : path ∈ paths)
    (hk : k ∈ patternNodes arena path) (hn : arena.nodes[k]? = some (.nodePattern (some x) labels predicates)) :
    x = y := by
  match paths with
  | [] | _ :: _ :: _ => cases hvar
  | [path'] =>
    rw [mem_singleton] at hpath
    subst hpath
    obtain ⟨n, hnode, hy⟩ := Option.bind_eq_some_iff.mp hvar
    cases n with
    | nodePattern var labels' predicates' =>
      rw [patternNodes_leaf hnode (by simp), Set.union_empty, Set.mem_singleton_iff] at hk
      subst hk
      cases hnode.symm.trans hn
      exact Option.some.inj hy
    | _ => cases hy

lemma isTrue_and_iff (env : Environment) (v w : Option Value) :
    (v.bind fun v => w.bind fun w => Value.binary env .and v w) = some (.bool true) ↔
      v = some (.bool true) ∧ w = some (.bool true) := by
  constructor
  · intro h
    obtain ⟨v', hv, hw⟩ := Option.bind_eq_some_iff.mp h
    obtain ⟨w', hw, hand⟩ := Option.bind_eq_some_iff.mp hw
    obtain ⟨t, u, ht, hu, htrue⟩ := Value.logical_eq_some hand
    rw [hv, hw, ← Value.ofTruth_of_truth ht, ← Value.ofTruth_of_truth hu]
    rcases t with _ | _ | _ <;> rcases u with _ | _ | _ <;> first | exact ⟨rfl, rfl⟩ | cases htrue
  · rintro ⟨rfl, rfl⟩
    rfl

/-- The nodes are `ids`; CASE, comprehensions and subqueries have no value, and a clause of any other shape than
one node pattern has no match. -/
def Environment.nodeScan (env : Environment) (ids : Multiset ℕ) : Interpretation (Option Value) where
  null := some .null
  literal := Value.ofLiteral env
  parameter p := some (env.param p)
  property v p := v.bind (env.property · p)
  unary op v := v.bind (Value.unary op)
  binary op v w := v.bind fun v => w.bind fun w => Value.binary env op v w
  call name vs := (vs.mapM id).bind (env.call name)
  list vs := (vs.mapM id).map .list
  isTrue v := v = some (.bool true)
  block _ _ _ := none
  candidates arena paths r := ((scanVar arena paths).map fun x => scanRows ids x r).getD 0
  absent arena paths r := ((scanVar arena paths).map fun x => scanAbsent x r).getD r
  isTrue_and := isTrue_and_iff env
  isTrue_true := rfl
  le_candidates arena paths r r' h := by
    cases hvar : scanVar arena paths with
    | none => simp [hvar] at h
    | some x =>
      simp only [hvar, map_some, getD_some] at h
      exact (le_of_mem_scanRows h).1
  le_absent arena paths r := by
    cases scanVar arena paths with
    | none => exact le_refl r
    | some x => exact le_scanAbsent x r
  binds arena paths r r' h path hpath k hk x labels predicates hn := by
    cases hvar : scanVar arena paths with
    | none => simp [hvar] at h
    | some y =>
      simp only [hvar, map_some, getD_some] at h
      rw [patternVar_of_scanVar hvar hpath hk hn]
      exact (le_of_mem_scanRows h).2
  block_congr _ _ _ _ _ _ _ := rfl
  candidates_congr a b sites paths _ hview hpaths := by
    rw [scanVar_congr hview hpaths]
  absent_congr a b sites paths _ hview hpaths := by
    rw [scanVar_congr hview hpaths]

end Voyager
