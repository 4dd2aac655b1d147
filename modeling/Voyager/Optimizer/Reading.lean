import Voyager.Optimizer.Occurrences

/-! Which nodes a part of a statement reads, and how much of them. -/

namespace Voyager

open AstOptimizer (present)

namespace AstNode

def operands : AstNode → List NodeHandle
  | edgePattern _ _ _ _ _ predicates _ => predicates
  | patternComprehension _ whereFilter projection => whereFilter.toList ++ [projection]
  | withClause _ projections orderBy _ _ _ => projections.map ProjectionItem.expression ++ orderBy.map Prod.fst
  | pathChain .. | existsSubquery _ | countSubquery _ | matchClause .. | createClause _ | mergeClause ..
  | setClause _ | queryStatement .. => []
  | n => n.children

def bodies : AstNode → List NodeHandle
  | edgePattern _ _ _ _ _ _ targetNode => present targetNode
  | pathChain _ _ startNode edges => startNode :: edges
  | patternComprehension path _ _ => [path]
  | withClause _ _ _ _ _ condition => condition.toList
  | n@(existsSubquery _) | n@(countSubquery _) | n@(matchClause ..) | n@(createClause _) | n@(mergeClause ..)
  | n@(setClause _) | n@(queryStatement ..) => n.children
  | _ => []

end AstNode

inductive Position
  | expression | skeleton | whole
deriving DecidableEq

namespace Position

def view : Position → AstNode → AstNode
  | expression, .nodePattern var _ _ => .nodePattern var none []
  | expression, .edgePattern var _ _ _ _ _ _ => .edgePattern var none .outgoing none none [] NodeHandle.null
  | skeleton, .nodePattern var labels _ => .nodePattern var labels []
  | _, n => n

def within : Position → Position
  | skeleton => skeleton
  | _ => whole

def parts (p : Position) (n : AstNode) : List (Position × NodeHandle) :=
  n.bodies.map (p.within, ·) ++ n.operands.map (expression, ·)

def children (p : Position) (n : AstNode) : List (Position × NodeHandle) := p.parts (p.view n)

end Position

abbrev Site := Position × NodeHandle

variable (arena : QueryAstArena)

def Closed (sites : Set Site) : Prop :=
  ∀ q ∈ sites, ∀ n, arena.nodes[q.2]? = some n → ∀ q' ∈ q.1.children n, q' ∈ sites

def SameView (sites : Set Site) (a b : QueryAstArena) : Prop :=
  ∀ q ∈ sites, (a.nodes[q.2]?).map q.1.view = (b.nodes[q.2]?).map q.1.view

def Reaches : Site → Site → Prop :=
  Relation.ReflTransGen fun q q' => ∃ n, arena.nodes[q.2]? = some n ∧ q' ∈ q.1.children n

variable (roots : Set Site)

def reached : Set Site := {q | ∃ root ∈ roots, Reaches arena root q}

section

variable {a b c : QueryAstArena} {sites more : Set Site}

lemma closed_reached : Closed a (reached a roots) := by
  rintro q ⟨root, hroot, hq⟩ n hn q' hq'
  exact ⟨root, hroot, hq.tail ⟨n, hn, hq'⟩⟩

lemma subset_reached : roots ⊆ reached a roots := fun q hq => ⟨q, hq, .refl⟩

lemma reached_subset {roots : Set Site} (hclosed : Closed a sites) (hroots : roots ⊆ sites) :
    reached a roots ⊆ sites := by
  rintro q ⟨root, hroot, hq⟩
  induction hq with
  | refl => exact hroots hroot
  | tail _ hstep ih =>
    obtain ⟨n, hn, hq'⟩ := hstep
    exact hclosed _ ih n hn _ hq'

lemma SameView.refl (sites : Set Site) (a : QueryAstArena) : SameView sites a a := fun _ _ => rfl

lemma SameView.symm (h : SameView sites a b) : SameView sites b a := fun q hq => (h q hq).symm

lemma SameView.trans (hab : SameView sites a b) (hbc : SameView sites b c) : SameView sites a c :=
  fun q hq => (hab q hq).trans (hbc q hq)

lemma SameView.mono (h : SameView sites a b) (hsub : more ⊆ sites) : SameView more a b :=
  fun q hq => h q (hsub hq)

variable {n : AstNode} {k : NodeHandle} {p : Position}

lemma SameView.node (h : SameView sites a b) (hk : (p, k) ∈ sites) (hn : a.nodes[k]? = some n) :
    ∃ n', b.nodes[k]? = some n' ∧ p.view n' = p.view n := by
  have hview := h (p, k) hk
  simp only [hn, Option.map_some] at hview
  obtain ⟨n', hn', hsame⟩ := Option.map_eq_some_iff.mp hview.symm
  exact ⟨n', hn', hsame⟩

lemma Closed.congr (h : Closed a sites) (hview : SameView sites a b) : Closed b sites := by
  rintro ⟨p, k⟩ hk n hn q' hq'
  obtain ⟨n', hn', hsame⟩ := hview.symm.node hk hn
  rw [Position.children, ← hsame] at hq'
  exact h (p, k) hk n' hn' q' hq'

variable {k' : NodeHandle} (h : Closed a sites) (hk : (p, k) ∈ sites) (hn : a.nodes[k]? = some n)

include h hk hn

lemma Closed.operand (hk' : k' ∈ (p.view n).operands) : (.expression, k') ∈ sites :=
  h (p, k) hk n hn _ (List.mem_append_right _ (List.mem_map_of_mem hk'))

lemma Closed.body (hk' : k' ∈ (p.view n).bodies) : (p.within, k') ∈ sites :=
  h (p, k) hk n hn _ (List.mem_append_left _ (List.mem_map_of_mem hk'))

end

end Voyager
