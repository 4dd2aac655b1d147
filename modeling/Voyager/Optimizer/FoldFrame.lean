import Voyager.Optimizer.FoldLaws
import Voyager.Optimizer.Layout
import Voyager.Optimizer.Reading

/-! Folding writes only patterns and clauses that it reaches. -/

namespace Voyager

open List Option QueryAstArena

open AstOptimizer (matchesOf present)
open Lib (bind_ok)

/-- What folding keeps of a node: all but the predicates of a pattern and the expressions of a clause. -/
def AstNode.frame : AstNode → Option AstNode
  | .nodePattern var labels _ => some (.nodePattern var labels [])
  | .edgePattern var labels direction minHops maxHops _ target =>
    some (.edgePattern var labels direction minHops maxHops [] target)
  | .whereClause _ | .setItem .. | .withClause .. | .returnClause .. | .loadCsvClause .. | .unwindClause ..
  | .letClause .. | .filterClause _ => none
  | n => some n

variable {h : NodeHandle}

section

variable {n n' : AstNode}

lemma view_of_frame (h : n'.frame = n.frame) (hpattern : n.isPattern = true) :
    Position.view .expression n' = Position.view .expression n := by
  cases n with
  | nodePattern | edgePattern =>
    cases n' <;> cases h
    rfl
  | _ => cases hpattern

lemma matchesOf_of_frame (h : n'.frame = n.frame) : matchesOf n' = matchesOf n := by
  have hframe : ∀ n, matchesOf n = (n.frame.map matchesOf).getD [] := by
    intro n
    cases n <;> rfl
  rw [hframe, h, ← hframe]

lemma isPattern_of_view (h : Position.view .expression n' = Position.view .expression n) :
    n'.isPattern = n.isPattern := by
  have hview : ∀ n, (Position.view .expression n).isPattern = n.isPattern := by
    intro n
    cases n <;> rfl
  rw [← hview n', h, hview]

end

structure Inside (sites : Set Site) (n : AstNode) : Prop where
  bodies : ∀ k ∈ n.bodies, (.whole, k) ∈ sites
  operands : ∀ k ∈ n.operands, (.expression, k) ∈ sites

structure Contained (sites : Set Site) (arena : QueryAstArena) : Prop where
  inside : ∀ (h : NodeHandle) (n : AstNode), arena.nodes[h]? = some n →
    (.whole, h) ∈ sites ∨ (.expression, h) ∈ sites ∧ n.isPattern = false → Inside sites n
  fresh : ∀ h, arena.len ≤ h → (.whole, h) ∈ sites ∧ (.expression, h) ∈ sites

lemma contained_univ (arena : QueryAstArena) : Contained Set.univ arena :=
  ⟨fun _ _ _ _ => ⟨fun _ _ => trivial, fun _ _ => trivial⟩, fun _ _ => ⟨trivial, trivial⟩⟩

structure Rewrote (sites : Set Site) (a b : QueryAstArena) : Prop where
  len : a.len ≤ b.len
  statement : SameMatches a b
  kept : ∀ (k : NodeHandle) (n : AstNode), a.nodes[k]? = some n → b.nodes[k]? = some n ∨
    (.whole, k) ∈ sites ∧ ∃ n', b.nodes[k]? = some n' ∧
      (n.isPattern = true → Position.view .expression n' = Position.view .expression n)

section

variable {sites : Set Site} {a b c : QueryAstArena}

lemma Rewrote.refl (a : QueryAstArena) : Rewrote sites a a :=
  ⟨le_rfl, fun _ n hn => ⟨n, hn, rfl⟩, fun _ _ hn => .inl hn⟩

lemma Rewrote.trans (hab : Rewrote sites a b) (hbc : Rewrote sites b c) : Rewrote sites a c where
  len := hab.len.trans hbc.len
  statement := hab.statement.trans hbc.statement
  kept k n hn := by
    rcases hab.kept k n hn with hn' | ⟨hk, n', hn', hview⟩
    · exact hbc.kept k n hn'
    · refine .inr ⟨hk, ?_⟩
      rcases hbc.kept k n' hn' with hn'' | ⟨-, n'', hn'', hview'⟩
      · exact ⟨n', hn'', hview⟩
      · refine ⟨n'', hn'', fun hpattern => ?_⟩
        rw [hview' ((isPattern_of_view (hview hpattern)).trans hpattern), hview hpattern]

end

def Stays {α : Type} (sites : Set Site) (m : OptM α) (post : α → Prop) : Prop :=
  ∀ a v b, Contained sites a → m a = .ok (v, b) → Contained sites b ∧ Rewrote sites a b ∧ post v

namespace Stays

open AstOptimizer

variable {α β : Type} {sites : Set Site} {m : OptM α} {f : α → OptM β} {p : α → Prop} {q : β → Prop}

lemma pure {v : α} (hv : p v) : Stays sites (Pure.pure v) p := by
  intro a w b ha hok
  cases hok
  exact ⟨ha, .refl a, hv⟩

lemma throw (e : Error) : Stays sites (MonadExcept.throw e : OptM α) p := by
  intro a w b ha hok
  cases hok

lemma bind (hm : Stays sites m p) (hf : ∀ v, p v → Stays sites (f v) q) : Stays sites (m >>= f) q := by
  intro a w c ha hok
  obtain ⟨v, b, hfirst, hrest⟩ := bind_ok.mp hok
  obtain ⟨hb, hab, hv⟩ := hm a v b ha hfirst
  obtain ⟨hc, hbc, hw⟩ := hf v hv b w c hb hrest
  exact ⟨hc, hab.trans hbc, hw⟩

lemma getWhole_bind {f : AstNode → OptM β} (hh : (.whole, h) ∈ sites)
    (hf : ∀ n, Inside sites n → Stays sites (f n) q) : Stays sites (getNode h >>= f) q := by
  intro a w b ha hok
  obtain ⟨n, a', hget, hrest⟩ := bind_ok.mp hok
  obtain ⟨hn, rfl⟩ := getNode_ok hget
  exact hf n (ha.inside h n hn (.inl hh)) a' w b ha hrest

lemma getExpression_bind {f : AstNode → OptM β} (hh : (.expression, h) ∈ sites)
    (hf : ∀ n, (n.isPattern = false → Inside sites n) → Stays sites (f n) q) :
    Stays sites (getNode h >>= f) q := by
  intro a w b ha hok
  obtain ⟨n, a', hget, hrest⟩ := bind_ok.mp hok
  obtain ⟨hn, rfl⟩ := getNode_ok hget
  exact hf n (fun hpattern => ha.inside h n hn (.inr ⟨hh, hpattern⟩)) a' w b ha hrest

lemma alloc {n : AstNode} (hn : Inside sites n) :
    Stays sites (AstOptimizer.alloc n) fun h => (.expression, h) ∈ sites := by
  intro a h b ha hok
  cases hok
  refine ⟨⟨fun k n' hn' hk => ?_, fun k hk => ha.fresh k ?_⟩, ⟨?_, fun k n' hn' => ⟨n', ?_, rfl⟩, fun k n' hn' => ?_⟩, (ha.fresh _ le_rfl).2⟩
  · rw [getElem?_append] at hn'
    split at hn'
    · exact ha.inside k n' hn' hk
    · obtain ⟨hlt, rfl⟩ := List.getElem?_eq_some_iff.mp hn'
      simpa using hn
  · simp only [len, length_append] at hk
    unfold len
    omega
  · simp [len]
  · exact (a.grows_alloc n).node hn'
  · exact .inl ((a.grows_alloc n).node hn')

lemma modifyNode {g : AstNode → AstNode} (hh : (.whole, h) ∈ sites)
    (hinside : ∀ n, Inside sites n → Inside sites (g n)) (hframe : ∀ n, (g n).frame = n.frame) :
    Stays sites (AstOptimizer.modifyNode h g) fun _ => True := by
  intro a u b ha hok
  obtain ⟨n, hn, rfl⟩ := modifyNode_ok hok
  have hself := getElem?_set_self (a := g n) (List.getElem?_eq_some_iff.mp hn).1
  refine ⟨⟨fun k n' hn' hk => ?_, fun k hk => ha.fresh k (by simpa [len] using hk)⟩,
    ⟨by simp [len], sameMatches_set hn (matchesOf_of_frame (hframe n)), fun k n' hn' => ?_⟩, trivial⟩
  · by_cases heq : h = k
    · subst heq
      cases hself.symm.trans hn'
      exact hinside n (ha.inside h n hn (.inl hh))
    · rw [getElem?_set_ne heq] at hn'
      exact ha.inside k n' hn' hk
  · by_cases heq : h = k
    · subst heq
      cases hn.symm.trans hn'
      exact .inr ⟨hh, g n, hself, view_of_frame (hframe n)⟩
    · exact .inl ((getElem?_set_ne heq).trans hn')

lemma forM {ι : Type} {body : ι → OptM PUnit} {is : List ι} (hbody : ∀ i ∈ is, Stays sites (body i) fun _ => True) :
    Stays sites (is.forM body) fun _ => True := by
  induction is with
  | nil => exact pure trivial
  | cons i is ih =>
    obtain ⟨hi, his⟩ := forall_mem_cons.mp hbody
    exact hi.bind fun _ _ => ih his

lemma mapM {ι κ : Type} {body : ι → OptM κ} {r : κ → Prop} {is : List ι} (hbody : ∀ i ∈ is, Stays sites (body i) r) :
    Stays sites (is.mapM body) fun ks => ∀ k ∈ ks, r k := by
  induction is with
  | nil => exact pure (by simp)
  | cons i is ih =>
    obtain ⟨hi, his⟩ := forall_mem_cons.mp hbody
    rw [mapM_cons]
    exact hi.bind fun k hk => (ih his).bind fun ks hks => pure (forall_mem_cons.mpr ⟨hk, hks⟩)

end Stays

end Voyager
