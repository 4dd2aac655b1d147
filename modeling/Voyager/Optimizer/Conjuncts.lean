import Voyager.Optimizer.Denotation
import Voyager.Optimizer.Pushdown

/-! The conjuncts of a condition, and those whose truth is settled by one variable. -/

namespace Voyager.AstOptimizer

open Lib (except_bind_ok)
open QueryAstArena List Option

variable {V : Type} {I : Interpretation V} {a : QueryAstArena} {sites : Set Site} {r r' : Row V} {h : NodeHandle}
  {fuel : ℕ}

lemma get_bind_ok {β : Type} {f : AstNode → Except Error β} {v : β} (hok : (a.get h >>= f) = .ok v) :
    ∃ n, a.nodes[h]? = some n ∧ f n = .ok v := by
  obtain ⟨n, hn, hf⟩ := except_bind_ok.mp hok
  exact ⟨n, get_eq_ok.mp hn, hf⟩

lemma collectConjuncts_spec {conjuncts : List NodeHandle} (hok : collectConjuncts a fuel h = .ok conjuncts)
    (hclosed : Closed a sites) (hh : (.expression, h) ∈ sites) :
    (∀ c ∈ conjuncts, (.expression, c) ∈ sites) ∧
      ∀ r, I.Holds a r h ↔ ∀ c ∈ conjuncts, I.Holds a r c := by
  induction fuel generalizing h conjuncts with
  | zero => cases hok
  | succ fuel ih =>
    obtain ⟨n, hn, hok⟩ := get_bind_ok hok
    split at hok
    · rename_i left right
      obtain ⟨ls, hls, hok⟩ := except_bind_ok.mp hok
      obtain ⟨rs, hrs, hok⟩ := except_bind_ok.mp hok
      obtain rfl := Except.ok.inj hok
      obtain ⟨hlsites, hl⟩ := ih hls (hclosed.operand hh hn mem_cons_self)
      obtain ⟨hrsites, hr⟩ := ih hrs (hclosed.operand hh hn (mem_cons_of_mem _ mem_cons_self))
      refine ⟨fun c hc => (mem_append.mp hc).elim (hlsites c) (hrsites c), fun r => ?_⟩
      rw [Interpretation.holds_and hn, hl, hr, forall_mem_append]
    · rename_i rootPredicate
      obtain ⟨hsites, hall⟩ := ih hok (hclosed.operand hh hn mem_cons_self)
      exact ⟨hsites, fun r => (Interpretation.holds_where hn).trans (hall r)⟩
    · obtain rfl := Except.ok.inj hok
      exact ⟨by simp, fun r => by simp [Interpretation.holds_true hn]⟩
    · obtain rfl := Except.ok.inj hok
      exact ⟨by simpa using hh, by simp⟩

lemma allM_ok_true {f : NodeHandle → Except Error Bool} {hs : List NodeHandle} (hok : hs.allM f = .ok true) :
    ∀ k ∈ hs, f k = .ok true := by
  induction hs with
  | nil => simp
  | cons k hs ih =>
    obtain ⟨b, hb, hok⟩ := except_bind_ok.mp hok
    cases b with
    | false => cases hok
    | true => exact forall_mem_cons.mpr ⟨hb, ih hok⟩

lemma denotes_of_isConstantExpression {v : V} (hv : I.Denotes a r h v)
    (hok : isConstantExpression a fuel h = .ok true) : I.Denotes a r' h v := by
  induction fuel generalizing h v with
  | zero => cases hok
  | succ fuel ih =>
    obtain ⟨n, hn, hok⟩ := get_bind_ok hok
    cases hv with
    | literal hm => exact .literal hm
    | parameter hm => exact .parameter hm
    | unary hm hv =>
      cases hn.symm.trans hm
      exact .unary hn (ih hv hok)
    | call hm hlength hvs =>
      cases hn.symm.trans hm
      exact .call hn hlength fun p hp => ih (hvs p hp) (allM_ok_true hok _ (of_mem_zip hp).1)
    | list hm hlength hvs =>
      cases hn.symm.trans hm
      exact .list hn hlength fun p hp => ih (hvs p hp) (allM_ok_true hok _ (of_mem_zip hp).1)
    | block hm hblock =>
      cases hn.symm.trans hm
      cases n with
      | caseExpression | listComprehension | patternComprehension | existsSubquery | countSubquery => cases hok
      | _ => cases hblock
    | _ hm =>
      cases hn.symm.trans hm
      cases hok

variable {x : String}

lemma denotes_of_resolveVariableName {v : V} (hok : resolveVariableName a h = .ok (some x)) (hx : r x = r' x)
    (hv : I.Denotes a r h v) : I.Denotes a r' h v := by
  obtain ⟨n, hn, hok⟩ := get_bind_ok hok
  cases hv with
  | identifier hm =>
    cases hn.symm.trans hm
    cases hok
    rw [hx]
    exact .identifier hn
  | nodePattern hm =>
    cases hn.symm.trans hm
    cases hok
    rw [hx]
    exact .nodePattern hn
  | block hm hblock =>
    cases hn.symm.trans hm
    cases n with
    | caseExpression | listComprehension | patternComprehension | existsSubquery | countSubquery => cases hok
    | _ => cases hblock
  | _ hm =>
    cases hn.symm.trans hm
    cases hok

variable {other target : NodeHandle}

lemma propertySide_ok {side : AstNode} (hok : propertySide a fuel side other = .ok (some target)) :
    ∃ property, side = .propertyAccess target property ∧ isConstantExpression a fuel other = .ok true := by
  cases side with
  | propertyAccess target' property =>
    obtain ⟨constant, hconstant, hok⟩ := except_bind_ok.mp hok
    cases constant with
    | false => cases hok
    | true =>
      obtain rfl := Option.some.inj (Except.ok.inj hok)
      exact ⟨property, rfl, hconstant⟩
  | _ => cases hok

lemma denotes_of_propertySide {side : AstNode} (hside : propertySide a fuel side other = .ok (some target))
    (hn : a.nodes[h]? = some side) (htarget : resolveVariableName a target = .ok (some x)) (hx : r x = r' x) {v : V}
    (hv : I.Denotes a r h v) : I.Denotes a r' h v := by
  obtain ⟨property, rfl, -⟩ := propertySide_ok hside
  cases hv with
  | property hm hv =>
    cases hn.symm.trans hm
    exact .property hn (denotes_of_resolveVariableName htarget hx hv)
  | block hm hblock =>
    cases hn.symm.trans hm
    cases hblock
  | _ hm => cases hn.symm.trans hm

lemma denotes_equality {left right : NodeHandle} (hn : a.nodes[h]? = some (.binaryExpression left .eq right))
    (hleft : ∀ v, I.Denotes a r left v → I.Denotes a r' left v)
    (hright : ∀ v, I.Denotes a r right v → I.Denotes a r' right v) (hh : I.Holds a r h) : I.Holds a r' h := by
  obtain ⟨v, hv, htrue⟩ := hh
  cases hv with
  | binary hm hl hr =>
    cases hn.symm.trans hm
    exact ⟨_, .binary hn (hleft _ hl) (hright _ hr), htrue⟩
  | block hm hblock =>
    cases hn.symm.trans hm
    cases hblock
  | _ hm => cases hn.symm.trans hm

variable (hok : extractSingleNodeEqualityVar a fuel h = .ok (some x))

include hok

lemma holds_of_extract (hx : r x = r' x) (hh : I.Holds a r h) : I.Holds a r' h := by
  obtain ⟨n, hn, hok⟩ := get_bind_ok hok
  split at hok
  · rename_i left right
    obtain ⟨leftNode, hl, hok⟩ := get_bind_ok hok
    obtain ⟨rightNode, hr, hok⟩ := get_bind_ok hok
    obtain ⟨side, hside, hok⟩ := except_bind_ok.mp hok
    cases side with
    | some target =>
      obtain ⟨-, -, hconstant⟩ := propertySide_ok hside
      exact denotes_equality hn (fun _ => denotes_of_propertySide hside hl hok hx)
        (fun _ hv => denotes_of_isConstantExpression hv hconstant) hh
    | none =>
      obtain ⟨side, hside, hok⟩ := except_bind_ok.mp hok
      cases side with
      | some target =>
        obtain ⟨-, -, hconstant⟩ := propertySide_ok hside
        exact denotes_equality hn (fun _ hv => denotes_of_isConstantExpression hv hconstant)
          (fun _ => denotes_of_propertySide hside hr hok hx) hh
      | none => cases hok
  · cases hok

lemma holds_extract_iff (hle : r ≤ r') (hx : (r x).isSome) : I.Holds a r' h ↔ I.Holds a r h := by
  obtain ⟨v, hv⟩ := isSome_iff_exists.mp hx
  have hsame : r x = r' x := by rw [hv, hle x v hv]
  exact ⟨holds_of_extract hok hsame.symm, holds_of_extract hok hsame⟩

end Voyager.AstOptimizer
