import Voyager.Optimizer.Fold
import Voyager.Optimizer.Semantics

/-! The laws of constant folding, for every way to evaluate expressions that computes operators from the values
of their operands. -/

namespace Voyager

open QueryAstArena Option Value

variable {i k : ℤ}

lemma checked_eq_some : checked i = some k ↔ inI64 i = true ∧ k = i := by
  unfold checked
  by_cases h : inI64 i = true
  · simp [h, eq_comm]
  · simp [h]

lemma checked_self (h : checked i = some k) : checked k = some k := by
  obtain ⟨hi, rfl⟩ := checked_eq_some.mp h
  exact checked_eq_some.mpr ⟨hi, rfl⟩

lemma inI64_iff : inI64 i = true ↔ -2 ^ 63 ≤ i ∧ i < 2 ^ 63 := by
  simp [inI64]

lemma inI64_tmod (hi : inI64 i = true) (j : ℤ) : inI64 (i.tmod j) = true := by
  rw [inI64_iff] at hi ⊢
  have habs : (i.tmod j).natAbs ≤ i.natAbs := by
    rw [Int.natAbs_tmod]
    exact Nat.mod_le _ _
  rcases le_or_gt 0 i with h | h
  · have := Int.tmod_nonneg j h
    omega
  · have := Int.tmod_nonneg j (Int.neg_nonneg.mpr h.le)
    rw [Int.neg_tmod] at this
    omega

namespace AstOptimizer

section

variable {env : Environment} {op : BinaryOp} {a b v : Value} {lit : LiteralValue}

lemma evalInts_sound {j : ℤ} (hi : inI64 i = true) (hlit : evalInts i op j = some lit)
    (hv : Value.binary env op (.int i) (.int j) = some v) : Value.ofLiteral env lit = some v := by
  cases op with
  | add | sub | mul =>
    obtain ⟨k, hk, rfl⟩ := map_eq_some_iff.mp hlit
    obtain ⟨k', hk', rfl⟩ := map_eq_some_iff.mp hv
    cases hk.symm.trans hk'
    simp [Value.ofLiteral, checked_self hk]
  | div | mod =>
    have hmod : checked (i.tmod j) = some (i.tmod j) := checked_eq_some.mpr ⟨inI64_tmod hi j, rfl⟩
    simp only [evalInts, Value.binary, arithmetic, quotient] at hlit hv
    split at hlit
    · cases hlit
    · rename_i hj
      obtain ⟨k, hk, rfl⟩ := map_eq_some_iff.mp hlit
      obtain ⟨-, rfl⟩ := checked_eq_some.mp hk
      simpa [hj, hk, hmod, Value.ofLiteral] using hv
  | eq | neq | lt | lte | gt | gte =>
    cases hlit
    exact hv
  | _ => cases hlit

lemma evalBools_sound {x y : Bool} (hlit : evalBools x op y = some lit)
    (hv : Value.binary env op (.bool x) (.bool y) = some v) : Value.ofLiteral env lit = some v := by
  cases op with
  | and | or | xor =>
    cases hlit
    cases x <;> cases y <;> exact hv
  | eq | neq =>
    cases hlit
    exact hv
  | _ => cases hlit

lemma evalStrings_sound {x y : String} (hlit : evalStrings x op y = some lit)
    (hv : Value.binary env op (.string x) (.string y) = some v) : Value.ofLiteral env lit = some v := by
  cases op with
  | add => cases hv
  | concat | eq | neq | contains | startsWith | endsWith =>
    cases hlit
    exact hv
  | _ => cases hlit

lemma evalBinaryLiterals_sound {l r : LiteralValue} (ha : Value.ofLiteral env l = some a)
    (hb : Value.ofLiteral env r = some b) (hv : Value.binary env op a b = some v)
    (hlit : evalBinaryLiterals l op r = some lit) : Value.ofLiteral env lit = some v := by
  cases l with
  | int64 i =>
    cases r with
    | int64 j =>
      obtain ⟨i', hi, rfl⟩ := map_eq_some_iff.mp ha
      obtain ⟨j', hj, rfl⟩ := map_eq_some_iff.mp hb
      obtain ⟨hi, rfl⟩ := checked_eq_some.mp hi
      obtain ⟨-, rfl⟩ := checked_eq_some.mp hj
      exact evalInts_sound hi hlit hv
    | float64 => cases hb
    | _ => cases hlit
  | bool x =>
    cases r with
    | bool y =>
      cases ha
      cases hb
      exact evalBools_sound hlit hv
    | _ => cases hlit
  | string x =>
    cases r with
    | string y =>
      cases ha
      cases hb
      exact evalStrings_sound hlit hv
    | _ => cases hlit
  | float64 => cases ha
  | _ => cases hlit

lemma logical_const {f : Option Bool → Option Bool → Option Bool} {c : Bool}
    (h : logical f (.bool c) b = some v) : ∃ t, b.truth = some t ∧ v = ofTruth (f (some c) t) := by
  obtain ⟨s, t, hs, ht, rfl⟩ := logical_eq_some h
  cases hs
  exact ⟨t, ht, rfl⟩

lemma kleeneAnd_true (t : Option Bool) : kleeneAnd (some true) t = t := by
  rcases t with _ | _ | _ <;> rfl

lemma kleeneAnd_comm (s t : Option Bool) : kleeneAnd s t = kleeneAnd t s := by
  rcases s with _ | _ | _ <;> rcases t with _ | _ | _ <;> rfl

lemma kleeneOr_false (t : Option Bool) : kleeneOr (some false) t = t := by
  rcases t with _ | _ | _ <;> rfl

lemma kleeneOr_comm (s t : Option Bool) : kleeneOr s t = kleeneOr t s := by
  rcases s with _ | _ | _ <;> rcases t with _ | _ | _ <;> rfl

lemma logical_comm {f : Option Bool → Option Bool → Option Bool} (hf : ∀ s t, f s t = f t s) (a b : Value) :
    logical f a b = logical f b a := by
  unfold logical
  cases a.truth <;> cases b.truth <;> simp [hf]

variable {f : ℤ → ℤ → Option ℤ}

lemma arithmetic_right_unit {c : ℤ} (hf : ∀ i k, f i c = some k → k = i)
    (h : arithmetic f a (.int c) = some v) : v = a := by
  cases a with
  | int i =>
    obtain ⟨k, hk, rfl⟩ := map_eq_some_iff.mp h
    rw [hf i k hk]
  | null =>
    cases h
    rfl
  | _ => cases h

lemma arithmetic_comm (hf : ∀ i j, f i j = f j i) (a b : Value) : arithmetic f a b = arithmetic f b a := by
  cases a <;> cases b <;> simp [arithmetic, hf]

lemma and_false_left (h : Value.binary env .and (.bool false) b = some v) : v = .bool false := by
  obtain ⟨t, -, rfl⟩ := logical_const h
  rfl

lemma and_true_left (h : Value.binary env .and (.bool true) b = some v) : v = b := by
  obtain ⟨t, ht, rfl⟩ := logical_const h
  rw [kleeneAnd_true, ofTruth_of_truth ht]

lemma or_true_left (h : Value.binary env .or (.bool true) b = some v) : v = .bool true := by
  obtain ⟨t, -, rfl⟩ := logical_const h
  rfl

lemma or_false_left (h : Value.binary env .or (.bool false) b = some v) : v = b := by
  obtain ⟨t, ht, rfl⟩ := logical_const h
  rw [kleeneOr_false, ofTruth_of_truth ht]

lemma binary_comm (hop : op = .and ∨ op = .or ∨ op = .add ∨ op = .mul) (a b : Value) :
    Value.binary env op a b = Value.binary env op b a := by
  rcases hop with rfl | rfl | rfl | rfl
  · exact logical_comm kleeneAnd_comm a b
  · exact logical_comm kleeneOr_comm a b
  · exact arithmetic_comm (fun i j => by rw [add_comm]) a b
  · exact arithmetic_comm (fun i j => by rw [mul_comm]) a b

lemma add_zero_right (h : Value.binary env .add a (.int 0) = some v) : v = a :=
  arithmetic_right_unit (fun i k hk => by simpa using (checked_eq_some.mp hk).2) h

lemma sub_zero_right (h : Value.binary env .sub a (.int 0) = some v) : v = a :=
  arithmetic_right_unit (fun i k hk => by simpa using (checked_eq_some.mp hk).2) h

lemma mul_one_right (h : Value.binary env .mul a (.int 1) = some v) : v = a :=
  arithmetic_right_unit (fun i k hk => by simpa using (checked_eq_some.mp hk).2) h

lemma div_one_right (h : Value.binary env .div a (.int 1) = some v) : v = a := by
  refine arithmetic_right_unit (fun i k hk => ?_) h
  simp only [quotient, one_ne_zero, if_false, Int.tdiv_one, map_eq_some_iff] at hk
  obtain ⟨_, -, rfl⟩ := hk
  rfl

variable {x y : Value} {c d e : ℤ}

lemma checked_reassoc {g h : ℤ → ℤ → ℤ} (hassoc : ∀ i, g (g i c) d = g i (h c d)) (he : checked (h c d) = some e)
    (hy : arithmetic (fun i j => checked (g i j)) x (.int c) = some y)
    (hv : arithmetic (fun i j => checked (g i j)) y (.int d) = some v) :
    arithmetic (fun i j => checked (g i j)) x (.int e) = some v := by
  obtain ⟨-, rfl⟩ := checked_eq_some.mp he
  cases x with
  | int i =>
    obtain ⟨k, hk, rfl⟩ := map_eq_some_iff.mp hy
    obtain ⟨-, rfl⟩ := checked_eq_some.mp hk
    rw [← hv, arithmetic, arithmetic, hassoc]
  | null =>
    cases hy
    exact hv
  | _ => cases hy

def combine : BinaryOp → ℤ → ℤ → ℤ
  | .mul => (· * ·)
  | _ => (· + ·)

lemma binary_reassoc (hop : op = .add ∨ op = .sub ∨ op = .mul) (he : checked (combine op c d) = some e)
    (hy : Value.binary env op x (.int c) = some y) (hv : Value.binary env op y (.int d) = some v) :
    Value.binary env op x (.int e) = some v := by
  rcases hop with rfl | rfl | rfl
  · exact checked_reassoc (fun i => add_assoc i c d) he hy hv
  · exact checked_reassoc (fun i => sub_sub i c d) he hy hv
  · exact checked_reassoc (fun i => mul_assoc i c d) he hy hv

lemma not_not_value (ha : Value.unary .not a = some b) (hb : Value.unary .not b = some v) : v = a := by
  cases a with
  | null =>
    cases ha
    cases hb
    rfl
  | bool x =>
    cases ha
    cases hb
    simp [ofTruth]
  | _ => cases ha

lemma neg_neg_value (ha : Value.unary .neg a = some b) (hb : Value.unary .neg b = some v) : v = a := by
  cases a with
  | null =>
    cases ha
    cases hb
    rfl
  | int i =>
    obtain ⟨k, hk, rfl⟩ := map_eq_some_iff.mp ha
    obtain ⟨l, hl, rfl⟩ := map_eq_some_iff.mp hb
    obtain ⟨-, rfl⟩ := checked_eq_some.mp hk
    obtain ⟨-, rfl⟩ := checked_eq_some.mp hl
    rw [neg_neg]
  | _ => cases ha

end

def Returns {α : Type} (P : QueryAstArena → α → Prop) (arena : QueryAstArena) (m : OptM α) : Prop :=
  ∃ v arena', m arena = .ok (v, arena') ∧ arena.Grows arena' ∧ P arena' v

variable {n : AstNode} {h : NodeHandle}

namespace Returns

variable {α β : Type} {P : QueryAstArena → α → Prop} {Q : QueryAstArena → β → Prop} {arena : QueryAstArena}

lemma pure {v : α} (hP : P arena v) : Returns P arena (Pure.pure v) :=
  ⟨v, arena, rfl, .refl arena, hP⟩

lemma alloc {P : QueryAstArena → NodeHandle → Prop} (hP : P (arena.alloc n).2 (arena.alloc n).1) :
    Returns P arena (alloc n) :=
  ⟨_, _, rfl, arena.grows_alloc n, hP⟩

lemma bind {m : OptM α} {f : α → OptM β} (hm : Returns P arena m)
    (hf : ∀ v arena', arena.Grows arena' → P arena' v → Returns Q arena' (f v)) : Returns Q arena (m >>= f) := by
  obtain ⟨v, arena', hok, hgrows, hP⟩ := hm
  obtain ⟨w, arena'', hok', hgrows', hQ⟩ := hf v arena' hgrows hP
  exact ⟨w, arena'', Lib.bind_ok.mpr ⟨v, arena', hok, hok'⟩, hgrows.trans hgrows', hQ⟩

lemma getNode_bind {f : AstNode → OptM α} (hn : arena.nodes[h]? = some n) (hf : Returns P arena (f n)) :
    Returns P arena (getNode h >>= f) := by
  obtain ⟨v, arena', hok, hgrows, hP⟩ := hf
  refine ⟨v, arena', Lib.bind_ok.mpr ⟨n, arena, ?_, hok⟩, hgrows, hP⟩
  exact Lib.bind_ok.mpr ⟨arena, arena, rfl, Lib.lift_ok.mpr ⟨get_eq_ok.mpr hn, rfl⟩⟩

lemma of_eq {m m' : OptM α} (h : m arena = m' arena) (hm : Returns P arena m') : Returns P arena m := by
  rw [Returns, h]
  exact hm

end Returns

section

variable (arena : QueryAstArena) (op : BinaryOp)

/-- What `reassociate` makes of `(l op r) op d`: the operand that it keeps and the constant next to it. -/
inductive Regroups (l r : NodeHandle) (d : ℤ) : NodeHandle → ℤ → Prop
  | right {n : AstNode} {c e : ℤ} (hop : op = .add ∨ op = .sub ∨ op = .mul) (hn : arena.nodes[r]? = some n)
      (hc : intLiteral n = some c) (he : checked (combine op c d) = some e) : Regroups l r d l e
  | left {n : AstNode} {c e : ℤ} (hop : op = .add) (hn : arena.nodes[l]? = some n) (hc : intLiteral n = some c)
      (he : checked (c + d) = some e) : Regroups l r d r e

variable (left right : NodeHandle) (leftNode rightNode : AstNode)

inductive BinaryStep : OptM NodeHandle → Prop
  | literal {l r lit : LiteralValue} (hl : leftNode = .literal l) (hr : rightNode = .literal r)
      (h : evalBinaryLiterals l op r = some lit) : BinaryStep (alloc (.literal lit))
  | law {kept : NodeHandle} (h : identityLaw left right leftNode op rightNode = some kept) : BinaryStep (pure kept)
  | regroup {l r kept : NodeHandle} {d c : ℤ} (hl : leftNode = .binaryExpression l op r)
      (hr : intLiteral rightNode = some d) (h : Regroups arena op l r d kept c)
      (hlaw : identityLaw left right leftNode op rightNode = none) : BinaryStep do
        let newLit ← alloc (.literal (.int64 c))
        alloc (.binaryExpression kept op newLit)
  | same (hlaw : identityLaw left right leftNode op rightNode = none)
      (h : reassociate arena leftNode op rightNode = .ok none) : BinaryStep (alloc (.binaryExpression left op right))
  | missing {l r : NodeHandle} {e : Error} (hl : leftNode = .binaryExpression l op r)
      (h : arena.nodes[l]? = none ∨ arena.nodes[r]? = none) : BinaryStep (throw e)

end

variable {kept : NodeHandle}

section

variable {arena : QueryAstArena} {op : BinaryOp} {leftNode rightNode : AstNode}

lemma reassociate_eq_some {e : ℤ} (h : reassociate arena leftNode op rightNode = .ok (some (kept, e))) :
    ∃ l r d, leftNode = .binaryExpression l op r ∧ intLiteral rightNode = some d ∧
      Regroups arena op l r d kept e := by
  have hpair : ∀ {f : ℤ → Option ℤ} {n : AstNode} {k : NodeHandle},
      ((intLiteral n).bind f).map (fun e => (k, e)) = some (kept, e) →
        k = kept ∧ ∃ c, intLiteral n = some c ∧ f c = some e := by
    intro f n k hres
    obtain ⟨e, he, hpair⟩ := map_eq_some_iff.mp hres
    cases hpair
    exact ⟨rfl, bind_eq_some_iff.mp he⟩
  unfold reassociate at h
  split at h
  case h_1 d l r hright =>
    obtain ⟨n, hn, h⟩ := Lib.except_bind_ok.mp h
    split at h
    · rename_i hsum
      cases h
      obtain ⟨c, hc, he⟩ := bind_eq_some_iff.mp hsum
      exact ⟨_, r, d, rfl, hright, .right (.inl rfl) (get_eq_ok.mp hn) hc he⟩
    · obtain ⟨n', hn', h⟩ := Lib.except_bind_ok.mp h
      obtain ⟨rfl, c, hc, he⟩ := hpair (Except.ok.inj h)
      exact ⟨l, _, d, rfl, hright, .left rfl (get_eq_ok.mp hn') hc he⟩
  case h_2 d l r hright | h_3 d l r hright =>
    obtain ⟨n, hn, h⟩ := Lib.except_bind_ok.mp h
    obtain ⟨rfl, c, hc, he⟩ := hpair (Except.ok.inj h)
    exact ⟨_, r, d, rfl, hright, .right (by simp) (get_eq_ok.mp hn) hc he⟩
  case h_4 => cases h

lemma reassociate_error {e : Error} (h : reassociate arena leftNode op rightNode = .error e) :
    ∃ l r, leftNode = .binaryExpression l op r ∧ (arena.nodes[l]? = none ∨ arena.nodes[r]? = none) := by
  unfold reassociate at h
  split at h
  case h_4 => cases h
  all_goals
    rename_i d l r hright
    refine ⟨l, r, rfl, ?_⟩
    by_contra hnodes
    obtain ⟨⟨m, hm⟩, n, hn⟩ := And.imp ne_none_iff_exists'.mp ne_none_iff_exists'.mp (not_or.mp hnodes)
    rw [get_eq_ok.mpr hn] at h
  · rw [get_eq_ok.mpr hm] at h
    simp only [bind, Except.bind] at h
    split at h <;> cases h
  all_goals cases h

lemma foldBinaryOp_step {left right : NodeHandle} (op : BinaryOp) (hl : arena.nodes[left]? = some leftNode)
    (hr : arena.nodes[right]? = some rightNode) : ∃ m, foldBinaryOp left op right arena = m arena ∧
      BinaryStep arena op left right leftNode rightNode m := by
  have hget : ∀ {h n} (f : AstNode → OptM NodeHandle), arena.nodes[h]? = some n →
      (getNode h >>= f) arena = f n arena := by
    intro h n f hn
    change ((arena.get h >>= fun n => pure (n, arena)) >>= fun p => f p.1 p.2) = _
    rw [get_eq_ok.mpr hn]
    rfl
  rw [foldBinaryOp, hget _ hl, hget _ hr]
  cases hpair : literalPair leftNode op rightNode with
  | some lit =>
    unfold literalPair at hpair
    split at hpair
    · exact ⟨_, rfl, .literal rfl rfl hpair⟩
    · cases hpair
  | none =>
    cases hlaw : identityLaw left right leftNode op rightNode with
    | some kept => exact ⟨_, rfl, .law hlaw⟩
    | none =>
      change ∃ m : OptM NodeHandle, ((reassociate arena leftNode op rightNode >>= fun a => pure (a, arena)) >>= _) =
        m arena ∧ _
      rcases hres : reassociate arena leftNode op rightNode with e | _ | ⟨kept, c⟩
      · obtain ⟨l, r, hnode, hmissing⟩ := reassociate_error hres
        exact ⟨throw e, rfl, .missing hnode hmissing⟩
      · exact ⟨_, rfl, .same hlaw hres⟩
      · obtain ⟨l, r, d, hnode, hd, hregroups⟩ := reassociate_eq_some hres
        exact ⟨_, rfl, .regroup hnode hd hregroups hlaw⟩

end

structure Compositional (env : Environment) (E : QueryAstArena → NodeHandle → Value → Prop) : Prop where
  mono : ∀ {a b h v}, E a h v → a.Grows b → E b h v
  node : ∀ {a : QueryAstArena} {h v}, E a h v → ∃ n, a.nodes[h]? = some n
  literal : ∀ {a : QueryAstArena} {h : NodeHandle} {lit v}, a.nodes[h]? = some (.literal lit) →
    (E a h v ↔ Value.ofLiteral env lit = some v)
  binary : ∀ {a : QueryAstArena} {h left right : NodeHandle} {op v},
    a.nodes[h]? = some (.binaryExpression left op right) →
    (E a h v ↔ ∃ x y, E a left x ∧ E a right y ∧ Value.binary env op x y = some v)
  unary : ∀ {a : QueryAstArena} {h operand : NodeHandle} {op v}, a.nodes[h]? = some (.unaryExpression op operand) →
    (E a h v ↔ ∃ x, E a operand x ∧ Value.unary op x = some v)

namespace Compositional

variable {env : Environment} {E : QueryAstArena → NodeHandle → Value → Prop} (hE : Compositional env E)
  {arena : QueryAstArena} {left right operand : NodeHandle} {leftNode rightNode : AstNode} {op : BinaryOp}
  {uop : UnaryOp} {a b v : Value}

include hE

lemma evaluates_bool {c : Bool} (hn : arena.nodes[h]? = some (.literal (.bool c))) (ha : E arena h a) : a = .bool c :=
  (Option.some.inj ((hE.literal hn).mp ha)).symm

lemma evaluates_int (hn : arena.nodes[h]? = some n) (hi : intLiteral n = some i) (ha : E arena h a) : a = .int i := by
  unfold intLiteral at hi
  split at hi
  · cases hi
    obtain ⟨k, hk, rfl⟩ := map_eq_some_iff.mp ((hE.literal hn).mp ha)
    rw [(checked_eq_some.mp hk).2]
  · cases hi

lemma identityLaw_sound (hl : arena.nodes[left]? = some leftNode) (hr : arena.nodes[right]? = some rightNode)
    (ha : E arena left a) (hb : E arena right b) (hv : Value.binary env op a b = some v)
    (hlaw : identityLaw left right leftNode op rightNode = some kept) : E arena kept v := by
  -- one case for each law; the other operand's value is the result, or the constant is
  unfold identityLaw at hlaw
  split at hlaw <;> cases hlaw
  · obtain rfl := hE.evaluates_bool hl ha
    rwa [and_false_left hv]
  · obtain rfl := hE.evaluates_bool hr hb
    rw [binary_comm (.inl rfl)] at hv
    rwa [and_false_left hv]
  · obtain rfl := hE.evaluates_bool hl ha
    rwa [and_true_left hv]
  · obtain rfl := hE.evaluates_bool hr hb
    rw [binary_comm (.inl rfl)] at hv
    rwa [and_true_left hv]
  · obtain rfl := hE.evaluates_bool hl ha
    rwa [or_true_left hv]
  · obtain rfl := hE.evaluates_bool hr hb
    rw [binary_comm (.inr (.inl rfl))] at hv
    rwa [or_true_left hv]
  · obtain rfl := hE.evaluates_bool hl ha
    rwa [or_false_left hv]
  · obtain rfl := hE.evaluates_bool hr hb
    rw [binary_comm (.inr (.inl rfl))] at hv
    rwa [or_false_left hv]
  · obtain rfl := hE.evaluates_int hr rfl hb
    rwa [add_zero_right hv]
  · obtain rfl := hE.evaluates_int hl rfl ha
    rw [binary_comm (.inr (.inr (.inl rfl)))] at hv
    rwa [add_zero_right hv]
  · obtain rfl := hE.evaluates_int hr rfl hb
    rwa [sub_zero_right hv]
  · obtain rfl := hE.evaluates_int hr rfl hb
    rwa [mul_one_right hv]
  · obtain rfl := hE.evaluates_int hl rfl ha
    rw [binary_comm (.inr (.inr (.inr rfl)))] at hv
    rwa [mul_one_right hv]
  · obtain rfl := hE.evaluates_int hr rfl hb
    rwa [div_one_right hv]

lemma returns_literal {lit : LiteralValue} (hv : Value.ofLiteral env lit = some v) :
    Returns (E · · v) arena (AstOptimizer.alloc (.literal lit)) :=
  Returns.alloc ((hE.literal (arena.alloc_node _)).mpr hv)

lemma returns_binary (ha : E arena left a) (hb : E arena right b) (hv : Value.binary env op a b = some v) :
    Returns (E · · v) arena (alloc (.binaryExpression left op right)) :=
  Returns.alloc ((hE.binary (arena.alloc_node _)).mpr
    ⟨a, b, hE.mono ha (arena.grows_alloc _), hE.mono hb (arena.grows_alloc _), hv⟩)

lemma reassociate_sound {l r : NodeHandle} {d constant : ℤ} {x y : Value} (hx : E arena l x) (hy : E arena r y)
    (hxy : Value.binary env op x y = some a) (hv : Value.binary env op a (.int d) = some v)
    (h : Regroups arena op l r d kept constant) : checked constant = some constant ∧
      ∃ x, E arena kept x ∧ Value.binary env op x (.int constant) = some v := by
  cases h with
  | right hop hn hc he =>
    obtain rfl := hE.evaluates_int hn hc hy
    exact ⟨checked_self he, x, hx, binary_reassoc hop he hxy hv⟩
  | left hop hn hc he =>
    subst hop
    obtain rfl := hE.evaluates_int hn hc hx
    rw [binary_comm (.inr (.inr (.inl rfl)))] at hxy
    exact ⟨checked_self he, y, hy, binary_reassoc (.inl rfl) he hxy hv⟩

lemma foldBinaryOp_returns (ha : E arena left a) (hb : E arena right b)
    (hv : Value.binary env op a b = some v) : Returns (E · · v) arena (foldBinaryOp left op right) := by
  obtain ⟨leftNode, hl⟩ := hE.node ha
  obtain ⟨rightNode, hr⟩ := hE.node hb
  obtain ⟨m, hm, hstep⟩ := foldBinaryOp_step op hl hr
  refine Returns.of_eq hm ?_
  cases hstep with
  | literal hl' hr' hlit =>
    subst hl' hr'
    exact hE.returns_literal (evalBinaryLiterals_sound ((hE.literal hl).mp ha) ((hE.literal hr).mp hb) hv hlit)
  | law hlaw => exact Returns.pure (hE.identityLaw_sound hl hr ha hb hv hlaw)
  | @regroup l r kept d c hnode hd hregroups =>
    subst hnode
    obtain rfl := hE.evaluates_int hr hd hb
    obtain ⟨x, y, hx, hy, hxy⟩ := (hE.binary hl).mp ha
    obtain ⟨hconst, z, hz, hzv⟩ := hE.reassociate_sound hx hy hxy hv hregroups
    refine Returns.bind (hE.returns_literal (v := .int c) (by simp [Value.ofLiteral, hconst])) ?_
    intro newLit arena' hgrows hlit
    exact hE.returns_binary (hE.mono hz hgrows) hlit hzv
  | same => exact hE.returns_binary ha hb hv
  | missing hnode hmissing =>
    subst hnode
    obtain ⟨x, y, hx, hy, -⟩ := (hE.binary hl).mp ha
    obtain ⟨m, hm⟩ := hE.node hx
    obtain ⟨n, hn⟩ := hE.node hy
    simp [hm, hn] at hmissing

lemma foldUnaryOp_returns (ha : E arena operand a) (hv : Value.unary uop a = some v) :
    Returns (E · · v) arena (foldUnaryOp uop operand) := by
  obtain ⟨n, hn⟩ := hE.node ha
  have hkeep : Returns (E · · v) arena (alloc (.unaryExpression uop operand)) :=
    Returns.alloc ((hE.unary (arena.alloc_node _)).mpr ⟨a, hE.mono ha (arena.grows_alloc _), hv⟩)
  refine Returns.getNode_bind hn ?_
  split
  · obtain rfl := hE.evaluates_bool hn ha
    exact hE.returns_literal hv
  · obtain ⟨b, hb, hba⟩ := (hE.unary hn).mp ha
    rw [not_not_value hba hv]
    exact Returns.pure hb
  · rename_i i
    obtain rfl := hE.evaluates_int hn rfl ha
    obtain ⟨k, hk, rfl⟩ := map_eq_some_iff.mp hv
    rw [hk]
    exact hE.returns_literal (by simp [Value.ofLiteral, checked_self hk])
  · cases (hE.literal hn).mp ha
  · obtain ⟨b, hb, hba⟩ := (hE.unary hn).mp ha
    rw [neg_neg_value hba hv]
    exact Returns.pure hb
  · cases (hE.literal hn).mp ha
    exact hE.returns_literal hv
  · cases (hE.literal hn).mp ha
    exact hE.returns_literal hv
  · exact hkeep

end Compositional

end AstOptimizer

end Voyager
