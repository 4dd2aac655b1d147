import Voyager.Lib.Decimal
import Voyager.Optimizer.FoldLaws

/-! Sums whose operands have a type only at run time. -/

namespace Voyager

open Value

namespace Value

def plus : Value → Value → Option Value
  | null, _ | _, null => some null
  | int a, int b => (checked (a + b)).map int
  | string a, string b => some (string (a ++ b))
  | string a, int b => some (string (a ++ toString b))
  | int a, string b => some (string (toString a ++ b))
  | list a, list b => some (list (a ++ b))
  | list a, b => some (list (a ++ [b]))
  | a, list b => some (list (a :: b))
  | _, _ => none

def Numeric : Value → Prop
  | null | int _ => True
  | _ => False

lemma numeric_int (i : ℤ) : (int i).Numeric := trivial

lemma plus_of_numeric {a b : Value} (ha : a.Numeric) (hb : b.Numeric) :
    plus a b = arithmetic (fun i j => checked (i + j)) a b := by
  cases a with
  | null | int i => cases b <;> first | rfl | exact hb.elim
  | _ => exact ha.elim

lemma plus_numeric {a b v : Value} (ha : a.Numeric) (hb : b.Numeric) (h : plus a b = some v) : v.Numeric := by
  rw [plus_of_numeric ha hb] at h
  cases a with
  | null =>
    cases b with
    | null | int =>
      cases h
      trivial
    | _ => exact hb.elim
  | int i =>
    cases b with
    | null =>
      cases h
      trivial
    | int j =>
      obtain ⟨k, -, rfl⟩ := Option.map_eq_some_iff.mp h
      trivial
    | _ => exact hb.elim
  | _ => exact ha.elim

lemma numeric_of_plus_int {a : Value} {c : ℤ} {v : Value} (h : plus a (.int c) = some v ∨ plus (.int c) a = some v)
    (hv : v.Numeric) : a.Numeric := by
  rcases h with h | h <;> cases a <;> first | trivial | (cases h; exact hv.elim)

lemma numeric_of_plus_zero {a : Value} (h : plus a (.int 0) = some a ∨ plus (.int 0) a = some a) : a.Numeric := by
  cases a with
  | null | int => trivial
  | string s =>
    rcases h with h | h
    all_goals
      have hlength := congrArg String.length (string.inj (Option.some.inj h))
      rw [String.length_append] at hlength
      have hzero : (toString (0 : ℤ)).length = 1 := rfl
      omega
  | list l =>
    rcases h with h | h
    all_goals
      have hlength := congrArg List.length (list.inj (Option.some.inj h))
      simp at hlength
  | _ => rcases h with h | h <;> cases h

/-- A text or a list is not the same with two integers beside it as with their sum behind it. -/
lemma plus_int_ne {x y v : Value} {c d : ℤ} (hx : ¬x.Numeric)
    (hy : plus x (.int c) = some y ∨ plus (.int c) x = some y) (hv : plus y (.int d) = some v) :
    plus x (.int (c + d)) ≠ some v := by
  intro hsum
  cases x with
  | null | int => exact hx trivial
  | string s =>
    have htext : ∀ t, y = string t → (s.toList ++ ((toString c).toList ++ (toString d).toList)).Perm
        (t ++ toString d).toList → False := by
      rintro t rfl hperm
      cases hv
      have heq : (t ++ toString d).toList = s.toList ++ (toString (c + d)).toList := by
        simpa using (congrArg String.toList (string.inj (Option.some.inj hsum))).symm
      rw [heq, List.perm_append_left_iff] at hperm
      exact Lib.toString_int_add c d hperm
    rcases hy with hy | hy
    · exact htext _ (Option.some.inj hy).symm (by simp)
    · refine htext _ (Option.some.inj hy).symm ?_
      rw [String.toList_append, String.toList_append, ← List.append_assoc]
      exact List.perm_append_comm.append_right _
  | list l =>
    have hlength : ∀ items, y = list items → items.length = l.length + 1 → False := by
      rintro items rfl hitems
      cases hv
      have := congrArg List.length (list.inj (Option.some.inj hsum))
      simp at this
      omega
    rcases hy with hy | hy
    · exact hlength _ (Option.some.inj hy).symm (by simp)
    · exact hlength _ (Option.some.inj hy).symm (by simp)
  | _ => cases hsum

end Value

def AstNode.isDynamic : AstNode → Bool
  | .literal _ | .binaryExpression _ .add _ => false
  | _ => true

inductive SumValue (arena : QueryAstArena) (assigned : NodeHandle → Value) : NodeHandle → Value → Prop
  | literal {h : NodeHandle} {i : ℤ} :
      arena.nodes[h]? = some (.literal (.int64 i)) → SumValue arena assigned h (.int i)
  | dynamic {h : NodeHandle} {n : AstNode} :
      arena.nodes[h]? = some n → n.isDynamic = true → SumValue arena assigned h (assigned h)
  | add {h left right : NodeHandle} {a b v : Value} :
      arena.nodes[h]? = some (.binaryExpression left .add right) → SumValue arena assigned left a →
      SumValue arena assigned right b → Value.plus a b = some v → SumValue arena assigned h v

/-- An operand that a rewrite leaves beside other constants than it stands beside. -/
inductive Regrouped (arena : QueryAstArena) (left right : NodeHandle) : NodeHandle → Prop
  | beforeZero : arena.nodes[right]? = some (.literal (.int64 0)) → Regrouped arena left right left
  | afterZero : arena.nodes[left]? = some (.literal (.int64 0)) → Regrouped arena left right right
  | beforeSum {l r : NodeHandle} {c d e : ℤ} : arena.nodes[left]? = some (.binaryExpression l .add r) →
      arena.nodes[r]? = some (.literal (.int64 c)) → arena.nodes[right]? = some (.literal (.int64 d)) →
      checked (c + d) = some e → Regrouped arena left right l
  | afterSum {l r : NodeHandle} {c d e : ℤ} : arena.nodes[left]? = some (.binaryExpression l .add r) →
      arena.nodes[l]? = some (.literal (.int64 c)) → arena.nodes[right]? = some (.literal (.int64 d)) →
      checked (c + d) = some e → Regrouped arena left right r

section

variable {arena : QueryAstArena} {assigned : NodeHandle → Value} {h : NodeHandle} {v : Value}

lemma SumValue.mono {b : QueryAstArena} (hab : arena.Grows b) (hv : SumValue arena assigned h v) :
    SumValue b assigned h v := by
  induction hv with
  | literal hn => exact .literal (hab.node hn)
  | dynamic hn hd => exact .dynamic (hab.node hn) hd
  | add hn _ _ hv ihl ihr => exact .add (hab.node hn) ihl ihr hv

section

variable (hv : SumValue arena assigned h v)

include hv

lemma SumValue.node : ∃ n, arena.nodes[h]? = some n := by
  cases hv with
  | literal hn | dynamic hn _ | add hn _ _ _ => exact ⟨_, hn⟩

lemma SumValue.int_of_literal {lit : LiteralValue} (hn : arena.nodes[h]? = some (.literal lit))
    : ∃ i, lit = .int64 i ∧ v = .int i := by
  cases hv with
  | literal hm =>
    cases hn.symm.trans hm
    exact ⟨_, rfl, rfl⟩
  | dynamic hm hd =>
    cases hn.symm.trans hm
    cases hd
  | add hm => cases hn.symm.trans hm

lemma SumValue.eq_assigned {n : AstNode} (hn : arena.nodes[h]? = some n) (hd : n.isDynamic = true)
    : v = assigned h := by
  cases hv with
  | dynamic => rfl
  | literal hm | add hm =>
    cases hn.symm.trans hm
    cases hd

lemma SumValue.inv_add {left right : NodeHandle} (hn : arena.nodes[h]? = some (.binaryExpression left .add right)) :
    ∃ a b, SumValue arena assigned left a ∧ SumValue arena assigned right b ∧ plus a b = some v := by
  cases hv with
  | literal hm => cases hn.symm.trans hm
  | dynamic hm hd =>
    cases hn.symm.trans hm
    cases hd
  | add hm hl hr hv =>
    cases hn.symm.trans hm
    exact ⟨_, _, hl, hr, hv⟩

lemma SumValue.int_of_intLiteral {n : AstNode} {i : ℤ} (hn : arena.nodes[h]? = some n)
    (hi : AstOptimizer.intLiteral n = some i) :
    n = .literal (.int64 i) ∧ v = .int i := by
  unfold AstOptimizer.intLiteral at hi
  split at hi
  · cases hi
    obtain ⟨_, hlit, rfl⟩ := hv.int_of_literal hn
    cases hlit
    exact ⟨rfl, rfl⟩
  · cases hi

lemma SumValue.unique {v' : Value} (hv' : SumValue arena assigned h v') : v = v' := by
  induction hv generalizing v' with
  | literal hn =>
    obtain ⟨_, hlit, rfl⟩ := hv'.int_of_literal hn
    cases hlit
    rfl
  | dynamic hn hd => exact (hv'.eq_assigned hn hd).symm
  | add hn _ _ hv ihl ihr =>
    obtain ⟨a, b, ha, hb, hv'⟩ := hv'.inv_add hn
    rw [ihl ha, ihr hb, hv', Option.some_inj] at hv
    exact hv.symm

end

end

namespace AstOptimizer

section

variable {arena : QueryAstArena} {assigned : NodeHandle → Value} {left right : NodeHandle} {a b v : Value}

lemma plus_zero (ha : a.Numeric) (h : plus a (.int 0) = some v) : v = a := by
  rw [plus_of_numeric ha (numeric_int 0)] at h
  exact arithmetic_right_unit (fun i k hk => by simpa using (checked_eq_some.mp hk).2) h

lemma plus_comm (ha : a.Numeric) (hb : b.Numeric) : plus a b = plus b a := by
  rw [plus_of_numeric ha hb, plus_of_numeric hb ha]
  exact arithmetic_comm (fun i j => by rw [add_comm]) a b

lemma plus_reassoc {x y : Value} {c d e : ℤ} (hx : x.Numeric) (he : checked (c + d) = some e)
    (hy : plus x (.int c) = some y) (hv : plus y (.int d) = some v) : plus x (.int e) = some v := by
  have hyn : y.Numeric := plus_numeric hx (numeric_int c) hy
  rw [plus_of_numeric hx (numeric_int _)] at hy ⊢
  rw [plus_of_numeric hyn (numeric_int d)] at hv
  exact checked_reassoc (fun i => add_assoc i c d) he hy hv

lemma identityLaw_add {leftNode rightNode : AstNode} {kept : NodeHandle}
    (h : identityLaw left right leftNode .add rightNode = some kept) :
    kept = left ∧ intLiteral rightNode = some 0 ∨ kept = right ∧ intLiteral leftNode = some 0 := by
  unfold identityLaw at h
  split at h <;> simp_all [intLiteral]

lemma identityLaw_zero {leftNode rightNode : AstNode} (h : identityLaw left right leftNode .add rightNode = none) :
    leftNode ≠ .literal (.int64 0) ∧ rightNode ≠ .literal (.int64 0) := by
  constructor
  all_goals
    rintro rfl
    revert h
    rw [identityLaw.eq_def]
    split <;> simp_all

lemma reassociate_sum {l r : NodeHandle} {n : AstNode} {c d e : ℤ} (hn : arena.nodes[r]? = some n)
    (hc : n = .literal (.int64 c) ∨ arena.nodes[l]? = some (.literal (.int64 c))) (he : checked (c + d) = some e) :
    reassociate arena (.binaryExpression l .add r) .add (.literal (.int64 d)) ≠ .ok none := by
  intro h
  simp only [reassociate, intLiteral, QueryAstArena.get_eq_ok.mpr hn] at h
  rcases hc with rfl | hl
  · simp [he, pure, Except.pure, bind, Except.bind] at h
  · simp only [QueryAstArena.get_eq_ok.mpr hl, bind, Except.bind] at h
    split at h <;> simp [he, pure, Except.pure] at h

/-- The value of a sum that is allocated, from the only values of its operands. -/
lemma returns_sum (ha : SumValue arena assigned left a) (hb : SumValue arena assigned right b) :
    Returns (fun arena' h => SumValue arena' assigned h v ↔ plus a b = some v) arena
      (alloc (.binaryExpression left .add right)) := by
  have ha := ha.mono (arena.grows_alloc (.binaryExpression left .add right))
  have hb := hb.mono (arena.grows_alloc (.binaryExpression left .add right))
  refine Returns.alloc ⟨fun hv => ?_, fun hv => .add (arena.alloc_node _) ha hb hv⟩
  obtain ⟨a', b', ha', hb', hv⟩ := hv.inv_add (arena.alloc_node _)
  rwa [ha.unique ha', hb.unique hb']

section

variable (arena left right assigned)

def Keeps : Prop := ∀ k x, Regrouped arena left right k → SumValue arena assigned k x → x.Numeric

end

section

variable (ha : SumValue arena assigned left a) (hb : SumValue arena assigned right b) (hv : plus a b = some v)

include ha hb hv

lemma keeps_of_zero_right (hr : arena.nodes[right]? = some (.literal (.int64 0))) :
    v = a ↔ Keeps arena assigned left right := by
  obtain ⟨_, hlit, rfl⟩ := hb.int_of_literal hr
  cases hlit
  constructor
  · rintro rfl k x hk hx
    have han := numeric_of_plus_zero (.inl hv)
    cases hk with
    | beforeZero => rwa [← ha.unique hx]
    | afterZero => exact hb.unique hx ▸ numeric_int 0
    | beforeSum hl hc hd =>
      obtain ⟨x', y, hx', hy, hsum⟩ := ha.inv_add hl
      obtain ⟨_, hlit, rfl⟩ := hy.int_of_literal hc
      exact hx'.unique hx ▸ numeric_of_plus_int (.inl hsum) han
    | afterSum hl hc hd =>
      obtain ⟨x', y, hx', hy, hsum⟩ := ha.inv_add hl
      obtain ⟨_, hlit, rfl⟩ := hx'.int_of_literal hc
      exact hy.unique hx ▸ numeric_of_plus_int (.inr hsum) han
  · exact fun hkeeps => plus_zero (hkeeps left a (.beforeZero hr) ha) hv

lemma keeps_of_zero_left (hl : arena.nodes[left]? = some (.literal (.int64 0))) :
    v = b ↔ Keeps arena assigned left right := by
  obtain ⟨_, hlit, rfl⟩ := ha.int_of_literal hl
  cases hlit
  constructor
  · rintro rfl k x hk hx
    have hbn := numeric_of_plus_zero (.inr hv)
    cases hk with
    | beforeZero => exact ha.unique hx ▸ numeric_int 0
    | afterZero => rwa [← hb.unique hx]
    | beforeSum hl' | afterSum hl' => cases hl.symm.trans hl'
  · intro hkeeps
    have hbn := hkeeps right b (.afterZero hl) hb
    rw [plus_comm (numeric_int 0) hbn] at hv
    exact plus_zero hbn hv

end

/-- A call that rewrites nothing regroups nothing. -/
lemma keeps_of_same (ha : SumValue arena assigned left a) {n m : AstNode} (hl : arena.nodes[left]? = some n)
    (hr : arena.nodes[right]? = some m) (hlaw : identityLaw left right n .add m = none)
    (hnone : reassociate arena n .add m = .ok none) : Keeps arena assigned left right := by
  intro k x hk _
  obtain ⟨hzero, hzero'⟩ := identityLaw_zero hlaw
  cases hk with
  | beforeZero hr' => exact absurd (Option.some.inj (hr.symm.trans hr')) hzero'
  | afterZero hl' => exact absurd (Option.some.inj (hl.symm.trans hl')) hzero
  | beforeSum hl' hc hd he =>
    cases hl.symm.trans hl'
    cases hr.symm.trans hd
    exact absurd hnone (reassociate_sum hc (.inl rfl) he)
  | afterSum hl' hc hd he =>
    cases hl.symm.trans hl'
    cases hr.symm.trans hd
    obtain ⟨_, _, -, hy, -⟩ := ha.inv_add hl
    obtain ⟨n, hn⟩ := hy.node
    exact absurd hnone (reassociate_sum hn (.inr hc) he)

/-- What stands beside the sum of the constants has the value of the original exactly where it is an integer or null. -/
lemma keeps_of_regroups {l r kept : NodeHandle} {d e : ℤ} {x y : Value}
    (hl : arena.nodes[left]? = some (.binaryExpression l .add r)) (hd : arena.nodes[right]? = some (.literal (.int64 d)))
    (hzero : d ≠ 0) (hx : SumValue arena assigned l x) (hy : SumValue arena assigned r y) (hxy : plus x y = some a)
    (hv : plus a (.int d) = some v) (h : Regroups arena .add l r d kept e) :
    ∃ z, SumValue arena assigned kept z ∧ (plus z (.int e) = some v ↔ Keeps arena assigned left right) := by
  -- of the two operands only the kept one can be anything but an integer
  have hsides : (kept = l ∨ ∃ i, x = .int i) ∧ (kept = r ∨ ∃ i, y = .int i) := by
    cases h with
    | right _ hn hc => exact ⟨.inl rfl, .inr ⟨_, (hy.int_of_intLiteral hn hc).2⟩⟩
    | left _ hn hc => exact ⟨.inr ⟨_, (hx.int_of_intLiteral hn hc).2⟩, .inl rfl⟩
  have hkeeps : ∀ {z : Value}, SumValue arena assigned kept z → z.Numeric → Keeps arena assigned left right := by
    intro z hz hzn k w hk hw
    cases hk with
    | beforeZero hr =>
      cases hd.symm.trans hr
      exact absurd rfl hzero
    | afterZero hl' => cases hl.symm.trans hl'
    | beforeSum hl' =>
      cases hl.symm.trans hl'
      rcases hsides.1 with rfl | ⟨i, rfl⟩
      · rwa [← hz.unique hw]
      · exact hx.unique hw ▸ numeric_int i
    | afterSum hl' =>
      cases hl.symm.trans hl'
      rcases hsides.2 with rfl | ⟨i, rfl⟩
      · rwa [← hz.unique hw]
      · exact hy.unique hw ▸ numeric_int i
  cases h with
  | right _ hn hc he =>
    obtain ⟨rfl, rfl⟩ := hy.int_of_intLiteral hn hc
    refine ⟨x, hx, fun hsum => hkeeps hx ?_, fun hk => plus_reassoc (hk l x (.beforeSum hl hn hd he) hx) he hxy hv⟩
    obtain ⟨-, rfl⟩ := checked_eq_some.mp he
    exact by_contra fun hxn => plus_int_ne hxn (.inl hxy) hv hsum
  | left _ hn hc he =>
    obtain ⟨rfl, rfl⟩ := hx.int_of_intLiteral hn hc
    refine ⟨y, hy, fun hsum => hkeeps hy ?_, fun hk => ?_⟩
    · obtain ⟨-, rfl⟩ := checked_eq_some.mp he
      exact by_contra fun hyn => plus_int_ne hyn (.inr hxy) hv hsum
    · have hyn := hk r y (.afterSum hl hn hd he) hy
      rw [plus_comm (numeric_int _) hyn] at hxy
      exact plus_reassoc hyn he hxy hv

end

/-- Only texts and lists tell the rewritten sum from the original: the value is kept exactly where every operand that
the rewrite leaves beside other constants is an integer or null. -/
theorem foldBinaryOp_keeps_sum (arena : QueryAstArena) (left right : NodeHandle) (assigned : NodeHandle → Value)
    (a b v : Value) (ha : SumValue arena assigned left a) (hb : SumValue arena assigned right b)
    (hv : Value.plus a b = some v) :
    ∃ h arena', foldBinaryOp left .add right arena = .ok (h, arena') ∧ (SumValue arena' assigned h v ↔
      ∀ k x, Regrouped arena left right k → SumValue arena assigned k x → x.Numeric) := by
  obtain ⟨leftNode, hl⟩ := ha.node
  obtain ⟨rightNode, hr⟩ := hb.node
  suffices Returns (fun arena' h => SumValue arena' assigned h v ↔ Keeps arena assigned left right) arena
      (foldBinaryOp left .add right) by
    obtain ⟨h, arena', hok, -, hv⟩ := this
    exact ⟨h, arena', hok, hv⟩
  obtain ⟨m, hm, hstep⟩ := foldBinaryOp_step .add hl hr
  refine Returns.of_eq hm ?_
  cases hstep with
  | literal hl' hr' hlit =>
    subst hl' hr'
    obtain ⟨i, rfl, rfl⟩ := ha.int_of_literal hl
    obtain ⟨j, rfl, rfl⟩ := hb.int_of_literal hr
    obtain ⟨sum, hsum, rfl⟩ := Option.map_eq_some_iff.mp hlit
    obtain ⟨sum', hsum', rfl⟩ := Option.map_eq_some_iff.mp hv
    cases hsum.symm.trans hsum'
    refine Returns.alloc (iff_of_true (.literal (arena.alloc_node _)) fun k x hk hx => ?_)
    cases hk with
    | beforeZero => exact ha.unique hx ▸ numeric_int i
    | afterZero => exact hb.unique hx ▸ numeric_int j
    | beforeSum hl' | afterSum hl' => cases hl.symm.trans hl'
  | law hlaw =>
    rcases identityLaw_add hlaw with ⟨rfl, hzero⟩ | ⟨rfl, hzero⟩
    · obtain ⟨rfl, -⟩ := hb.int_of_intLiteral hr hzero
      refine Returns.pure ((Iff.trans ⟨fun h => ha.unique h ▸ rfl, ?_⟩) (keeps_of_zero_right ha hb hv hr))
      rintro rfl
      exact ha
    · obtain ⟨rfl, -⟩ := ha.int_of_intLiteral hl hzero
      refine Returns.pure ((Iff.trans ⟨fun h => hb.unique h ▸ rfl, ?_⟩) (keeps_of_zero_left ha hb hv hl))
      rintro rfl
      exact hb
  | @regroup l r kept d c hnode hd hregroups hlaw =>
    subst hnode
    obtain ⟨rfl, rfl⟩ := hb.int_of_intLiteral hr hd
    obtain ⟨x, y, hx, hy, hxy⟩ := ha.inv_add hl
    have hzero : d ≠ 0 := by
      rintro rfl
      exact (identityLaw_zero hlaw).2 rfl
    obtain ⟨z, hz, hiff⟩ := keeps_of_regroups hl hr hzero hx hy hxy hv hregroups
    have hlit : Returns (SumValue · assigned · (.int c)) arena (alloc (.literal (.int64 c))) :=
      Returns.alloc (.literal (arena.alloc_node _))
    rw [← hiff]
    exact hlit.bind fun newLit b hgrows hc => returns_sum (hz.mono hgrows) hc
  | same hlaw hnone =>
    have hkeeps := keeps_of_same ha hl hr hlaw hnone
    obtain ⟨h, arena', hok, hgrows, hsum⟩ := returns_sum (v := v) ha hb
    exact ⟨h, arena', hok, hgrows, hsum.trans (iff_of_true hv hkeeps)⟩
  | missing hnode hmissing =>
    subst hnode
    obtain ⟨x, y, hx, hy, -⟩ := ha.inv_add hl
    obtain ⟨m, hm⟩ := hx.node
    obtain ⟨n, hn⟩ := hy.node
    simp [hm, hn] at hmissing

def agePlusThirty : QueryAstArena where
  nodes := [.identifier "x", .literal (.int64 10), .binaryExpression 0 .add 1, .literal (.int64 20)]

theorem foldBinaryOp_keeps_thirty : ∃ h arena', foldBinaryOp 2 .add 3 agePlusThirty = .ok (h, arena') ∧
    SumValue arena' (fun _ => .int 5) h (.int 35) := by
  have hx : SumValue agePlusThirty (fun _ => .int 5) 0 (.int 5) := .dynamic rfl rfl
  obtain ⟨h, arena', hok, hiff⟩ := foldBinaryOp_keeps_sum agePlusThirty 2 3 (fun _ => .int 5) (.int 15) (.int 20) (.int 35)
    (.add rfl hx (.literal rfl) rfl) (.literal rfl) rfl
  refine ⟨h, arena', hok, hiff.mpr fun k x hk hxk => ?_⟩
  cases hk with
  | beforeSum hl _ _ _ =>
    cases hl
    exact hx.unique hxk ▸ numeric_int 5
  | beforeZero hr => cases hr
  | afterZero hl => cases hl
  | afterSum hl hc =>
    cases hl
    cases hc

theorem foldBinaryOp_drops_zero : ∃ (arena : QueryAstArena) (assigned : NodeHandle → Value) (v : Value),
    SumValue arena assigned 0 (.string "a") ∧ SumValue arena assigned 1 (.int 0) ∧
      Value.plus (.string "a") (.int 0) = some v ∧
      ∃ h arena', foldBinaryOp 0 .add 1 arena = .ok (h, arena') ∧ ¬ SumValue arena' assigned h v := by
  refine ⟨⟨[.identifier "x", .literal (.int64 0)]⟩, fun _ => .string "a", .string "a0", .dynamic rfl rfl, .literal rfl,
    rfl, 0, _, rfl, fun h => ?_⟩
  have hvalue := h.eq_assigned rfl rfl
  simp at hvalue

end AstOptimizer

end Voyager
