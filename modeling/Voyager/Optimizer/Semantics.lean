import Voyager.Optimizer.Literals

/-! Three-valued evaluation of expressions with checked 64-bit arithmetic. -/

namespace Voyager

inductive Value
  | null
  | bool (b : Bool)
  | int (i : ℤ)
  | string (s : String)
  | list (items : List Value)
  | entity (id : ℕ)

/-- What an expression refers to. `operate` interprets the operators on the operands that the rules below
leave open, `composite` the literals that are neither null, boolean, integer nor string. -/
structure Environment where
  var : String → Value
  param : String → Value
  property : Value → String → Option Value
  call : String → List Value → Option Value
  operate : BinaryOp → Value → Value → Option Value
  composite : LiteralValue → Option Value

namespace Value

def arithmetic (f : ℤ → ℤ → Option ℤ) : Value → Value → Option Value
  | int a, int b => (f a b).map int
  | null, null | null, int _ | int _, null => some null
  | _, _ => none

def truth : Value → Option (Option Bool)
  | null => some none
  | bool b => some (some b)
  | _ => none

def ofTruth : Option Bool → Value
  | none => null
  | some b => bool b

def kleeneAnd : Option Bool → Option Bool → Option Bool
  | some false, _ | _, some false => some false
  | some true, some true => some true
  | _, _ => none

def kleeneOr : Option Bool → Option Bool → Option Bool
  | some true, _ | _, some true => some true
  | some false, some false => some false
  | _, _ => none

def kleeneXor : Option Bool → Option Bool → Option Bool
  | some a, some b => some (a ^^ b)
  | _, _ => none

def logical (f : Option Bool → Option Bool → Option Bool) (v w : Value) : Option Value := do
  let a ← v.truth
  let b ← w.truth
  return ofTruth (f a b)

lemma ofTruth_of_truth {v : Value} {t : Option Bool} (h : v.truth = some t) : ofTruth t = v := by
  cases v <;> cases h <;> rfl

lemma logical_eq_some {f : Option Bool → Option Bool → Option Bool} {a b v : Value} (h : logical f a b = some v) :
    ∃ s t, a.truth = some s ∧ b.truth = some t ∧ v = ofTruth (f s t) := by
  obtain ⟨s, hs, h⟩ := Option.bind_eq_some_iff.mp h
  obtain ⟨t, ht, h⟩ := Option.bind_eq_some_iff.mp h
  exact ⟨s, t, hs, ht, (Option.some.inj h).symm⟩

/-- Division and remainder, truncating; a quotient that does not fit is an overflow of both. -/
def quotient (f : ℤ → ℤ → ℤ) (a b : ℤ) : Option ℤ :=
  if b = 0 then none else (checked (a.tdiv b)).map fun _ => f a b

def orderInts (op : BinaryOp) (a b : ℤ) : Option Bool :=
  match op with
  | .eq => some (a == b)
  | .neq => some (a != b)
  | .lt => some (decide (a < b))
  | .lte => some (decide (a ≤ b))
  | .gt => some (decide (a > b))
  | .gte => some (decide (a ≥ b))
  | _ => none

def equalBools (op : BinaryOp) (a b : Bool) : Option Bool :=
  match op with
  | .eq => some (a == b)
  | .neq => some (a != b)
  | _ => none

def relateStrings (op : BinaryOp) (a b : String) : Option Bool :=
  match op with
  | .eq => some (a == b)
  | .neq => some (a != b)
  | .contains => some (decide (b.toList <:+: a.toList))
  | .startsWith => some (decide (b.toList <+: a.toList))
  | .endsWith => some (decide (b.toList <:+ a.toList))
  | _ => none

variable (env : Environment)

def compare (op : BinaryOp) : Value → Value → Option Value
  | null, _ | _, null => some null
  | int a, int b => (orderInts op a b).map bool
  | bool a, bool b => ((equalBools op a b).map bool).or (env.operate op (bool a) (bool b))
  | string a, string b => ((relateStrings op a b).map bool).or (env.operate op (string a) (string b))
  | v, w => env.operate op v w

def match_ (op : BinaryOp) : Value → Value → Option Value
  | string a, string b => ((relateStrings op a b).map bool).or (env.operate op (string a) (string b))
  | v, w => env.operate op v w

def binary (op : BinaryOp) (v w : Value) : Option Value :=
  match op with
  | .add => arithmetic (fun a b => checked (a + b)) v w
  | .sub => arithmetic (fun a b => checked (a - b)) v w
  | .mul => arithmetic (fun a b => checked (a * b)) v w
  | .div => arithmetic (quotient Int.tdiv) v w
  | .mod => arithmetic (quotient Int.tmod) v w
  | .eq | .neq | .lt | .lte | .gt | .gte => compare env op v w
  | .and => logical kleeneAnd v w
  | .or => logical kleeneOr v w
  | .xor => logical kleeneXor v w
  | .concat =>
    match v, w with
    | string a, string b => some (string (a ++ b))
    | v, w => env.operate op v w
  | .contains | .startsWith | .endsWith | .in | .notIn | .regexMatch => match_ env op v w

def unary (op : UnaryOp) (v : Value) : Option Value :=
  match op with
  | .not => v.truth.map fun a => ofTruth (a.map not)
  | .neg =>
    match v with
    | int i => (checked (-i)).map int
    | null => some null
    | _ => none
  | .isNull => some (bool (v matches null))
  | .isNotNull => some (bool !(v matches null))

def ofLiteral : LiteralValue → Option Value
  | .null => some null
  | .bool b => some (bool b)
  | .int64 i => (checked i).map int
  | .string s => some (string s)
  -- outside the fragment
  | .float64 _ => none
  | other => env.composite other

end Value

section

variable (env : Environment) (arena : QueryAstArena)

/-- The value of an expression, to a depth. CASE, comprehensions and subqueries have none here. -/
def eval : ℕ → NodeHandle → Option Value
  | 0, _ => none
  | depth + 1, h =>
    match arena.nodes[h]? with
    | some (.literal lit) => Value.ofLiteral env lit
    | some (.parameter p) => some (env.param p)
    | some (.identifier x) => some (env.var x)
    | some (.nodePattern var _ _) => var.map env.var
    | some (.edgePattern var _ _ _ _ _ _) => var.map env.var
    | some (.propertyAccess target p) => (eval depth target).bind (env.property · p)
    | some (.binaryExpression left op right) =>
      (eval depth left).bind fun v => (eval depth right).bind fun w => Value.binary env op v w
    | some (.unaryExpression op operand) => (eval depth operand).bind (Value.unary op)
    | some (.functionCall name arguments) => (arguments.mapM (eval depth)).bind (env.call name)
    | some (.listLiteral items) => (items.mapM (eval depth)).map .list
    | _ => none

def Evaluates (h : NodeHandle) (v : Value) : Prop := ∃ depth, eval env arena depth h = some v

end

end Voyager
