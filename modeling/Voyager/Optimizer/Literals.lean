import Voyager.Ast

/-! Evaluation of operators on literals, as the optimizer does it at compile time. -/

namespace Voyager

def inI64 (i : ℤ) : Bool := decide (-2 ^ 63 ≤ i) && decide (i < 2 ^ 63)

def checked (i : ℤ) : Option ℤ := if inI64 i then some i else none

namespace F64

def units (bits : UInt64) : ℕ :=
  let exponent := bits.toNat / 2 ^ 52 % 2 ^ 11
  let fraction := bits.toNat % 2 ^ 52
  if exponent = 0 then fraction else (2 ^ 52 + fraction) * 2 ^ (exponent - 1)

def ofUnits (n : ℕ) : ℕ :=
  if n < 2 ^ 52 then n else
    let shift := Nat.log2 n - 52
    shift * 2 ^ 52 + n / 2 ^ shift

def rem (a b : UInt64) : Float :=
  let x := Float.ofBits a
  let y := Float.ofBits b
  if x.isFinite && !y.isNaN then
    if y.isFinite then
      Float.ofBits (UInt64.ofNat (a.toNat / 2 ^ 63 * 2 ^ 63 + ofUnits (units a % units b)))
    else x
  else 0.0 / 0.0

def finite (x : Float) : Option LiteralValue := if x.isFinite then some (.float64 x.toBits) else none

end F64

namespace AstOptimizer

def evalInts (a : ℤ) (op : BinaryOp) (b : ℤ) : Option LiteralValue :=
  match op with
  | .add => (checked (a + b)).map .int64
  | .sub => (checked (a - b)).map .int64
  | .mul => (checked (a * b)).map .int64
  | .div => if b = 0 then none else (checked (a.tdiv b)).map .int64
  -- `checked_rem` also refuses the pair whose quotient does not fit
  | .mod => if b = 0 then none else (checked (a.tdiv b)).map fun _ => .int64 (a.tmod b)
  | .eq => some (.bool (a == b))
  | .neq => some (.bool (a != b))
  | .lt => some (.bool (decide (a < b)))
  | .lte => some (.bool (decide (a ≤ b)))
  | .gt => some (.bool (decide (a > b)))
  | .gte => some (.bool (decide (a ≥ b)))
  | _ => none

def evalFloats (a : UInt64) (op : BinaryOp) (b : UInt64) : Option LiteralValue :=
  let x := Float.ofBits a
  let y := Float.ofBits b
  match op with
  | .add => F64.finite (x + y)
  | .sub => F64.finite (x - y)
  | .mul => F64.finite (x * y)
  | .div => if y != 0.0 then F64.finite (x / y) else none
  | .mod => if y != 0.0 then F64.finite (F64.rem a b) else none
  | .eq => some (.bool (x == y))
  | .neq => some (.bool (x != y))
  | .lt => some (.bool (decide (x < y)))
  | .lte => some (.bool (decide (x ≤ y)))
  | .gt => some (.bool (decide (x > y)))
  | .gte => some (.bool (decide (x ≥ y)))
  | _ => none

def evalBools (a : Bool) (op : BinaryOp) (b : Bool) : Option LiteralValue :=
  match op with
  | .and => some (.bool (a && b))
  | .or => some (.bool (a || b))
  | .xor => some (.bool (a ^^ b))
  | .eq => some (.bool (a == b))
  | .neq => some (.bool (a != b))
  | _ => none

def evalStrings (a : String) (op : BinaryOp) (b : String) : Option LiteralValue :=
  match op with
  | .add | .concat => some (.string (a ++ b))
  | .eq => some (.bool (a == b))
  | .neq => some (.bool (a != b))
  | .contains => some (.bool (decide (b.toList <:+: a.toList)))
  | .startsWith => some (.bool (decide (b.toList <+: a.toList)))
  | .endsWith => some (.bool (decide (b.toList <:+ a.toList)))
  | _ => none

def evalBinaryLiterals (left : LiteralValue) (op : BinaryOp) (right : LiteralValue) : Option LiteralValue :=
  match left, right with
  | .int64 a, .int64 b => evalInts a op b
  | .float64 a, .float64 b => evalFloats a op b
  | .int64 a, .float64 b => evalFloats (Float.ofInt a).toBits op b
  | .float64 a, .int64 b => evalFloats a op (Float.ofInt b).toBits
  | .bool a, .bool b => evalBools a op b
  | .string a, .string b => evalStrings a op b
  | _, _ => none

end AstOptimizer

end Voyager
