import Voyager.Optimizer.Literals
import Voyager.Builder.QueryBuilder

/-! Python values as the bindings see them: what they can be read as, and their `repr`. -/

namespace Voyager.Python

inductive ErrorCode
  | invalidSpec | invalidClause | unsupportedDialect
deriving DecidableEq, Repr

/-- The exceptions a call can end with. `core` carries an error of the compiler, `raised` what Python code raised. -/
inductive PyErr
  | voyagerError (code : ErrorCode) (message : String)
  | valueError (message : String)
  | typeError (expected got : String)
  | overflowError
  | indexError
  | core (e : Error)
  | raised (message : String)

structure Answers where
  typeName : String
  typeText : String
  nativeExpr : Option (QueryAstArena × NodeHandle)
  native : Option QueryBuilder
  isoformat : Option (Except PyErr String)
  hasHexAndUrn : Bool
  str : Except PyErr String
  float : Option UInt64
  index : Option ℤ

/-- A value, with a float as its bit pattern and a dictionary as its items in their order. An object of another
class has the `repr` that its class gives it; as an instance of a subclass of a builtin one it has a `base`. -/
inductive Value
  | none
  | bool (b : Bool)
  | int (i : ℤ)
  | float (bits : UInt64)
  | str (s : String)
  | list (items : List Value)
  | tuple (items : List Value)
  | dict (entries : List (Value × Value))
  | expr (arena : QueryAstArena) (handle : NodeHandle)
  | object (repr : String) (base : Option Value) (answers : Answers)

namespace Value

def base : Value → Value
  | object _ (some b) _ => b
  | v => v

def typeText : Value → String
  | none => "<class 'NoneType'>"
  | bool _ => "<class 'bool'>"
  | int _ => "<class 'int'>"
  | float _ => "<class 'float'>"
  | str _ => "<class 'str'>"
  | list _ => "<class 'list'>"
  | tuple _ => "<class 'tuple'>"
  | dict _ => "<class 'dict'>"
  | expr _ _ => "<class 'builtins.AstExpr'>"
  | object _ _ answers => answers.typeText

def isNone : Value → Bool
  | none => true
  | _ => false

def isStr (s : String) (v : Value) : Bool :=
  match v.base with
  | str t => t == s
  | _ => false

variable (v : Value)

def asStr : Except PyErr String :=
  match v.base with
  | str s => .ok s
  | _ => .error (.typeError "str" v.typeText)

def asOptionStr : Except PyErr (Option String) :=
  if v.isNone then .ok .none else some <$> v.asStr

def asBool : Except PyErr Bool :=
  match v.base with
  | bool b => .ok b
  | _ => .error (.typeError "bool" v.typeText)

def index? : Option ℤ :=
  match v.base with
  | int i => some i
  | bool b => some (if b then 1 else 0)
  | object _ _ answers => answers.index
  | _ => .none

def asUnsigned (bits : ℕ) (v : Value) : Except PyErr ℕ :=
  match v.index? with
  | some i => if 0 ≤ i ∧ i < 2 ^ bits then .ok i.toNat else .error .overflowError
  | .none => .error (.typeError "int" v.typeText)

def asU32 : Value → Except PyErr ℕ := asUnsigned 32

def asU64 : Value → Except PyErr ℕ := asUnsigned 64

def asOptionU32 : Except PyErr (Option ℕ) :=
  if v.isNone then .ok .none else some <$> v.asU32

def asList : Except PyErr (List Value) :=
  match v.base with
  | list items => .ok items
  | _ => .error (.typeError "PyList" v.typeText)

def asTuple : Except PyErr (List Value) :=
  match v.base with
  | tuple items => .ok items
  | _ => .error (.typeError "PyTuple" v.typeText)

def asDict : Except PyErr (List (Value × Value)) :=
  match v.base with
  | dict entries => .ok entries
  | _ => .error (.typeError "PyDict" v.typeText)

def items? : Option (List Value) :=
  match v.base with
  | tuple items | list items => some items
  | _ => .none

def asStrs : Except PyErr (List String) :=
  match v.items? with
  | some items => items.mapM asStr
  | .none => .error (.typeError "Sequence" v.typeText)

def nativeExpr? : Value → Option (QueryAstArena × NodeHandle)
  | expr arena handle => some (arena, handle)
  | object _ _ answers => answers.nativeExpr
  | _ => .none

def native? : Value → Option QueryBuilder
  | object _ _ answers => answers.native
  | _ => .none

mutual

def toLiteral : Value → Except PyErr LiteralValue
  | none => .ok .null
  | bool b => .ok (.bool b)
  | int i => if inI64 i then .ok (.int64 i) else .error .overflowError
  | float bits => .ok (.float64 bits)
  | str s => .ok (.string s)
  | list items | tuple items => .list <$> toLiterals items
  | dict entries => .map <$> toLiteralEntries entries
  | expr _ _ => .error (.valueError "Unsupported parameter type: <class 'builtins.AstExpr'>")
  | object _ (some b) _ => toLiteral b
  | object _ .none answers =>
    match answers.isoformat with
    | some iso => .string <$> iso
    | .none =>
      if answers.hasHexAndUrn then .string <$> answers.str
      else if answers.typeName == "Decimal" then
        match answers.float with
        | some bits => .ok (.float64 bits)
        | .none => .string <$> answers.str
      else .error (.valueError ("Unsupported parameter type: " ++ answers.typeText))

def toLiterals : List Value → Except PyErr (List LiteralValue)
  | [] => .ok []
  | item :: items => do
    let first ← toLiteral item
    let rest ← toLiterals items
    .ok (first :: rest)

def toLiteralEntries : List (Value × Value) → Except PyErr (List (String × LiteralValue))
  | [] => .ok []
  | (key, value) :: entries => do
    let keyStr ← key.asStr
    let first ← toLiteral value
    let rest ← toLiteralEntries entries
    .ok ((keyStr, first) :: rest)

end

end Value

def getItem? (entries : List (Value × Value)) (name : String) : Option Value :=
  (entries.find? fun e => e.1.isStr name).map Prod.snd

def getItem (items : List Value) (i : ℕ) : Except PyErr Value :=
  match items[i]? with
  | some v => .ok v
  | none => .error .indexError

end Voyager.Python
