import Mathlib.Data.List.AList
import Mathlib.Data.String.Basic
import Voyager.Lib.Bounded
import Voyager.Lib.SqlTokens

/-! How the bridges to DuckDB and PostgreSQL put parameters into a statement with a GRAPH_TABLE, where the
databases bind none. -/

namespace Voyager.Bridge

open Lib Lib.Sql

/-- The class `\w` of Python's `re`: known on ASCII, and some of the characters beyond. -/
structure WordClass where
  isWord : Char → Bool
  ascii : ∀ c : Char, c.toNat < 128 → isWord c = (c.isAlphanum || c = '_')

inductive Value where
  | str (s : List Char)
  | none
  | bool (b : Bool)
  | int (n : ℤ)
deriving DecidableEq, Repr

abbrev Params := AList fun _ : String => Value

def escapeQuotes (s : List Char) : List Char := replaceAll ['\''] ['\'', '\''] s

def Value.replacement : Value → List Char
  | .str s => '\'' :: escapeQuotes s ++ ['\'']
  | .none => "NULL".toList
  | .bool b => if b then "TRUE".toList else "FALSE".toList
  | .int n => (toString n).toList

variable (parameters : Params)

def sortedKeys : List String :=
  parameters.keys.insertionSort fun a b => b.length ≤ a.length

def replacementOf (key : String) : List Char :=
  match parameters.lookup key with
  | some v => v.replacement
  | none => []

variable (W : WordClass) (statement : String) (parameters : Params)

def interpolate : String :=
  String.ofList <| (sortedKeys parameters).foldl
    (fun stmt k => replaceBounded W.isWord ('$' :: k.toList) (replacementOf parameters k) stmt) statement.toList

def mentionsGraphTable : Bool := "GRAPH_TABLE".toList <:+: statement.toList

namespace DuckDbBridge

def formatPgqStatement : String × Params :=
  if mentionsGraphTable statement ∧ parameters.keys ≠ [] then (interpolate W statement parameters, ∅)
  else (statement, parameters)

end DuckDbBridge

namespace PostgresBridge

def placeholderAt (cs : List Char) : Option (List Char) :=
  let name := cs.takeWhile fun c => c.isAlphanum || c = '_'
  let rest := cs.dropWhile fun c => c.isAlphanum || c = '_'
  if name ≠ [] ∧ rest.head?.any W.isWord = false then some name else none

def positionalFrom (W : WordClass) (parameters : Params) : ℕ → List Char → List Char × List Value
  | _, [] => ([], [])
  | skip + 1, _ :: cs => positionalFrom W parameters skip cs
  | 0, c :: cs =>
    match if c = '$' then placeholderAt W cs else none with
    | some name =>
      let (text, values) := positionalFrom W parameters name.length cs
      match parameters.lookup (String.ofList name) with
      | some v => ('%' :: 's' :: text, v :: values)
      | none => (c :: name ++ text, values)
    | none =>
      let (text, values) := positionalFrom W parameters 0 cs
      (c :: text, values)

def formatPgqStatement : String × List Value :=
  if parameters.keys = [] then (statement, [])
  else if mentionsGraphTable statement then (interpolate W statement parameters, [])
  else
    let (text, values) := positionalFrom W parameters 0 statement.toList
    (String.ofList text, values)

end PostgresBridge

/-- The literal of a value; the sign of a negative number is a token of its own. -/
def Value.literal : Value → List Token
  | .str s => [.string s]
  | .none => [.word "NULL".toList]
  | .bool b => [.word (if b then "TRUE".toList else "FALSE".toList)]
  | .int n => (if n < 0 then [.symbol '-'] else []) ++ [.word (Nat.toDigits 10 n.natAbs)]

def fill : Token → List Token
  | .placeholder name =>
    match parameters.lookup (String.ofList name) with
    | some v => v.literal
    | none => [.placeholder name]
  | token => [token]

/-- The text has the tokens of the statement, with literals for the placeholders. -/
def Interpolated (text : String) : Prop :=
  tokenize W.isWord text.toList = (tokenize W.isWord statement.toList).flatMap (fill parameters)

structure Site where
  mode : Mode
  text : List Char
  next : Option Char

def sites (word : Char → Bool) : Mode → List Char → List Char → List Site
  | m, text, [] => [⟨m, text, none⟩]
  | m, text, c :: cs =>
    if isName word c then sites word m (text ++ [c]) cs
    else ⟨m, text, some c⟩ :: sites word (step word (settle m text).2 c).2 [] cs

def keyNames : List (List Char) := (sortedKeys parameters).map String.toList

def Site.Kept (site : Site) : Prop :=
  ∀ key ∈ keyNames parameters, found W.isWord ('$' :: key) site.text = false

structure Site.Filled (W : WordClass) (parameters : Params) (site : Site) (before : List (List Char))
    (key : List Char) (after : List (List Char)) (v : Value) : Prop where
  keys : keyNames parameters = before ++ key :: after
  value : parameters.lookup (String.ofList key) = some v
  text : site.text = '$' :: key
  code : ∀ content, site.mode ≠ .string content
  unread : ∀ other ∈ after, found W.isWord ('$' :: other) v.replacement = false
  apart : ∀ s, v = .str s → site.next ≠ some '\'' ∧ ∀ content, site.mode ≠ .quote content

def Undisturbed : Prop :=
  ∀ site ∈ sites W.isWord .code [] statement.toList,
    site.Kept W parameters ∨ ∃ before key after v, site.Filled W parameters before key after v

end Voyager.Bridge
