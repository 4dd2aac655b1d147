import Voyager.Lib.Decimal
import Voyager.Lib.Intercalate
import Voyager.Topology.Extract

/-! The pattern text that `graph_table` writes for a topology, and path patterns as they are read. -/

namespace Voyager.GraphTable

open Lib

def shownLabels (node : TopologyNode) : List String :=
  if node.labels ≠ [] then node.labels
  else if node.label ≠ "" ∧ node.label ≠ "Entity" ∧ node.label ≠ node.id then [node.label]
  else []

def formatTopologyNode (node : TopologyNode) : String :=
  let labels := shownLabels node
  let lblStr := if labels = [] then "" else ":" ++ ":".intercalate labels
  "(" ++ node.id ++ lblStr ++ ")"

def formatNodeNamed (nodes : List TopologyNode) (id : String) : String :=
  match nodes.reverse.find? fun n => n.id == id with
  | some node => formatTopologyNode node
  | none => "(" ++ id ++ ")"

def hopsStr : Option ℕ → Option ℕ → String
  | some m, some n => if m = n then "*" ++ toString m else "*" ++ toString m ++ ".." ++ toString n
  | some m, none => "*" ++ toString m ++ ".."
  | none, some n => "*.." ++ toString n
  | none, none => ""

def shownTypes (edge : TopologyEdge) : List String :=
  if edge.types ≠ [] then edge.types
  else if edge.label ≠ "" ∧ edge.label ≠ "CONNECTED_TO" then [edge.label]
  else []

def shownVariable (id : String) : String := if id ≠ "" ∧ ¬ "rel_".toList <+: id.toList then id else ""

def edgeBody (edge : TopologyEdge) : String :=
  let types := shownTypes edge
  shownVariable edge.id ++ (if types = [] then "" else ":" ++ "|".intercalate types) ++
    hopsStr edge.minHops edge.maxHops

def formatTopologyEdge (edge : TopologyEdge) : String :=
  let body := edgeBody edge
  let bracket := if body = "" then "" else "[" ++ body ++ "]"
  match edge.direction with
  | .incoming => "<-" ++ bracket ++ "-"
  | .undirected => "-" ++ bracket ++ "-"
  | .outgoing => "-" ++ bracket ++ "->"

structure Chaining where
  chains : List (List String)
  current : List String
  lastTarget : Option String

def chainEdge (nodes : List TopologyNode) (st : Chaining) (edge : TopologyEdge) : Chaining :=
  let edgeRepr := formatTopologyEdge edge
  let target := formatNodeNamed nodes edge.target
  if st.lastTarget = some edge.source then
    { st with current := st.current ++ [edgeRepr, target], lastTarget := some edge.target }
  else
    ⟨if st.current = [] then st.chains else st.chains ++ [st.current],
      [formatNodeNamed nodes edge.source, edgeRepr, target], some edge.target⟩

def Chaining.closed (st : Chaining) : List (List String) :=
  if st.current = [] then st.chains else st.chains ++ [st.current]

def isolated (topo : GraphTopology) : List TopologyNode :=
  let connected := topo.edges.map TopologyEdge.source ++ topo.edges.map TopologyEdge.target
  topo.nodes.filter fun n => !connected.contains n.id

def topologyToPatternStr (topo : GraphTopology) : String :=
  if topo.nodes = [] then ""
  else if topo.edges = [] then ", ".intercalate (topo.nodes.map formatTopologyNode)
  else
    let chains := (topo.edges.foldl (chainEdge topo.nodes) ⟨[], [], none⟩).closed
    ", ".intercalate (chains.map String.join ++ (isolated topo).map formatTopologyNode)

inductive Arrow
  | left | right | none
deriving DecidableEq

structure Hop where
  arrow : Arrow
  types : List String
  minHops : Option ℕ
  maxHops : Option ℕ
  target : String
deriving DecidableEq

structure Chain where
  start : String
  hops : List Hop
deriving DecidableEq

section

variable (ident : Char → Bool) (text : List Char)

def readIdent : Option (String × List Char) :=
  let name := text.takeWhile ident
  if name = [] then none else some (String.ofList name, text.drop name.length)

def readSeparated (sep : Char) : ℕ → List Char → Option (List String × List Char)
  | fuel + 1, c :: cs =>
    if c = sep then do
      let (name, rest) ← readIdent ident cs
      let (names, rest) ← readSeparated sep fuel rest
      some (name :: names, rest)
    else some ([], c :: cs)
  | _, text => some ([], text)

def expect (sign : Char) : List Char → Option (List Char)
  | [] => none
  | c :: cs => if c = sign then some cs else none

def readNode : Option (String × List Char) := do
  let rest ← expect '(' text
  let (name, rest) ← readIdent ident rest
  let (_, rest) ← readSeparated ident ':' rest.length rest
  let rest ← expect ')' rest
  some (name, rest)

def readNumber (digits : List Char) : Option ℕ :=
  if digits = [] then none else some (Nat.ofDigitChars 10 digits 0)

def readHops : (Option ℕ × Option ℕ) × List Char :=
  match text with
  | '*' :: cs =>
    let digits := cs.takeWhile Char.isDigit
    let rest := cs.drop digits.length
    match rest with
    | '.' :: '.' :: rest =>
      let more := rest.takeWhile Char.isDigit
      ((readNumber digits, readNumber more), rest.drop more.length)
    | _ => ((readNumber digits, readNumber digits), rest)
  | _ => ((none, none), text)

def readBracket : Option ((List String × Option ℕ × Option ℕ) × List Char) :=
  match text with
  | '[' :: cs => do
    let rest := cs.drop (cs.takeWhile ident).length
    let (types, rest) ←
      match rest with
      | ':' :: rest => do
        let (first, rest) ← readIdent ident rest
        let (more, rest) ← readSeparated ident '|' rest.length rest
        some (first :: more, rest)
      | _ => some ([], rest)
    let (hops, rest) := readHops rest
    let rest ← expect ']' rest
    some ((types, hops.1, hops.2), rest)
  | _ => some (([], none, none), text)

def readEdge : Option ((Arrow × List String × Option ℕ × Option ℕ) × List Char) :=
  match text with
  | '<' :: '-' :: cs => do
    let (body, rest) ← readBracket ident cs
    let rest ← expect '-' rest
    some ((.left, body), rest)
  | '-' :: cs => do
    let (body, rest) ← readBracket ident cs
    match ← expect '-' rest with
    | '>' :: rest => some ((.right, body), rest)
    | rest => some ((.none, body), rest)
  | _ => none

def readHopsOf : ℕ → List Char → Option (List Hop × List Char)
  | fuel + 1, c :: cs =>
    if c = '<' ∨ c = '-' then do
      let ((arrow, types, minHops, maxHops), rest) ← readEdge ident (c :: cs)
      let (target, rest) ← readNode ident rest
      let (hops, rest) ← readHopsOf fuel rest
      some (⟨arrow, types, minHops, maxHops, target⟩ :: hops, rest)
    else some ([], c :: cs)
  | _, text => some ([], text)

def readChain : Option (Chain × List Char) := do
  let (start, rest) ← readNode ident text
  let (hops, rest) ← readHopsOf ident rest.length rest
  some (⟨start, hops⟩, rest)

def readChains : ℕ → List Char → Option (List Chain)
  | 0, _ => none
  | fuel + 1, text => do
    let (chain, rest) ← readChain ident text
    match rest with
    | [] => some [chain]
    | ',' :: ' ' :: rest => (chain :: ·) <$> readChains fuel rest
    | _ => none

def readPatterns (text : String) : Option (List Chain) := readChains ident (text.length + 1) text.toList

end

structure PatternEdge where
  source : String
  target : String
  directed : Bool
  types : Set String
  minHops : Option ℕ
  maxHops : Option ℕ

def Hop.edge (current : String) (hop : Hop) : PatternEdge :=
  match hop.arrow with
  | .right => ⟨current, hop.target, true, {t | t ∈ hop.types}, hop.minHops, hop.maxHops⟩
  | .left => ⟨hop.target, current, true, {t | t ∈ hop.types}, hop.minHops, hop.maxHops⟩
  | .none => ⟨current, hop.target, false, {t | t ∈ hop.types}, hop.minHops, hop.maxHops⟩

def hopEdges (current : String) : List Hop → List PatternEdge
  | [] => []
  | hop :: hops => hop.edge current :: hopEdges hop.target hops

def Chain.edges (chain : Chain) : List PatternEdge := hopEdges chain.start chain.hops

end Voyager.GraphTable
