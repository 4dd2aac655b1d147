import Voyager.Topology.PatternText

/-! What is written for a topology reads as the edges of the topology. -/

namespace Voyager.GraphTable

open Lib List
open Option (bind_eq_bind bind_some)
open String (join toList_append)

variable {ident : Char → Bool}

def Separates (ident : Char → Bool) : Prop := ∀ c ∈ [')', ':', '|', '*', ']'], ident c = false

def IsName (ident : Char → Bool) (name : String) : Prop := name ≠ "" ∧ ∀ c ∈ name.toList, ident c = true

lemma Separates.stops (hsep : Separates ident) {c : Char} (hc : c ∈ [')', ':', '|', '*', ']']) (rest : List Char) :
    Stops ident (c :: rest) :=
  stops_cons (hsep c hc) rest

variable {rest : List Char}

lemma readIdent_append {name : String} (hname : IsName ident name) (hrest : Stops ident rest) :
    readIdent ident (name.toList ++ rest) = some (name, rest) := by
  have htake := takeWhile_append_of_stops hname.2 hrest
  have hne : name.toList ≠ [] := fun h => hname.1 (String.toList_eq_nil_iff.mp h)
  rw [readIdent, htake, if_neg hne, String.ofList_toList, drop_left]

lemma readSeparated_append {sep : Char} {names : List String} {fuel : ℕ}
    (hnames : ∀ name ∈ names, IsName ident name) (hsep : ident sep = false) (hrest : Stops ident rest)
    (hend : Stops (· == sep) rest) (hfuel : names.length ≤ fuel) :
    readSeparated ident sep fuel ((names.flatMap fun name => sep :: name.toList) ++ rest) = some (names, rest) := by
  induction names generalizing fuel with
  | nil =>
    rw [flatMap_nil, nil_append]
    cases fuel with
    | zero => rfl
    | succ fuel =>
      cases rest with
      | nil => rfl
      | cons c rest =>
        have hc : c ≠ sep := by simpa using hend c rfl
        rw [readSeparated, if_neg hc]
  | cons name names ih =>
    obtain ⟨fuel, rfl⟩ := Nat.exists_eq_add_of_le' (Nat.one_le_of_lt hfuel)
    have hstop : Stops ident ((names.flatMap fun name => sep :: name.toList) ++ rest) := by
      cases names with
      | nil => exact hrest
      | cons name' names => exact stops_cons hsep _
    have hread := readIdent_append (hnames name mem_cons_self) hstop
    have hmore := ih (fun n hn => hnames n (mem_cons_of_mem name hn)) (Nat.le_of_succ_le_succ hfuel)
    rw [flatMap_cons, cons_append, cons_append, append_assoc, readSeparated, if_pos rfl]
    simp only [hread, hmore, bind_eq_bind, bind_some]

lemma length_le_flatMap {α : Type*} (f : α → List Char) (xs : List α) (hf : ∀ x ∈ xs, f x ≠ []) (rest : List Char) :
    xs.length ≤ (xs.flatMap f ++ rest).length := by
  induction xs with
  | nil => exact Nat.zero_le _
  | cons x xs ih =>
    have hx := length_pos_iff.mpr (hf x mem_cons_self)
    have hxs := ih fun y hy => hf y (mem_cons_of_mem x hy)
    rw [flatMap_cons, append_assoc, length_append, length_cons]
    omega

lemma toList_formatTopologyNode (node : TopologyNode) : (formatTopologyNode node).toList =
    '(' :: (node.id.toList ++ ((shownLabels node).flatMap (fun l => ':' :: l.toList) ++ [')'])) := by
  cases hlabels : shownLabels node with
  | nil => simp [formatTopologyNode, hlabels]
  | cons label labels =>
    have hjoined := toList_intercalate_cons ":" label labels
    simp only [formatTopologyNode, hlabels, reduceCtorEq, if_false, toList_append, hjoined]
    simp

lemma readNode_append (hsep : Separates ident) {id : String} (hid : IsName ident id) (labels : List String)
    (hlabels : ∀ l ∈ labels, IsName ident l) (rest : List Char) :
    readNode ident ('(' :: (id.toList ++ (labels.flatMap (fun l => ':' :: l.toList) ++ ')' :: rest))) =
      some (id, rest) := by
  have hstop : Stops ident (labels.flatMap (fun l => ':' :: l.toList) ++ ')' :: rest) := by
    cases labels with
    | nil => exact hsep.stops (by decide) rest
    | cons l labels => exact hsep.stops (by decide) _
  have hclose : Stops ident (')' :: rest) := hsep.stops (by decide) rest
  have hread := readSeparated_append hlabels (hsep ':' (by decide)) hclose (stops_cons (by decide) rest)
    (length_le_flatMap (fun l => ':' :: l.toList) labels (fun _ _ => cons_ne_nil _ _) (')' :: rest))
  simp only [readNode, expect, if_pos, readIdent_append hid hstop, hread, bind_eq_bind, bind_some]

lemma readNode_formatTopologyNode (hsep : Separates ident) {node : TopologyNode} (hid : IsName ident node.id)
    (hlabels : ∀ l ∈ shownLabels node, IsName ident l) (rest : List Char) :
    readNode ident ((formatTopologyNode node).toList ++ rest) = some (node.id, rest) := by
  have htext := readNode_append hsep hid (shownLabels node) hlabels rest
  rw [toList_formatTopologyNode]
  simpa using htext

lemma readNode_formatNodeNamed (hsep : Separates ident) {nodes : List TopologyNode}
    (hnodes : ∀ node ∈ nodes, ∀ l ∈ shownLabels node, IsName ident l) {id : String} (hid : IsName ident id)
    (rest : List Char) : readNode ident ((formatNodeNamed nodes id).toList ++ rest) = some (id, rest) := by
  rw [formatNodeNamed]
  cases hfound : nodes.reverse.find? fun n => n.id == id with
  | none =>
    have hbare := readNode_append hsep hid [] (by simp) rest
    simpa using hbare
  | some node =>
    obtain rfl : node.id = id := by simpa using find?_some hfound
    have hmem : node ∈ nodes := mem_reverse.mp (mem_of_find?_eq_some hfound)
    exact readNode_formatTopologyNode hsep hid (hnodes node hmem) rest

lemma readNumber_toDigits (n : ℕ) : readNumber (Nat.toDigits 10 n) = some n := by
  rw [readNumber, if_neg Nat.toDigits_ne_nil, Nat.ofDigitChars_ten_toDigits]

lemma takeWhile_toDigits (n : ℕ) (rest : List Char) (hrest : Stops Char.isDigit rest) :
    (Nat.toDigits 10 n ++ rest).takeWhile Char.isDigit = Nat.toDigits 10 n :=
  takeWhile_append_of_stops (fun _ hc => Nat.isDigit_of_mem_toDigits (by decide) (by decide) hc) hrest

lemma readHops_exact (m : ℕ) (rest : List Char) :
    readHops ('*' :: (Nat.toDigits 10 m ++ ']' :: rest)) = ((some m, some m), ']' :: rest) := by
  have htake := takeWhile_toDigits m (']' :: rest) (stops_cons (by decide) rest)
  simp [readHops, htake, readNumber_toDigits]

lemma readHops_between (lower upper : List Char) (hlower : ∀ c ∈ lower, c.isDigit = true)
    (hupper : ∀ c ∈ upper, c.isDigit = true) (rest : List Char) :
    readHops ('*' :: (lower ++ '.' :: '.' :: (upper ++ ']' :: rest))) =
      ((readNumber lower, readNumber upper), ']' :: rest) := by
  have hfirst := takeWhile_append_of_stops hlower
    (stops_cons (c := '.') (by decide) ('.' :: (upper ++ ']' :: rest)))
  have hsecond := takeWhile_append_of_stops hupper (stops_cons (c := ']') (by decide) rest)
  simp [readHops, hfirst, hsecond]

lemma readHops_append (m n : Option ℕ) (rest : List Char) :
    readHops ((hopsStr m n).toList ++ ']' :: rest) = ((m, n), ']' :: rest) := by
  have hdigits (k : ℕ) : ∀ c ∈ Nat.toDigits 10 k, c.isDigit = true :=
    fun _ hc => Nat.isDigit_of_mem_toDigits (by decide) (by decide) hc
  cases m with
  | none =>
    cases n with
    | none => rfl
    | some n =>
      have hread := readHops_between [] (Nat.toDigits 10 n) (by simp) (hdigits n) rest
      rw [readNumber_toDigits] at hread
      simpa [hopsStr, toList_toString_nat, readNumber] using hread
  | some m =>
    cases n with
    | none =>
      have hread := readHops_between (Nat.toDigits 10 m) [] (hdigits m) (by simp) rest
      rw [readNumber_toDigits] at hread
      simpa [hopsStr, toList_toString_nat, readNumber] using hread
    | some n =>
      by_cases hmn : m = n
      · subst hmn
        have hread := readHops_exact m rest
        simpa [hopsStr, toList_toString_nat] using hread
      · have hread := readHops_between (Nat.toDigits 10 m) (Nat.toDigits 10 n) (hdigits m) (hdigits n) rest
        rw [readNumber_toDigits, readNumber_toDigits] at hread
        simpa [hopsStr, hmn, toList_toString_nat] using hread

structure ReadableEdge (ident : Char → Bool) (edge : TopologyEdge) : Prop where
  var : ∀ c ∈ (shownVariable edge.id).toList, ident c = true
  typed : edge.types ≠ []
  types : ∀ t ∈ edge.types, IsName ident t
  source : IsName ident edge.source
  target : IsName ident edge.target

lemma toList_edgeBody {edge : TopologyEdge} {first : String} {more : List String} (htypes : edge.types = first :: more) :
    (edgeBody edge).toList = (shownVariable edge.id).toList ++
      ':' :: (first.toList ++ (more.flatMap (fun t => '|' :: t.toList) ++
        (hopsStr edge.minHops edge.maxHops).toList)) := by
  have hshown : shownTypes edge = first :: more := by simp [shownTypes, htypes]
  have hjoined := toList_intercalate_cons "|" first more
  simp only [edgeBody, hshown, reduceCtorEq, if_false, toList_append, hjoined]
  simp

lemma readBracket_append (hsep : Separates ident) {edge : TopologyEdge} (hedge : ReadableEdge ident edge)
    (rest : List Char) : readBracket ident ('[' :: ((edgeBody edge).toList ++ ']' :: rest)) =
      some ((edge.types, edge.minHops, edge.maxHops), rest) := by
  obtain ⟨first, more, htypes⟩ := exists_cons_of_ne_nil hedge.typed
  have hnames : ∀ t ∈ first :: more, IsName ident t := htypes ▸ hedge.types
  obtain ⟨hfirst, hmore⟩ := forall_mem_cons.mp hnames
  let hops := (hopsStr edge.minHops edge.maxHops).toList ++ ']' :: rest
  have hstops : ∀ p : Char → Bool, p '*' = false → p ']' = false → Stops p hops := by
    intro p hstar hclose
    simp only [hops, hopsStr]
    split
    · split
      · simpa using stops_cons hstar _
      · simpa using stops_cons hstar _
    · simpa using stops_cons hstar _
    · simpa using stops_cons hstar _
    · simpa using stops_cons hclose _
  have hhops : Stops ident hops := hstops ident (hsep '*' (by decide)) (hsep ']' (by decide))
  have hstop : Stops ident ((more.flatMap fun t => '|' :: t.toList) ++ hops) := by
    cases more with
    | nil => exact hhops
    | cons t more => exact hsep.stops (by decide) _
  have hvariable := takeWhile_append_of_stops hedge.var
    (hsep.stops (c := ':') (by decide) (first.toList ++ ((more.flatMap fun t => '|' :: t.toList) ++ hops)))
  have hread := readSeparated_append hmore (hsep '|' (by decide)) hhops (hstops _ (by decide) (by decide))
    (length_le_flatMap (fun t => '|' :: t.toList) more (fun _ _ => cons_ne_nil _ _) hops)
  have hbounds := readHops_append edge.minHops edge.maxHops rest
  have htext : (edgeBody edge).toList ++ ']' :: rest = (shownVariable edge.id).toList ++
      ':' :: (first.toList ++ ((more.flatMap fun t => '|' :: t.toList) ++ hops)) := by
    rw [toList_edgeBody htypes]
    simp [hops]
  rw [htext, htypes]
  simp only [readBracket, hvariable, drop_left, readIdent_append hfirst hstop, hread, bind_eq_bind,
    bind_some]
  simp only [hops, hbounds, expect, if_pos, bind_some]

def arrowOf : Direction → Arrow
  | .outgoing => .right
  | .incoming => .left
  | .undirected => .none

lemma edgeBody_ne {edge : TopologyEdge} (hedge : ReadableEdge ident edge) : edgeBody edge ≠ "" := by
  intro hempty
  obtain ⟨first, more, htypes⟩ := exists_cons_of_ne_nil hedge.typed
  have htext := toList_edgeBody htypes
  rw [hempty] at htext
  simp at htext

lemma readEdge_append (hsep : Separates ident) {edge : TopologyEdge} (hedge : ReadableEdge ident edge)
    (hrest : Stops (· == '>') rest) : readEdge ident ((formatTopologyEdge edge).toList ++ rest) =
      some ((arrowOf edge.direction, edge.types, edge.minHops, edge.maxHops), rest) := by
  have hne := edgeBody_ne hedge
  have hbracket := readBracket_append hsep hedge
  cases hdirection : edge.direction with
  | outgoing | incoming => simp [formatTopologyEdge, hdirection, hne, readEdge, hbracket, expect, arrowOf]
  | undirected =>
    have hnext : ∀ cs, rest ≠ '>' :: cs := by
      rintro cs rfl
      simpa using hrest '>' rfl
    simp [formatTopologyEdge, hdirection, hne, readEdge, hbracket, expect, arrowOf]

variable (edge : TopologyEdge)

def shownEdge : PatternEdge :=
  match edge.direction with
  | .outgoing => ⟨edge.source, edge.target, true, {t | t ∈ edge.types}, edge.minHops, edge.maxHops⟩
  | .incoming => ⟨edge.target, edge.source, true, {t | t ∈ edge.types}, edge.minHops, edge.maxHops⟩
  | .undirected => ⟨edge.source, edge.target, false, {t | t ∈ edge.types}, edge.minHops, edge.maxHops⟩

def hopOf : Hop :=
  ⟨arrowOf edge.direction, edge.types, edge.minHops, edge.maxHops, edge.target⟩

lemma hopOf_edge : (hopOf edge).edge edge.source = shownEdge edge := by
  cases hdirection : edge.direction <;> simp [hopOf, Hop.edge, shownEdge, arrowOf, hdirection]

structure Link where
  start : String
  edges : List TopologyEdge

def Connected : String → List TopologyEdge → Prop
  | _, [] => True
  | current, edge :: edges => edge.source = current ∧ Connected edge.target edges

def lastOf (current : String) : List TopologyEdge → String
  | [] => current
  | edge :: edges => lastOf edge.target edges

lemma lastOf_append (current : String) (edges : List TopologyEdge) (edge : TopologyEdge) :
    lastOf current (edges ++ [edge]) = edge.target := by
  induction edges generalizing current with
  | nil => rfl
  | cons first edges ih => exact ih first.target

variable {edges : List TopologyEdge}

lemma Connected.append {current : String} {edge : TopologyEdge} (hedges : Connected current edges)
    (hnext : edge.source = lastOf current edges) :
    Connected current (edges ++ [edge]) := by
  induction edges generalizing current with
  | nil => exact ⟨hnext, trivial⟩
  | cons first edges ih => exact ⟨hedges.1, ih hedges.2 hnext⟩

lemma hopEdges_of_connected {current : String} (hedges : Connected current edges) :
    hopEdges current (edges.map hopOf) = edges.map shownEdge := by
  induction edges generalizing current with
  | nil => rfl
  | cons edge edges ih =>
    obtain ⟨rfl, hrest⟩ := hedges
    rw [map_cons, hopEdges, hopOf_edge, map_cons]
    congr 1
    exact ih hrest

namespace Link

variable (nodes : List TopologyNode)

def texts (link : Link) : List String :=
  formatNodeNamed nodes link.start ::
    link.edges.flatMap fun edge => [formatTopologyEdge edge, formatNodeNamed nodes edge.target]

def chain (link : Link) : Chain := ⟨link.start, link.edges.map hopOf⟩

lemma texts_append (link : Link) (edge : TopologyEdge) :
    link.texts nodes ++ [formatTopologyEdge edge, formatNodeNamed nodes edge.target] =
      texts nodes ⟨link.start, link.edges ++ [edge]⟩ := by
  simp [texts]

end Link

variable {nodes : List TopologyNode}

variable (nodes) in
lemma foldl_chainEdge (edges : List TopologyEdge) (written : List (List String)) (link : Link)
    (hlink : Connected link.start link.edges) (hne : link.edges ≠ []) :
    ∃ links : List Link,
      (edges.foldl (chainEdge nodes) ⟨written, link.texts nodes, some (lastOf link.start link.edges)⟩).closed =
        written ++ links.map (Link.texts nodes) ∧
      links.flatMap Link.edges = link.edges ++ edges ∧ ∀ l ∈ links, Connected l.start l.edges ∧ l.edges ≠ [] := by
  induction edges generalizing written link with
  | nil =>
    refine ⟨[link], ?_, by simp, by simpa using ⟨hlink, hne⟩⟩
    simp [Chaining.closed, Link.texts]
  | cons edge edges ih =>
    rw [foldl_cons, chainEdge]
    by_cases hnext : edge.source = lastOf link.start link.edges
    · obtain ⟨links, hclosed, hall, hlinks⟩ := ih written ⟨link.start, link.edges ++ [edge]⟩
        (hlink.append hnext) (by simp)
      refine ⟨links, ?_, by simpa using hall, hlinks⟩
      rw [lastOf_append] at hclosed
      simpa [hnext, Link.texts_append] using hclosed
    · obtain ⟨links, hclosed, hall, hlinks⟩ := ih (written ++ [link.texts nodes]) ⟨edge.source, [edge]⟩
        ⟨rfl, trivial⟩ (by simp)
      refine ⟨link :: links, ?_, by simpa using hall, by simpa using ⟨⟨hlink, hne⟩, hlinks⟩⟩
      simpa [Ne.symm hnext, Link.texts, lastOf] using hclosed

variable (nodes) in
lemma exists_links (edge : TopologyEdge) (edges : List TopologyEdge) :
    ∃ links : List Link, ((edge :: edges).foldl (chainEdge nodes) ⟨[], [], none⟩).closed =
        links.map (Link.texts nodes) ∧
      links.flatMap Link.edges = edge :: edges ∧ ∀ l ∈ links, Connected l.start l.edges ∧ l.edges ≠ [] := by
  have hlinks := foldl_chainEdge nodes edges [] ⟨edge.source, [edge]⟩ ⟨rfl, trivial⟩ (by simp)
  simpa [chainEdge, Link.texts, lastOf] using hlinks

def ReadsAs (ident : Char → Bool) (text : String) (chain : Chain) : Prop :=
  ∀ rest : List Char, (∀ c ∈ rest.head?, c = ',') → readChain ident (text.toList ++ rest) = some (chain, rest)

def hopText (nodes : List TopologyNode) (edge : TopologyEdge) : List Char :=
  (formatTopologyEdge edge).toList ++ (formatNodeNamed nodes edge.target).toList

lemma formatTopologyEdge_head : ∃ c cs, (formatTopologyEdge edge).toList = c :: cs ∧ (c = '<' ∨ c = '-') := by
  cases hdirection : edge.direction <;> simp [formatTopologyEdge, hdirection]

variable (nodes) in
lemma stops_formatNodeNamed (id : String) (rest : List Char) :
    Stops (· == '>') ((formatNodeNamed nodes id).toList ++ rest) := by
  rw [formatNodeNamed]
  split
  · rw [toList_formatTopologyNode]
    exact stops_cons (by decide) _
  · rw [toList_append, toList_append]
    exact stops_cons (by decide) _

lemma readHopsOf_append (hsep : Separates ident) (hnodes : ∀ node ∈ nodes, ∀ l ∈ shownLabels node, IsName ident l)
    (hedges : ∀ edge ∈ edges, ReadableEdge ident edge) (hrest : ∀ c ∈ rest.head?, c = ',') {fuel : ℕ}
    (hfuel : edges.length ≤ fuel) :
    readHopsOf ident fuel (edges.flatMap (hopText nodes) ++ rest) = some (edges.map hopOf, rest) := by
  induction edges generalizing fuel with
  | nil =>
    rw [flatMap_nil, nil_append]
    cases fuel with
    | zero => rfl
    | succ fuel =>
      cases rest with
      | nil => rfl
      | cons c rest =>
        obtain rfl : c = ',' := hrest c rfl
        rfl
  | cons edge edges ih =>
    obtain ⟨fuel, rfl⟩ := Nat.exists_eq_add_of_le' (Nat.one_le_of_lt hfuel)
    have hedge := hedges edge mem_cons_self
    have hmore := ih (fun e he => hedges e (mem_cons_of_mem edge he)) (Nat.le_of_succ_le_succ hfuel)
    have hnode := readNode_formatNodeNamed hsep hnodes hedge.target (edges.flatMap (hopText nodes) ++ rest)
    have hread := readEdge_append hsep hedge
      (stops_formatNodeNamed nodes edge.target (edges.flatMap (hopText nodes) ++ rest))
    obtain ⟨c, cs, hhead, hc⟩ := formatTopologyEdge_head edge
    rw [flatMap_cons, hopText, append_assoc, append_assoc]
    rw [hhead, cons_append] at hread ⊢
    simp only [readHopsOf, if_pos hc, hread, hnode, hmore, bind_eq_bind, bind_some, map_cons]
    rfl

lemma toList_join_texts (link : Link) : (join (link.texts nodes)).toList =
    (formatNodeNamed nodes link.start).toList ++ link.edges.flatMap (hopText nodes) := by
  simp [Link.texts, String.toList_join, flatMap_assoc]
  rfl

lemma Link.readsAs (hsep : Separates ident) (hnodes : ∀ node ∈ nodes, ∀ l ∈ shownLabels node, IsName ident l)
    {link : Link} (hstart : IsName ident link.start) (hedges : ∀ edge ∈ link.edges, ReadableEdge ident edge) :
    ReadsAs ident (join (link.texts nodes)) link.chain := by
  intro rest hrest
  have hnode := readNode_formatNodeNamed hsep hnodes hstart (link.edges.flatMap (hopText nodes) ++ rest)
  have hfuel : link.edges.length ≤ (link.edges.flatMap (hopText nodes) ++ rest).length := by
    apply length_le_flatMap
    intro edge _
    obtain ⟨c, cs, hhead, -⟩ := formatTopologyEdge_head edge
    simp [hopText, hhead]
  have hhops := readHopsOf_append hsep hnodes hedges hrest hfuel
  rw [toList_join_texts, append_assoc]
  simp only [readChain, hnode, hhops, bind_eq_bind, bind_some]
  rfl

lemma node_readsAs (hsep : Separates ident) {node : TopologyNode} (hid : IsName ident node.id)
    (hlabels : ∀ l ∈ shownLabels node, IsName ident l) :
    ReadsAs ident (formatTopologyNode node) ⟨node.id, []⟩ := by
  intro rest hrest
  have hnode := readNode_formatTopologyNode hsep hid hlabels rest
  have hhops : readHopsOf ident rest.length rest = some ([], rest) := by
    cases rest with
    | nil => rfl
    | cons c rest =>
      obtain rfl : c = ',' := hrest c rfl
      rfl
  simp only [readChain, hnode, hhops, bind_eq_bind, bind_some]

lemma readChains_intercalate {text : String} {chain : Chain} {texts : List String} {chains : List Chain}
    (hfirst : ReadsAs ident text chain) (hmore : List.Forall₂ (ReadsAs ident) texts chains) {fuel : ℕ}
    (hfuel : texts.length < fuel) :
    readChains ident fuel (", ".intercalate (text :: texts)).toList = some (chain :: chains) := by
  induction hmore generalizing text chain fuel with
  | nil =>
    obtain ⟨fuel, rfl⟩ := Nat.exists_eq_add_of_le' (Nat.one_le_of_lt hfuel)
    have hread := hfirst [] (by simp)
    rw [append_nil] at hread
    simp [readChains, hread]
  | @cons text' chain' texts chains hnext _ ih =>
    obtain ⟨fuel, rfl⟩ := Nat.exists_eq_add_of_le' (Nat.one_le_of_lt hfuel)
    have hrest := ih hnext (Nat.lt_of_succ_lt_succ hfuel)
    have hread := hfirst (',' :: ' ' :: (", ".intercalate (text' :: texts)).toList) (by simp)
    have htext : (", ".intercalate (text :: text' :: texts)).toList =
        text.toList ++ ',' :: ' ' :: (", ".intercalate (text' :: texts)).toList := by
      rw [String.intercalate_cons_cons, toList_append, toList_append, append_assoc]
      rfl
    rw [htext]
    simp only [readChains, hread, hrest, bind_eq_bind, bind_some, Option.map_eq_map, Option.map_some]

lemma readPatterns_intercalate {texts : List String} {chains : List Chain} (hne : texts ≠ [])
    (hreads : List.Forall₂ (ReadsAs ident) texts chains) :
    readPatterns ident (", ".intercalate texts) = some chains := by
  cases hreads with
  | nil => exact absurd rfl hne
  | @cons text chain texts chains hfirst hmore =>
    apply readChains_intercalate hfirst hmore
    have hcommas := length_le_flatMap (fun t : String => ", ".toList ++ t.toList) texts (by simp) []
    rw [← String.length_toList, toList_intercalate_cons, length_append]
    rw [append_nil] at hcommas
    omega

structure Readable (ident : Char → Bool) (topo : GraphTopology) : Prop where
  nodes_ne : topo.nodes ≠ []
  ids : ∀ node ∈ topo.nodes, IsName ident node.id
  labels : ∀ node ∈ topo.nodes, ∀ l ∈ shownLabels node, IsName ident l
  edges : ∀ edge ∈ topo.edges, ReadableEdge ident edge

lemma Readable.node_texts {topo : GraphTopology} (htopo : Readable ident topo) (hsep : Separates ident)
    (shown : List TopologyNode) (hshown : ∀ node ∈ shown, node ∈ topo.nodes) :
    List.Forall₂ (ReadsAs ident) (shown.map formatTopologyNode) (shown.map fun node => ⟨node.id, []⟩) := by
  rw [forall₂_map_left_iff, forall₂_map_right_iff, forall₂_same]
  intro node hnode
  have hmem := hshown node hnode
  exact node_readsAs hsep (htopo.ids node hmem) (htopo.labels node hmem)

lemma flatMap_edges_nodes (shown : List TopologyNode) :
    (shown.map fun node => (⟨node.id, []⟩ : Chain)).flatMap Chain.edges = [] := by
  simp [flatMap_eq_nil_iff, Chain.edges, hopEdges]

lemma Link.start_mem {link : Link} (hlink : Connected link.start link.edges) (hne : link.edges ≠ []) :
    ∃ edge ∈ link.edges, edge.source = link.start := by
  obtain ⟨edge, edges, hedges⟩ := exists_cons_of_ne_nil hne
  rw [hedges] at hlink ⊢
  exact ⟨edge, mem_cons_self, hlink.1⟩

lemma flatMap_chain_edges {links : List Link} (hlinks : ∀ l ∈ links, Connected l.start l.edges) :
    (links.map Link.chain).flatMap Chain.edges = (links.flatMap Link.edges).map shownEdge := by
  rw [flatMap_map, map_flatMap]
  apply flatMap_congr
  intro link hlink
  exact hopEdges_of_connected (hlinks link hlink)

theorem readPatterns_topologyToPatternStr (hsep : Separates ident) {topo : GraphTopology}
    (htopo : Readable ident topo) : ∃ chains, readPatterns ident (topologyToPatternStr topo) = some chains ∧
      chains.flatMap Chain.edges = topo.edges.map shownEdge := by
  rw [topologyToPatternStr, if_neg htopo.nodes_ne]
  cases hedges : topo.edges with
  | nil =>
    rw [if_pos rfl]
    refine ⟨topo.nodes.map fun node => ⟨node.id, []⟩, ?_, flatMap_edges_nodes topo.nodes⟩
    apply readPatterns_intercalate (by simpa using htopo.nodes_ne)
    exact htopo.node_texts hsep topo.nodes fun _ hnode => hnode
  | cons edge edges =>
    rw [if_neg (cons_ne_nil edge edges)]
    obtain ⟨links, hclosed, hall, hlinks⟩ := exists_links topo.nodes edge edges
    have hreadable : ∀ link ∈ links, ∀ e ∈ link.edges, ReadableEdge ident e := by
      intro link hlink e he
      apply htopo.edges
      rw [hedges, ← hall]
      exact mem_flatMap.mpr ⟨link, hlink, he⟩
    have hchains : List.Forall₂ (ReadsAs ident) (links.map fun l => join (l.texts topo.nodes))
        (links.map Link.chain) := by
      rw [forall₂_map_left_iff, forall₂_map_right_iff, forall₂_same]
      intro link hlink
      obtain ⟨hconnected, hne⟩ := hlinks link hlink
      obtain ⟨first, hfirst, hstart⟩ := Link.start_mem hconnected hne
      have hname := hstart ▸ (hreadable link hlink first hfirst).source
      exact Link.readsAs hsep htopo.labels hname (hreadable link hlink)
    have hisolated := htopo.node_texts hsep (isolated topo) fun _ hnode => (mem_filter.mp hnode).1
    have hne : links ≠ [] := by
      rintro rfl
      simp at hall
    have htexts : (links.map (Link.texts topo.nodes)).map join =
        links.map fun l => join (l.texts topo.nodes) := map_map
    refine ⟨links.map Link.chain ++ (isolated topo).map (fun node => ⟨node.id, []⟩), ?_, ?_⟩
    · rw [hclosed]
      dsimp only
      rw [htexts]
      apply readPatterns_intercalate
      · simpa using fun hnil => absurd hnil hne
      · exact rel_append hchains hisolated
    · rw [flatMap_append, flatMap_edges_nodes, append_nil, flatMap_chain_edges fun l hl => (hlinks l hl).1,
        hall]

end Voyager.GraphTable
