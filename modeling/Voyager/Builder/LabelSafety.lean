import Voyager.Builder.LabelText
import Voyager.Emit.Cypher
import Voyager.Lib.CypherTokens

/-! The labels of a node pattern stay where they are written. -/

namespace Voyager

open Lib Lib.Cypher LabelText List Bool
open String (join toList_append)

/-- The tokens are those of a label expression: every parenthesis is closed, none is closed that was open before, and
an operand stands only where one is missing. -/
def inside : ℕ → Bool → List Token → Bool
  | depth, _, [] => depth = 0
  | depth, ended, .name _ :: rest => !ended && inside depth true rest
  | depth, ended, .sign c :: rest =>
    if c = '(' then !ended && inside (depth + 1) false rest
    else if c = ')' then depth ≠ 0 && inside (depth - 1) true rest
    else if c = '%' then !ended && inside depth true rest
    else if c = '!' then !ended && inside depth false rest
    else c ∈ [':', '&', '|'] && inside depth false rest

namespace LabelExpression

def names : LabelExpression → List String
  | label name => [name]
  | and l r | or l r => l.names ++ r.names
  | not e => e.names
  | wildcard => []

def wrap (wrapped : Bool) (tokens : List Token) : List Token :=
  if wrapped then .sign '(' :: (tokens ++ [.sign ')']) else tokens

/-- The tokens of the expression, with those that each name is read as on its own. -/
def read (a : Alphabet) (conj : Char) : LabelExpression → List Token
  | label name => tokenize a name
  | wildcard => [.sign '%']
  | not e => .sign '!' :: wrap e.isJoined (e.read a conj)
  | and l r => wrap l.isOr (l.read a conj) ++ .sign conj :: wrap r.isOr (r.read a conj)
  | or l r => l.read a conj ++ .sign '|' :: r.read a conj

/-- A name leaves no backquote open that a later one closes. -/
def QuotesApart (a : Alphabet) (names : List String) : Prop :=
  names.Pairwise fun name later => Closed a name.toList ∨ '`' ∉ later.toList

/-- The text is written for an expression with the names, and read as the tokens where each of them closes its
backquotes. -/
structure Spells (a : Alphabet) (names : List String) (text : List Char) (tokens : List Token) : Prop where
  reads : (∀ name ∈ names, Closed a name.toList) → Closed a text ∧ lex a .code text = tokens
  closed : QuotesApart a names → Closed a text → ∀ name ∈ names, Closed a name.toList
  plain : (∀ name ∈ names, '`' ∉ name.toList) → '`' ∉ text

variable {a : Alphabet} {names names' : List String} {text text' : List Char} {tokens tokens' : List Token} {c : Char}

lemma Spells.nil : Spells a [] [] [] := ⟨fun _ => ⟨rfl, rfl⟩, fun _ _ => nofun, fun _ => nofun⟩

lemma Spells.label (name : String) : Spells a [name] name.toList (tokenize a name) where
  reads h := ⟨h name mem_cons_self, rfl⟩
  closed _ h := forall_mem_singleton.mpr h
  plain h := h name mem_cons_self

lemma Spells.append (hc : IsSign c) (h : Spells a names text tokens) (h' : Spells a names' text' tokens') :
    Spells a (names ++ names') (text ++ c :: text') (tokens ++ .sign c :: tokens') := by
  constructor
  case reads =>
    intro hclosed
    obtain ⟨hnames, hnames'⟩ := forall_mem_append.mp hclosed
    obtain ⟨htext, rfl⟩ := h.reads hnames
    obtain ⟨htext', rfl⟩ := h'.reads hnames'
    exact ⟨(congrArg Mode.isQuoted (ends_append_sign hc htext)).trans htext', lex_append_sign hc htext⟩
  case closed =>
    intro hapart hclosed
    obtain ⟨hleft, hright, hcross⟩ := pairwise_append.mp hapart
    by_cases htext : Closed a text
    · have htext' : Closed a text' := by rwa [Closed, ends_append_sign hc htext] at hclosed
      exact forall_mem_append.mpr ⟨h.closed hleft htext, h'.closed hright htext'⟩
    · -- the quoted name that is begun in `text` swallows all that follows
      obtain ⟨name, hname, hopen⟩ : ∃ name ∈ names, ¬ Closed a name.toList := by
        by_contra hnone
        push Not at hnone
        exact htext (h.reads hnone).1
      have hplain := h'.plain fun later hlater => (hcross name hname later hlater).resolve_left hopen
      have hrest : '`' ∉ c :: text' := not_or.mpr ⟨hc.2.2.1.symm, hplain⟩ ∘ mem_cons.mp
      have hquoted := isQuoted_append (by simpa [Closed] using htext) hrest
      rw [Closed, hquoted] at hclosed
      cases hclosed
  case plain =>
    intro hplain
    obtain ⟨hnames, hnames'⟩ := forall_mem_append.mp hplain
    simp [h.plain hnames, h'.plain hnames', hc.2.2.1.symm]

lemma Spells.sign (hc : IsSign c) (h : Spells a names text tokens) : Spells a names (c :: text) (.sign c :: tokens) :=
  Spells.nil.append hc h

lemma Spells.wrap {text : String} (h : Spells a names text.toList tokens) (wrapped : Bool) :
    Spells a names (if wrapped then "(" ++ text ++ ")" else text).toList (wrap wrapped tokens) := by
  cases wrapped with
  | false => exact h
  | true =>
    have hclose := (h.append (c := ')') (by decide) .nil).sign (c := '(') (by decide)
    simpa [LabelExpression.wrap] using hclose

lemma spells_spell (hc : IsSign c) (e : LabelExpression) :
    Spells a e.names (spell (.singleton c) "|" e).toList (e.read a c) := by
  induction e with
  | label name => exact .label name
  | wildcard => simpa [spell, names, read] using (Spells.nil (a := a)).sign (c := '%') (by decide)
  | not e ih =>
    rw [spell, toList_append]
    exact (ih.wrap e.isJoined).sign (c := '!') (by decide)
  | and l r hl hr =>
    rw [spell, String.append_assoc, toList_append, toList_append, String.toList_singleton]
    exact (hl.wrap l.isOr).append hc (hr.wrap r.isOr)
  | or l r hl hr =>
    rw [spell, String.append_assoc, toList_append, toList_append]
    exact hl.append (c := '|') (by decide) hr

/-- A colon between labels reads as a conjunction. -/
def joint : Token → Token
  | .name text => .name text
  | .sign c => .sign (if c = ':' then '&' else c)

lemma inside_joint (tokens : List Token) (depth : ℕ) (ended : Bool) :
    inside depth ended (tokens.map joint) = inside depth ended tokens := by
  induction tokens generalizing depth ended with
  | nil => rfl
  | cons token tokens ih =>
    cases token with
    | name text => simp only [map_cons, joint, inside, ih]
    | sign c =>
      by_cases hc : c = ':'
      · subst hc
        simp [joint, inside, ih]
      · simp only [map_cons, joint, hc, if_false, inside, ih]

lemma map_joint_read (e : LabelExpression) : (e.read a ':').map joint = (e.read a '&').map joint := by
  have hwrap : ∀ wrapped tokens, (wrap wrapped tokens).map joint = wrap wrapped (tokens.map joint) := by
    intro wrapped tokens
    cases wrapped <;> simp [wrap, joint]
  induction e with
  | label | wildcard => rfl
  | not e he => simp only [read, map_cons, hwrap, he]
  | and l r hl hr =>
    simp only [read, map_append, map_cons, hwrap, hl, hr]
    rfl
  | or l r hl hr => simp only [read, map_append, map_cons, hl, hr]

lemma join_eq_spell {e : LabelExpression} (h : e.isSimpleConjunction = true) :
    e.isOr = false ∧ join (e.collectConjunctionLabels.map fun l => ":" ++ l) = ":" ++ spell ":" "|" e := by
  induction e with
  | label name => exact ⟨rfl, by simp [collectConjunctionLabels, spell, String.join]⟩
  | and l r hl hr =>
    obtain ⟨hsimple, hsimple'⟩ := Bool.and_eq_true_iff.mp h
    obtain ⟨hor, hjoin⟩ := hl hsimple
    obtain ⟨hor', hjoin'⟩ := hr hsimple'
    refine ⟨rfl, String.toList_injective ?_⟩
    rw [← String.toList_inj] at hjoin hjoin'
    simp only [String.toList_join, toList_append] at hjoin hjoin' ⊢
    simp [collectConjunctionLabels, spell, hor, hor', hjoin, hjoin']
  | _ => cases h

lemma spells_nodeLabels (a : Alphabet) (e : LabelExpression) :
    ∃ tokens, Spells a e.names (emitCypherNodeLabels (some e)).toList tokens ∧
      inside 0 false tokens = inside 0 false (wrap e.isOr (e.read a '&')) := by
  rw [emitCypherNodeLabels, toConjunctionLabels]
  split_ifs with hsimple
  · obtain ⟨hor, hjoin⟩ := join_eq_spell hsimple
    refine ⟨.sign ':' :: e.read a ':', ?_, ?_⟩
    · simp only [hjoin, toList_append]
      exact (spells_spell (c := ':') (by decide) e).sign (c := ':') (by decide)
    · rw [← inside_joint (wrap _ _), hor]
      simp [inside, wrap, ← map_joint_read, inside_joint]
  · refine ⟨.sign ':' :: wrap e.isOr (e.read a '&'), ?_, by simp [inside]⟩
    rw [formatComplexLabels, formatCypherLabelExpr_eq_spell, toList_append]
    exact ((spells_spell (c := '&') (by decide) e).wrap e.isOr).sign (c := ':') (by decide)

end LabelExpression

open LabelExpression

/-- Each name closes its backquotes, and the tokens that the names are read as keep to the parentheses and the operands
of the label expression. -/
def StaysInside (a : Alphabet) (e : LabelExpression) : Prop :=
  (∀ name ∈ e.names, Closed a name.toList) ∧ inside 0 false (wrap e.isOr (e.read a '&')) = true

theorem nodeLabels_inside (unicode : Unicode) (a : Alphabet) (labels : List String)
    (hquotes : ∀ e ∈ fromLabels unicode labels, QuotesApart a e.names) :
    let text := CypherEmitter.wording.nodeLabels (fromLabels unicode labels)
    Closed a text.toList ∧ inside 0 false (tokenize a text) = true ↔ ∀ e ∈ fromLabels unicode labels, StaysInside a e := by
  intro text
  cases hlabels : fromLabels unicode labels with
  | none =>
    have htext : text = "" := by simp only [text, hlabels]; rfl
    rw [htext]
    exact ⟨fun _ => nofun, fun _ => ⟨rfl, rfl⟩⟩
  | some e =>
    obtain ⟨tokens, hspells, hinside⟩ := spells_nodeLabels a e
    have htext : text = emitCypherNodeLabels (some e) := by simp only [text, hlabels]; rfl
    rw [htext]
    simp only [Option.mem_some_iff, forall_eq', StaysInside]
    constructor
    · rintro ⟨hclosed, htokens⟩
      have hnames := hspells.closed (hquotes e hlabels) hclosed
      rw [tokenize, (hspells.reads hnames).2, hinside] at htokens
      exact ⟨hnames, htokens⟩
    · rintro ⟨hnames, htokens⟩
      obtain ⟨hclosed, hlex⟩ := hspells.reads hnames
      rw [tokenize, hlex, hinside]
      exact ⟨hclosed, htokens⟩

def latin : Alphabet := ⟨asciiWord, fun _ _ => rfl⟩

theorem nodeLabels_inside_raw :
    let text := CypherEmitter.wording.nodeLabels (fromLabels .ascii ["A&", "(Person|Admin)&!B"])
    text = ":A&&(Person|Admin)&!B" ∧ Closed latin text.toList ∧ inside 0 false (tokenize latin text) = true := by
  have hlabels : fromLabels .ascii ["A&", "(Person|Admin)&!B"] =
      some (.and (.label "A&") (.and (.or (.label "Person") (.label "Admin")) (.not (.label "B")))) := by
    decide +kernel
  refine ⟨by decide +kernel, (nodeLabels_inside .ascii latin ["A&", "(Person|Admin)&!B"] ?_).mpr ?_⟩
  · rw [hlabels]
    rintro _ ⟨⟩
    unfold QuotesApart
    decide
  · rw [hlabels]
    rintro _ ⟨⟩
    unfold StaysInside
    decide

theorem nodeLabels_escape :
    CypherEmitter.wording.nodeLabels (fromLabels .ascii ["Person) DETACH DELETE (p"]) = ":Person) DETACH DELETE (p" ∧
      inside 0 false (tokenize latin ":Person) DETACH DELETE (p") = false := by
  decide +kernel

end Voyager
