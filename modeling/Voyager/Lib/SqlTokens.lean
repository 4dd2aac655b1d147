import Mathlib.Data.List.TakeWhile
import Mathlib.Tactic

/-! The tokens of a SQL text. A string stands in single quotes, and two quotes in it are one of its
characters; a name goes on over word characters and dollars, and one that starts with a dollar is a
placeholder. -/

namespace Voyager.Lib.Sql

open List

inductive Token where
  | string (content : List Char)
  | unclosed (content : List Char)
  | word (text : List Char)
  | placeholder (name : List Char)
  | symbol (c : Char)
deriving DecidableEq, Repr

inductive Mode where
  | code
  | name (text : List Char)
  | string (content : List Char)
  -- behind a quote in a string, which ends the string unless another quote follows
  | quote (content : List Char)
deriving DecidableEq, Repr

variable (word : Char → Bool)

def isName (c : Char) : Bool := word c || c = '$'

def ofName : List Char → Token
  | '$' :: name => .placeholder name
  | text => .word text

def enter (c : Char) : List Token × Mode :=
  if c = '\'' then ([], .string [])
  else if isName word c then ([], .name [c])
  else if c.isWhitespace then ([], .code)
  else ([.symbol c], .code)

def step : Mode → Char → List Token × Mode
  | .code, c => enter word c
  | .name text, c => if isName word c then ([], .name (text ++ [c])) else (ofName text :: (enter word c).1, (enter word c).2)
  | .string content, c => if c = '\'' then ([], .quote content) else ([], .string (content ++ [c]))
  | .quote content, c =>
    if c = '\'' then ([], .string (content ++ ['\'']))
    else (.string content :: (enter word c).1, (enter word c).2)

def flush : Mode → List Token
  | .code => []
  | .name text => [ofName text]
  | .string content => [.unclosed content]
  | .quote content => [.string content]

def lex : Mode → List Char → List Token
  | m, [] => flush m
  | m, c :: cs => (step word m c).1 ++ lex (step word m c).2 cs

attribute [local simp] lex step

def tokenize (text : List Char) : List Token := lex word .code text

def Token.front : Token → List Char
  | .string content | .unclosed content => '\'' :: content
  | .word text => text
  | .placeholder name => '$' :: name
  | .symbol c => [c]

@[simp] lemma front_ofName (text : List Char) : (ofName text).front = text := by
  unfold ofName
  split <;> rfl

variable {word}

lemma lex_quote_quote (content cs : List Char) :
    lex word (.quote content) ('\'' :: cs) = lex word (.string (content ++ ['\''])) cs := by
  simp

variable {content rest : List Char}

lemma lex_quote (h : rest.head? ≠ some '\'') :
    lex word (.quote content) rest = .string content :: lex word .code rest := by
  cases rest with
  | nil => rfl
  | cons c cs =>
    have hc : c ≠ '\'' := fun hc => h (by simp [hc])
    simp [hc]

variable {text : List Char}

lemma lex_name (h : ∀ c ∈ rest.head?, isName word c = false) :
    lex word (.name text) rest = ofName text :: lex word .code rest := by
  cases rest with
  | nil => rfl
  | cons c cs => simp [h c rfl]

lemma lex_name_append {more : List Char} (h : ∀ c ∈ more, isName word c = true) :
    lex word (.name text) (more ++ rest) = lex word (.name (text ++ more)) rest := by
  induction more generalizing text with
  | nil => simp
  | cons c cs ih =>
    have hstep : lex word (.name text) (c :: (cs ++ rest)) = lex word (.name (text ++ [c])) (cs ++ rest) := by
      simp [h c mem_cons_self]
    rw [cons_append, hstep, ih fun d hd => h d (mem_cons_of_mem _ hd), append_assoc,
      singleton_append]

lemma lex_string_cons {cs : List Char} {c : Char} (h : c ≠ '\'') :
    lex word (.string content) (c :: cs) = lex word (.string (content ++ [c])) cs := by
  simp [h]

lemma lex_string_quote (content cs : List Char) :
    lex word (.string content) ('\'' :: cs) = lex word (.quote content) cs := by
  simp

lemma lex_string_append {more : List Char} (h : '\'' ∉ more) :
    lex word (.string content) (more ++ rest) = lex word (.string (content ++ more)) rest := by
  induction more generalizing content with
  | nil => simp
  | cons c cs ih =>
    rw [mem_cons, not_or] at h
    rw [cons_append, lex_string_cons (Ne.symm h.1), ih h.2, append_assoc, singleton_append]

lemma lex_code_quote (cs : List Char) : lex word .code ('\'' :: cs) = lex word (.string []) cs := by
  simp [enter]

variable (word) in
lemma front_string (content text : List Char) :
    ∃ tok toks, lex word (.string content) text = tok :: toks ∧ '\'' :: content <+: tok.front := by
  induction hn : text.length using Nat.strong_induction_on generalizing content text with
  | h n ih =>
  cases text with
  | nil => exact ⟨.unclosed content, [], rfl, prefix_rfl⟩
  | cons c cs =>
    rw [length_cons] at hn
    by_cases hc : c = '\''
    · subst hc
      rw [lex_string_quote]
      by_cases hnext : cs.head? = some '\''
      · obtain ⟨ds, rfl⟩ : ∃ ds, cs = '\'' :: ds := ⟨_, eq_cons_of_mem_head? hnext⟩
        rw [length_cons] at hn
        obtain ⟨tok, toks, heq, hfront⟩ := ih ds.length (by omega) (content ++ ['\'']) ds rfl
        rw [lex_quote_quote]
        exact ⟨tok, toks, heq, (prefix_append ('\'' :: content) ['\'']).trans hfront⟩
      · exact ⟨.string content, _, lex_quote hnext, prefix_rfl⟩
    · obtain ⟨tok, toks, heq, hfront⟩ := ih cs.length (by omega) (content ++ [c]) cs rfl
      rw [lex_string_cons hc]
      exact ⟨tok, toks, heq, (prefix_append ('\'' :: content) [c]).trans hfront⟩

lemma lex_quote_ne (content cs : List Char) (toks : List Token) :
    lex word (.quote content) ('\'' :: cs) ≠ .string content :: toks := by
  obtain ⟨tok, rest, heq, hfront⟩ := front_string word (content ++ ['\'']) cs
  rw [lex_quote_quote, heq]
  rintro ⟨⟩
  have := hfront.length_le
  simp [Token.front] at this

lemma not_prefix_of_branch {β : Type} {a t : List β} {b c : β} (h : a ++ [b] <+: t) (hne : b ≠ c) :
    ¬ a ++ [c] <+: t := by
  intro h'
  obtain ⟨u, rfl⟩ := h
  rw [append_assoc, prefix_append_right_inj, singleton_append, cons_prefix_cons] at h'
  exact hne h'.1.symm

variable (word) in
lemma front_string_ne (content cs : List Char) {c : Char} (hc : c ≠ '$') :
    ∃ tok toks, lex word (.string content) (c :: cs) = tok :: toks ∧
      ¬ '\'' :: content ++ ['$'] <+: tok.front := by
  by_cases hq : c = '\''
  · subst hq
    rw [lex_string_quote]
    by_cases hnext : cs.head? = some '\''
    · obtain ⟨ds, rfl⟩ : ∃ ds, cs = '\'' :: ds := ⟨_, eq_cons_of_mem_head? hnext⟩
      obtain ⟨tok, toks, heq, hfront⟩ := front_string word (content ++ ['\'']) ds
      rw [lex_quote_quote]
      exact ⟨tok, toks, heq, not_prefix_of_branch hfront hc⟩
    · refine ⟨.string content, _, lex_quote hnext, fun h => ?_⟩
      have := h.length_le
      simp [Token.front] at this
  · obtain ⟨tok, toks, heq, hfront⟩ := front_string word (content ++ [c]) cs
    rw [lex_string_cons hq]
    exact ⟨tok, toks, heq, not_prefix_of_branch hfront hc⟩

variable {m : Mode}

section

variable (hquote : word '\'' = false)

include hquote

lemma lex_code_name (hne : text ≠ []) (h : ∀ c ∈ text, isName word c = true) :
    lex word .code (text ++ rest) = lex word (.name text) rest := by
  obtain ⟨c, cs, rfl⟩ := exists_cons_of_ne_nil hne
  have hc := h c mem_cons_self
  have hcq : c ≠ '\'' := by
    rintro rfl
    simp [isName, hquote] at hc
  have hstep : lex word .code (c :: (cs ++ rest)) = lex word (.name [c]) (cs ++ rest) := by
    simp [enter, hcq, hc]
  rw [cons_append, hstep, lex_name_append fun d hd => h d (mem_cons_of_mem _ hd),
    singleton_append]

lemma front_name_ne (cs : List Char) {c : Char} (h : ∀ d ∈ text, isName word d = true) (hc : c ≠ '$')
    (hspace : c.isWhitespace = false) :
    ∃ tok toks, lex word .code (text ++ c :: cs) = tok :: toks ∧ ¬ text ++ ['$'] <+: tok.front := by
  by_cases hname : isName word c = true
  · -- the name goes on with this character
    have htext : ∀ d ∈ text ++ c :: cs.takeWhile (isName word), isName word d = true := by
      intro d hd
      rcases List.mem_append.mp hd with hd | hd
      · exact h d hd
      · rcases List.mem_cons.mp hd with rfl | hd
        · exact hname
        · exact mem_takeWhile_imp hd
    have hrest : ∀ d ∈ (cs.dropWhile (isName word)).head?, isName word d = false := by
      intro d hd
      simpa [Option.mem_def.mp hd] using head?_dropWhile_not (isName word) cs
    have hsplit : text ++ c :: cs = (text ++ c :: cs.takeWhile (isName word)) ++ cs.dropWhile (isName word) := by
      simp [takeWhile_append_dropWhile]
    refine ⟨ofName (text ++ c :: cs.takeWhile (isName word)), lex word .code (cs.dropWhile (isName word)), ?_, ?_⟩
    · rw [hsplit, lex_code_name hquote (by simp) htext, lex_name hrest]
    · rw [front_ofName]
      exact not_prefix_of_branch ⟨cs.takeWhile (isName word), by simp⟩ hc
  · rw [Bool.not_eq_true] at hname
    by_cases htext : text = []
    · subst htext
      by_cases hq : c = '\''
      · subst hq
        obtain ⟨tok, toks, heq, hfront⟩ := front_string word [] cs
        rw [nil_append, lex_code_quote]
        exact ⟨tok, toks, heq, not_prefix_of_branch (a := []) hfront hc⟩
      · refine ⟨.symbol c, lex word .code cs, by simp [enter, hq, hname, hspace], ?_⟩
        exact not_prefix_of_branch (a := []) prefix_rfl hc
    · refine ⟨ofName text, lex word .code (c :: cs), ?_, fun hp => ?_⟩
      · rw [lex_code_name hquote htext h, lex_name (by simpa using hname)]
      · have := hp.length_le
        simp at this

def settle (m : Mode) (text : List Char) : List Token × Mode :=
  if text = [] then ([], m)
  else match m with
    | .string content => ([], .string (content ++ text))
    | .quote content => ([.string content, ofName text], .code)
    | .code | .name _ => ([ofName text], .code)

lemma lex_settle (hm : ∀ text, m ≠ .name text) (h : ∀ c ∈ text, isName word c = true)
    (hrest : ∀ c ∈ rest.head?, isName word c = false) :
    lex word m (text ++ rest) = (settle m text).1 ++ lex word (settle m text).2 rest := by
  by_cases hne : text = []
  · simp [hne, settle]
  have hcode : lex word .code (text ++ rest) = ofName text :: lex word .code rest := by
    rw [lex_code_name hquote hne h, lex_name hrest]
  have hfree : '\'' ∉ text := by
    intro hmem
    have := h _ hmem
    simp [isName, hquote] at this
  cases m with
  | code => simp [settle, hne, hcode]
  | name other => exact absurd rfl (hm other)
  | string content => simp [settle, hne, lex_string_append hfree]
  | quote content =>
    have hhead : (text ++ rest).head? ≠ some '\'' := by
      obtain ⟨c, cs, rfl⟩ := exists_cons_of_ne_nil hne
      rw [mem_cons, not_or] at hfree
      simpa using Ne.symm hfree.1
    simp [settle, hne, lex_quote hhead, hcode]

end

variable (hm : ∀ text, m ≠ .name text)

include hm

lemma settle_ne_name (text other : List Char) : (settle m text).2 ≠ .name other := by
  unfold settle
  split
  · exact hm other
  · cases m <;> simp

lemma step_plain {c : Char} (hc : isName word c = false) :
    (∀ text, (step word m c).2 ≠ .name text) ∧ ∀ tok ∈ (step word m c).1, ∀ name, tok ≠ .placeholder name := by
  have henter : (∀ text, (enter word c).2 ≠ .name text) ∧
      ∀ tok ∈ (enter word c).1, ∀ name, tok ≠ .placeholder name := by
    unfold enter
    split_ifs <;> simp_all
  cases m with
  | code => exact henter
  | name other => exact absurd rfl (hm other)
  | string content => by_cases hq : c = '\'' <;> simp [hq]
  | quote content =>
    by_cases hq : c = '\''
    · simp [hq]
    · simpa [hq] using henter

lemma flush_tokens : ∀ tok ∈ flush m, ∀ name, tok ≠ .placeholder name := by
  cases m with
  | name other => exact absurd rfl (hm other)
  | _ => simp [flush]

end Voyager.Lib.Sql
