import Voyager.Builder.Labels
import Voyager.Emit.Basic
import Voyager.Lib.Intercalate

/-! Label expressions are read back from the texts that are written for them. -/

namespace Voyager

open String LabelToken

def Unicode.ExtendsAscii (unicode : Unicode) : Prop :=
  ∀ c : Char, c.toNat < 128 → unicode.isAlphanumeric c = c.isAlphanum

namespace LabelExpression

def holds (labels : Set String) : LabelExpression → Prop
  | label name => name ∈ labels
  | and l r => l.holds labels ∧ r.holds labels
  | or l r => l.holds labels ∨ r.holds labels
  | not e => ¬ e.holds labels
  | wildcard => labels.Nonempty

def Agrees (e e' : LabelExpression) : Prop := ∀ labels, e'.holds labels ↔ e.holds labels

def display : LabelExpression → String
  | label s => s
  | wildcard => "%"
  | not inner =>
    match inner with
    | and _ _ | or _ _ => "!(" ++ inner.display ++ ")"
    | _ => "!" ++ inner.display
  | and left right =>
    let l := left.display
    let r := right.display
    (if left.isOr then "(" ++ l ++ ")" else l) ++ " & " ++ (if right.isOr then "(" ++ r ++ ")" else r)
  | or left right => left.display ++ " | " ++ right.display

def Named (unicode : Unicode) : LabelExpression → Prop
  | label name => name ≠ "" ∧ (∀ c ∈ name.toList, isLabelWord unicode c = true) ∧ name.toUpper ≠ "AND" ∧
      name.toUpper ≠ "OR" ∧ name.toUpper ≠ "NOT"
  | and l r | or l r => l.Named unicode ∧ r.Named unicode
  | not e => e.Named unicode
  | wildcard => True

def isJoined : LabelExpression → Bool
  | and _ _ | or _ _ => true
  | _ => false

def parens (wrapped : Bool) (tokens : List LabelToken) : List LabelToken :=
  if wrapped then .lParen :: tokens ++ [.rParen] else tokens

def tokens : LabelExpression → List LabelToken
  | label name => [.ident name]
  | wildcard => [.wildcard]
  | not e => .not :: parens e.isJoined e.tokens
  | and l r => parens l.isOr l.tokens ++ .and :: parens r.isOr r.tokens
  | or l r => l.tokens ++ .or :: r.tokens

end LabelExpression

namespace LabelText

open Lib LabelExpression

/-! What the parser makes of an expression. A fuel of four for each token that is left is enough. -/

def ReadAsUnary (e : LabelExpression) : Prop :=
  ∀ rest fuel, 4 * (parens e.isJoined e.tokens ++ rest).length + 2 ≤ fuel →
    ∃ e', e.Agrees e' ∧ parseUnary fuel (parens e.isJoined e.tokens ++ rest) = .ok (e', rest)

structure ReadAsConjunct (e : LabelExpression) : Prop where
  first : ∀ rest fuel, 4 * (parens e.isOr e.tokens ++ rest).length + 3 ≤ fuel →
    ∃ e' fuel', e.Agrees e' ∧ 4 * rest.length + 3 ≤ fuel' ∧
      parseConjunction fuel (parens e.isOr e.tokens ++ rest) = parseAnds fuel' e' rest
  next : ∀ acc rest fuel, 4 * (parens e.isOr e.tokens ++ rest).length + 4 ≤ fuel →
    ∃ e' fuel', (acc.and e).Agrees e' ∧ 4 * rest.length + 3 ≤ fuel' ∧
      parseAnds fuel acc (.and :: (parens e.isOr e.tokens ++ rest)) = parseAnds fuel' e' rest

structure ReadAsDisjunct (e : LabelExpression) : Prop where
  first : ∀ rest fuel, rest.head? ≠ some .and → 4 * (e.tokens ++ rest).length + 4 ≤ fuel →
    ∃ e' fuel', e.Agrees e' ∧ 4 * rest.length + 4 ≤ fuel' ∧
      parseDisjunction fuel (e.tokens ++ rest) = parseOrs fuel' e' rest
  next : ∀ acc rest fuel, rest.head? ≠ some .and → 4 * (e.tokens ++ rest).length + 5 ≤ fuel →
    ∃ e' fuel', (acc.or e).Agrees e' ∧ 4 * rest.length + 4 ≤ fuel' ∧
      parseOrs fuel acc (.or :: (e.tokens ++ rest)) = parseOrs fuel' e' rest

section

variable {e l r : LabelExpression}

variable {rest : List LabelToken}

lemma parseAnds_stop {fuel : ℕ} (h : rest.head? ≠ some .and) (e : LabelExpression) :
    parseAnds fuel e rest = .ok (e, rest) := by
  cases fuel with
  | zero => rfl
  | succ fuel =>
    cases rest with
    | nil => rfl
    | cons token rest =>
      cases token with
      | and => exact absurd rfl h
      | _ => rfl

lemma parseOrs_stop {fuel : ℕ} (h : rest.head? ≠ some .or) (e : LabelExpression) :
    parseOrs fuel e rest = .ok (e, rest) := by
  cases fuel with
  | zero => rfl
  | succ fuel =>
    cases rest with
    | nil => rfl
    | cons token rest =>
      cases token with
      | or => exact absurd rfl h
      | _ => rfl

lemma tokens_pos (e : LabelExpression) : 1 ≤ e.tokens.length := by
  cases e with
  | and l r | or l r =>
    simp only [LabelExpression.tokens, List.length_append, List.length_cons]
    omega
  | _ => simp [LabelExpression.tokens]

lemma length_parens (wrapped : Bool) (tokens : List LabelToken) : tokens.length ≤ (parens wrapped tokens).length := by
  cases wrapped <;> simp [parens]
  omega

lemma ReadAsUnary.conjunct (he : ReadAsUnary e) (hwrap : e.isOr = e.isJoined) : ReadAsConjunct e := by
  have hparse : ∀ rest fuel, 4 * (parens e.isOr e.tokens ++ rest).length + 3 ≤ fuel →
      ∃ e' k, fuel = k + 1 ∧ e.Agrees e' ∧ 4 * rest.length + 3 ≤ k ∧
        parseUnary k (parens e.isOr e.tokens ++ rest) = .ok (e', rest) := by
    intro rest fuel hfuel
    rw [hwrap] at hfuel ⊢
    obtain ⟨e', hagrees, hok⟩ := he rest (fuel - 1) (by omega)
    have hpos := (tokens_pos e).trans (length_parens e.isJoined e.tokens)
    rw [List.length_append] at hfuel
    exact ⟨e', fuel - 1, by omega, hagrees, by omega, hok⟩
  constructor
  · intro rest fuel hfuel
    obtain ⟨e', k, rfl, hagrees, hk, hok⟩ := hparse rest fuel hfuel
    refine ⟨e', k, hagrees, hk, ?_⟩
    rw [parseConjunction, hok]
    rfl
  · intro acc rest fuel hfuel
    obtain ⟨e', k, rfl, hagrees, hk, hok⟩ := hparse rest fuel (by omega)
    refine ⟨.and acc e', k, fun labels => and_congr_right fun _ => hagrees labels, hk, ?_⟩
    rw [parseAnds, hok]
    rfl

lemma ReadAsConjunct.and (hl : ReadAsConjunct l) (hr : ReadAsConjunct r) : ReadAsConjunct (.and l r) := by
  have htokens : ∀ rest, parens (LabelExpression.and l r).isOr (LabelExpression.and l r).tokens ++ rest =
      parens l.isOr l.tokens ++ .and :: (parens r.isOr r.tokens ++ rest) := by
    intro rest
    simp [parens, isOr, LabelExpression.tokens]
  constructor
  · intro rest fuel hfuel
    rw [htokens] at hfuel ⊢
    obtain ⟨el, fuel₁, hagrees₁, hfuel₁, hok₁⟩ := hl.first _ fuel hfuel
    rw [List.length_cons] at hfuel₁
    obtain ⟨e', fuel₂, hagrees₂, hfuel₂, hok₂⟩ := hr.next el rest fuel₁ (by omega)
    refine ⟨e', fuel₂, fun labels => (hagrees₂ labels).trans ?_, hfuel₂, hok₁.trans hok₂⟩
    exact and_congr_left fun _ => hagrees₁ labels
  · intro acc rest fuel hfuel
    rw [htokens] at hfuel ⊢
    obtain ⟨el, fuel₁, hagrees₁, hfuel₁, hok₁⟩ := hl.next acc _ fuel hfuel
    rw [List.length_cons] at hfuel₁
    obtain ⟨e', fuel₂, hagrees₂, hfuel₂, hok₂⟩ := hr.next el rest fuel₁ (by omega)
    refine ⟨e', fuel₂, fun labels => (hagrees₂ labels).trans ?_, hfuel₂, hok₁.trans hok₂⟩
    exact (and_congr_left fun _ => hagrees₁ labels).trans and_assoc

lemma ReadAsConjunct.disjunct (he : ReadAsConjunct e) (hor : e.isOr = false) : ReadAsDisjunct e := by
  have hpos := tokens_pos e
  have hparse : ∀ rest fuel, rest.head? ≠ some .and → 4 * (e.tokens ++ rest).length + 4 ≤ fuel →
      ∃ e' k, fuel = k + 1 ∧ e.Agrees e' ∧ 4 * rest.length + 4 ≤ k ∧
        parseConjunction k (e.tokens ++ rest) = .ok (e', rest) := by
    intro rest fuel hrest hfuel
    have hfirst := he.first rest (fuel - 1)
    rw [hor] at hfirst
    obtain ⟨e', fuel', hagrees, -, hok⟩ := hfirst (Nat.le_sub_one_of_lt hfuel)
    rw [List.length_append] at hfuel
    exact ⟨e', fuel - 1, by omega, hagrees, by omega, hok.trans (parseAnds_stop hrest e')⟩
  constructor
  · intro rest fuel hrest hfuel
    obtain ⟨e', k, rfl, hagrees, hk, hok⟩ := hparse rest fuel hrest hfuel
    refine ⟨e', k, hagrees, hk, ?_⟩
    rw [parseDisjunction, hok]
    rfl
  · intro acc rest fuel hrest hfuel
    obtain ⟨e', k, rfl, hagrees, hk, hok⟩ := hparse rest fuel hrest (by omega)
    refine ⟨.or acc e', k, fun labels => or_congr_right (hagrees labels), hk, ?_⟩
    rw [parseOrs, hok]
    rfl

lemma ReadAsDisjunct.or (hl : ReadAsDisjunct l) (hr : ReadAsDisjunct r) : ReadAsDisjunct (.or l r) := by
  have htokens : ∀ rest, (LabelExpression.or l r).tokens ++ rest = l.tokens ++ .or :: (r.tokens ++ rest) := by
    intro rest
    simp [LabelExpression.tokens]
  have hhead : ∀ rest, (LabelToken.or :: (r.tokens ++ rest)).head? ≠ some .and := by simp
  constructor
  · intro rest fuel hrest hfuel
    rw [htokens] at hfuel ⊢
    obtain ⟨el, fuel₁, hagrees₁, hfuel₁, hok₁⟩ := hl.first _ fuel (hhead rest) hfuel
    obtain ⟨e', fuel₂, hagrees₂, hfuel₂, hok₂⟩ :=
      hr.next el rest fuel₁ hrest (by simp only [List.length_cons] at hfuel₁; omega)
    refine ⟨e', fuel₂, fun labels => (hagrees₂ labels).trans ?_, hfuel₂, hok₁.trans hok₂⟩
    exact or_congr_left (hagrees₁ labels)
  · intro acc rest fuel hrest hfuel
    rw [htokens] at hfuel ⊢
    obtain ⟨el, fuel₁, hagrees₁, hfuel₁, hok₁⟩ := hl.next acc _ fuel (hhead rest) hfuel
    obtain ⟨e', fuel₂, hagrees₂, hfuel₂, hok₂⟩ :=
      hr.next el rest fuel₁ hrest (by simp only [List.length_cons] at hfuel₁; omega)
    refine ⟨e', fuel₂, fun labels => (hagrees₂ labels).trans ?_, hfuel₂, hok₁.trans hok₂⟩
    exact (or_congr_left (hagrees₁ labels)).trans or_assoc

lemma ReadAsDisjunct.parsed (he : ReadAsDisjunct e) (rest : List LabelToken) (fuel : ℕ)
    (hand : rest.head? ≠ some .and) (hor : rest.head? ≠ some .or)
    (hfuel : 4 * (e.tokens ++ rest).length + 4 ≤ fuel) :
    ∃ e', e.Agrees e' ∧ parseDisjunction fuel (e.tokens ++ rest) = .ok (e', rest) := by
  obtain ⟨e', fuel', hagrees, -, hok⟩ := he.first rest fuel hand hfuel
  exact ⟨e', hagrees, hok.trans (parseOrs_stop hor e')⟩

lemma ReadAsDisjunct.parenthesized (he : ReadAsDisjunct e) (rest : List LabelToken) (fuel : ℕ)
    (hfuel : 4 * (parens true e.tokens ++ rest).length + 2 ≤ fuel) :
    ∃ e', e.Agrees e' ∧ parseUnary fuel (parens true e.tokens ++ rest) = .ok (e', rest) := by
  have htokens : parens true e.tokens ++ rest = .lParen :: (e.tokens ++ .rParen :: rest) := by
    simp [parens]
  rw [htokens] at hfuel ⊢
  rw [List.length_cons] at hfuel
  obtain ⟨fuel, rfl⟩ : ∃ k, fuel = k + 2 := ⟨fuel - 2, by omega⟩
  obtain ⟨e', hagrees, hok⟩ := he.parsed (.rParen :: rest) fuel (by simp) (by simp) (by omega)
  refine ⟨e', hagrees, ?_⟩
  rw [parseUnary, parsePrimary, hok]
  · rfl
  · simp

lemma ReadAsDisjunct.unary (he : ReadAsDisjunct e) (hjoined : e.isJoined = true) : ReadAsUnary e := by
  intro rest fuel hfuel
  rw [hjoined] at hfuel ⊢
  exact he.parenthesized rest fuel hfuel

lemma ReadAsUnary.read (he : ReadAsUnary e) (hor : e.isOr = false) (hjoined : e.isJoined = false) :
    ReadAsUnary e ∧ ReadAsConjunct e ∧ ReadAsDisjunct e := by
  have hconjunct := he.conjunct (hor.trans hjoined.symm)
  exact ⟨he, hconjunct, hconjunct.disjunct hor⟩

end

theorem read (e : LabelExpression) : ReadAsUnary e ∧ ReadAsConjunct e ∧ ReadAsDisjunct e := by
  induction e with
  | label | wildcard =>
    refine ReadAsUnary.read (fun rest fuel hfuel => ?_) rfl rfl
    obtain ⟨fuel, rfl⟩ : ∃ k, fuel = k + 1 := ⟨fuel - 1, by omega⟩
    refine ⟨_, fun _ => Iff.rfl, ?_⟩
    simp [parens, isJoined, LabelExpression.tokens, parseUnary, parsePrimary]
  | not e he =>
    refine ReadAsUnary.read (fun rest fuel hfuel => ?_) rfl rfl
    have htokens : parens (not e).isJoined (not e).tokens ++ rest =
      .not :: (parens e.isJoined e.tokens ++ rest) := rfl
    rw [htokens] at hfuel ⊢
    rw [List.length_cons] at hfuel
    obtain ⟨fuel, rfl⟩ : ∃ k, fuel = k + 1 := ⟨fuel - 1, by omega⟩
    obtain ⟨e', hagrees, hok⟩ := he.1 rest fuel (by omega)
    refine ⟨.not e', fun labels => not_congr (hagrees labels), ?_⟩
    rw [parseUnary, hok]
    rfl
  | and l r hl hr =>
    have hand := hl.2.1.and hr.2.1
    exact ⟨(hand.disjunct rfl).unary rfl, hand, hand.disjunct rfl⟩
  | or l r hl hr =>
    have hor := hl.2.2.or hr.2.2
    exact ⟨hor.unary rfl, (hor.unary rfl).conjunct rfl, hor⟩

variable {token : LabelToken}

section

variable (unicode : Unicode)

def Lexes (text : List Char) (tokens : List LabelToken) : Prop :=
  ∀ rest fuel, Stops (isLabelWord unicode) rest → (text ++ rest).length ≤ fuel → ∃ fuel', rest.length ≤ fuel' ∧
    tokenizeFrom unicode fuel (text ++ rest) = (tokens ++ ·) <$> tokenizeFrom unicode fuel' rest

def LexesFreely (text : List Char) (tokens : List LabelToken) : Prop :=
  ∀ rest fuel, (text ++ rest).length ≤ fuel → ∃ fuel', rest.length ≤ fuel' ∧
    tokenizeFrom unicode fuel (text ++ rest) = (tokens ++ ·) <$> tokenizeFrom unicode fuel' rest

variable {unicode} {text text' : List Char} {tokens tokens' : List LabelToken}

lemma Lexes.append (h : Lexes unicode text tokens) (h' : Lexes unicode text' tokens')
    (hstops : LexesFreely unicode text tokens ∨ ∀ rest, Stops (isLabelWord unicode) (text' ++ rest)) :
    Lexes unicode (text ++ text') (tokens ++ tokens') := by
  intro rest fuel hrest hfuel
  rw [List.append_assoc] at hfuel ⊢
  obtain ⟨fuel₁, hfuel₁, hok₁⟩ :=
    hstops.elim (fun h => h (text' ++ rest) fuel hfuel) fun hstops => h _ fuel (hstops rest) hfuel
  obtain ⟨fuel₂, hfuel₂, hok₂⟩ := h' rest fuel₁ hrest hfuel₁
  refine ⟨fuel₂, hfuel₂, ?_⟩
  rw [hok₁, hok₂, ← comp_map]
  congr 1
  funext ts
  simp

lemma LexesFreely.lexes (h : LexesFreely unicode text tokens) : Lexes unicode text tokens :=
  fun rest fuel _ hfuel => h rest fuel hfuel

lemma LexesFreely.append (h : LexesFreely unicode text tokens) (h' : Lexes unicode text' tokens') :
    Lexes unicode (text ++ text') (tokens ++ tokens') :=
  h.lexes.append h' (.inl h)

lemma LexesFreely.nil : LexesFreely unicode [] [] := by
  intro rest fuel hfuel
  exact ⟨fuel, hfuel, by simp⟩

lemma LexesFreely.sign {c : Char} (hsign : ofSign c = some token) (h : LexesFreely unicode text tokens) :
    LexesFreely unicode (c :: text) (token :: tokens) := by
  intro rest fuel hfuel
  obtain ⟨fuel, rfl⟩ := Nat.exists_eq_add_of_le' ((Nat.le_add_left 1 _).trans hfuel)
  have hgap : isLabelGap c = false := by
    unfold ofSign at hsign
    split at hsign <;> first | rfl | cases hsign
  obtain ⟨fuel', hfuel', hok⟩ := h rest fuel (Nat.le_of_succ_le_succ hfuel)
  refine ⟨fuel', hfuel', ?_⟩
  rw [List.cons_append, tokenizeFrom, hok]
  simp [hgap, hsign]

lemma LexesFreely.gap {c : Char} (hgap : isLabelGap c = true) (h : LexesFreely unicode text tokens) :
    LexesFreely unicode (c :: text) tokens := by
  intro rest fuel hfuel
  obtain ⟨fuel, rfl⟩ := Nat.exists_eq_add_of_le' ((Nat.le_add_left 1 _).trans hfuel)
  obtain ⟨fuel', hfuel', hok⟩ := h rest fuel (Nat.le_of_succ_le_succ hfuel)
  refine ⟨fuel', hfuel', ?_⟩
  rw [List.cons_append, tokenizeFrom, if_pos hgap, hok]

lemma Lexes.word {name : String} (hne : name ≠ "") (hword : ∀ c ∈ name.toList, isLabelWord unicode c = true)
    (hplain : ∀ c ∈ name.toList, isLabelGap c = false ∧ ofSign c = none ∧ c ≠ '`')
    (hident : ofWord name = .ident name) : Lexes unicode name.toList [.ident name] := by
  intro rest fuel hrest hfuel
  obtain ⟨c, cs, hname⟩ := List.exists_cons_of_ne_nil fun h => hne (String.toList_eq_nil_iff.mp h)
  have hofList : String.ofList (c :: cs) = name := by rw [← hname, ofList_toList]
  rw [hname] at hfuel hword hplain ⊢
  obtain ⟨hgap, hsign, hquote⟩ := hplain c List.mem_cons_self
  obtain ⟨hc, hcs⟩ := List.forall_mem_cons.mp hword
  obtain ⟨fuel, rfl⟩ := Nat.exists_eq_add_of_le' ((Nat.le_add_left 1 _).trans hfuel)
  refine ⟨fuel, ?_, ?_⟩
  · simp only [List.cons_append, List.length_cons, List.length_append] at hfuel
    omega
  · simp [tokenizeFrom, hgap, hsign, hquote, hc, takeWhile_append_of_stops hcs hrest, hofList, hident]

end

section

variable {unicode : Unicode} (hunicode : unicode.ExtendsAscii)
include hunicode

lemma not_word {c : Char} (hlt : c.toNat < 128) (hc : (c.isAlphanum || c == '_' || c == '-') = false) :
    isLabelWord unicode c = false := by
  rw [isLabelWord, hunicode c hlt]
  exact hc

lemma plain_of_word {c : Char} (hc : isLabelWord unicode c = true) :
    isLabelGap c = false ∧ ofSign c = none ∧ c ≠ '`' := by
  have hother : ∀ d : Char, d.toNat < 128 → (d.isAlphanum || d == '_' || d == '-') = false → c ≠ d := by
    rintro d hlt hd rfl
    rw [not_word hunicode hlt hd] at hc
    cases hc
  refine ⟨?_, ?_, hother _ (by decide) (by decide)⟩
  · simp only [isLabelGap, Bool.or_eq_false_iff, beq_eq_false_iff_ne]
    refine ⟨⟨⟨⟨?_, ?_⟩, ?_⟩, ?_⟩, ?_⟩ <;> exact hother _ (by decide) (by decide)
  · unfold ofSign
    split <;> first | rfl | exact absurd rfl (hother _ (by decide) (by decide))

end

def spell (conj disj : String) : LabelExpression → String
  | .label name => name
  | .wildcard => "%"
  | .not e => "!" ++ (if e.isJoined then "(" ++ spell conj disj e ++ ")" else spell conj disj e)
  | .and l r =>
    (if l.isOr then "(" ++ spell conj disj l ++ ")" else spell conj disj l) ++ conj ++
      (if r.isOr then "(" ++ spell conj disj r ++ ")" else spell conj disj r)
  | .or l r => spell conj disj l ++ disj ++ spell conj disj r

lemma not_joined (text : String) : "!(" ++ text ++ ")" = "!" ++ ("(" ++ text ++ ")") := by
  have hsigns : "!(" = "!" ++ "(" := rfl
  rw [hsigns]
  simp only [append_assoc]

lemma display_eq_spell (e : LabelExpression) : e.display = spell " & " " | " e := by
  induction e with
  | label | wildcard => rfl
  | not e he =>
    rw [spell, ← he]
    cases e with
    | and l r | or l r => exact not_joined _
    | _ => rfl
  | and l r hl hr | or l r hl hr => simp [display, spell, hl, hr]

lemma formatCypherLabelExpr_eq_spell (e : LabelExpression) : formatCypherLabelExpr e = spell "&" "|" e := by
  induction e with
  | label | wildcard => rfl
  | not e he =>
    rw [spell, ← he]
    cases e with
    | and l r | or l r => exact not_joined _
    | _ => rfl
  | and l r hl hr | or l r hl hr => simp [formatCypherLabelExpr, spell, hl, hr]

section

variable {unicode : Unicode} (hunicode : unicode.ExtendsAscii)
include hunicode

lemma Lexes.name {name : String} (hname : (label name).Named unicode) : Lexes unicode name.toList [.ident name] := by
  obtain ⟨hne, hword, hand, hor, hnot⟩ := hname
  refine Lexes.word hne hword (fun c hc => plain_of_word hunicode (hword c hc)) ?_
  unfold ofWord
  split <;> first | rfl | contradiction

lemma Lexes.parens {text : String} {tokens : List LabelToken} (h : Lexes unicode text.toList tokens)
    (wrapped : Bool) :
    Lexes unicode (if wrapped then "(" ++ text ++ ")" else text).toList (parens wrapped tokens) := by
  cases wrapped with
  | false => exact h
  | true =>
    have hopen : LexesFreely unicode ['('] [.lParen] := .sign rfl .nil
    have hclose : LexesFreely unicode [')'] [.rParen] := .sign rfl .nil
    have hend := not_word hunicode (c := ')') (by decide) (by decide)
    have hbody := h.append hclose.lexes (.inr fun rest => stops_cons hend rest)
    have htext : (if true = true then "(" ++ text ++ ")" else text).toList = ['('] ++ (text.toList ++ [')']) := by
      simp
    rw [htext]
    exact hopen.append hbody

structure Signs (unicode : Unicode) (sign : String) (token : LabelToken) : Prop where
  lexes : LexesFreely unicode sign.toList [token]
  stops : ∀ rest, Stops (isLabelWord unicode) (sign.toList ++ rest)

omit hunicode in
lemma Signs.between {sign : String} {token : LabelToken} (hsign : Signs unicode sign token) {left right : String}
    {ts ts' : List LabelToken} (hleft : Lexes unicode left.toList ts) (hright : Lexes unicode right.toList ts') :
    Lexes unicode (left ++ sign ++ right).toList (ts ++ token :: ts') := by
  rw [append_assoc, toList_append, toList_append]
  refine hleft.append (hsign.lexes.append hright) (.inr fun rest => ?_)
  rw [List.append_assoc]
  exact hsign.stops _

lemma signs_bare {c : Char} (hlt : c.toNat < 128) (hc : (c.isAlphanum || c == '_' || c == '-') = false)
    (hsign : ofSign c = some token) :
    Signs unicode (String.ofList [c]) token := by
  constructor
  · rw [toList_ofList]
    exact .sign hsign .nil
  · intro rest
    rw [toList_ofList]
    exact stops_cons (not_word hunicode hlt hc) rest

lemma signs_spaced {c : Char} (hsign : ofSign c = some token) :
    Signs unicode (String.ofList [' ', c, ' ']) token := by
  constructor
  · rw [toList_ofList]
    exact .gap rfl (.sign hsign (.gap rfl .nil))
  · intro rest
    rw [toList_ofList]
    exact stops_cons (not_word hunicode (by decide) (by decide)) _

theorem lexes_spell {conj disj : String} (hconj : Signs unicode conj .and) (hdisj : Signs unicode disj .or)
    (e : LabelExpression) (hnamed : e.Named unicode) : Lexes unicode (spell conj disj e).toList e.tokens := by
  induction e with
  | label name => exact .name hunicode hnamed
  | wildcard =>
    have hsign : LexesFreely unicode "%".toList [.wildcard] := .sign rfl .nil
    exact hsign.lexes
  | not e he =>
    have hnot : LexesFreely unicode "!".toList [.not] := .sign rfl .nil
    rw [spell, toList_append]
    exact hnot.append ((he hnamed).parens hunicode e.isJoined)
  | and l r hl hr =>
    exact hconj.between ((hl hnamed.1).parens hunicode l.isOr) ((hr hnamed.2).parens hunicode r.isOr)
  | or l r hl hr => exact hdisj.between (hl hnamed.1) (hr hnamed.2)

lemma lexes_display {e : LabelExpression} (hnamed : e.Named unicode) : Lexes unicode e.display.toList e.tokens := by
  rw [display_eq_spell]
  exact lexes_spell hunicode (signs_spaced hunicode (c := '&') rfl) (signs_spaced hunicode (c := '|') rfl) e hnamed

lemma lexes_formatCypherLabelExpr {e : LabelExpression} (hnamed : e.Named unicode) :
    Lexes unicode (formatCypherLabelExpr e).toList e.tokens := by
  rw [formatCypherLabelExpr_eq_spell]
  exact lexes_spell hunicode (signs_bare hunicode (c := '&') (by decide) (by decide) rfl)
    (signs_bare hunicode (c := '|') (by decide) (by decide) rfl) e hnamed

end

lemma intercalate_conjunctionLabels {e : LabelExpression} (he : e.isSimpleConjunction = true) :
    e.collectConjunctionLabels ≠ [] ∧ "&".intercalate e.collectConjunctionLabels = formatCypherLabelExpr e := by
  induction e with
  | label name => simp [collectConjunctionLabels, formatCypherLabelExpr]
  | and l r hl hr =>
    simp only [isSimpleConjunction, Bool.and_eq_true] at he
    obtain ⟨hl₀, hl⟩ := hl he.1
    obtain ⟨hr₀, hr⟩ := hr he.2
    have hplain : ∀ e : LabelExpression, e.isSimpleConjunction = true → e.isOr = false := by
      intro e he
      cases e <;> simp_all [isOr, isSimpleConjunction]
    refine ⟨by simp [collectConjunctionLabels, hl₀], ?_⟩
    rw [collectConjunctionLabels, intercalate_append _ hl₀ hr₀, hl, hr]
    simp [formatCypherLabelExpr, hplain l he.1, hplain r he.2]
  | _ => simp [isSimpleConjunction] at he

lemma intercalate_disjunctionLabels {e : LabelExpression} (he : e.isSimpleDisjunction = true) :
    e.collectDisjunctionLabels ≠ [] ∧ "|".intercalate e.collectDisjunctionLabels = formatCypherLabelExpr e := by
  induction e with
  | label name => simp [collectDisjunctionLabels, formatCypherLabelExpr]
  | or l r hl hr =>
    simp only [isSimpleDisjunction, Bool.and_eq_true] at he
    obtain ⟨hl₀, hl⟩ := hl he.1
    obtain ⟨hr₀, hr⟩ := hr he.2
    refine ⟨by simp [collectDisjunctionLabels, hl₀], ?_⟩
    rw [collectDisjunctionLabels, intercalate_append _ hl₀ hr₀, hl, hr, formatCypherLabelExpr]
  | _ => simp [isSimpleDisjunction] at he

lemma emitGqlNodeLabels_eq (e : LabelExpression) : emitGqlNodeLabels (some e) = formatComplexLabels e := by
  rw [emitGqlNodeLabels, toConjunctionLabels]
  by_cases he : e.isSimpleConjunction = true
  · have hor : e.isOr = false := by cases e <;> simp_all [isOr, isSimpleConjunction]
    rw [if_pos he]
    simp [formatComplexLabels, hor, (intercalate_conjunctionLabels he).2]
  · rw [if_neg he]

lemma emitEdgeLabels_eq (e : LabelExpression) : emitEdgeLabels (some e) = ":" ++ formatCypherLabelExpr e := by
  rw [emitEdgeLabels, toDisjunctionLabels]
  by_cases he : e.isSimpleDisjunction = true
  · rw [if_pos he]
    simp [(intercalate_disjunctionLabels he).2]
  · rw [if_neg he]

section

variable {unicode : Unicode}

lemma tokenize_of_lexes {text : String} {tokens : List LabelToken} (h : Lexes unicode text.toList tokens) :
    tokenizeLabelExpr unicode text = .ok tokens := by
  have hstops : Stops (isLabelWord unicode) [] := by
    intro c hc
    cases hc
  obtain ⟨fuel, -, hok⟩ := h [] text.length hstops (by simp [length_toList])
  have hnil : tokenizeFrom unicode fuel [] = .ok [] := by cases fuel <;> rfl
  rw [hnil, List.append_nil] at hok
  rw [tokenizeLabelExpr, hok]
  simp

lemma parseDisjunction_parens (e : LabelExpression) (wrapped : Bool) :
    ∃ e', e.Agrees e' ∧ parseDisjunction (4 * (parens wrapped e.tokens).length + 4) (parens wrapped e.tokens) =
      .ok (e', []) := by
  obtain ⟨-, -, hdisjunct⟩ := read e
  cases wrapped with
  | false =>
    obtain ⟨e', hagrees, hok⟩ := hdisjunct.parsed [] _ (by simp) (by simp) le_rfl
    rw [List.append_nil] at hok
    exact ⟨e', hagrees, hok⟩
  | true =>
    obtain ⟨e', hagrees, hok⟩ := hdisjunct.parenthesized [] (4 * (parens true e.tokens).length + 2) (by simp)
    rw [List.append_nil] at hok
    refine ⟨e', hagrees, ?_⟩
    rw [parseDisjunction, parseConjunction, hok]
    exact (congrArg (· >>= _) (parseAnds_stop (by simp) e')).trans (parseOrs_stop (by simp) e')

lemma parse_of_lexes {text : String} {e : LabelExpression} {wrapped : Bool}
    (h : Lexes unicode text.toList (parens wrapped e.tokens)) :
    ∃ e', e.Agrees e' ∧ parse unicode text = .ok e' := by
  obtain ⟨e', hagrees, hok⟩ := parseDisjunction_parens e wrapped
  have hempty : (parens wrapped e.tokens).isEmpty = false := by
    rw [List.isEmpty_eq_false_iff, ← List.length_pos_iff]
    exact (tokens_pos e).trans (length_parens wrapped e.tokens)
  refine ⟨e', hagrees, ?_⟩
  rw [parse, tokenize_of_lexes h]
  change (if (parens wrapped e.tokens).isEmpty = true then _ else _) = _
  rw [if_neg (by simp [hempty]), hok]
  rfl

end

end LabelText

namespace LabelExpression

open LabelText

theorem parse_printed (unicode : Unicode) (hunicode : unicode.ExtendsAscii) (e : LabelExpression)
    (hnamed : e.Named unicode) :
    ∀ text ∈ [e.display, emitGqlNodeLabels (some e), emitCypherEdgeLabels (some e), emitGqlEdgeLabels (some e)],
      ∃ e', parse unicode text = .ok e' ∧ ∀ labels, e'.holds labels ↔ e.holds labels := by
  have hcolon : LexesFreely unicode ":".toList [] := .gap rfl .nil
  have hformat := lexes_formatCypherLabelExpr hunicode hnamed
  have hdisplay : Lexes unicode e.display.toList (parens false e.tokens) := lexes_display hunicode hnamed
  have hnode : Lexes unicode (emitGqlNodeLabels (some e)).toList (parens e.isOr e.tokens) := by
    rw [emitGqlNodeLabels_eq, formatComplexLabels, toList_append]
    exact hcolon.append (hformat.parens hunicode e.isOr)
  have hedge : Lexes unicode (emitEdgeLabels (some e)).toList (parens false e.tokens) := by
    rw [emitEdgeLabels_eq, toList_append]
    exact hcolon.append hformat
  have hread : ∀ {text wrapped}, Lexes unicode text.toList (parens wrapped e.tokens) →
      ∃ e', parse unicode text = .ok e' ∧ ∀ labels, e'.holds labels ↔ e.holds labels := by
    intro text wrapped htext
    obtain ⟨e', hagrees, hok⟩ := parse_of_lexes htext
    exact ⟨e', hok, hagrees⟩
  simp only [List.forall_mem_cons, List.not_mem_nil, IsEmpty.forall_iff, implies_true, and_true]
  exact ⟨hread hdisplay, hread hnode, hread hedge, hread hedge⟩

def person : LabelExpression := ((label "Person").or (label "Company")).and (((label "Bot-1").and wildcard).not)

theorem parse_printed_person : emitGqlNodeLabels (some person) = ":(Person|Company)&!(Bot-1&%)" ∧
    ∃ e', parse .ascii (emitGqlNodeLabels (some person)) = .ok e' ∧
      ∀ labels, e'.holds labels ↔ person.holds labels := by
  refine ⟨by decide, parse_printed .ascii (fun _ _ => rfl) _ ?_ _ (by simp)⟩
  simp only [person, Named, String.toUpper, ne_eq, ← toList_inj, toList_map, ← List.all_eq_true]
  decide

end LabelExpression

end Voyager
