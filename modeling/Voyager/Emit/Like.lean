import Voyager.Emit.SqlPgq
import Voyager.Optimizer.Literals

/-! The string predicates of SQL/PGQ: `LIKE` with a pattern put together from the right operand. -/

namespace Voyager.SqlPgqEmitter

open List Option

inductive LikeToken
  | any
  | one
  | char (c : Char)

def likeTokens : List Char → Option (List LikeToken)
  | [] => some []
  | '%' :: rest => (LikeToken.any :: ·) <$> likeTokens rest
  | '_' :: rest => (LikeToken.one :: ·) <$> likeTokens rest
  | '\\' :: [] => none
  | '\\' :: c :: rest => (LikeToken.char c :: ·) <$> likeTokens rest
  | c :: rest => (LikeToken.char c :: ·) <$> likeTokens rest

def matchesTokens : List LikeToken → List Char → Bool
  | [], text => text.isEmpty
  | .any :: tokens, text => text.tails.any (matchesTokens tokens)
  | .one :: tokens, text =>
    match text with
    | [] => false
    | _ :: text => matchesTokens tokens text
  | .char c :: tokens, text =>
    match text with
    | [] => false
    | d :: text => c = d && matchesTokens tokens text

attribute [local simp] matchesTokens likeTokens

def like (text pattern : List Char) : Bool := (likeTokens pattern).any (matchesTokens · text)

def Plain (text : List Char) : Prop := ∀ c ∈ text, c ≠ '%' ∧ c ≠ '_' ∧ c ≠ '\\'

variable {t : List Char}

lemma likeTokens_append (ht : Plain t) (rest : List Char) :
    likeTokens (t ++ rest) = (t.map .char ++ ·) <$> likeTokens rest := by
  induction t with
  | nil => simp
  | cons c t ih =>
    obtain ⟨⟨hpercent, hone, hescape⟩, ht⟩ := forall_mem_cons.mp ht
    rw [cons_append, likeTokens, ih ht]
    · simp [Function.comp_def]
    all_goals grind

lemma matchesTokens_chars (t : List Char) (tokens : List LikeToken) (text : List Char) :
    matchesTokens (t.map .char ++ tokens) text = true ↔ ∃ rest, text = t ++ rest ∧ matchesTokens tokens rest = true := by
  induction t generalizing text with
  | nil => simp
  | cons c t ih =>
    cases text with
    | nil => simp
    | cons d text =>
      simp only [map_cons, cons_append, matchesTokens, Bool.and_eq_true, decide_eq_true_eq, ih,
        List.cons.injEq]
      constructor
      · rintro ⟨rfl, rest, rfl, hrest⟩
        exact ⟨rest, ⟨rfl, rfl⟩, hrest⟩
      · rintro ⟨rest, ⟨rfl, rfl⟩, hrest⟩
        exact ⟨rfl, rest, rfl, hrest⟩

lemma matchesTokens_any (text : List Char) : matchesTokens [.any] text = true := by
  rw [matchesTokens, List.any_eq_true]
  exact ⟨[], (List.mem_tails _ _).mpr nil_suffix, rfl⟩

section

variable (ht : Plain t) (text : List Char)

include ht

lemma like_startsWith : like text (t ++ ['%']) = decide (t <+: text) := by
  rw [like, likeTokens_append ht, Bool.eq_iff_iff, decide_eq_true_eq]
  change matchesTokens (t.map .char ++ [.any]) text = true ↔ _
  simp only [matchesTokens_chars, matchesTokens_any, and_true]
  exact exists_congr fun _ => eq_comm

lemma like_contains : like text ('%' :: (t ++ ['%'])) = decide (t <:+: text) := by
  rw [like, likeTokens, likeTokens_append ht, Bool.eq_iff_iff, decide_eq_true_eq]
  change matchesTokens (.any :: (t.map .char ++ [.any])) text = true ↔ _
  rw [matchesTokens, List.any_eq_true, infix_iff_prefix_suffix]
  simp only [List.mem_tails, matchesTokens_chars, matchesTokens_any, and_true]
  exact exists_congr fun u => and_comm.trans (and_congr_left' (exists_congr fun _ => eq_comm))

lemma like_endsWith : like text ('%' :: t) = decide (t <:+ text) := by
  have htokens := likeTokens_append ht []
  rw [List.append_nil] at htokens
  rw [like, likeTokens, htokens, Bool.eq_iff_iff, decide_eq_true_eq]
  change matchesTokens (.any :: (t.map .char ++ [])) text = true ↔ _
  simp only [matchesTokens, List.any_eq_true, List.mem_tails, matchesTokens_chars, List.isEmpty_iff]
  constructor
  · rintro ⟨u, hu, rest, rfl, rfl⟩
    rwa [List.append_nil] at hu
  · intro h
    exact ⟨t, h, [], by simp⟩

end

/-- The shortest text that the operand matches as a pattern with more behind it. -/
def sample : List Char → List Char
  | [] => []
  | '%' :: rest => sample rest
  | '_' :: rest => 'a' :: sample rest
  | '\\' :: [] => ['%']
  | '\\' :: c :: rest => c :: sample rest
  | c :: rest => c :: sample rest

lemma matchesTokens_any_cons {tokens : List LikeToken} {text : List Char} (h : matchesTokens tokens text = true) :
    matchesTokens (.any :: tokens) text = true := by
  rw [matchesTokens, List.any_eq_true]
  exact ⟨text, (List.mem_tails _ _).mpr (suffix_refl text), h⟩

lemma matches_cons (token : LikeToken) (step : List Char → List Char) {pattern rest text : List Char}
    (htoken : ∀ more, likeTokens (pattern ++ more) = (token :: ·) <$> likeTokens (rest ++ more))
    (hstep : ∀ tokens, matchesTokens tokens text = true → matchesTokens (token :: tokens) (step text) = true)
    (h : (∃ tokens, likeTokens (rest ++ ['%']) = some tokens ∧ matchesTokens tokens text = true) ∧
      ∀ tokens, likeTokens rest = some tokens → matchesTokens tokens text = true) :
    (∃ tokens, likeTokens (pattern ++ ['%']) = some tokens ∧ matchesTokens tokens (step text) = true) ∧
      ∀ tokens, likeTokens pattern = some tokens → matchesTokens tokens (step text) = true := by
  obtain ⟨⟨tokens, htokens, hmatches⟩, hall⟩ := h
  have hnone := htoken []
  rw [List.append_nil, List.append_nil] at hnone
  refine ⟨⟨token :: tokens, by rw [htoken, htokens]; rfl, hstep tokens hmatches⟩, fun tokens' h => ?_⟩
  rw [hnone, Option.map_eq_map, Option.map_eq_some_iff] at h
  obtain ⟨tokens, htokens, rfl⟩ := h
  exact hstep tokens (hall tokens htokens)

lemma plain_singleton {c : Char} {rest : List Char} (hpercent : c = '%' → False) (hone : c = '_' → False)
    (hlast : c = '\\' → rest = [] → False) (hescape : ∀ d more, c = '\\' → rest = d :: more → False) : Plain [c] := by
  have hback : c ≠ '\\' := by
    intro h
    cases rest with
    | nil => exact hlast h rfl
    | cons d more => exact hescape d more h rfl
  exact forall_mem_singleton.mpr ⟨hpercent, hone, hback⟩

lemma matches_sample (t : List Char) :
    (∃ tokens, likeTokens (t ++ ['%']) = some tokens ∧ matchesTokens tokens (sample t) = true) ∧
      ∀ tokens, likeTokens t = some tokens → matchesTokens tokens (sample t) = true := by
  fun_induction sample t with
  | case1 => exact ⟨⟨[.any], rfl, matchesTokens_any []⟩, by simp⟩
  | case2 rest ih => exact matches_cons .any id (fun _ => rfl) (fun _ => matchesTokens_any_cons) ih
  | case3 rest ih => exact matches_cons .one ('a' :: ·) (fun _ => rfl) (fun _ h => h) ih
  | case4 => exact ⟨⟨[.char '%'], rfl, rfl⟩, by simp⟩
  | case5 c rest ih => exact matches_cons (.char c) (c :: ·) (fun _ => rfl) (fun _ h => by simpa using h) ih
  | case6 c rest hpercent hone hlast hescape ih =>
    have hplain := plain_singleton hpercent hone hlast hescape
    exact matches_cons (.char c) (c :: ·) (fun more => likeTokens_append hplain (rest ++ more))
      (fun _ h => by simpa using h) ih

lemma length_sample (t : List Char) : (sample t).length ≤ t.length := by
  fun_induction sample t <;> grind

lemma plain_of_sample_eq {t : List Char} (h : sample t = t) : Plain t := by
  fun_induction sample t with
  | case1 => simp [Plain]
  | case2 rest ih =>
    have hlength := length_sample rest
    rw [h, length_cons] at hlength
    omega
  | case3 rest ih => simp at h
  | case4 => simp at h
  | case5 c rest ih =>
    have hlength := congrArg length h
    have := length_sample rest
    simp only [length_cons] at hlength
    omega
  | case6 c rest hpercent hone hlast hescape ih =>
    exact forall_mem_cons.mpr ⟨plain_singleton hpercent hone hlast hescape c mem_cons_self, ih (List.cons.inj h).2⟩

/-- A text that the operand's own characters match although it is not longer than the operand. -/
lemma plain_of_infix_sample (h : t <:+: sample t) : Plain t :=
  plain_of_sample_eq (h.eq_of_length_le (length_sample t)).symm

lemma like_sample (t : List Char) : like (sample t) (t ++ ['%']) = true ∧ like (sample t) ('%' :: (t ++ ['%'])) = true := by
  obtain ⟨⟨tokens, htokens, hmatches⟩, -⟩ := matches_sample t
  constructor
  · simp [like, htokens, hmatches]
  · rw [like, likeTokens, htokens]
    exact matchesTokens_any_cons hmatches

lemma plain_of_like_endsWith (h : ∀ text, like text ('%' :: t) = decide (t <:+ text)) : Plain t := by
  cases htokens : likeTokens t with
  | none =>
    have hself := h t
    simp [like, htokens] at hself
  | some tokens =>
    have hsample := h (sample t)
    rw [like, likeTokens, htokens, eq_comm] at hsample
    have hmatches := matchesTokens_any_cons ((matches_sample t).2 tokens htokens)
    exact plain_of_infix_sample (of_decide_eq_true (hsample.trans hmatches)).isInfix

def likePattern (op : BinaryOp) (t : List Char) : List Char :=
  match op with
  | .contains => '%' :: (t ++ ['%'])
  | .startsWith => t ++ ['%']
  | _ => '%' :: t

def occurs (op : BinaryOp) (t text : List Char) : Bool :=
  match op with
  | .contains => decide (t <:+: text)
  | .startsWith => decide (t <+: text)
  | _ => decide (t <:+ text)

lemma like_eq_occurs_iff {op : BinaryOp} (hop : op = .contains ∨ op = .startsWith ∨ op = .endsWith) (t : List Char) :
    (∀ text, like text (likePattern op t) = occurs op t text) ↔ Plain t := by
  obtain ⟨hstart, hinfix⟩ := like_sample t
  rcases hop with rfl | rfl | rfl
  · exact ⟨fun h => plain_of_infix_sample (of_decide_eq_true ((h (sample t)).symm.trans hinfix)), like_contains⟩
  · exact ⟨fun h => plain_of_infix_sample (of_decide_eq_true ((h (sample t)).symm.trans hstart)).isInfix, like_startsWith⟩
  · exact ⟨plain_of_like_endsWith, like_endsWith⟩

variable (parameters : Parameters)

def operandValue (word : List Char) : Option (List Char) :=
  match word with
  | '$' :: name =>
    match parameters.lookup (String.ofList name) with
    | some (.string s) => some s.toList
    | _ => none
  | '\'' :: rest => if rest.getLast? = some '\'' then some rest.dropLast else none
  | _ => none

def concatenation (parameters : Parameters) : List (List Char) → Option (List Char)
  | [word] => operandValue parameters word
  | word :: ['|', '|'] :: rest => do return (← operandValue parameters word) ++ (← concatenation parameters rest)
  | _ => none

def evalLike (sql : String) : Option Bool :=
  match sql.toList.splitOn ' ' with
  | subject :: ['L', 'I', 'K', 'E'] :: rest => do
    return like (← operandValue parameters subject) (← concatenation parameters rest)
  | _ => none

def sqlValue (s : String) (op : BinaryOp) (t : String) : Option Bool :=
  let arena : QueryAstArena := ⟨[.literal (.string s), .literal (.string t), .binaryExpression 0 op 1]⟩
  match (callees arena 2).expression 2 false Emitter.new with
  | .ok (_, e) => evalLike e.parameters e.buffer
  | .error _ => none

def bothStrings (s t : String) : Parameters :=
  ((∅ : Parameters).insert (placeholderName 0) (.string s)).insert (placeholderName 1) (.string t)

lemma sqlValue_eq (s : String) (op : BinaryOp) (t : String) : sqlValue s op t =
    evalLike (bothStrings s t) ("" ++ "" ++ ("$" ++ placeholderName 0) ++ (aroundRight op).1 ++
      ("$" ++ placeholderName 1) ++ (aroundRight op).2 ++ "") := rfl

lemma operandValue_left (s t : String) : operandValue (bothStrings s t) ['$', 'p', '0'] = some s.toList := by
  have hlookup : (bothStrings s t).lookup (String.ofList ['p', '0']) = some (.string s) := by
    rw [bothStrings, AList.lookup_insert_ne (by decide)]
    exact AList.lookup_insert _
  simp only [operandValue, hlookup]

lemma operandValue_right (s t : String) : operandValue (bothStrings s t) ['$', 'p', '1'] = some t.toList := by
  have hlookup : (bothStrings s t).lookup (String.ofList ['p', '1']) = some (.string t) := AList.lookup_insert _
  simp only [operandValue, hlookup]

lemma sqlValue_of_words {s t : String} {op : BinaryOp} (rest : List (List Char)) {pattern : List Char}
    (hwords : ("" ++ "" ++ ("$" ++ placeholderName 0) ++ (aroundRight op).1 ++ ("$" ++ placeholderName 1) ++
      (aroundRight op).2 ++ "").toList.splitOn ' ' = ['$', 'p', '0'] :: ['L', 'I', 'K', 'E'] :: rest)
    (hrest : concatenation (bothStrings s t) rest = some pattern) : sqlValue s op t = some (like s.toList pattern) := by
  rw [sqlValue_eq, evalLike, hwords]
  simp only [operandValue_left, hrest, bind_eq_bind, bind_some]
  rfl

def percentWord : List Char := ['\'', '%', '\'']

def orWord : List Char := ['|', '|']

def rightWord : List Char := ['$', 'p', '1']

lemma concatenation_or {parameters : Parameters} {word first : List Char} {rest : List (List Char)} {more : List Char}
    (hword : operandValue parameters word = some first) (hrest : concatenation parameters rest = some more) :
    concatenation parameters (word :: orWord :: rest) = some (first ++ more) := by
  simp only [orWord, concatenation, hword, hrest, bind_eq_bind, bind_some]
  rfl

lemma sqlValue_like {op : BinaryOp} (hop : op = .contains ∨ op = .startsWith ∨ op = .endsWith) (s t : String) :
    sqlValue s op t = some (like s.toList (likePattern op t.toList)) := by
  have hright := operandValue_right s t
  have hfirst : operandValue (bothStrings s t) percentWord = some ['%'] := rfl
  have hlast : concatenation (bothStrings s t) [percentWord] = some ['%'] := rfl
  rcases hop with rfl | rfl | rfl
  · exact sqlValue_of_words [percentWord, orWord, rightWord, orWord, percentWord] (by decide +kernel)
      (concatenation_or hfirst (concatenation_or hright hlast))
  · exact sqlValue_of_words [rightWord, orWord, percentWord] (by decide +kernel) (concatenation_or hright hlast)
  · have hend : concatenation (bothStrings s t) [rightWord] = some t.toList := hright
    exact sqlValue_of_words [percentWord, orWord, rightWord] (by decide +kernel) (concatenation_or hfirst hend)

theorem sqlValue_eq_folded {t : String} {op : BinaryOp} (hop : op = .contains ∨ op = .startsWith ∨ op = .endsWith) :
    (∀ s, ∃ b, AstOptimizer.evalBinaryLiterals (.string s) op (.string t) = some (.bool b) ∧ sqlValue s op t = some b) ↔
      Plain t.toList := by
  have hfolded : ∀ s, AstOptimizer.evalBinaryLiterals (.string s) op (.string t) =
      some (.bool (occurs op t.toList s.toList)) := by
    rcases hop with rfl | rfl | rfl <;> exact fun _ => rfl
  rw [← like_eq_occurs_iff hop]
  simp only [sqlValue_like hop, hfolded, some_inj, LiteralValue.bool.injEq, exists_eq_left']
  refine ⟨fun h text => ?_, fun h s => h s.toList⟩
  have htext := h (String.ofList text)
  rwa [String.toList_ofList] at htext

theorem sqlValue_eq_folded_suffix : ∃ b, AstOptimizer.evalBinaryLiterals (.string "graph") .endsWith (.string "aph") =
    some (.bool b) ∧ sqlValue "graph" .endsWith "aph" = some b :=
  (sqlValue_eq_folded (.inr (.inr rfl))).mpr (by simp [Plain]) "graph"

theorem sqlValue_percent : AstOptimizer.evalBinaryLiterals (.string "abc") .contains (.string "%") = some (.bool false) ∧
    sqlValue "abc" .contains "%" = some true := by
  constructor
  · rfl
  · decide +kernel

end Voyager.SqlPgqEmitter
