import Voyager.Emit.Age
import Voyager.Postgres.Format

/-! What PostgreSQL receives of a statement for Apache AGE. A dollar-quoted body ends at the next `$$`, and a
string of Cypher stands in single quotes and escapes with a backslash. -/

namespace Voyager.Postgres

open Lib AgeEmitter

def readString : List Char → Option (List Char)
  | [] => some []
  | '\\' :: 'n' :: cs => (readString cs).map ('\n' :: ·)
  | '\\' :: 't' :: cs => (readString cs).map ('\t' :: ·)
  | '\\' :: 'r' :: cs => (readString cs).map ('\r' :: ·)
  | '\\' :: '\\' :: cs => (readString cs).map ('\\' :: ·)
  | '\\' :: '\'' :: cs => (readString cs).map ('\'' :: ·)
  | '\\' :: '"' :: cs => (readString cs).map ('"' :: ·)
  | '\\' :: _ => none
  | '\'' :: _ => none
  | c :: cs => (readString cs).map (c :: ·)

def Denotes (text : List Char) : Json → Prop
  | .null => text.map Char.toLower = "null".toList
  | .bool b => text.map Char.toLower = boolText b
  | .number n => text = n.text
  | .string s => ∃ inner, text = '\'' :: inner ++ ['\''] ∧ readString inner = some s
  | .array _ | .object _ => False

/-- The text is the emitted one with literals for its placeholders, and its body ends where the emitter ended it. -/
structure Delivered (cypher : String) (params : Params) (text : List Char) : Prop where
  replaced : ∀ k ∈ params.keys, tokens '$' asciiWord k.toList text = 0
  noFormat : ¬ "%s".toList <:+: text
  body : ∃ (front back : List Char) (literal : List Char → Option (List Char)),
    let body := substitute '$' asciiWord literal (" " ++ cypher ++ " ").toList
    text = front ++ "$$".toList ++ body ++ "$$".toList ++ back ∧
      ¬ "$$".toList <:+: body ++ ['$'] ∧
      ∀ name, match params.lookup (String.ofList name) with
        | some v => ∃ t, literal name = some t ∧ Denotes t v
        | none => literal name = none

variable (json : LiteralValue → Json) (parameters : Parameters)

def jsonParams : Params :=
  ⟨parameters.entries.map fun e => ⟨e.1, json e.2⟩, by
    have h := parameters.nodupKeys
    rw [List.NodupKeys, List.keys] at h ⊢
    simpa [Function.comp_def] using h⟩

lemma keys_jsonParams : (jsonParams json parameters).keys = parameters.keys := by
  simp [jsonParams, AList.keys, List.keys, Function.comp_def]

lemma formatPostgresQuery_empty {params : Params} (h : params.keys = []) (query : String) :
    formatPostgresQuery query params = query := if_pos h

lemma lookup_of_keys_eq_nil {params : Params} (h : params.keys = []) (name : String) : params.lookup name = none := by
  rw [AList.lookup_eq_none, AList.mem_keys, h]
  exact List.not_mem_nil

lemma letter_placeholderName {n : ℕ} {c : Char} (h : c ∈ (placeholderName n).toList) :
    c = 'p' ∨ c.isDigit = true := by
  have hname : (placeholderName n).toList = 'p' :: Nat.toDigits 10 n := by simp [placeholderName]
  rw [hname, List.mem_cons] at h
  exact h.imp_right (Nat.isDigit_of_mem_toDigits (by decide) (by decide))

lemma format_argument_kept {text : List Char → List Char} {names : List (List Char)} {q : List Char}
    (hnames : ∀ name ∈ names, ∃ n, name = (placeholderName n).toList) (h : "%s".toList <:+: q) :
    "%s".toList <:+: replaceEach '$' text names q := by
  obtain ⟨a, b, rfl⟩ := h
  have habsent : ∀ x : Char, x ≠ 'p' → x.isDigit = false → ∀ name ∈ names, x ∉ name := by
    rintro x hp hdigit name hname hx
    obtain ⟨n, rfl⟩ := hnames name hname
    rcases letter_placeholderName hx with rfl | h
    · exact hp rfl
    · simp [hdigit] at h
  have hsplit : a ++ "%s".toList ++ b = a ++ '%' :: ([] ++ 's' :: b) := by simp
  rw [hsplit, replaceEach_append_cons '$' (by decide) (habsent '%' (by decide) (by decide)),
    replaceEach_append_cons '$' (by decide) (habsent 's' (by decide) (by decide)), replaceEach_nil]
  exact ⟨replaceEach '$' text names a, replaceEach '$' text names b, by simp⟩

lemma dollars_infix_body {cypher : List Char} :
    "$$".toList <:+: ' ' :: cypher ++ [' '] ++ ['$'] ↔ "$$".toList <:+: cypher := by
  have hspace : ' ' ∉ "$$".toList := by decide
  have hsplit : ' ' :: cypher ++ [' '] ++ ['$'] = [] ++ ' ' :: (cypher ++ ' ' :: ['$']) := by simp
  rw [hsplit, infix_append_cons hspace, infix_append_cons hspace]
  have hnil : ¬ "$$".toList <:+: ([] : List Char) := by decide
  have hdollar : ¬ "$$".toList <:+: ['$'] := by decide
  simp only [hnil, hdollar, false_or, or_false]

section

variable {params : Params} (hparams : params.keys = [])

include hparams

lemma tokens_of_keys_eq_nil (text : List Char) : ∀ k ∈ params.keys, tokens '$' asciiWord k.toList text = 0 := by
  simp [hparams]

lemma body_of_keys_eq_nil {literal : List Char → Option (List Char)} {q : List Char}
    (h : ∀ name, match params.lookup (String.ofList name) with
      | some v => ∃ t, literal name = some t ∧ Denotes t v
      | none => literal name = none) : substitute '$' asciiWord literal q = q := by
  have hliteral : literal = only [] id := by
    funext name
    have := h name
    rw [lookup_of_keys_eq_nil hparams] at this
    simpa [only] using this
  rw [hliteral, substitute_only_nil]

end

theorem delivered_iff (graphName : String) (arena : QueryAstArena) (fuel : ℕ) (root : NodeHandle)
    (age compiled : CompiledQuery) (json : LiteralValue → Json)
    (hage : AgeEmitter.visitQuery graphName arena fuel root = .ok age)
    (hcypher : AgeEmitter.cypher arena fuel root = .ok compiled) :
    Delivered compiled.statement (jsonParams json age.parameters)
        (formatPostgresQuery age.statement (jsonParams json age.parameters)).toList ↔
      Mark.items (Dialect.cypher.walk arena fuel root) = [] ∧
        ¬ "%s".toList <:+: age.statement.toList ∧ ¬ "$$".toList <:+: compiled.statement.toList := by
  obtain ⟨compiled', mode, columns, hcypher', hparameters, hstatement⟩ := visitQuery_ok hage
  obtain rfl : compiled = compiled' := Except.ok.inj (hcypher.symm.trans hcypher')
  rw [← parameters_eq_empty hcypher, hparameters]
  by_cases hempty : compiled.parameters.keys = []
  · have hkeys : (jsonParams json compiled.parameters).keys = [] := by rw [keys_jsonParams, hempty]
    have hbody : (" " ++ compiled.statement ++ " ").toList = ' ' :: compiled.statement.toList ++ [' '] := by simp
    rw [formatPostgresQuery_empty hkeys]
    refine ⟨fun h => ⟨hempty, h.noFormat, ?_⟩, fun ⟨_, hformat, hdollars⟩ => ⟨?_, hformat, ?_⟩⟩
    · obtain ⟨front, back, literal, -, hend, hliteral⟩ := h.body
      rw [body_of_keys_eq_nil hkeys hliteral, hbody, dollars_infix_body] at hend
      exact hend
    · exact tokens_of_keys_eq_nil hkeys _
    · refine ⟨(opening graphName mode).toList, (closing compiled.parameters columns).toList,
        only [] id, ?_, ?_, ?_⟩
      · rw [substitute_only_nil, hstatement]
        simp
      · rwa [substitute_only_nil, hbody, dollars_infix_body]
      · intro name
        simp [lookup_of_keys_eq_nil hkeys, only]
  · -- the argument for the parameters is written and stays
    refine ⟨fun h => absurd ?_ h.noFormat, fun h => absurd h.1 hempty⟩
    rw [formatPostgresQuery_eq]
    refine format_argument_kept (fun name hname => ?_) ?_
    · rw [mem_keyNames, AList.mem_keys, keys_jsonParams, ← AList.mem_keys, mem_parameters hcypher,
        placeholders_fst] at hname
      obtain ⟨n, -, hn⟩ := List.mem_map.mp hname
      exact ⟨n, by rw [hn, String.toList_ofList]⟩
    · rw [hstatement, closing, paramsArg, if_neg (by simpa using hempty)]
      exact ⟨(opening graphName mode ++ "$$ " ++ compiled.statement ++ " $$, ").toList,
        (") " ++ asClause columns).toList, by simp⟩

/-- At 8 `MATCH (n) WHERE n.name = "O'Neil" RETURN n`, at 10 the same without the condition. -/
def nameQuery : QueryAstArena where
  nodes := [
    .nodePattern (some "n") none [], .identifier "n", .propertyAccess 1 "name", .literal (.string "O'Neil"),
    .binaryExpression 2 .eq 3, .whereClause 4, .matchClause false [0] (some 5),
    .returnClause false [⟨1, none, none⟩] [] none none,
    .queryStatement .normal none [] [6] [] [] [] (some 7),
    .matchClause false [0] none, .queryStatement .normal none [] [9] [] [] [] (some 7)]

def stringJson : LiteralValue → Json
  | .string s => .string s.toList
  | _ => .null

theorem delivered_without_literals : ∃ age compiled,
    AgeEmitter.visitQuery "g" nameQuery 9 10 = .ok age ∧ AgeEmitter.cypher nameQuery 9 10 = .ok compiled ∧
    formatPostgresQuery age.statement (jsonParams stringJson age.parameters) =
      "SELECT * FROM cypher('g', $$ MATCH (n) RETURN n $$) AS (n agtype)" ∧
    Delivered compiled.statement (jsonParams stringJson age.parameters)
      (formatPostgresQuery age.statement (jsonParams stringJson age.parameters)).toList := by
  refine ⟨_, _, rfl, rfl, by decide, ?_⟩
  exact (delivered_iff "g" nameQuery 9 10 _ _ stringJson rfl rfl).mpr ⟨rfl, by decide, by decide⟩

theorem format_argument_sent : ∃ age compiled,
    AgeEmitter.visitQuery "g" nameQuery 9 8 = .ok age ∧ AgeEmitter.cypher nameQuery 9 8 = .ok compiled ∧
    formatPostgresQuery age.statement (jsonParams stringJson age.parameters) =
      "SELECT * FROM cypher('g', $$ MATCH (n) WHERE n.name = 'O''Neil' RETURN n $$, %s) AS (n agtype)" ∧
    ¬ Delivered compiled.statement (jsonParams stringJson age.parameters)
      (formatPostgresQuery age.statement (jsonParams stringJson age.parameters)).toList := by
  refine ⟨_, _, rfl, rfl, by decide, fun h => h.noFormat ?_⟩
  exact ⟨"SELECT * FROM cypher('g', $$ MATCH (n) WHERE n.name = 'O''Neil' RETURN n $$, ".toList,
    ") AS (n agtype)".toList, by decide⟩

end Voyager.Postgres
