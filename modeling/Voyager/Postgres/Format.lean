import Mathlib.Data.List.AList
import Mathlib.Data.String.Basic
import Voyager.Lib.Disturbance
import Voyager.Lib.PrefixFree

namespace Voyager.Postgres

open Lib List Option String AList

def isDigits (cs : List Char) : Bool := cs ≠ [] && cs.all Char.isDigit

def isNumberText (text : List Char) : Bool :=
  let body := if text.head? = some '-' then text.tail else text
  let whole := body.takeWhile Char.isDigit
  let rest := body.dropWhile Char.isDigit
  let fraction := if rest.head? = some '.' then rest.tail.takeWhile Char.isDigit else ['0']
  let rest := if rest.head? = some '.' then rest.tail.dropWhile Char.isDigit else rest
  let exponent :=
    match rest with
    | [] => ['0']
    | 'e' :: '-' :: cs => cs
    | 'e' :: '+' :: cs => cs
    | 'e' :: cs => cs
    | _ => []
  isDigits whole && isDigits fraction && isDigits exponent

structure Number where
  text : List Char
  valid : isNumberText text = true

/-- Values of `serde_json`; an object lists its members in the order of the map. -/
inductive Json where
  | null
  | bool (b : Bool)
  | number (n : Number)
  | string (s : List Char)
  | array (items : List Json)
  | object (members : List (List Char × Json))

def escapeChar (c : Char) : List Char :=
  match c with
  | '"' => ['\\', '"']
  | '\\' => ['\\', '\\']
  | '\n' => ['\\', 'n']
  | '\r' => ['\\', 'r']
  | '\t' => ['\\', 't']
  | _ =>
    if c.toNat = 8 then ['\\', 'b']
    else if c.toNat = 12 then ['\\', 'f']
    else if c.toNat < 32 then ['\\', 'u', '0', '0', Nat.digitChar (c.toNat / 16), Nat.digitChar (c.toNat % 16)]
    else [c]

def quoted (s : List Char) : List Char := '"' :: s.flatMap escapeChar ++ ['"']

def boolText (b : Bool) : List Char := (toString b).toList

mutual

def Json.text : Json → List Char
  | .null => "null".toList
  | .bool b => boolText b
  | .number n => n.text
  | .string s => quoted s
  | .array items => '[' :: textItems items ++ [']']
  | .object members => '\x7b' :: textMembers members ++ ['\x7d']

def textItems : List Json → List Char
  | [] => []
  | [item] => item.text
  | item :: items => item.text ++ ',' :: textItems items

def textMembers : List (List Char × Json) → List Char
  | [] => []
  | [(key, item)] => quoted key ++ ':' :: item.text
  | (key, item) :: members => quoted key ++ ':' :: item.text ++ ',' :: textMembers members

end

def doubleQuotes (s : List Char) : List Char := replaceAll ['\''] ['\'', '\''] s

def sqlLiteral : Json → List Char
  | .string s => '\'' :: doubleQuotes s ++ ['\'']
  | .null => "NULL".toList
  | .number n => n.text
  | .bool b => boolText b
  | other => doubleQuotes other.text

abbrev Params := AList fun _ : String => Json

def longerFirst (a b : String) : Prop :=
  b.utf8ByteSize < a.utf8ByteSize ∨ b.utf8ByteSize = a.utf8ByteSize ∧ a ≤ b

instance : DecidableRel longerFirst := fun a b => by unfold longerFirst; infer_instance

def sortedKeys (params : Params) : List String := params.keys.insertionSort longerFirst

def literalOf (params : Params) (key : String) : List Char :=
  match params.lookup key with
  | some v => sqlLiteral v
  | none => []

def formatPostgresQuery (query : String) (params : Params) : String :=
  if params.keys = [] then query
  else
    String.ofList <| (sortedKeys params).foldl
      (fun q k => replaceAll ('$' :: k.toList) (literalOf params k) q) query.toList

variable (ident : Char → Bool) (query : String) (params : Params)

def simultaneous : String :=
  String.ofList (substitute '$' ident (fun name => (params.lookup (String.ofList name)).map sqlLiteral) query.toList)

def keyNames : List (List Char) := (sortedKeys params).map String.toList

lemma formatPostgresQuery_eq : (formatPostgresQuery query params).toList =
      replaceEach '$' (fun name => literalOf params (ofList name)) (keyNames params) query.toList := by
  by_cases h : params.keys = []
  · simp [formatPostgresQuery, h, keyNames, sortedKeys, replaceEach]
  · simp [formatPostgresQuery, h, keyNames, replaceEach, foldl_map]

lemma mem_keyNames {params : Params} {name : List Char} : name ∈ keyNames params ↔ ofList name ∈ params := by
  rw [keyNames, mem_map_toList, sortedKeys, mem_insertionSort, AList.mem_keys]

lemma simultaneous_eq : (simultaneous ident query params).toList =
      substitute '$' ident (only (keyNames params) fun name => literalOf params (ofList name))
        query.toList := by
  have hvalue : (fun name => (params.lookup (ofList name)).map sqlLiteral) =
      only (keyNames params) fun name => literalOf params (ofList name) := by
    funext name
    have hmem := mem_keyNames.trans (lookup_isSome (a := ofList name) (s := params)).symm
    simp only [only, hmem, literalOf]
    cases params.lookup (ofList name) <;> rfl
  simp [simultaneous, hvalue]

instance : Std.Total longerFirst := ⟨fun a b => by
  obtain h | h | h := Nat.lt_trichotomy a.utf8ByteSize b.utf8ByteSize
  · exact .inr (.inl h)
  · exact (le_total a b).imp (fun hle => .inr ⟨h.symm, hle⟩) fun hle => .inr ⟨h, hle⟩
  · exact .inl (.inl h)⟩

instance : IsTrans String longerFirst := ⟨fun a b c => by
  rintro (hab | ⟨hab, hle⟩) (hbc | ⟨hbc, hle'⟩)
  · exact .inl (hbc.trans hab)
  · exact .inl (by omega)
  · exact .inl (by omega)
  · exact .inr ⟨by omega, hle.trans hle'⟩⟩

lemma nodup_sortedKeys : (sortedKeys params).Nodup :=
  (perm_insertionSort longerFirst params.keys).nodup_iff.mpr params.nodupKeys

lemma eq_of_prefix_of_size {a b : String} (h : a.toList <+: b.toList)
    (hsize : b.utf8ByteSize ≤ a.utf8ByteSize) : a = b := by
  obtain ⟨t, ht⟩ := h
  have hb : b = a ++ ofList t := toList_inj.mp (by simp [ht])
  have hempty : ofList t = "" := by
    rw [hb, utf8ByteSize_append] at hsize
    exact utf8ByteSize_eq_zero_iff.mp (by omega)
  rw [hb, hempty, append_empty]

lemma ordered_keyNames {ident : Char → Bool} {params : Params}
    (hident : ∀ k ∈ params.keys, ∀ c ∈ k.toList, ident c = true) : Ordered ident (keyNames params) where
  nodup := (nodup_sortedKeys params).map fun _ _ => toList_inj.mp
  ident := by
    intro name hname c hc
    rw [mem_keyNames, AList.mem_keys] at hname
    exact hident _ hname c (by simpa using hc)
  order := by
    intro pre name post hsplit other hother hbegins
    obtain ⟨front, back, hkeys, rfl, hback⟩ := List.map_eq_append_iff.mp hsplit
    obtain ⟨k, back, rfl, rfl, rfl⟩ := List.map_eq_cons_iff.mp hback
    obtain ⟨k', hk', rfl⟩ := List.mem_map.mp hother
    have hsorted := pairwise_insertionSort longerFirst params.keys
    have hnodup := nodup_sortedKeys params
    rw [hkeys] at hnodup
    rw [← sortedKeys, hkeys] at hsorted
    have hlonger : longerFirst k' k := (List.pairwise_append.mp hsorted).2.2 k' hk' k mem_cons_self
    have heq : k' = k := eq_of_prefix_of_size hbegins (by rcases hlonger with h | h <;> omega)
    exact disjoint_of_nodup_append hnodup hk' (heq ▸ mem_cons_self)

lemma number_head (n : Number) : ∃ c cs, n.text = c :: cs ∧ c ≠ '$' := by
  obtain ⟨text, valid⟩ := n
  cases text with
  | nil => exact absurd valid (by decide)
  | cons c cs =>
    refine ⟨c, cs, rfl, ?_⟩
    rintro rfl
    simp [isNumberText, isDigits] at valid

lemma doubleQuotes_head {c : Char} (h : c ≠ '\'') (cs : List Char) :
    doubleQuotes (c :: cs) = c :: doubleQuotes cs := replaceAll_cons_of_absent (not_prefix_of_ne h)

lemma sqlLiteral_head (v : Json) : ∃ c cs, sqlLiteral v = c :: cs ∧ c ≠ '$' := by
  cases v with
  | null => exact ⟨'N', "ULL".toList, rfl, by decide⟩
  | bool b => cases b <;> exact ⟨_, _, rfl, by decide⟩
  | number n => exact number_head n
  | string s => exact ⟨'\'', _, rfl, by decide⟩
  | array items =>
    refine ⟨'[', doubleQuotes (textItems items ++ [']']), ?_, by decide⟩
    rw [sqlLiteral, Json.text]
    · exact doubleQuotes_head (by decide) _
    all_goals simp
  | object members =>
    refine ⟨'\x7b', doubleQuotes (textMembers members ++ ['\x7d']), ?_, by decide⟩
    rw [sqlLiteral, Json.text]
    · exact doubleQuotes_head (by decide) _
    all_goals simp

lemma literalOf_head {params : Params} {name : List Char} (h : name ∈ keyNames params) :
    ∃ c cs, literalOf params (ofList name) = c :: cs ∧ c ≠ '$' := by
  rw [mem_keyNames, ← lookup_isSome, isSome_iff_exists] at h
  obtain ⟨v, hv⟩ := h
  simpa [literalOf, hv] using sqlLiteral_head v

/-- Every placeholder, when its turn comes, occurs in the text exactly where the query has it. -/
def PlaceholdersUndisturbed : Prop :=
  Undisturbed '$' ident (fun name => literalOf params (String.ofList name)) (keyNames params) query.toList

def PlaceholdersSeparated : Prop :=
  Separated '$' (keyNames params) query.toList

theorem formatPostgresQuery_simultaneous (ident : Char → Bool) (hident : ident '$' = false) (query : String)
    (params : Params) :
    (PlaceholdersUndisturbed ident query params →
      formatPostgresQuery query params = simultaneous ident query params) ∧
    ((∀ k ∈ params.keys, ∀ c ∈ k.toList, ident c = true) → PlaceholdersSeparated query params →
      formatPostgresQuery query params = simultaneous ident query params →
      PlaceholdersUndisturbed ident query params) := by
  constructor
  · intro h
    have hnodup : (keyNames params).Nodup := (nodup_sortedKeys params).map fun _ _ => toList_inj.mp
    rw [← toList_inj, formatPostgresQuery_eq, simultaneous_eq]
    exact replaceEach_eq_substitute '$' ident hident hnodup h
  · intro hkeys hsep h
    rw [← toList_inj, formatPostgresQuery_eq, simultaneous_eq] at h
    exact undisturbed_of_replaceEach_eq hident (ordered_keyNames hkeys) (fun _ => literalOf_head) hsep h

def numbered : Params :=
  AList.insert "p1" (.number ⟨['1'], by decide⟩) (AList.insert "p10" (.string ['x']) ∅)

theorem formatPostgresQuery_simultaneous_numbered :
    PlaceholdersUndisturbed asciiWord "a = $p1 OR b = $p10" numbered ∧
      formatPostgresQuery "a = $p1 OR b = $p10" numbered = "a = 1 OR b = 'x'" := by
  have h := formatPostgresQuery_simultaneous asciiWord (by decide) "a = $p1 OR b = $p10" numbered
  have hkeys : numbered.keys = ["p1", "p10"] := rfl
  have hundisturbed := h.2 (by simp [hkeys, asciiWord]) (by unfold PlaceholdersSeparated Separated; decide) (by decide)
  exact ⟨hundisturbed, (h.1 hundisturbed).trans (by decide)⟩

def escaping : Params := AList.insert "a" (.string "$b".toList) (AList.insert "b" (.string " OR 1=1 --".toList) ∅)

theorem value_rescanned_for_placeholders :
    formatPostgresQuery "SELECT $a" escaping = "SELECT '' OR 1=1 --''" ∧
      simultaneous asciiWord "SELECT $a" escaping = "SELECT '$b'" ∧
      formatPostgresQuery "SELECT $a" escaping ≠ simultaneous asciiWord "SELECT $a" escaping := by
  decide

end Voyager.Postgres
