import Voyager.Lib.Intercalate
import Voyager.Postgres.Format

/-! Parameters in front of a query, as they are written for FalkorDB and as it reads them. -/

namespace Voyager.Redis

open Lib List Option AList
open Postgres (Json Params boolText isNumberText isDigits)

variable (s : List Char)

def escapeParam : List Char :=
  replaceAll ['"'] ['\\', '"'] (replaceAll ['\\'] ['\\', '\\'] s)

def quoteParam : List Char := '"' :: escapeParam s ++ ['"']

def paramText : Json → List Char
  | .string s => quoteParam s
  | .number n => n.text
  | .bool b => boolText b
  | .null => "null".toList
  | other => quoteParam other.text

variable (params : Params)

def paramKeys : List String := params.keys.insertionSort (· ≤ ·)

def paramPart (k : String) : String :=
  match params.lookup k with
  | some v => k ++ "=" ++ String.ofList (paramText v)
  | none => ""

def formatCypherWithParams (query : String) (params : Params) : String :=
  if params.keys = [] then query
  else "CYPHER " ++ " ".intercalate ((paramKeys params).map (paramPart params)) ++ " " ++ query

structure Names where
  start : Char → Bool
  more : Char → Bool

def Names.ascii : Names := ⟨fun c => c.isAlpha || c == '_', fun c => c.isAlphanum || c == '_'⟩

def Names.Named (names : Names) (name : String) : Prop :=
  ∃ c cs, name.toList = c :: cs ∧ names.start c = true ∧ ∀ d ∈ cs, names.more d = true

def readName (names : Names) : List Char → Option (String × List Char)
  | [] => none
  | c :: cs =>
    if names.start c then
      let more := cs.takeWhile names.more
      some (String.ofList (c :: more), cs.drop more.length)
    else none

def unescape : Char → Option Char
  | '\\' => some '\\'
  | '"' => some '"'
  | '\'' => some '\''
  | 'n' => some '\n'
  | 't' => some '\t'
  | 'r' => some '\r'
  | 'b' => some (Char.ofNat 8)
  | 'f' => some (Char.ofNat 12)
  | _ => none

def readString : List Char → Option (List Char × List Char)
  | [] => none
  | '"' :: rest => some ([], rest)
  | '\\' :: c :: rest => do
    let d ← unescape c
    let (s, rest) ← readString rest
    some (d :: s, rest)
  | c :: rest => do
    let (s, rest) ← readString rest
    some (c :: s, rest)

def isWordChar (c : Char) : Bool := c.isAlphanum || c == '+' || c == '-' || c == '.'

def readWord (text : List Char) : Option (Json × List Char) :=
  let word := text.takeWhile isWordChar
  let rest := text.drop word.length
  if word = "true".toList then some (.bool true, rest)
  else if word = "false".toList then some (.bool false, rest)
  else if word = "null".toList then some (.null, rest)
  else if h : isNumberText word = true then some (.number ⟨word, h⟩, rest)
  else none

def skipSpaces (text : List Char) : List Char := text.dropWhile (· == ' ')

mutual

def readValue (names : Names) : ℕ → List Char → Option (Json × List Char)
  | 0, _ | _, [] => none
  | fuel + 1, c :: cs =>
    if c = '"' then do
      let (s, rest) ← readString cs
      some (.string s, rest)
    else if c = '[' then do
      let (items, rest) ← readItems names fuel (skipSpaces cs)
      some (.array items, rest)
    else if c = '\x7b' then do
      let (members, rest) ← readMembers names fuel (skipSpaces cs)
      some (.object members, rest)
    else readWord (c :: cs)

def readItems (names : Names) : ℕ → List Char → Option (List Json × List Char)
  | 0, _ => none
  | _, ']' :: rest => some ([], rest)
  | fuel + 1, text => do
    let (item, rest) ← readValue names fuel text
    match skipSpaces rest with
    | ',' :: rest => do
      let (items, rest) ← readItems names fuel (skipSpaces rest)
      some (item :: items, rest)
    | ']' :: rest => some ([item], rest)
    | _ => none

def readMembers (names : Names) : ℕ → List Char → Option (List (List Char × Json) × List Char)
  | 0, _ => none
  | _, '\x7d' :: rest => some ([], rest)
  | fuel + 1, text => do
    let (key, rest) ← readName names text
    match skipSpaces rest with
    | ':' :: rest => do
      let (item, rest) ← readValue names fuel (skipSpaces rest)
      match skipSpaces rest with
      | ',' :: rest => do
        let (members, rest) ← readMembers names fuel (skipSpaces rest)
        some ((key.toList, item) :: members, rest)
      | '\x7d' :: rest => some ([(key.toList, item)], rest)
      | _ => none
    | _ => none

end

def readPair (names : Names) (text : List Char) : Option ((String × Json) × List Char) := do
  let (key, rest) ← readName names text
  match rest with
  | '=' :: rest => do
    let (value, rest) ← readValue names rest.length rest
    match rest with
    | ' ' :: rest => some ((key, value), rest)
    | _ => none
  | _ => none

def readPairs (names : Names) : ℕ → List Char → List (String × Json) × List Char
  | 0, text => ([], text)
  | fuel + 1, text =>
    match readPair names text with
    | some (pair, rest) => (pair :: (readPairs names fuel rest).1, (readPairs names fuel rest).2)
    | none => ([], text)

def prefixWord : List Char := "CYPHER ".toList

def readHeader (names : Names) (text : String) : List (String × Json) × String :=
  if prefixWord <+: text.toList then
    let (pairs, query) := readPairs names text.length (text.toList.drop prefixWord.length)
    (pairs, String.ofList query)
  else ([], text)

def readBack : Json → Json
  | .array items => .string (Json.array items).text
  | .object members => .string (Json.object members).text
  | v => v

def isFlat : Json → Bool
  | .array _ | .object _ => false
  | _ => true

lemma readBack_eq_iff (v : Json) : readBack v = v ↔ isFlat v = true := by
  cases v <;> simp [readBack, isFlat]

variable {v : Json}

section

variable {names : Names}

lemma escapeParam_backslash : escapeParam ('\\' :: s) = '\\' :: '\\' :: escapeParam s := by
  have hfirst : replaceAll ['\\'] ['\\', '\\'] ('\\' :: ([] ++ s)) = _ := replaceAll_pattern s
  rw [escapeParam, ← nil_append s, hfirst]
  have hquote : ∀ t, replaceAll ['"'] ['\\', '"'] ('\\' :: t) = '\\' :: replaceAll ['"'] ['\\', '"'] t :=
    fun t => replaceAll_cons_of_absent (not_prefix_of_ne (by decide))
  simp only [cons_append, nil_append, hquote]
  rfl

lemma escapeParam_quote : escapeParam ('"' :: s) = '\\' :: '"' :: escapeParam s := by
  rw [escapeParam, replaceAll_cons_of_absent (not_prefix_of_ne (by decide))]
  exact replaceAll_pattern (replaceAll ['\\'] ['\\', '\\'] s)

lemma escapeParam_cons {c : Char} (hback : c ≠ '\\') (hquote : c ≠ '"') (s : List Char) :
    escapeParam (c :: s) = c :: escapeParam s := by
  rw [escapeParam, replaceAll_cons_of_absent (not_prefix_of_ne hback),
    replaceAll_cons_of_absent (not_prefix_of_ne hquote), escapeParam]

lemma readString_escapeParam (s rest : List Char) : readString (escapeParam s ++ '"' :: rest) = some (s, rest) := by
  induction s with
  | nil => rfl
  | cons c s ih =>
    by_cases hback : c = '\\'
    · subst hback
      rw [escapeParam_backslash, cons_append, cons_append, readString, ih]
      rfl
    · by_cases hquote : c = '"'
      · subst hquote
        rw [escapeParam_quote, cons_append, cons_append, readString, ih]
        rfl
      · rw [escapeParam_cons hback hquote, cons_append, readString, ih]
        · rfl
        all_goals grind

variable {fuel : ℕ}

lemma readValue_quoteParam (s rest : List Char) (hfuel : 1 ≤ fuel) :
    readValue names fuel (quoteParam s ++ rest) = some (.string s, rest) := by
  obtain ⟨fuel, rfl⟩ := Nat.exists_eq_add_of_le' hfuel
  have htext : quoteParam s ++ rest = '"' :: (escapeParam s ++ '"' :: rest) := by simp [quoteParam]
  rw [htext, readValue, if_pos rfl, readString_escapeParam]
  rfl

lemma isWordChar_of_isDigit {c : Char} (h : c.isDigit = true) : isWordChar c = true := by
  simp [isWordChar, Char.isAlphanum, h]

variable {cs : List Char}

lemma isWordChar_of_isDigits (h : isDigits cs = true) : ∀ c ∈ cs, isWordChar c = true := by
  simp only [isDigits, Bool.and_eq_true, List.all_eq_true] at h
  exact fun c hc => isWordChar_of_isDigit (h.2 c hc)

lemma isWordChar_span (h : ∀ c ∈ cs.dropWhile Char.isDigit, isWordChar c = true) : ∀ c ∈ cs, isWordChar c = true := by
  intro c hc
  rw [← takeWhile_append_dropWhile (p := Char.isDigit) (l := cs), mem_append] at hc
  obtain hc | hc := hc
  · exact isWordChar_of_isDigit (mem_takeWhile_imp hc)
  · exact h c hc

lemma isWordChar_of_head {d : Char} (hd : isWordChar d = true) (hhead : cs.head? = some d)
    (h : ∀ c ∈ cs.tail, isWordChar c = true) : ∀ c ∈ cs, isWordChar c = true := by
  obtain ⟨cs, rfl⟩ := head?_eq_some_iff.mp hhead
  exact forall_mem_cons.mpr ⟨hd, h⟩

lemma isWordChar_of_isNumberText {text : List Char} (h : isNumberText text = true) :
    ∀ c ∈ text, isWordChar c = true := by
  simp only [isNumberText, Bool.and_eq_true] at h
  obtain ⟨-, hexponent⟩ := h
  have hbody : ∀ c ∈ (if text.head? = some '-' then text.tail else text), isWordChar c = true := by
    generalize (if text.head? = some '-' then text.tail else text) = body at hexponent ⊢
    apply isWordChar_span
    generalize body.dropWhile Char.isDigit = rest at hexponent ⊢
    have hrest : ∀ c ∈ (if rest.head? = some '.' then rest.tail.dropWhile Char.isDigit else rest),
        isWordChar c = true := by
      generalize (if rest.head? = some '.' then rest.tail.dropWhile Char.isDigit else rest) = tail at hexponent ⊢
      split at hexponent
      · simp
      · simpa [isWordChar] using isWordChar_of_isDigits hexponent
      · simpa [isWordChar] using isWordChar_of_isDigits hexponent
      · simpa [isWordChar] using isWordChar_of_isDigits hexponent
      · cases hexponent
    split_ifs at hrest with hdot
    · exact isWordChar_of_head rfl hdot (isWordChar_span hrest)
    · exact hrest
  split_ifs at hbody with hminus
  · exact isWordChar_of_head rfl hminus hbody
  · exact hbody

lemma not_isNumberText_word : isNumberText "true".toList = false ∧ isNumberText "false".toList = false ∧
    isNumberText "null".toList = false := by decide

def isWord : Json → Bool
  | .null | .bool _ | .number _ => true
  | _ => false

lemma paramText_word (hv : isWord v = true) : paramText v ≠ [] ∧ ∀ c ∈ paramText v, isWordChar c = true := by
  cases v with
  | null => exact ⟨by decide, List.all_eq_true.mp (by decide)⟩
  | bool b => cases b <;> exact ⟨by decide, List.all_eq_true.mp (by decide)⟩
  | number n =>
    refine ⟨?_, isWordChar_of_isNumberText n.valid⟩
    intro hnil
    have hvalid := n.valid
    rw [show n.text = [] from hnil] at hvalid
    cases hvalid
  | string | array | object => cases hv

lemma readWord_paramText (hv : isWord v = true) (rest : List Char) :
    readWord (paramText v ++ ' ' :: rest) = some (v, ' ' :: rest) := by
  have hstops : Stops isWordChar (' ' :: rest) := stops_cons rfl rest
  rw [readWord, takeWhile_append_of_stops (paramText_word hv).2 hstops, drop_left]
  cases v with
  | null => rfl
  | bool b => cases b <;> rfl
  | number n =>
    have hvalid := n.valid
    obtain ⟨htrue, hfalse, hnull⟩ := not_isNumberText_word
    have hne : ∀ {word}, isNumberText word = false → paramText (.number n) ≠ word := by
      rintro _ hword rfl
      exact absurd hvalid (Bool.eq_false_iff.mp hword)
    rw [if_neg (hne htrue), if_neg (hne hfalse), if_neg (hne hnull)]
    exact dif_pos hvalid
  | string | array | object => cases hv

lemma readValue_word {c : Char} (hc : isWordChar c = true) (cs : List Char) (fuel : ℕ) :
    readValue names (fuel + 1) (c :: cs) = readWord (c :: cs) := by
  rw [readValue, if_neg, if_neg, if_neg]
  all_goals
    rintro rfl
    cases hc

lemma readValue_paramText_word (hv : isWord v = true) (rest : List Char) (hfuel : 1 ≤ fuel) :
    readValue names fuel (paramText v ++ ' ' :: rest) = some (v, ' ' :: rest) := by
  obtain ⟨fuel, rfl⟩ := Nat.exists_eq_add_of_le' hfuel
  obtain ⟨hne, hword⟩ := paramText_word hv
  obtain ⟨c, cs, htext⟩ := exists_cons_of_ne_nil hne
  rw [htext] at hword
  rw [← readWord_paramText hv, htext]
  exact readValue_word (hword c mem_cons_self) _ fuel

theorem readValue_paramText (v : Json) (rest : List Char) (hfuel : 1 ≤ fuel) :
    readValue names fuel (paramText v ++ ' ' :: rest) = some (readBack v, ' ' :: rest) := by
  cases v with
  | string s => exact readValue_quoteParam s _ hfuel
  | array items | object members => exact readValue_quoteParam _ _ hfuel
  | null | bool | number => exact readValue_paramText_word rfl rest hfuel

lemma readName_append {name : String} (hname : names.Named name) {rest : List Char}
    (hrest : Stops names.more rest) : readName names (name.toList ++ rest) = some (name, rest) := by
  obtain ⟨c, cs, hcs, hstart, hmore⟩ := hname
  rw [hcs, cons_append, readName, if_pos hstart, takeWhile_append_of_stops hmore hrest]
  simp [← hcs]

variable (hnames : names.more '=' = false)
include hnames

lemma readPair_append {key : String} (hkey : names.Named key) (v : Json) (rest : List Char) :
    readPair names (key.toList ++ '=' :: (paramText v ++ ' ' :: rest)) = some ((key, readBack v), rest) := by
  have hlength : 1 ≤ (paramText v ++ ' ' :: rest).length := by
    rw [length_append, length_cons]
    omega
  rw [readPair, readName_append hkey (stops_cons hnames _)]
  change (readValue names _ _ >>= _) = _
  rw [readValue_paramText v rest hlength]
  rfl

def lineOf (pair : String × Json) : List Char := pair.1.toList ++ '=' :: (paramText pair.2 ++ [' '])

theorem readPairs_append {pairs : List (String × Json)} (hpairs : ∀ pair ∈ pairs, names.Named pair.1) (fuel : ℕ)
    (rest : List Char) :
    readPairs names (pairs.length + fuel) (pairs.flatMap lineOf ++ rest) =
      (pairs.map (fun pair => (pair.1, readBack pair.2)) ++ (readPairs names fuel rest).1,
        (readPairs names fuel rest).2) := by
  induction pairs with
  | nil => simp
  | cons pair pairs ih =>
    obtain ⟨hpair, hpairs⟩ := forall_mem_cons.mp hpairs
    have hline : lineOf pair ++ pairs.flatMap lineOf ++ rest =
        pair.1.toList ++ '=' :: (paramText pair.2 ++ ' ' :: (pairs.flatMap lineOf ++ rest)) := by
      simp [lineOf]
    rw [length_cons, Nat.add_right_comm, readPairs, flatMap_cons, hline,
      readPair_append hnames hpair]
    simp [ih hpairs]

end

def sortedPairs : List (String × Json) :=
  (paramKeys params).filterMap fun k => (params.lookup k).map (k, ·)

variable {k : String}

lemma lookup_of_mem {params : Params} (hk : k ∈ params.keys) : ∃ v, params.lookup k = some v := by
  rw [← AList.mem_keys, ← AList.lookup_isSome, isSome_iff_exists] at hk
  exact hk

lemma mem_paramKeys {params : Params} : k ∈ paramKeys params ↔ k ∈ params.keys :=
  mem_insertionSort _

lemma sortedPairs_perm : (sortedPairs params).Perm (params.entries.map fun e => (e.1, e.2)) := by
  have hsorted : (sortedPairs params).Perm (params.keys.filterMap fun k => (params.lookup k).map (k, ·)) :=
    (perm_insertionSort _ _).filterMap _
  have hentries : params.keys.filterMap (fun k => (params.lookup k).map (k, ·)) =
      params.entries.map fun e => (e.1, e.2) := by
    rw [AList.keys, List.keys, filterMap_map, ← filterMap_eq_map]
    apply filterMap_congr
    intro e he
    have hlookup : params.lookup e.1 = some e.2 := mem_lookup_iff.mpr he
    simp [hlookup]
  rw [← hentries]
  exact hsorted

lemma flatMap_lineOf {params : Params} {ks : List String} (hks : ∀ k ∈ ks, k ∈ params.keys) :
    (ks.filterMap fun k => (params.lookup k).map (k, ·)).flatMap lineOf =
      ks.flatMap fun k => (paramPart params k).toList ++ [' '] := by
  induction ks with
  | nil => rfl
  | cons k ks ih =>
    obtain ⟨hk, hks⟩ := forall_mem_cons.mp hks
    obtain ⟨v, hv⟩ := lookup_of_mem hk
    have hline : lineOf (k, v) = (paramPart params k).toList ++ [' '] := by simp [paramPart, hv, lineOf]
    simp [hv, hline, ih hks]

lemma formatCypherWithParams_toList (query : String) {params : Params} (hparams : params.keys ≠ []) :
    (formatCypherWithParams query params).toList =
      prefixWord ++ ((sortedPairs params).flatMap lineOf ++ query.toList) := by
  have hkeys : (paramKeys params).map (paramPart params) ≠ [] := by
    rw [ne_eq, map_eq_nil_iff, ← length_eq_zero_iff, paramKeys, length_insertionSort,
      length_eq_zero_iff]
    exact hparams
  have hspace : String.singleton ' ' = " " := rfl
  have hlines := intercalate_toList ' ' hkeys
  rw [flatMap_map, hspace] at hlines
  rw [formatCypherWithParams, if_neg hparams, sortedPairs, flatMap_lineOf fun k hk => mem_paramKeys.mp hk, ← hlines]
  simp only [String.toList_append, append_assoc]
  rfl

/-- The keys and the values that are read are those of the map, and what follows is the query. -/
def RoundTrips (names : Names) (query : String) (params : Params) : Prop :=
  ∃ pairs, readHeader names (formatCypherWithParams query params) = (pairs, query) ∧
    pairs.Perm (params.entries.map fun e => (e.1, e.2))

def Unmistaken (names : Names) (query : String) (params : Params) : Prop :=
  if params.keys = [] then ¬ prefixWord <+: query.toList else readPair names query.toList = none

lemma length_le_flatMap_lineOf (pairs : List (String × Json)) : pairs.length ≤ (pairs.flatMap lineOf).length := by
  induction pairs with
  | nil => rfl
  | cons pair pairs ih =>
    simp only [flatMap_cons, length_append, length_cons, lineOf]
    omega

lemma readPairs_none {names : Names} {text : List Char} (h : readPair names text = none) (fuel : ℕ) :
    readPairs names fuel text = ([], text) := by
  cases fuel with
  | zero => rfl
  | succ fuel => rw [readPairs, h]

lemma readPairs_snd {names : Names} {fuel : ℕ} {text : List Char} (h : (readPairs names fuel text).1 = []) :
    (readPairs names fuel text).2 = text := by
  cases fuel with
  | zero => rfl
  | succ fuel =>
    rw [readPairs] at h ⊢
    cases hpair : readPair names text with
    | none => rfl
    | some found => simp [hpair] at h

lemma mem_sortedPairs {params : Params} : (k, v) ∈ sortedPairs params ↔ params.lookup k = some v := by
  rw [(sortedPairs_perm params).mem_iff, List.mem_map]
  constructor
  · rintro ⟨e, he, ⟨⟩⟩
    exact mem_lookup_iff.mpr he
  · intro h
    exact ⟨⟨k, v⟩, mem_lookup_iff.mp h, rfl⟩

section

variable {names : Names} (hnames : names.more '=' = false) {query : String} {params : Params}
  (hkeys : ∀ k ∈ params.keys, names.Named k)
include hnames hkeys

section

variable (hparams : params.keys ≠ [])

include hparams

lemma readHeader_format (query : String) : ∃ fuel, readHeader names (formatCypherWithParams query params) =
    ((sortedPairs params).map (fun pair => (pair.1, readBack pair.2)) ++ (readPairs names (fuel + 1) query.toList).1,
      String.ofList (readPairs names (fuel + 1) query.toList).2) := by
  have htext := formatCypherWithParams_toList query hparams
  have hpairs : ∀ pair ∈ sortedPairs params, names.Named pair.1 := by
    intro pair hpair
    simp only [sortedPairs, mem_filterMap, map_eq_some_iff] at hpair
    obtain ⟨k, hk, v, -, rfl⟩ := hpair
    exact hkeys k (mem_paramKeys.mp hk)
  have hlength := congrArg List.length htext
  have hlines := length_le_flatMap_lineOf (sortedPairs params)
  have hprefix : prefixWord.length = 7 := rfl
  simp only [length_append, String.length_toList] at hlength
  have hle : (sortedPairs params).length + 1 ≤ (formatCypherWithParams query params).length := by omega
  obtain ⟨fuel, hfuel⟩ := Nat.exists_eq_add_of_le hle
  refine ⟨fuel, ?_⟩
  rw [readHeader, htext, if_pos (prefix_append _ _), drop_left, hfuel, add_assoc, add_comm 1 fuel,
    readPairs_append hnames hpairs]

/-- A query that reads as more of the header is not the one that is read. -/
lemma readPair_of_roundTrips (h : RoundTrips names query params) : readPair names query.toList = none := by
  obtain ⟨pairs, hpairs, hperm⟩ := h
  obtain ⟨fuel, hread⟩ := readHeader_format hnames hkeys hparams query
  obtain ⟨rfl, -⟩ := Prod.mk.inj (hread.symm.trans hpairs)
  have hlength := hperm.length_eq.trans (sortedPairs_perm params).length_eq.symm
  rw [length_append, length_map, add_eq_left, length_eq_zero_iff, readPairs] at hlength
  cases hpair : readPair names query.toList with
  | none => rfl
  | some found => simp [hpair] at hlength

section

variable (hquery : readPair names query.toList = none)

include hquery

lemma readHeader_query : readHeader names (formatCypherWithParams query params) =
    ((sortedPairs params).map fun pair => (pair.1, readBack pair.2), query) := by
  obtain ⟨fuel, hread⟩ := readHeader_format hnames hkeys hparams query
  rw [hread, readPairs_none hquery]
  simp

lemma isFlat_of_roundTrips (h : RoundTrips names query params) (hv : params.lookup k = some v) : isFlat v = true := by
  obtain ⟨pairs, hpairs, hperm⟩ := h
  rw [readHeader_query hnames hkeys hparams hquery, Prod.mk.injEq] at hpairs
  obtain ⟨rfl, -⟩ := hpairs
  have hread : (k, readBack v) ∈ (sortedPairs params).map fun pair => (pair.1, readBack pair.2) :=
    List.mem_map.mpr ⟨(k, v), mem_sortedPairs.mpr hv, rfl⟩
  rw [hperm.mem_iff, ← (sortedPairs_perm params).mem_iff, mem_sortedPairs, hv, some_inj] at hread
  exact (readBack_eq_iff v).mp hread.symm

lemma roundTrips_of_isFlat (hflat : ∀ k v, params.lookup k = some v → isFlat v = true) :
    RoundTrips names query params := by
  have hsame : ∀ pair ∈ sortedPairs params, (pair.1, readBack pair.2) = id pair := by
    rintro ⟨k, v⟩ hpair
    rw [(readBack_eq_iff v).mpr (hflat k v (mem_sortedPairs.mp hpair))]
    rfl
  have hread := readHeader_query hnames hkeys hparams hquery
  rw [List.map_congr_left hsame, List.map_id] at hread
  exact ⟨_, hread, sortedPairs_perm params⟩

end

end

end

lemma roundTrips_iff_of_keys_eq_nil (names : Names) (query : String) {params : Params} (hparams : params.keys = []) :
    RoundTrips names query params ↔ ¬ prefixWord <+: query.toList := by
  have hentries : params.entries = [] := map_eq_nil_iff.mp hparams
  have htext : formatCypherWithParams query params = query := by rw [formatCypherWithParams, if_pos hparams]
  rw [RoundTrips, htext, readHeader, hentries, map_nil]
  constructor
  · rintro ⟨pairs, hread, hperm⟩ hprefix
    obtain rfl := hperm.eq_nil
    rw [if_pos hprefix, Prod.mk.injEq] at hread
    obtain ⟨hnone, hquery⟩ := hread
    rw [readPairs_snd hnone] at hquery
    have hlength := congrArg (fun text => text.toList.length) hquery
    have hpos := hprefix.length_le
    have hword : prefixWord.length = 7 := rfl
    simp only [String.toList_ofList, length_drop] at hlength
    omega
  · intro hprefix
    exact ⟨[], if_neg hprefix, .nil⟩

theorem roundTrips_iff (names : Names) (hnames : names.more '=' = false) (query : String) (params : Params)
    (hkeys : ∀ k ∈ params.keys, names.Named k) :
    RoundTrips names query params ↔
      Unmistaken names query params ∧ ∀ k v, params.lookup k = some v → isFlat v = true := by
  rw [Unmistaken]
  split_ifs with hparams
  · rw [roundTrips_iff_of_keys_eq_nil names query hparams, iff_self_and]
    intro _ k v hv
    have hmem : (⟨k, v⟩ : Sigma _) ∈ params.entries := mem_lookup_iff.mp hv
    rw [map_eq_nil_iff.mp hparams] at hmem
    cases hmem
  · constructor
    · intro h
      have hquery := readPair_of_roundTrips hnames hkeys hparams h
      exact ⟨hquery, fun _ _ => isFlat_of_roundTrips hnames hkeys hparams hquery h⟩
    · rintro ⟨hquery, hflat⟩
      exact roundTrips_of_isFlat hnames hkeys hparams hquery hflat

def sampleParams : Params :=
  AList.insert "name" (.string ['A', '"', '\\', '\n']) (AList.singleton "age" (.number ⟨['-', '3'], by decide⟩))

theorem roundTrips_sample :
    formatCypherWithParams "RETURN $name" sampleParams = "CYPHER age=-3 name=\"A\\\"\\\\\n\" RETURN $name" ∧
      RoundTrips .ascii "RETURN $name" sampleParams := by
  refine ⟨by decide, (roundTrips_iff .ascii rfl _ _ ?_).mpr ⟨?_, ?_⟩⟩
  · have hkeys : sampleParams.keys = ["name", "age"] := by decide
    rw [hkeys]
    simp only [forall_mem_cons]
    exact ⟨⟨'n', "ame".toList, rfl, rfl, List.all_eq_true.mp (by decide)⟩,
      ⟨'a', "ge".toList, rfl, rfl, List.all_eq_true.mp (by decide)⟩, by simp⟩
  · exact (if_neg (by decide)).mpr rfl
  · intro k v hv
    have hentries : ∀ e ∈ sampleParams.entries, isFlat e.2 = true := by
      have hall : sampleParams.entries.all (fun e => isFlat e.2) = true := by decide
      exact List.all_eq_true.mp hall
    exact hentries _ (mem_lookup_iff.mp hv)

lemma isNumberText_one : isNumberText ['1'] = true := by decide

def listParams : Params :=
  AList.singleton "ids" (.array [.number ⟨['1'], isNumberText_one⟩, .number ⟨['2'], by decide⟩])

theorem not_roundTrips_list :
    formatCypherWithParams "RETURN $ids" listParams = "CYPHER ids=\"[1,2]\" RETURN $ids" ∧
      readHeader .ascii (formatCypherWithParams "RETURN $ids" listParams) =
        ([("ids", .string ['[', '1', ',', '2', ']'])], "RETURN $ids") ∧
      ¬ RoundTrips .ascii "RETURN $ids" listParams := by
  have hkeys : ∀ k ∈ listParams.keys, Names.ascii.Named k := by
    have hkeys : listParams.keys = ["ids"] := by decide
    rw [hkeys]
    simp only [forall_mem_cons]
    exact ⟨⟨'i', "ds".toList, rfl, rfl, List.all_eq_true.mp (by decide)⟩, by simp⟩
  refine ⟨by decide, ?_, ?_⟩
  · exact readHeader_query rfl hkeys (by decide) rfl
  · intro h
    have hlookup : listParams.lookup "ids" = some (.array [.number ⟨['1'], by decide⟩, .number ⟨['2'], by decide⟩]) :=
      rfl
    exact absurd (isFlat_of_roundTrips rfl hkeys (by decide) rfl h hlookup) (by decide)

end Voyager.Redis
