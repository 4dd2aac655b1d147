import Voyager.Bridge.Pgq
import Voyager.Lib.Decimal
import Voyager.Lib.PrefixFree

/-! When interpolation keeps the tokens of a statement. -/

namespace Voyager.Bridge

open Lib Lib.Sql String

namespace WordClass

variable (W : WordClass)

@[simp] lemma quote : W.isWord '\'' = false := W.ascii _ (by decide)

@[simp] lemma dollar : W.isWord '$' = false := W.ascii _ (by decide)

@[simp] lemma minus : W.isWord '-' = false := W.ascii _ (by decide)

lemma alphanum {c : Char} (h : c.isAlphanum = true) (hascii : c.toNat < 128) : W.isWord c = true := by
  rw [W.ascii c hascii, h, Bool.true_or]

lemma digit {c : Char} (h : c.isDigit = true) : W.isWord c = true := by
  refine W.alphanum (by simp [Char.isAlphanum, h]) ?_
  simp only [Char.isDigit, Bool.and_eq_true, decide_eq_true_eq, ge_iff_le, UInt32.le_iff_toNat_le] at h
  have h9 : '9'.val.toNat = 57 := rfl
  have : c.toNat ≤ 57 := h9 ▸ h.2
  omega

end WordClass

lemma escapeQuotes_quote (s : List Char) : escapeQuotes ('\'' :: s) = '\'' :: '\'' :: escapeQuotes s := by
  have h : replaceAll ['\''] ['\'', '\''] ('\'' :: ([] ++ s)) = _ := replaceAll_pattern s
  exact h

lemma escapeQuotes_cons {c : Char} (h : c ≠ '\'') (s : List Char) :
    escapeQuotes (c :: s) = c :: escapeQuotes s := replaceAll_cons_of_absent (not_prefix_of_ne h)

lemma lex_escapeQuotes {word : Char → Bool} (content s rest : List Char) :
    lex word (.string content) (escapeQuotes s ++ rest) = lex word (.string (content ++ s)) rest := by
  induction s generalizing content with
  | nil => simp [escapeQuotes, replaceAll, replaceFrom]
  | cons c s ih =>
    by_cases hc : c = '\''
    · subst hc
      rw [escapeQuotes_quote, List.cons_append, List.cons_append, lex_string_quote, lex_quote_quote, ih,
        List.append_assoc, List.singleton_append]
    · rw [escapeQuotes_cons hc, List.cons_append, lex_string_cons hc, ih, List.append_assoc,
        List.singleton_append]

lemma escapeQuotes_split {s y z : List Char} (h : escapeQuotes s = y ++ '$' :: z) :
    ∃ a b, s = a ++ '$' :: b ∧ y = escapeQuotes a := by
  induction s generalizing y with
  | nil => simp [escapeQuotes, replaceAll, replaceFrom] at h
  | cons c s ih =>
    by_cases hc : c = '\''
    · subst hc
      rw [escapeQuotes_quote] at h
      rcases y with _ | ⟨d, _ | ⟨e, y⟩⟩
      · simp at h
      · simp at h
      · simp only [List.cons_append, List.cons.injEq] at h
        obtain ⟨rfl, rfl, h⟩ := h
        obtain ⟨a, b, rfl, rfl⟩ := ih h
        exact ⟨'\'' :: a, b, rfl, (escapeQuotes_quote a).symm⟩
    · rw [escapeQuotes_cons hc] at h
      cases y with
      | nil =>
        obtain ⟨rfl, -⟩ := List.cons.inj h
        exact ⟨[], s, rfl, rfl⟩
      | cons d y =>
        obtain ⟨rfl, htail⟩ := List.cons.inj h
        obtain ⟨a, b, rfl, rfl⟩ := ih htail
        exact ⟨c :: a, b, rfl, (escapeQuotes_cons hc a).symm⟩

lemma isName_digits (W : WordClass) (n : ℕ) : ∀ c ∈ Nat.toDigits 10 n, isName W.isWord c = true := by
  intro c hc
  simp [isName, W.digit (Nat.isDigit_of_mem_toDigits (by decide) (by decide) hc)]

lemma replacement_head (v : Value) : ∃ c cs, v.replacement = c :: cs ∧ c ≠ '$' ∧ c.isWhitespace = false := by
  cases v with
  | str s => exact ⟨'\'', _, rfl, by decide, by decide⟩
  | none => exact ⟨'N', _, rfl, by decide, by decide⟩
  | bool b => cases b <;> exact ⟨_, _, rfl, by decide, by decide⟩
  | int n =>
    rw [Value.replacement, toList_toString_int]
    split
    · exact ⟨'-', _, rfl, by decide, by decide⟩
    · obtain ⟨c, cs, hcs⟩ := List.exists_cons_of_ne_nil (Nat.toDigits_ne_nil (b := 10) (n := n.natAbs))
      have hdigit : c.isDigit = true :=
        Nat.isDigit_of_mem_toDigits (b := 10) (n := n.natAbs) (by decide) (by decide) (by simp [hcs])
      refine ⟨c, cs, by simp [hcs], ?_, ?_⟩
      · rintro rfl
        exact absurd hdigit (by decide)
      · by_contra h
        simp only [Char.isWhitespace, Bool.not_eq_false, Bool.or_eq_true, decide_eq_true_eq] at h
        rcases h with ((rfl | rfl) | rfl) | rfl <;> exact absurd hdigit (by decide)

variable {text : List Char}

lemma isName_letters (W : WordClass) (h : text.all (fun c => c.isAlphanum && decide (c.toNat < 128)) = true) :
    ∀ c ∈ text, isName W.isWord c = true := by
  intro c hc
  have := List.all_eq_true.mp h c hc
  rw [Bool.and_eq_true, decide_eq_true_eq] at this
  simp [isName, W.alphanum this.1 this.2]

variable {rest : List Char}

lemma lex_word (W : WordClass) (hne : text ≠ []) (hfree : '$' ∉ text)
    (h : ∀ c ∈ text, isName W.isWord c = true) (hrest : ∀ c ∈ rest.head?, isName W.isWord c = false) :
    lex W.isWord .code (text ++ rest) = .word text :: lex W.isWord .code rest := by
  have hword : ofName text = .word text := by
    unfold ofName
    split
    · exact absurd List.mem_cons_self hfree
    · rfl
  rw [lex_code_name W.quote hne h, lex_name hrest, hword]

lemma dollar_notMem_digits (n : ℕ) : '$' ∉ Nat.toDigits 10 n := by
  intro h
  have := Nat.isDigit_of_mem_toDigits (by decide) (by decide) h
  exact absurd this (by decide)

variable {v : Value}

lemma lex_replacement (W : WordClass) (hrest : ∀ c ∈ rest.head?, isName W.isWord c = false)
    (hstr : ∀ s, v = .str s → rest.head? ≠ some '\'') :
    lex W.isWord .code (v.replacement ++ rest) = v.literal ++ lex W.isWord .code rest := by
  cases v with
  | str s =>
    rw [Value.replacement, List.append_assoc, List.cons_append, lex_code_quote, lex_escapeQuotes, List.nil_append,
      List.singleton_append, lex_string_quote, lex_quote (hstr s rfl)]
    rfl
  | none => exact lex_word W (by decide) (by decide) (isName_letters W (by decide)) hrest
  | bool b =>
    cases b with
    | true | false => exact lex_word W (by decide) (by decide) (isName_letters W (by decide)) hrest
  | int n =>
    have hdigits := lex_word W Nat.toDigits_ne_nil (dollar_notMem_digits n.natAbs) (isName_digits W n.natAbs) hrest
    rw [Value.replacement, toList_toString_int, Value.literal]
    by_cases hn : n < 0
    · have hminus : lex W.isWord .code ('-' :: (Nat.toDigits 10 n.natAbs ++ rest)) =
          .symbol '-' :: lex W.isWord .code (Nat.toDigits 10 n.natAbs ++ rest) := by
        simp [lex, step, enter, isName, Char.isWhitespace]
      simp [hn, hminus, hdigits]
    · simp [hn, hdigits]

lemma mem_replacement (h : ∀ s, v ≠ .str s) {c : Char} (hc : c ∈ v.replacement) : c.isAlphanum = true ∨ c = '-' := by
  cases v with
  | str s => exact absurd rfl (h s)
  | none =>
    have hall : "NULL".toList.all Char.isAlphanum = true := by decide
    exact .inl (List.all_eq_true.mp hall c hc)
  | bool b =>
    have hall : (Value.bool b).replacement.all Char.isAlphanum = true := by cases b <;> decide
    exact .inl (List.all_eq_true.mp hall c hc)
  | int n =>
    rw [Value.replacement, toList_toString_int, List.mem_append] at hc
    rcases hc with hc | hc
    · split at hc
      · exact .inr (List.mem_singleton.mp hc)
      · simp at hc
    · exact .inl (by simp [Char.isAlphanum, Nat.isDigit_of_mem_toDigits (by decide) (by decide) hc])

lemma notMem_replacement (h : ∀ s, v ≠ .str s) : '$' ∉ v.replacement ∧ '\'' ∉ v.replacement :=
  ⟨fun hc => absurd (mem_replacement h hc) (by decide), fun hc => absurd (mem_replacement h hc) (by decide)⟩

@[simp] lemma fill_string (parameters : Params) (content : List Char) :
    fill parameters (.string content) = [.string content] := rfl

lemma fill_of_front {parameters : Params} {tok : Token} (h : ['\''] <+: tok.front) : fill parameters tok = [tok] := by
  cases tok with
  | placeholder name => simp [Token.front] at h
  | _ => rfl

lemma mem_keyNames {parameters : Params} {name : List Char} :
    name ∈ keyNames parameters ↔ ofList name ∈ parameters := by
  rw [keyNames, mem_map_toList, sortedKeys, List.mem_insertionSort, AList.mem_keys]

lemma nodup_keyNames (parameters : Params) : (keyNames parameters).Nodup := by
  have hsorted : (sortedKeys parameters).Nodup :=
    (List.perm_insertionSort _ parameters.keys).nodup_iff.mpr parameters.nodupKeys
  exact hsorted.map fun _ _ => toList_inj.mp

def insertValues (W : WordClass) (parameters : Params) (keys : List (List Char)) (text : List Char) : List Char :=
  replaceEachBounded W.isWord '$' (fun name => replacementOf parameters (String.ofList name)) keys text

lemma toList_interpolate (W : WordClass) (statement : String) (parameters : Params) :
    (interpolate W statement parameters).toList =
      insertValues W parameters (keyNames parameters) statement.toList := by
  simp [interpolate, insertValues, replaceEachBounded, keyNames, List.foldl_map]

section

variable {W : WordClass} {parameters : Params}

variable {key : List Char}

lemma replacementOf_head (h : key ∈ keyNames parameters) :
    ∃ c cs, replacementOf parameters (ofList key) = c :: cs ∧ c ≠ '$' ∧ c.isWhitespace = false := by
  rw [mem_keyNames, ← AList.lookup_isSome, Option.isSome_iff_exists] at h
  obtain ⟨v, hv⟩ := h
  simpa [replacementOf, hv] using replacement_head v

abbrev Diverts (x u : List Char) : Prop := Diverges '$' (fun c => c.isWhitespace = false) x u

variable {keys : List (List Char)}

lemma diverts_insertValues (hkeys : ∀ key ∈ keys, key ∈ keyNames parameters)
    (h : ¬ ∀ key ∈ keys, found W.isWord ('$' :: key) text = false) :
    Diverts text (insertValues W parameters keys text) := by
  push Not at h
  simp only [Bool.not_eq_false] at h
  exact diverges_replaceEachBounded (fun key hkey => replacementOf_head (hkeys key hkey)) h

variable {x : List Char}

lemma ne_of_front {s t : Token} {a b : List Token} (hs : ¬ x <+: s.front) (ht : x <+: t.front) : s :: a ≠ t :: b := by
  rintro ⟨⟩
  exact hs ht

variable {u rest' : List Char}

lemma string_diverted {content : List Char} (hfree : '\'' ∉ x) (h : Diverts x u) :
    lex W.isWord (.string content) (u ++ rest') ≠
      (lex W.isWord (.string content) (x ++ rest)).flatMap (fill parameters) := by
  obtain ⟨y, z, d, w, rfl, rfl, hd, -⟩ := h
  have hy : '\'' ∉ y := fun hmem => hfree (by simp [hmem])
  obtain ⟨s, a, hs, hnot⟩ := front_string_ne W.isWord (content ++ y) (w ++ rest') hd
  obtain ⟨t, b, ht, hfront⟩ := front_string W.isWord (content ++ y ++ ['$']) (z ++ rest)
  have hfill : fill parameters t = [t] := fill_of_front (List.IsPrefix.trans ⟨_, rfl⟩ hfront)
  rw [List.append_assoc, List.cons_append, lex_string_append hy, hs, List.append_assoc, List.cons_append,
    lex_string_append hy, lex_string_cons (by decide), ht, List.flatMap_cons, hfill, List.singleton_append]
  exact ne_of_front hnot hfront

lemma name_diverted (hx : ∀ c ∈ x, isName W.isWord c = true) (hrest : ∀ c ∈ rest.head?, isName W.isWord c = false)
    (hfill : fill parameters (ofName x) = [ofName x]) (h : Diverts x u) :
    lex W.isWord .code (u ++ rest') ≠ (lex W.isWord .code (x ++ rest)).flatMap (fill parameters) := by
  obtain ⟨y, z, d, w, rfl, rfl, hd, hspace⟩ := h
  obtain ⟨s, a, hs, hnot⟩ := front_name_ne W.quote (w ++ rest')
    (fun c hc => hx c (List.mem_append_left _ hc)) hd hspace
  rw [List.append_assoc, List.cons_append, hs, lex_code_name W.quote (by simp) hx, lex_name hrest,
    List.flatMap_cons, hfill, List.singleton_append]
  exact ne_of_front hnot ⟨z, by simp⟩

lemma replacement_split {y z : List Char} (h : v.replacement = y ++ '$' :: z) :
    ∃ a b, v = .str (a ++ '$' :: b) ∧ y = '\'' :: escapeQuotes a := by
  by_cases hstr : ∃ s, v = .str s
  · obtain ⟨s, rfl⟩ := hstr
    rw [Value.replacement] at h
    cases y with
    | nil => simp at h
    | cons q y =>
      obtain ⟨rfl, htail⟩ := List.cons.inj h
      obtain ⟨cs, -, hcs⟩ | ⟨cs, hcs, hz⟩ := List.append_eq_append_iff.mp htail
      · cases cs <;> simp at hcs
      · cases cs with
        | nil => simp at hz
        | cons c cs =>
          obtain ⟨rfl, -⟩ := List.cons.inj hz
          obtain ⟨a, b, rfl, rfl⟩ := escapeQuotes_split hcs
          exact ⟨a, b, rfl, rfl⟩
  · push Not at hstr
    exact absurd (by simp [h]) (notMem_replacement hstr).1

lemma value_diverted {toks : List Token} (h : Diverts v.replacement u) :
    lex W.isWord .code (u ++ rest) ≠ v.literal ++ toks := by
  obtain ⟨y, z, d, w, hx, rfl, hd, -⟩ := h
  obtain ⟨a, b, rfl, rfl⟩ := replacement_split hx
  obtain ⟨t, ts, ht, hnot⟩ := front_string_ne W.isWord a (w ++ rest) hd
  rw [List.append_assoc, List.cons_append, List.cons_append, lex_code_quote, lex_escapeQuotes,
    List.nil_append, ht]
  exact ne_of_front hnot ⟨b, by simp [Token.front]⟩

lemma quote_diverted {content : List Char} (hx : x.head? ≠ some '\'')
    (h : lex W.isWord .code u ≠ (lex W.isWord .code x).flatMap (fill parameters)) :
    lex W.isWord (.quote content) u ≠ (lex W.isWord (.quote content) x).flatMap (fill parameters) := by
  rw [lex_quote hx, List.flatMap_cons, fill_string, List.singleton_append]
  by_cases hu : u.head? = some '\''
  · obtain ⟨cs, rfl⟩ : ∃ cs, u = '\'' :: cs := ⟨_, List.eq_cons_of_mem_head? hu⟩
    exact lex_quote_ne content cs _
  · rw [lex_quote hu]
    simpa using h

variable (hnames : ∀ key ∈ keyNames parameters, key ≠ [] ∧ ∀ c ∈ key, W.isWord c = true)

include hnames

lemma insertValues_append_cons (hkeys : ∀ key ∈ keys, key ∈ keyNames parameters) {x : Char}
    (hx : isName W.isWord x = false) (a b : List Char) :
    insertValues W parameters keys (a ++ x :: b) =
      insertValues W parameters keys a ++ x :: insertValues W parameters keys b := by
  simp only [isName, Bool.or_eq_false_iff, decide_eq_false_iff_not] at hx
  refine replaceEachBounded_append_cons hx.2 (fun key hkey hmem => ?_) hx.1 a b
  have := (hnames key (hkeys key hkey)).2 x hmem
  rw [hx.1] at this
  cases this

lemma found_placeholder {other : List Char} (hkey : key ∈ keyNames parameters)
    (hother : other ∈ keyNames parameters) : found W.isWord ('$' :: other) ('$' :: key) = decide (other = key) := by
  have hfree : '$' ∉ key := by
    intro h
    have := (hnames key hkey).2 _ h
    simp at this
  have hiff := boundedPrefix_name '$' (hnames other hother).1 (hnames other hother).2 (hnames key hkey).2
  simp [found, hiff, not_found_of_notMem hfree]

lemma insertValues_placeholder {before after : List (List Char)}
    (hkeys : keyNames parameters = before ++ key :: after) (hvalue : parameters.lookup (ofList key) = some v) :
    insertValues W parameters (keyNames parameters) ('$' :: key) =
      insertValues W parameters after v.replacement := by
  have hkey : key ∈ keyNames parameters := by simp [hkeys]
  have hnodup := nodup_keyNames parameters
  rw [hkeys] at hnodup
  have hbefore : insertValues W parameters before ('$' :: key) = '$' :: key := by
    refine replaceEachBounded_of_not_found fun other hother => ?_
    rw [found_placeholder hnames hkey (by simp [hkeys, hother]), decide_eq_false_iff_not]
    rintro rfl
    exact List.disjoint_of_nodup_append hnodup hother List.mem_cons_self
  have hwhole : BoundedPrefix W.isWord ('$' :: key) ('$' :: key) :=
    (boundedPrefix_name '$' (hnames key hkey).1 (hnames key hkey).2 (hnames key hkey).2).mpr rfl
  have hself : replaceBounded W.isWord ('$' :: key) (replacementOf parameters (ofList key)) ('$' :: key ++ []) = _ :=
    replaceBounded_pattern (List.cons_ne_nil '$' key) (by simpa using hwhole)
  rw [insertValues] at hbefore
  rw [insertValues, hkeys, replaceEachBounded_append, hbefore, replaceEachBounded_cons]
  simp only [List.append_nil, replaceBounded_nil] at hself
  rw [hself, insertValues, replacementOf, hvalue]

lemma fill_ofName_of_kept (h : ∀ key ∈ keyNames parameters, found W.isWord ('$' :: key) text = false) :
    fill parameters (ofName text) = [ofName text] := by
  unfold ofName
  split
  · rename_i name
    cases hlookup : parameters.lookup (ofList name) with
    | none => simp [fill, hlookup]
    | some v =>
      have hmem : name ∈ keyNames parameters := by
        rw [mem_keyNames, ← AList.lookup_isSome, hlookup, Option.isSome_some]
      have := found_placeholder hnames hmem hmem
      rw [h name hmem] at this
      simp at this
  · rfl

lemma fill_settle_of_kept {m : Mode} (h : ∀ key ∈ keyNames parameters, found W.isWord ('$' :: key) text = false) :
    (settle m text).1.flatMap (fill parameters) = (settle m text).1 := by
  have hfill := fill_ofName_of_kept hnames h
  unfold settle
  split
  · rfl
  · cases m <;> simp [hfill]

lemma lex_site {site : Site} (hmode : ∀ text, site.mode ≠ .name text)
    (htext : ∀ c ∈ site.text, isName W.isWord c = true) (hnext : rest.head? = site.next)
    (hrest : ∀ c ∈ rest.head?, isName W.isWord c = false)
    (h : site.Kept W parameters ∨ ∃ before key after v, site.Filled W parameters before key after v) :
    lex W.isWord site.mode (insertValues W parameters (keyNames parameters) site.text ++ rest) =
      (settle site.mode site.text).1.flatMap (fill parameters) ++
        lex W.isWord (settle site.mode site.text).2 rest := by
  rcases h with hkept | ⟨before, key, after, v, hfilled⟩
  · rw [insertValues, replaceEachBounded_of_not_found hkept, lex_settle W.quote hmode htext hrest,
      fill_settle_of_kept hnames hkept]
  · have hinsert : insertValues W parameters (keyNames parameters) site.text = v.replacement := by
      rw [hfilled.text, insertValues_placeholder hnames hfilled.keys hfilled.value]
      exact replaceEachBounded_of_not_found hfilled.unread
    have hfill : fill parameters (ofName ('$' :: key)) = v.literal := by
      simp [ofName, fill, hfilled.value]
    have hliteral := lex_replacement W hrest fun s hs => hnext ▸ (hfilled.apart s hs).1
    rw [hinsert, hfilled.text]
    cases hm : site.mode with
    | code => simp [settle, hliteral, hfill]
    | name text => exact absurd hm (hmode text)
    | string content => exact absurd hm (hfilled.code content)
    | quote content =>
      have hnot : ∀ s, v ≠ .str s := fun s hs => (hfilled.apart s hs).2 content hm
      have hhead : (v.replacement ++ rest).head? ≠ some '\'' := by
        obtain ⟨c, cs, hcs, -⟩ := replacement_head v
        have hfree := (notMem_replacement hnot).2
        rw [hcs, List.mem_cons, not_or] at hfree
        simpa [hcs] using Ne.symm hfree.1
      simp [settle, lex_quote hhead, hliteral, hfill]

lemma code_diverted (htext : ∀ c ∈ text, isName W.isWord c = true)
    (hrest : ∀ c ∈ rest.head?, isName W.isWord c = false) (hsame : rest'.head? = rest.head?)
    (hkept : ¬ Site.Kept W parameters ⟨.code, text, rest.head?⟩)
    (hfilled : ∀ before key after v, ¬ Site.Filled W parameters ⟨.code, text, rest.head?⟩ before key after v) :
    lex W.isWord .code (insertValues W parameters (keyNames parameters) text ++ rest') ≠
      (lex W.isWord .code (text ++ rest)).flatMap (fill parameters) := by
  by_cases hkey : ∃ key ∈ keyNames parameters, text = '$' :: key
  · obtain ⟨key, hmem, rfl⟩ := hkey
    obtain ⟨before, after, hkeys⟩ := List.append_of_mem hmem
    obtain ⟨v, hvalue⟩ : ∃ v, parameters.lookup (ofList key) = some v := by
      rwa [← Option.isSome_iff_exists, AList.lookup_isSome, ← mem_keyNames]
    have hexpected : (lex W.isWord .code ('$' :: key ++ rest)).flatMap (fill parameters) =
        v.literal ++ (lex W.isWord .code rest).flatMap (fill parameters) := by
      rw [lex_code_name W.quote (by simp) htext, lex_name hrest, List.flatMap_cons]
      simp [ofName, fill, hvalue]
    rw [insertValues_placeholder hnames hkeys hvalue, hexpected]
    by_cases hunread : ∀ other ∈ after, found W.isWord ('$' :: other) v.replacement = false
    · -- only the quotes can be at fault
      obtain ⟨s, rfl, hquote⟩ : ∃ s, v = .str s ∧ rest.head? = some '\'' := by
        by_contra hnone
        push Not at hnone
        exact hfilled before key after v ⟨hkeys, hvalue, rfl, by simp, hunread, fun s hs => ⟨hnone s hs, by simp⟩⟩
      obtain ⟨cs, rfl⟩ : ∃ cs, rest' = '\'' :: cs := ⟨_, List.eq_cons_of_mem_head? (hsame.trans hquote)⟩
      rw [insertValues, replaceEachBounded_of_not_found hunread, Value.replacement, List.append_assoc,
        List.cons_append, lex_code_quote, lex_escapeQuotes, List.nil_append, List.singleton_append,
        lex_string_quote]
      exact lex_quote_ne s cs _
    · exact value_diverted (diverts_insertValues (fun other h => by simp [hkeys, h]) hunread)
  · have hfill : fill parameters (ofName text) = [ofName text] := by
      unfold ofName
      split
      · rename_i name
        have hnone : parameters.lookup (ofList name) = none := by
          rw [AList.lookup_eq_none, ← mem_keyNames]
          exact fun hmem => hkey ⟨name, hmem, rfl⟩
        simp [fill, hnone]
      · rfl
    exact name_diverted htext hrest hfill (diverts_insertValues (fun _ h => h) hkept)

lemma site_diverted {site : Site} (hmode : ∀ text, site.mode ≠ .name text)
    (htext : ∀ c ∈ site.text, isName W.isWord c = true) (hrest : ∀ c ∈ rest.head?, isName W.isWord c = false)
    (hnext : rest.head? = site.next) (hnext' : rest'.head? = site.next)
    (h : ¬ (site.Kept W parameters ∨ ∃ before key after v, site.Filled W parameters before key after v)) :
    lex W.isWord site.mode (insertValues W parameters (keyNames parameters) site.text ++ rest') ≠
      (lex W.isWord site.mode (site.text ++ rest)).flatMap (fill parameters) := by
  obtain ⟨m, text, next⟩ := site
  obtain rfl : rest.head? = next := hnext
  push Not at h
  obtain ⟨hkept, hfilled⟩ := h
  have hfree : '\'' ∉ text := fun hmem => by simpa [isName] using htext _ hmem
  cases m with
  | code => exact code_diverted hnames htext hrest hnext' hkept hfilled
  | name other => exact absurd rfl (hmode other)
  | string content => exact string_diverted hfree (diverts_insertValues (fun _ h => h) hkept)
  | quote content =>
    have hne : text ≠ [] := by
      rintro rfl
      exact hkept fun _ _ => rfl
    have hhead : (text ++ rest).head? ≠ some '\'' := by
      obtain ⟨c, cs, rfl⟩ := List.exists_cons_of_ne_nil hne
      rw [List.mem_cons, not_or] at hfree
      simpa using Ne.symm hfree.1
    by_cases hcode : ∀ before key after v, ¬ Site.Filled W parameters ⟨.code, text, rest.head?⟩ before key after v
    · exact quote_diverted hhead (code_diverted hnames htext hrest hnext' hkept hcode)
    · -- the value is a string right behind another one
      push Not at hcode
      obtain ⟨before, key, after, v, hcode⟩ := hcode
      obtain ⟨s, rfl⟩ : ∃ s, v = .str s := by
        by_contra hnone
        push Not at hnone
        exact hfilled before key after v
          ⟨hcode.keys, hcode.value, hcode.text, by simp, hcode.unread, fun s hs => absurd hs (hnone s)⟩
      have hinsert : insertValues W parameters (keyNames parameters) text = '\'' :: (escapeQuotes s ++ ['\'']) := by
        rw [show text = _ from hcode.text, insertValues_placeholder hnames hcode.keys hcode.value]
        exact replaceEachBounded_of_not_found hcode.unread
      rw [hinsert, lex_quote hhead, List.flatMap_cons, fill_string]
      exact lex_quote_ne content _ _

omit hnames in
lemma flatMap_fill_of_no_placeholder {toks : List Token} (h : ∀ tok ∈ toks, ∀ name, tok ≠ .placeholder name) :
    toks.flatMap (fill parameters) = toks := by
  induction toks with
  | nil => rfl
  | cons tok toks ih =>
    have htok : fill parameters tok = [tok] := by
      cases tok with
      | placeholder name => exact absurd rfl (h _ List.mem_cons_self name)
      | _ => rfl
    rw [List.flatMap_cons, htok, ih fun other hother => h other (List.mem_cons_of_mem _ hother),
      List.singleton_append]

lemma lex_site_iff (site : Site) (rest rest' : List Char) (hmode : ∀ text, site.mode ≠ .name text)
    (htext : ∀ c ∈ site.text, isName W.isWord c = true) (hrest : ∀ c ∈ rest.head?, isName W.isWord c = false)
    (hnext : rest.head? = site.next) (hnext' : rest'.head? = site.next) :
    lex W.isWord site.mode (insertValues W parameters (keyNames parameters) site.text ++ rest') =
        (lex W.isWord site.mode (site.text ++ rest)).flatMap (fill parameters) ↔
      (site.Kept W parameters ∨ ∃ before key after v, site.Filled W parameters before key after v) ∧
        lex W.isWord (settle site.mode site.text).2 rest' =
          (lex W.isWord (settle site.mode site.text).2 rest).flatMap (fill parameters) := by
  by_cases hsite : site.Kept W parameters ∨ ∃ before key after v, site.Filled W parameters before key after v
  · rw [lex_site hnames hmode htext hnext' (by rwa [hnext', ← hnext]) hsite,
      lex_settle W.quote hmode htext hrest, List.flatMap_append, List.append_cancel_left_eq]
    exact (and_iff_right hsite).symm
  · exact iff_of_false (site_diverted hnames hmode htext hrest hnext hnext' hsite) fun h => hsite h.1

theorem lex_insertValues_iff {m : Mode} (hmode : ∀ text, m ≠ .name text)
    (htext : ∀ c ∈ text, isName W.isWord c = true) (rest : List Char) :
    lex W.isWord m (insertValues W parameters (keyNames parameters) (text ++ rest)) =
        (lex W.isWord m (text ++ rest)).flatMap (fill parameters) ↔
      ∀ site ∈ sites W.isWord m text rest,
        site.Kept W parameters ∨ ∃ before key after v, site.Filled W parameters before key after v := by
  induction rest generalizing m text with
  | nil =>
    have hsite := lex_site_iff hnames ⟨m, text, none⟩ [] [] hmode htext (by simp) rfl rfl
    have hend : (flush (settle m text).2).flatMap (fill parameters) = _ :=
      flatMap_fill_of_no_placeholder (flush_tokens (settle_ne_name hmode text))
    simp only [List.append_nil] at hsite ⊢
    rw [hsite, sites, List.forall_mem_singleton]
    exact and_iff_left hend.symm
  | cons c rest ih =>
    by_cases hc : isName W.isWord c = true
    · have hsplit : text ++ c :: rest = (text ++ [c]) ++ rest := by simp
      have htext' : ∀ d ∈ text ++ [c], isName W.isWord d = true := by
        intro d hd
        rcases List.mem_append.mp hd with hd | hd
        · exact htext d hd
        · exact List.mem_singleton.mp hd ▸ hc
      rw [hsplit, ih hmode htext', sites, if_pos hc]
    · rw [Bool.not_eq_true] at hc
      have hbehind := settle_ne_name hmode text
      have hsite := lex_site_iff hnames ⟨m, text, some c⟩ (c :: rest)
        (c :: insertValues W parameters (keyNames parameters) rest) hmode htext (by simpa using hc) rfl rfl
      have hrest := ih (step_plain hbehind hc).1 (List.forall_mem_nil _)
      rw [insertValues_append_cons hnames (fun _ h => h) hc, hsite, sites, if_neg (by simp [hc]),
        List.forall_mem_cons, lex, lex, List.flatMap_append,
        flatMap_fill_of_no_placeholder (step_plain hbehind hc).2, List.append_cancel_left_eq]
      exact and_congr_right fun _ => hrest

end

def NamedByWords (W : WordClass) (parameters : Params) : Prop :=
  ∀ key ∈ parameters.keys, key ≠ "" ∧ ∀ c ∈ key.toList, W.isWord c = true

theorem interpolate_iff {W : WordClass} {parameters : Params} (hnames : NamedByWords W parameters)
    (statement : String) :
    Interpolated W statement parameters (interpolate W statement parameters) ↔
      Undisturbed W statement parameters := by
  have hkeys : ∀ key ∈ keyNames parameters, key ≠ [] ∧ ∀ c ∈ key, W.isWord c = true := by
    intro key hkey
    rw [mem_keyNames, AList.mem_keys] at hkey
    have hname := hnames _ hkey
    simpa using hname
  rw [Interpolated, toList_interpolate]
  exact lex_insertValues_iff hkeys (m := .code) (by simp) (List.forall_mem_nil _) statement.toList

lemma interpolate_of_keys_eq_nil (W : WordClass) (statement : String) {parameters : Params}
    (h : parameters.keys = []) : interpolate W statement parameters = statement := by
  simp [interpolate, sortedKeys, h]

section

variable {statement : String} (W : WordClass) (parameters : Params) (h : mentionsGraphTable statement = true)

include W parameters h

lemma formatPgqStatement_duckDb :
    (DuckDbBridge.formatPgqStatement W statement parameters).1 = interpolate W statement parameters := by
  by_cases hkeys : parameters.keys = []
  · simp [DuckDbBridge.formatPgqStatement, hkeys, interpolate_of_keys_eq_nil]
  · simp [DuckDbBridge.formatPgqStatement, hkeys, h]

lemma formatPgqStatement_postgres :
    (PostgresBridge.formatPgqStatement W statement parameters).1 = interpolate W statement parameters := by
  by_cases hkeys : parameters.keys = []
  · simp [PostgresBridge.formatPgqStatement, hkeys, interpolate_of_keys_eq_nil]
  · simp [PostgresBridge.formatPgqStatement, hkeys, h]

end

theorem formatPgqStatement_tokens_iff (W : WordClass) (statement : String) (parameters : Params)
    (hgraph : mentionsGraphTable statement = true) (hnames : NamedByWords W parameters) :
    (Interpolated W statement parameters (DuckDbBridge.formatPgqStatement W statement parameters).1 ↔
        Undisturbed W statement parameters) ∧
      (Interpolated W statement parameters (PostgresBridge.formatPgqStatement W statement parameters).1 ↔
        Undisturbed W statement parameters) := by
  rw [formatPgqStatement_duckDb W parameters hgraph, formatPgqStatement_postgres W parameters hgraph]
  exact ⟨interpolate_iff hnames statement, interpolate_iff hnames statement⟩

lemma asciiWord_eq (c : Char) (_ : c.toNat < 128) : asciiWord c = (c.isAlphanum || c = '_') := rfl

def asciiWords : WordClass := ⟨asciiWord, asciiWord_eq⟩

def quotedName : Params := AList.insert "a" (.str "it's".toList) ∅

def quotedNames : Params := AList.insert "b" (.str "$5".toList) quotedName

theorem formatPgqStatement_tokens_iff_quotedNames :
    Undisturbed asciiWords "GRAPH_TABLE $b $a" quotedNames ∧
      (DuckDbBridge.formatPgqStatement asciiWords "GRAPH_TABLE $b $a" quotedNames).1 = "GRAPH_TABLE '$5' 'it''s'" := by
  have hkeys : quotedNames.keys = ["b", "a"] := rfl
  have h := formatPgqStatement_tokens_iff asciiWords "GRAPH_TABLE $b $a" quotedNames (by decide)
    (by simp [NamedByWords, hkeys, asciiWords, asciiWord])
  exact ⟨h.1.mp (by unfold Interpolated; decide), by decide⟩

def nestedPlaceholder : Params := AList.insert "a" (.str "$b".toList) (AList.insert "b" (.str " OR 1=1 --".toList) ∅)

theorem value_escapes_its_literal :
    (DuckDbBridge.formatPgqStatement asciiWords "GRAPH_TABLE $a" nestedPlaceholder).1 =
        "GRAPH_TABLE '' OR 1=1 --''" ∧
      (PostgresBridge.formatPgqStatement asciiWords "GRAPH_TABLE $a" nestedPlaceholder).1 =
        "GRAPH_TABLE '' OR 1=1 --''" ∧
      ¬ Interpolated asciiWords "GRAPH_TABLE $a" nestedPlaceholder "GRAPH_TABLE '' OR 1=1 --''" := by
  unfold Interpolated
  decide

end Voyager.Bridge
