import Voyager.Lib.Decimal
import Voyager.Lib.PrefixFree
import Voyager.Python.Value

/-! The `repr` of a value, and which values it tells apart. -/

namespace Voyager.Python

open Lib List

def isNaN (bits : UInt64) : Bool := decide (0x7ff0000000000000 < bits.toNat % 2 ^ 63)

variable (c : Char)

def isFloatChar : Bool := c.isDigit || c ∈ ['+', '-', '.', 'e', 'i', 'n', 'f', 'a']

/-- How Python prints: floats with the digits that read back as the same float, which characters beyond ASCII are
printed as they are, and what `repr` raises instead (an integer of too many digits, a value nested too deeply, the
`__repr__` of some object). -/
structure Printing where
  float : UInt64 → List Char
  isPrintable : Char → Bool
  raises : Value → Option PyErr
  float_chars : ∀ bits, ∀ c ∈ float bits, isFloatChar c = true
  float_fraction : ∀ bits, ∃ c ∈ float bits, c.isDigit = false ∧ c ≠ '-'
  float_injective : ∀ a b, isNaN a = false → isNaN b = false → float a = float b → a = b

def hexDigit (n : ℕ) : Char := "0123456789abcdef".toList.getD n '0'

def hexDigits : ℕ → ℕ → List Char
  | 0, _ => []
  | width + 1, n => hexDigits width (n / 16) ++ [hexDigit (n % 16)]

section

variable (printing : Printing)

def quoteOf (s : List Char) : Char := if s.contains '\'' && !s.contains '"' then '"' else '\''

def escapeChar (quote c : Char) : List Char :=
  if c == quote || c == '\\' then ['\\', c]
  else if c == '\t' then ['\\', 't']
  else if c == '\n' then ['\\', 'n']
  else if c == '\r' then ['\\', 'r']
  else if (' ' ≤ c && c.toNat < 0x7f) || (0x7f < c.toNat && printing.isPrintable c) then [c]
  else if c.toNat ≤ 0xff then '\\' :: 'x' :: hexDigits 2 c.toNat
  else if c.toNat ≤ 0xffff then '\\' :: 'u' :: hexDigits 4 c.toNat
  else '\\' :: 'U' :: hexDigits 8 c.toNat

def reprStr (s : List Char) : List Char :=
  quoteOf s :: (s.flatMap (escapeChar printing (quoteOf s)) ++ [quoteOf s])

mutual

def Value.repr : Value → List Char
  | .none => "None".toList
  | .bool true => "True".toList
  | .bool false => "False".toList
  | .int i => (toString i).toList
  | .float bits => printing.float bits
  | .str s => reprStr printing s.toList
  | .list items => '[' :: (reprItems items ++ [']'])
  | .tuple [] => "()".toList
  | .tuple (item :: []) => '(' :: (item.repr ++ ",)".toList)
  | .tuple (item :: items) => '(' :: (item.repr ++ ", ".toList ++ reprItems items ++ [')'])
  | .dict entries => '\x7b' :: (reprEntries entries ++ ['\x7d'])
  | .expr _ handle => "<AstExpr handle=NodeHandle(".toList ++ (toString handle).toList ++ ")>".toList
  | .object text _ _ => text.toList

def reprItems : List Value → List Char
  | [] => []
  | item :: [] => item.repr
  | item :: items => item.repr ++ ", ".toList ++ reprItems items

def reprEntries : List (Value × Value) → List Char
  | [] => []
  | (key, value) :: [] => key.repr ++ ": ".toList ++ value.repr
  | (key, value) :: entries => key.repr ++ ": ".toList ++ value.repr ++ ", ".toList ++ reprEntries entries

end

end

def hexValue : ℕ := if c.isDigit then c.toNat - 48 else c.toNat - 87

def ofHex (cs : List Char) : ℕ := cs.foldl (fun n c => 16 * n + hexValue c) 0

lemma hexValue_hexDigit {n : ℕ} (h : n < 16) : hexValue (hexDigit n) = n := by
  have hall : ∀ k : Fin 16, hexValue (hexDigit k) = k := by decide
  exact hall ⟨n, h⟩

lemma length_hexDigits (width n : ℕ) : (hexDigits width n).length = width := by
  induction width generalizing n with
  | zero => rfl
  | succ width ih => rw [hexDigits, length_append, ih, length_singleton]

lemma ofHex_hexDigits {width n : ℕ} (h : n < 16 ^ width) : ofHex (hexDigits width n) = n := by
  induction width generalizing n with
  | zero =>
    have : n = 0 := by simpa using h
    rw [this]
    rfl
  | succ width ih =>
    have hdiv : n / 16 < 16 ^ width := by
      rw [pow_succ] at h
      omega
    have hrest := ih hdiv
    rw [ofHex] at hrest
    rw [hexDigits, ofHex, foldl_concat, hrest, hexValue_hexDigit (Nat.mod_lt n (by decide))]
    omega

def readHex (width : ℕ) (cs : List Char) : Char × List Char := (.ofNat (ofHex (cs.take width)), cs.drop width)

def unescape : List Char → Option (Char × List Char)
  | '\\' :: 't' :: rest => some ('\t', rest)
  | '\\' :: 'n' :: rest => some ('\n', rest)
  | '\\' :: 'r' :: rest => some ('\r', rest)
  | '\\' :: 'x' :: rest => some (readHex 2 rest)
  | '\\' :: 'u' :: rest => some (readHex 4 rest)
  | '\\' :: 'U' :: rest => some (readHex 8 rest)
  | '\\' :: c :: rest => some (c, rest)
  | c :: rest => some (c, rest)
  | [] => none

lemma readHex_hexDigits {width : ℕ} {c : Char} (h : c.toNat < 16 ^ width) (rest : List Char) :
    readHex width (hexDigits width c.toNat ++ rest) = (c, rest) := by
  have hlength := length_hexDigits width c.toNat
  rw [readHex, take_left' hlength, drop_left' hlength, ofHex_hexDigits h, Char.ofNat_toNat]

lemma toNat_lt : c.toNat < 16 ^ 8 := by
  have := c.valid
  simp only [UInt32.isValidChar, Nat.isValidChar] at this
  simp only [Char.toNat]
  omega

def isQuote : Bool := c == '\'' || c == '"'

lemma isQuote_quoteOf (s : List Char) : isQuote (quoteOf s) = true := by
  rw [quoteOf]
  split_ifs <;> rfl

variable (printing : Printing)

lemma unescape_of_ne {c : Char} (h : c ≠ '\\') (rest : List Char) : unescape (c :: rest) = some (c, rest) := by
  rw [unescape]
  all_goals simp [h]

lemma unescape_escapeChar {quote : Char} (hquote : isQuote quote = true) (c : Char) (rest : List Char) :
    unescape (escapeChar printing quote c ++ rest) = some (c, rest) := by
  rw [escapeChar]
  split_ifs with hself htab hnewline hreturn hprinted hbyte hplane
  · have hc : c = '\'' ∨ c = '"' ∨ c = '\\' := by
      simp only [isQuote, Bool.or_eq_true, beq_iff_eq] at hquote hself
      rcases hself with rfl | rfl
      · tauto
      · tauto
    rcases hc with rfl | rfl | rfl
    all_goals rfl
  · rw [beq_iff_eq.mp htab]
    rfl
  · rw [beq_iff_eq.mp hnewline]
    rfl
  · rw [beq_iff_eq.mp hreturn]
    rfl
  · apply unescape_of_ne
    simp only [Bool.or_eq_true, beq_iff_eq, not_or] at hself
    exact hself.2
  · exact congrArg some (readHex_hexDigits (by omega) rest)
  · exact congrArg some (readHex_hexDigits (by omega) rest)
  · exact congrArg some (readHex_hexDigits (toNat_lt c) rest)

lemma escapeChar_ne_quote {quote : Char} (hquote : isQuote quote = true) (c : Char) (rest rest' : List Char) :
    escapeChar printing quote c ++ rest ≠ quote :: rest' := by
  have hslash : quote ≠ '\\' := by
    rintro rfl
    cases hquote
  intro h
  have hread := unescape_escapeChar printing hquote c rest
  rw [h, unescape_of_ne hslash] at hread
  obtain rfl : quote = c := by simpa using congrArg (Option.map Prod.fst) hread
  rw [escapeChar, if_pos (by simp)] at h
  exact hslash (cons.inj h).1.symm

variable {rest rest' : List Char}

lemma escaped_inj {quote : Char} (hquote : isQuote quote = true) {s t : List Char}
    (h : s.flatMap (escapeChar printing quote) ++ quote :: rest =
      t.flatMap (escapeChar printing quote) ++ quote :: rest') : s = t ∧ rest = rest' := by
  induction s generalizing t with
  | nil =>
    cases t with
    | nil => exact ⟨rfl, (cons.inj h).2⟩
    | cons d t =>
      rw [flatMap_cons, append_assoc] at h
      exact absurd h.symm (escapeChar_ne_quote printing hquote d _ _)
  | cons c s ih =>
    cases t with
    | nil =>
      rw [flatMap_cons, append_assoc] at h
      exact absurd h (escapeChar_ne_quote printing hquote c _ _)
    | cons d t =>
      rw [flatMap_cons, append_assoc, flatMap_cons, append_assoc] at h
      have hread := congrArg unescape h
      rw [unescape_escapeChar printing hquote, unescape_escapeChar printing hquote] at hread
      obtain ⟨rfl, htail⟩ := Prod.mk.inj (Option.some.inj hread)
      obtain ⟨rfl, hrest⟩ := ih htail
      exact ⟨rfl, hrest⟩

lemma reprStr_inj {s t : List Char}
    (h : reprStr printing s ++ rest = reprStr printing t ++ rest') : s = t ∧ rest = rest' := by
  simp only [reprStr, cons_append, append_assoc, nil_append] at h
  obtain ⟨hquote, hbody⟩ := cons.inj h
  rw [← hquote] at hbody
  exact escaped_inj printing (isQuote_quoteOf s) hbody

def isAtom : Bool := c.isAlphanum || c ∈ ['+', '-', '.']

def isIntChar : Bool := c.isDigit || c == '-'

lemma isAtom_of_isFloatChar {c : Char} (h : isFloatChar c = true) : isAtom c = true := by
  simp only [isFloatChar, mem_cons, not_mem_nil, or_false, Bool.or_eq_true, decide_eq_true_eq] at h
  rcases h with h | rfl | rfl | rfl | rfl | rfl | rfl | rfl | rfl
  · simp [isAtom, Char.isAlphanum, h]
  all_goals decide

lemma isFloatChar_of_isIntChar {c : Char} (h : isIntChar c = true) : isFloatChar c = true := by
  simp only [isIntChar, Bool.or_eq_true, beq_iff_eq] at h
  rcases h with h | rfl
  · simp [isFloatChar, h]
  · decide

lemma isIntChar_toString (i : ℤ) {c : Char} (h : c ∈ (toString i).toList) : isIntChar c = true := by
  rw [toList_toString_int, mem_append] at h
  rcases h with h | h
  · split_ifs at h with hneg
    · rw [mem_singleton.mp h]
      rfl
    · cases h
  · have := Nat.isDigit_of_mem_toDigits (by decide) (by decide) h
    simp [isIntChar, this]

inductive Shape
  | none | bool (b : Bool) | int | float | str | list | tuple | dict | other
deriving DecidableEq

def Value.shape : Value → Shape
  | .none => .none
  | .bool b => .bool b
  | .int _ => .int
  | .float _ => .float
  | .str _ => .str
  | .list _ => .list
  | .tuple _ => .tuple
  | .dict _ => .dict
  | .expr _ _ | .object _ _ _ => .other

def atomShape (text : List Char) : Shape :=
  if text = [] then .other
  else if text = "None".toList then .none
  else if text = "True".toList then .bool true
  else if text = "False".toList then .bool false
  else if text.all isIntChar then .int
  else .float

def shapeOf : List Char → Shape
  | '[' :: _ => .list
  | '(' :: _ => .tuple
  | '\x7b' :: _ => .dict
  | '\'' :: _ | '"' :: _ => .str
  | text => atomShape (text.takeWhile isAtom)

inductive Value.Plain : Value → Prop
  | none : Plain .none
  | bool (b : Bool) : Plain (.bool b)
  | int (i : ℤ) : Plain (.int i)
  | float {bits : UInt64} (h : isNaN bits = false) : Plain (.float bits)
  | str (s : String) : Plain (.str s)
  | list {items : List Value} (h : ∀ item ∈ items, Plain item) : Plain (.list items)
  | tuple {items : List Value} (h : ∀ item ∈ items, Plain item) : Plain (.tuple items)
  | dict {entries : List (Value × Value)} (hkeys : ∀ entry ∈ entries, Plain entry.1)
      (hvalues : ∀ entry ∈ entries, Plain entry.2) : Plain (.dict entries)

namespace Value.Plain

@[simp] lemma list_iff {items : List Value} : (Value.list items).Plain ↔ ∀ item ∈ items, item.Plain := by
  refine ⟨?_, .list⟩
  rintro ⟨⟩
  assumption

@[simp] lemma tuple_iff {items : List Value} : (Value.tuple items).Plain ↔ ∀ item ∈ items, item.Plain := by
  refine ⟨?_, .tuple⟩
  rintro ⟨⟩
  assumption

@[simp] lemma dict_iff {entries : List (Value × Value)} :
    (Value.dict entries).Plain ↔ ∀ entry ∈ entries, entry.1.Plain ∧ entry.2.Plain := by
  constructor
  · rintro ⟨⟩ entry hentry
    rename_i hkeys hvalues
    exact ⟨hkeys entry hentry, hvalues entry hentry⟩
  · intro h
    exact .dict (fun entry hentry => (h entry hentry).1) (fun entry hentry => (h entry hentry).2)

end Value.Plain

lemma shapeOf_atom (text : List Char) (hne : text ≠ []) (h : ∀ c ∈ text, isAtom c = true)
    (hrest : Stops isAtom rest) : shapeOf (text ++ rest) = atomShape text := by
  obtain ⟨c, cs, rfl⟩ := exists_cons_of_ne_nil hne
  have hc := h c mem_cons_self
  have hdefault : shapeOf (c :: cs ++ rest) = atomShape ((c :: cs ++ rest).takeWhile isAtom) := by
    rw [cons_append, shapeOf]
    all_goals
      intro _ h
      rw [(cons.inj h).1] at hc
      cases hc
  rw [hdefault, takeWhile_append_of_stops h hrest]

lemma atomShape_of_isFloatChar {text : List Char} (hne : text ≠ []) (h : ∀ c ∈ text, isFloatChar c = true) :
    atomShape text = if text.all isIntChar then .int else .float := by
  have hname : ∀ name : List Char, ¬isFloatChar (name.headD 'N') → text ≠ name := by
    rintro name hname rfl
    obtain ⟨c, cs, rfl⟩ := exists_cons_of_ne_nil hne
    exact hname (h c mem_cons_self)
  rw [atomShape, if_neg hne, if_neg (hname _ (by decide)), if_neg (hname _ (by decide)), if_neg (hname _ (by decide))]

lemma toString_int_ne_nil (i : ℤ) : (toString i).toList ≠ [] := by
  rw [toList_toString_int]
  simp [Nat.toDigits_ne_nil]

lemma float_ne_nil (bits : UInt64) : printing.float bits ≠ [] := by
  obtain ⟨c, hc, -⟩ := printing.float_fraction bits
  exact ne_nil_of_mem hc

lemma isAtom_toString (i : ℤ) : ∀ c ∈ (toString i).toList, isAtom c = true :=
  fun _ hc => isAtom_of_isFloatChar (isFloatChar_of_isIntChar (isIntChar_toString i hc))

lemma isAtom_float (bits : UInt64) : ∀ c ∈ printing.float bits, isAtom c = true :=
  fun c hc => isAtom_of_isFloatChar (printing.float_chars bits c hc)

lemma atomShape_int (i : ℤ) : atomShape (toString i).toList = .int := by
  rw [atomShape_of_isFloatChar (toString_int_ne_nil i)
    (fun _ hc => isFloatChar_of_isIntChar (isIntChar_toString i hc)), if_pos]
  exact all_eq_true.mpr (fun _ hc => isIntChar_toString i hc)

lemma atomShape_float (bits : UInt64) : atomShape (printing.float bits) = .float := by
  rw [atomShape_of_isFloatChar (float_ne_nil printing bits) (printing.float_chars bits), if_neg]
  obtain ⟨c, hc, hdigit, hminus⟩ := printing.float_fraction bits
  intro hall
  have := all_eq_true.mp hall c hc
  simp [isIntChar, hdigit, hminus] at this

variable (items : List Value)

lemma reprItems_eq : reprItems printing items = joined ',' [' '] (Value.repr printing) items := by
  cases items with
  | nil => rfl
  | cons item items =>
    induction items generalizing item with
    | nil => exact (append_nil _).symm
    | cons second items ih =>
      change item.repr printing ++ [',', ' '] ++ reprItems printing (second :: items) = _
      rw [ih second, joined, joined, append_assoc]
      rfl

def reprEntry (entry : Value × Value) : List Char :=
  entry.1.repr printing ++ ':' :: ' ' :: entry.2.repr printing

lemma reprEntries_eq (entries : List (Value × Value)) :
    reprEntries printing entries = joined ',' [' '] (reprEntry printing) entries := by
  cases entries with
  | nil => rfl
  | cons entry entries =>
    induction entries generalizing entry with
    | nil =>
      change entry.1.repr printing ++ [':', ' '] ++ entry.2.repr printing = _
      simp [joined, followed, reprEntry]
    | cons second entries ih =>
      change entry.1.repr printing ++ [':', ' '] ++ entry.2.repr printing ++ [',', ' '] ++
        reprEntries printing (second :: entries) = _
      rw [ih second]
      simp [joined, followed, reprEntry]

lemma repr_list (rest : List Char) : (Value.list items).repr printing ++ rest =
      '[' :: (joined ',' [' '] (Value.repr printing) items ++ ']' :: rest) := by
  rw [← reprItems_eq]
  change '[' :: (reprItems printing items ++ [']'] ++ rest) = _
  simp

lemma repr_dict (entries : List (Value × Value)) (rest : List Char) : (Value.dict entries).repr printing ++ rest =
      '\x7b' :: (joined ',' [' '] (reprEntry printing) entries ++ '\x7d' :: rest) := by
  rw [← reprEntries_eq]
  change '\x7b' :: (reprEntries printing entries ++ ['\x7d'] ++ rest) = _
  simp

def tupleTail : List Value → List Char
  | [] => [',']
  | items => followed ',' [' '] (Value.repr printing) items

lemma repr_tuple_cons (item : Value) (items : List Value) (rest : List Char) :
    (Value.tuple (item :: items)).repr printing ++ rest =
      '(' :: (item.repr printing ++ (tupleTail printing items ++ ')' :: rest)) := by
  cases items with
  | nil =>
    change '(' :: (item.repr printing ++ [',', ')'] ++ rest) = _
    simp [tupleTail]
  | cons second items =>
    change '(' :: (item.repr printing ++ [',', ' '] ++ reprItems printing (second :: items) ++ [')'] ++ rest) = _
    rw [reprItems_eq]
    simp [joined, followed, tupleTail]

lemma shapeOf_repr {v : Value} (hv : v.Plain) (hrest : Stops isAtom rest) :
    shapeOf (v.repr printing ++ rest) = v.shape := by
  cases hv with
  | none => exact shapeOf_atom "None".toList (by decide) (all_eq_true.mp (by decide)) hrest
  | bool b =>
    cases b with
    | false => exact shapeOf_atom "False".toList (by decide) (all_eq_true.mp (by decide)) hrest
    | true => exact shapeOf_atom "True".toList (by decide) (all_eq_true.mp (by decide)) hrest
  | int i =>
    have hatom := shapeOf_atom _ (toString_int_ne_nil i) (isAtom_toString i) hrest
    exact hatom.trans (atomShape_int i)
  | @float bits _ =>
    have hatom := shapeOf_atom _ (float_ne_nil printing bits) (isAtom_float printing bits) hrest
    exact hatom.trans (atomShape_float printing bits)
  | str s =>
    change shapeOf (reprStr printing s.toList ++ rest) = .str
    rw [reprStr, quoteOf]
    split_ifs
    · rfl
    · rfl
  | list _ =>
    rw [repr_list]
    rfl
  | @tuple items _ =>
    cases items with
    | nil => rfl
    | cons item items =>
      rw [repr_tuple_cons]
      rfl
  | dict _ _ =>
    rw [repr_dict]
    rfl

lemma shape_ne_other {v : Value} (hv : v.Plain) : v.shape ≠ .other := by
  cases hv with
  | none | bool | int | float | str | list | tuple | dict => exact nofun

def isClosing : Bool := c ∈ [']', ')', '\x7d']

lemma repr_ne_closing {v : Value} (hv : v.Plain) {close : Char} (hclose : isClosing close = true)
    (hrest : Stops isAtom rest) (rest' : List Char) :
    v.repr printing ++ rest ≠ close :: rest' := by
  intro h
  apply shape_ne_other hv
  rw [← shapeOf_repr printing hv hrest, h]
  simp only [isClosing, mem_cons, not_mem_nil, or_false, decide_eq_true_eq] at hclose
  rcases hclose with rfl | rfl | rfl
  all_goals rfl

abbrev ReprDelimited (v : Value) : Prop := Delimited isAtom (Value.repr printing) Value.Plain v

def PlainEntry (entry : Value × Value) : Prop := entry.1.Plain ∧ entry.2.Plain

lemma reprEntry_ne_closing {entry : Value × Value} (h : PlainEntry entry) {close : Char}
    (hclose : isClosing close = true) (rest rest' : List Char) : reprEntry printing entry ++ rest ≠ close :: rest' := by
  rw [reprEntry, append_assoc]
  exact repr_ne_closing printing h.1 hclose (stops_cons (by decide) _) rest'

lemma reprEntry_delimited {entry : Value × Value} (hkey : ReprDelimited printing entry.1)
    (hvalue : ReprDelimited printing entry.2) : Delimited isAtom (reprEntry printing) PlainEntry entry := by
  intro other rest rest' hother hrest hrest' h
  have hcolon : ∀ tail : List Char, Stops isAtom (':' :: tail) := stops_cons (by decide)
  simp only [reprEntry, append_assoc, cons_append] at h
  obtain ⟨hfst, htail⟩ := hkey hother.1 (hcolon _) (hcolon _) h
  simp only [cons.injEq, true_and] at htail
  obtain ⟨hsnd, hrests⟩ := hvalue hother.2 hrest hrest' htail
  exact ⟨Prod.ext hfst hsnd, hrests⟩

lemma stops_tupleTail (rest : List Char) : Stops isAtom (tupleTail printing items ++ rest) := by
  cases items with
  | nil => exact stops_cons (by decide) _
  | cons item items =>
    rw [tupleTail, followed_cons]
    · exact stops_cons (by decide) _
    · simp

section

variable {items others : List Value} (hitems : ∀ item ∈ items, ReprDelimited printing item)

include hitems

lemma tupleTail_inj (hothers : ∀ item ∈ others, item.Plain)
    (h : tupleTail printing items ++ ')' :: rest = tupleTail printing others ++ ')' :: rest') :
    items = others ∧ rest = rest' := by
  cases items with
  | nil =>
    cases others with
    | nil =>
      simp only [tupleTail, cons_append, nil_append, cons.injEq, true_and] at h
      exact ⟨rfl, h⟩
    | cons other others => simp [tupleTail, followed] at h
  | cons item items =>
    cases others with
    | nil => simp [tupleTail, followed] at h
    | cons other others =>
      simp only [tupleTail] at h
      exact followed_inj (by decide) (by decide) (by decide) hitems hothers h

lemma repr_tuple_inj (hplain : ∀ item ∈ items, item.Plain) (hothers : ∀ item ∈ others, item.Plain)
    (h : (Value.tuple items).repr printing ++ rest = (Value.tuple others).repr printing ++ rest') :
    items = others ∧ rest = rest' := by
  cases items with
  | nil =>
    cases others with
    | nil => exact ⟨rfl, append_cancel_left h⟩
    | cons other others =>
      rw [repr_tuple_cons] at h
      have hfirst := stops_tupleTail printing others (')' :: rest')
      exact absurd (cons.inj h).2.symm
        (repr_ne_closing printing (hothers other mem_cons_self) rfl hfirst rest)
  | cons item items =>
    rw [repr_tuple_cons] at h
    cases others with
    | nil =>
      have hfirst := stops_tupleTail printing items (')' :: rest)
      exact absurd (cons.inj h).2
        (repr_ne_closing printing (hplain item mem_cons_self) rfl hfirst rest')
    | cons other others =>
      rw [repr_tuple_cons] at h
      obtain ⟨rfl, htail⟩ := hitems item mem_cons_self (hothers other mem_cons_self)
        (stops_tupleTail printing items _) (stops_tupleTail printing others _) (cons.inj h).2
      obtain ⟨rfl, hrest⟩ := tupleTail_inj printing (fun x hx => hitems x (mem_cons_of_mem item hx))
        (fun x hx => hothers x (mem_cons_of_mem item hx)) htail
      exact ⟨rfl, hrest⟩

end

lemma shape_eq_of_repr {v w : Value} (hv : v.Plain) (hw : w.Plain)
    (hrest : Stops isAtom rest) (hrest' : Stops isAtom rest')
    (h : v.repr printing ++ rest = w.repr printing ++ rest') : v.shape = w.shape := by
  rw [← shapeOf_repr printing hv hrest, h, shapeOf_repr printing hw hrest']

theorem repr_delimited {v : Value} (hv : v.Plain) : ReprDelimited printing v := by
  induction hv with
  | none =>
    intro w rest rest' hw hrest hrest' h
    have hshape := shape_eq_of_repr printing .none hw hrest hrest' h
    cases hw with
    | none => exact ⟨rfl, append_cancel_left h⟩
    | _ => cases hshape
  | bool b =>
    intro w rest rest' hw hrest hrest' h
    have hshape := shape_eq_of_repr printing (.bool b) hw hrest hrest' h
    cases hw with
    | bool b' =>
      obtain rfl : b = b' := Shape.bool.inj hshape
      exact ⟨rfl, append_cancel_left h⟩
    | _ => cases hshape
  | int i =>
    intro w rest rest' hw hrest hrest' h
    have hshape := shape_eq_of_repr printing (.int i) hw hrest hrest' h
    cases hw with
    | int j =>
      obtain ⟨htext, hrests⟩ := append_inj_of_stops (isAtom_toString i) (isAtom_toString j) hrest hrest' h
      rw [toString_int_injective htext]
      exact ⟨rfl, hrests⟩
    | _ => cases hshape
  | @float bits hbits =>
    intro w rest rest' hw hrest hrest' h
    have hshape := shape_eq_of_repr printing (.float hbits) hw hrest hrest' h
    cases hw with
    | @float bits' hbits' =>
      obtain ⟨htext, hrests⟩ :=
        append_inj_of_stops (isAtom_float printing bits) (isAtom_float printing bits') hrest hrest' h
      rw [printing.float_injective bits bits' hbits hbits' htext]
      exact ⟨rfl, hrests⟩
    | _ => cases hshape
  | str s =>
    intro w rest rest' hw hrest hrest' h
    have hshape := shape_eq_of_repr printing (.str s) hw hrest hrest' h
    cases hw with
    | str t =>
      obtain ⟨htext, hrests⟩ := reprStr_inj printing h
      rw [String.toList_inj.mp htext]
      exact ⟨rfl, hrests⟩
    | _ => cases hshape
  | list hitems ih =>
    intro w rest rest' hw hrest hrest' h
    have hshape := shape_eq_of_repr printing (.list hitems) hw hrest hrest' h
    cases hw with
    | list hothers =>
      rw [repr_list, repr_list] at h
      obtain ⟨rfl, hrests⟩ := joined_inj (by decide) (by decide) (by decide)
        (fun w rest rest' hw hrest => repr_ne_closing printing hw rfl hrest rest') ih hitems hothers
        (cons.inj h).2
      exact ⟨rfl, hrests⟩
    | _ => cases hshape
  | tuple hitems ih =>
    intro w rest rest' hw hrest hrest' h
    have hshape := shape_eq_of_repr printing (.tuple hitems) hw hrest hrest' h
    cases hw with
    | tuple hothers =>
      obtain ⟨rfl, hrests⟩ := repr_tuple_inj printing ih hitems hothers h
      exact ⟨rfl, hrests⟩
    | _ => cases hshape
  | dict hkeys hvalues ihkeys ihvalues =>
    intro w rest rest' hw hrest hrest' h
    have hshape := shape_eq_of_repr printing (.dict hkeys hvalues) hw hrest hrest' h
    cases hw with
    | dict hkeys' hvalues' =>
      rw [repr_dict, repr_dict] at h
      obtain ⟨rfl, hrests⟩ := joined_inj (by decide) (by decide) (by decide)
        (fun entry rest rest' hentry _ => reprEntry_ne_closing printing hentry rfl rest rest')
        (fun entry hentry => reprEntry_delimited printing (ihkeys entry hentry) (ihvalues entry hentry))
        (fun entry hentry => ⟨hkeys entry hentry, hvalues entry hentry⟩)
        (fun entry hentry => ⟨hkeys' entry hentry, hvalues' entry hentry⟩) (cons.inj h).2
      exact ⟨rfl, hrests⟩
    | _ => cases hshape

end Voyager.Python
