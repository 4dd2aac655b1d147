import Voyager.Lib.Decimal
import Voyager.Lib.Utf8
import Voyager.Redis.RespStable

/-! How values are written, and that the parser reads them back. -/

namespace Voyager.Redis

open Lib Net Incremental List

def crlf : Bytes := [13, 10]

def decimal (n : ℕ) : Bytes := utf8Bytes (toString n)

def encodeDouble (formatF64 : BitVec 64 → String) (f : BitVec 64) : Bytes :=
  if 0x7FF0000000000000 < f.toNat % 2 ^ 63 then 0x2C :: (utf8Bytes "nan" ++ crlf)
  else if f.toNat % 2 ^ 63 = 0x7FF0000000000000 then
    if f.msb then 0x2C :: (utf8Bytes "-inf" ++ crlf) else 0x2C :: (utf8Bytes "inf" ++ crlf)
  else 0x2C :: (utf8Bytes (formatF64 f) ++ crlf)

section

variable (formatF64 : BitVec 64 → String)

mutual

def RespValue.encode : RespValue → Bytes
  | .simpleString s => 0x2B :: (utf8Bytes s ++ crlf)
  | .error e => 0x2D :: (utf8Bytes e ++ crlf)
  | .integer i => 0x3A :: (utf8Bytes (toString i) ++ crlf)
  | .bulkString none => 0x24 :: (utf8Bytes "-1" ++ crlf)
  | .bulkString (some bytes) => 0x24 :: (decimal bytes.length ++ crlf ++ (bytes ++ crlf))
  | .array none => 0x2A :: (utf8Bytes "-1" ++ crlf)
  | .array (some items) => 0x2A :: (decimal items.length ++ crlf ++ encodeItems items)
  | .null => 0x5F :: crlf
  | .double f => encodeDouble formatF64 f
  | .boolean b => 0x23 :: (if b then 0x74 else 0x66) :: crlf
  | .blobError bytes => 0x21 :: (decimal bytes.length ++ crlf ++ (bytes ++ crlf))
  | .verbatimString format text =>
    0x3D :: (decimal (4 + text.length) ++ crlf ++ (format ++ 0x3A :: text ++ crlf))
  | .bigNumber num => 0x28 :: (utf8Bytes num ++ crlf)
  | .map pairs => 0x25 :: (decimal pairs.length ++ crlf ++ encodePairs pairs)
  | .set items => 0x7E :: (decimal items.length ++ crlf ++ encodeItems items)
  | .push items => 0x3E :: (decimal items.length ++ crlf ++ encodeItems items)

def encodeItems : List RespValue → Bytes
  | [] => []
  | item :: items => item.encode ++ encodeItems items

def encodePairs : List (RespValue × RespValue) → Bytes
  | [] => []
  | (key, value) :: pairs => key.encode ++ value.encode ++ encodePairs pairs

end

end

mutual

def RespValue.depth : RespValue → ℕ
  | .array (some items) => depthItems items
  | .set items => depthItems items
  | .push items => depthItems items
  | .map pairs => depthPairs pairs
  | _ => 0

def depthItems : List RespValue → ℕ
  | [] => 0
  | item :: items => max (item.depth + 1) (depthItems items)

def depthPairs : List (RespValue × RespValue) → ℕ
  | [] => 0
  | (key, value) :: pairs => max (max (key.depth + 1) (value.depth + 1)) (depthPairs pairs)

end

def Line (s : String) : Prop := '\r' ∉ s.toList ∧ '\n' ∉ s.toList

mutual

def RespValue.Encodable : RespValue → Prop
  | .simpleString s => Line s
  | .error e => Line e
  | .bigNumber num => Line num
  | .integer i => -2 ^ 63 ≤ i ∧ i < 2 ^ 63
  | .double _ => False
  | .verbatimString format _ => format.length = 3
  | .array (some items) => items.length ≤ maxRespCollectionLen ∧ EncodableItems items
  | .set items => items.length ≤ maxRespCollectionLen ∧ EncodableItems items
  | .push items => items.length ≤ maxRespCollectionLen ∧ EncodableItems items
  | .map pairs => pairs.length ≤ maxRespCollectionLen ∧ EncodablePairs pairs
  | _ => True

def EncodableItems : List RespValue → Prop
  | [] => True
  | item :: items => item.Encodable ∧ EncodableItems items

def EncodablePairs : List (RespValue × RespValue) → Prop
  | [] => True
  | (key, value) :: pairs => (key.Encodable ∧ value.Encodable) ∧ EncodablePairs pairs

end

variable {bound n : ℕ}

lemma parseDigits_eq {overflow : String} {cs : List Char} (hcs : ∀ c ∈ cs, c.isDigit = true)
    (hbound : Nat.ofDigitChars 10 cs n ≤ bound) :
    parseDigits bound overflow n cs = .ok (Nat.ofDigitChars 10 cs n) := by
  induction cs generalizing n with
  | nil => rfl
  | cons c cs ih =>
    obtain ⟨hc, hcs⟩ := List.forall_mem_cons.mp hcs
    have hstep : Nat.ofDigitChars 10 (c :: cs) n = Nat.ofDigitChars 10 cs (n * 10 + (c.toNat - 48)) := by
      rw [Nat.ofDigitChars_cons, Nat.mul_comm]
      rfl
    rw [hstep] at hbound ⊢
    rw [parseDigits, if_pos hc]
    simp only
    rw [if_pos ((le_ofDigitChars cs _).trans hbound), ih hcs hbound]

lemma parseUnsigned_toDigits (overflow : String) (h : n ≤ bound) :
    parseUnsigned bound overflow (Nat.toDigits 10 n) = .ok n := by
  have hdigits : ∀ c ∈ Nat.toDigits 10 n, c.isDigit = true :=
    fun c hc => Nat.isDigit_of_mem_toDigits (by decide) (by decide) hc
  rw [parseUnsigned, if_neg Nat.toDigits_ne_nil, parseDigits_eq hdigits]
  · rw [Nat.ofDigitChars_ten_toDigits]
  · rwa [Nat.ofDigitChars_ten_toDigits]

lemma toDigits_cases (n : ℕ) : ∃ c cs, Nat.toDigits 10 n = c :: cs ∧ c ≠ '-' ∧ c ≠ '+' := by
  obtain ⟨c, cs, hcs⟩ := exists_cons_of_ne_nil (Nat.toDigits_ne_nil (b := 10) (n := n))
  have hc : c.isDigit = true := Nat.isDigit_of_mem_toDigits (b := 10) (n := n) (by decide) (by decide) (by simp [hcs])
  refine ⟨c, cs, hcs, ?_, ?_⟩
  · rintro rfl
    cases hc
  · rintro rfl
    cases hc

lemma toList_toString_neg (h : 0 < n) : (toString (-(n : ℤ))).toList = '-' :: Nat.toDigits 10 n := by
  have hneg : -(n : ℤ) < 0 := by omega
  rw [toList_toString_int, if_pos hneg, Int.natAbs_neg, Int.natAbs_natCast]
  rfl

lemma parseI64_nat (h : n < 2 ^ 63) : parseI64 (toString n) = .ok (n : ℤ) := by
  obtain ⟨c, cs, hcs, hminus, hplus⟩ := toDigits_cases n
  have hparse := @parseUnsigned_toDigits (2 ^ 63 - 1) n tooLarge (by omega)
  rw [parseI64, toList_toString_nat, hcs]
  rw [hcs] at hparse
  split
  · cases ‹_ = _›
  · rename_i heq
    exact absurd (List.cons.inj heq).1 hminus
  · rename_i heq
    exact absurd (List.cons.inj heq).1 hplus
  · rw [hparse]
    rfl

lemma parseI64_neg (hpos : 0 < n) (h : n ≤ 2 ^ 63) : parseI64 (toString (-(n : ℤ))) = .ok (-(n : ℤ)) := by
  rw [parseI64, toList_toString_neg hpos]
  simp only [parseUnsigned_toDigits tooSmall h]
  rfl

lemma parseI64_toString {i : ℤ} (h : -2 ^ 63 ≤ i ∧ i < 2 ^ 63) : parseI64 (toString i) = .ok i := by
  obtain ⟨n, rfl | rfl⟩ := i.eq_nat_or_neg
  · exact parseI64_nat (by omega)
  · cases n with
    | zero => exact parseI64_nat (n := 0) (by decide)
    | succ n => exact parseI64_neg (Nat.succ_pos n) (by omega)

lemma parseUsize_toString (h : n < 2 ^ 64) : parseUsize (toString n) = .ok n := by
  obtain ⟨c, cs, hcs, hminus, hplus⟩ := toDigits_cases n
  have hparse := @parseUnsigned_toDigits (2 ^ 64 - 1) n tooLarge (by omega)
  rw [parseUsize, toList_toString_nat, hcs]
  rw [hcs] at hparse
  split
  · cases ‹_ = _›
  · rename_i heq
    exact absurd (List.cons.inj heq).1 hplus
  · exact hparse

lemma findCrlf_line {line : Bytes} (h : 13 ∉ line) (rest : Bytes) :
    findCrlf (line ++ crlf ++ rest) = some line.length := by
  induction line with
  | nil => rfl
  | cons b line ih =>
    rw [mem_cons, not_or] at h
    obtain ⟨hb, hline⟩ := h
    obtain ⟨c, cs, hcs⟩ : ∃ c cs, line ++ crlf ++ rest = c :: cs := by
      cases line <;> exact ⟨_, _, rfl⟩
    have := ih hline
    rw [hcs] at this
    rw [cons_append, cons_append, hcs, findCrlf, if_neg (fun heq => hb heq.1.symm), this]
    rfl

lemma parseLine_line {line : Bytes} (h : 13 ∉ line) (rest : Bytes) :
    parseLine (line ++ crlf ++ rest) = some (line, (line ++ crlf).length) := by
  rw [parseLine, findCrlf_line h, Option.map_some, append_assoc, take_left, length_append]
  rfl

lemma afterLine_line {α : Type} {line : Bytes} (h : 13 ∉ line) (f : Bytes → ℕ → Incremental NetError α) (rest : Bytes) :
    afterLine f (line ++ crlf ++ rest) = f line (line ++ crlf).length (line ++ crlf ++ rest) := by
  rw [afterLine, parseLine_line h]

lemma Line.notMem {s : String} (h : Line s) : 13 ∉ utf8Bytes s := by
  refine notMem_utf8Bytes (by decide) fun c hc heq => ?_
  have : c = '\r' := Char.toNat_inj.mp heq
  exact h.1 (this ▸ hc)

lemma line_decimal (n : ℕ) : Line (toString n) := by
  rw [Line, toList_toString_nat]
  constructor
  all_goals
    intro hmem
    cases Nat.isDigit_of_mem_toDigits (by decide) (by decide) hmem

lemma line_toString (i : ℤ) : Line (toString i) := by
  obtain ⟨n, rfl | rfl⟩ := i.eq_nat_or_neg
  · exact line_decimal n
  · cases n with
    | zero => exact line_decimal 0
    | succ n =>
      rw [Line, toList_toString_neg (Nat.succ_pos n)]
      have hdigits := line_decimal (n + 1)
      rw [Line, toList_toString_nat] at hdigits
      simp [hdigits]

section

variable (std : Std)

lemma utf8_utf8Bytes (what s : String) : utf8 std what (utf8Bytes s) = .ok s := by
  rw [utf8, fromUTF8_utf8Bytes]

variable {what : String}

lemma parseLength_utf8Bytes {α : Type} {s : String} {parse : String → Except String α} {a : α} (h : parse s = .ok a) :
    parseLength std what parse (utf8Bytes s) = .ok a := by
  simp only [parseLength, utf8_utf8Bytes, number, bind, Except.bind, h]

def ReadsBody (item : Incremental NetError RespValue) (typeMarker : UInt8) (body : Bytes) (v : RespValue) : Prop :=
  ∀ rest, parseBody std item typeMarker (body ++ rest) = .ok (some (v, body.length))

variable {std} {item : Incremental NetError RespValue}

lemma parseText_line {s : String} {f : String → Except NetError RespValue} {v : RespValue} (h : Line s)
    (hf : f s = .ok v) (rest : Bytes) :
    parseText std what f (utf8Bytes s ++ crlf ++ rest) = .ok (some (v, (utf8Bytes s ++ crlf).length)) := by
  simp only [parseText, afterLine_line h.notMem, utf8_utf8Bytes, hf, bind, Except.bind, pure, Except.pure]

lemma parsePayload_bytes (missing incomplete : String) {start bytes : Bytes}
    (h : (start ++ (bytes ++ crlf)).length < 2 ^ 64) (rest : Bytes) :
    parsePayload missing incomplete start.length bytes.length (start ++ (bytes ++ crlf) ++ rest) =
      .ok (some (bytes, (start ++ (bytes ++ crlf)).length)) := by
  have hlength : (start ++ (bytes ++ crlf)).length = start.length + bytes.length + 2 := by
    simp only [length_append, crlf, length_cons, length_nil, Nat.add_assoc]
  rw [hlength] at h ⊢
  rw [append_assoc]
  exact parsePayload_eq_some.mpr ⟨h, rfl, rfl, rest, by rw [append_assoc]; rfl⟩

lemma readsBody_null : ReadsBody std item 0x5F crlf .null := fun _ => by simp [parseBody, parseNull, crlf]

lemma readsBody_boolean (b : Bool) : ReadsBody std item 0x23 ((if b then 0x74 else 0x66) :: crlf) (.boolean b) := by
  intro rest
  cases b
  all_goals simp [parseBody, parseBoolean, crlf]

lemma readsBody_simpleString {s : String} (h : Line s) :
    ReadsBody std item 0x2B (utf8Bytes s ++ crlf) (.simpleString s) :=
  fun rest => parseText_line h rfl rest

lemma readsBody_error {e : String} (h : Line e) : ReadsBody std item 0x2D (utf8Bytes e ++ crlf) (.error e) :=
  fun rest => parseText_line h rfl rest

lemma readsBody_bigNumber {num : String} (h : Line num) :
    ReadsBody std item 0x28 (utf8Bytes num ++ crlf) (.bigNumber num) :=
  fun rest => parseText_line h rfl rest

lemma readsBody_integer {i : ℤ} (h : -2 ^ 63 ≤ i ∧ i < 2 ^ 63) :
    ReadsBody std item 0x3A (utf8Bytes (toString i) ++ crlf) (.integer i) := by
  refine fun rest => parseText_line (line_toString i) ?_ rest
  simp only [number, parseI64_toString h]
  rfl

lemma line_minusOne : Line "-1" := ⟨by decide, by decide⟩

lemma readsBody_nullString : ReadsBody std item 0x24 (utf8Bytes "-1" ++ crlf) (.bulkString none) := by
  intro rest
  have hlen : parseLength std "bulk string" parseI64 (utf8Bytes "-1") = .ok (-1) := parseLength_utf8Bytes std rfl
  change parseBulkString std _ = _
  rw [parseBulkString, afterLine_line line_minusOne.notMem, hlen]
  rfl

lemma readsBody_nullArray : ReadsBody std item 0x2A (utf8Bytes "-1" ++ crlf) (.array none) := by
  intro rest
  have hlen : parseLength std "array" parseI64 (utf8Bytes "-1") = .ok (-1) := parseLength_utf8Bytes std rfl
  change parseArray std item _ = _
  rw [parseArray, afterLine_line line_minusOne.notMem, hlen]
  rfl

lemma afterLine_decimal (n : ℕ) (f : Bytes → ℕ → Incremental NetError RespValue) (body rest : Bytes) :
    afterLine f (decimal n ++ crlf ++ body ++ rest) =
      f (decimal n) (decimal n ++ crlf).length (decimal n ++ crlf ++ (body ++ rest)) := by
  rw [append_assoc, decimal, afterLine_line (line_decimal n).notMem]

lemma mapValue_ok {α β : Type} (f : α → β) (a : α) (n : ℕ) : mapValue f (.ok (some (a, n))) = .ok (some (f a, n)) := rfl

lemma parseLength_i64 (h : n < 2 ^ 63) : parseLength std what parseI64 (decimal n) = .ok (n : ℤ) :=
  parseLength_utf8Bytes std (parseI64_nat h)

lemma parseLength_usize (h : n < 2 ^ 64) : parseLength std what parseUsize (decimal n) = .ok n :=
  parseLength_utf8Bytes std (parseUsize_toString h)

section

variable {bytes : Bytes} (h : (decimal bytes.length ++ crlf ++ (bytes ++ crlf)).length < 2 ^ 63)

include h

lemma readsBody_bulkString :
    ReadsBody std item 0x24 (decimal bytes.length ++ crlf ++ (bytes ++ crlf)) (.bulkString (some bytes)) := by
  intro rest
  have hlen : bytes.length < 2 ^ 63 := by
    simp only [length_append] at h
    omega
  change parseBulkString std _ = _
  rw [parseBulkString, afterLine_decimal, parseLength_i64 hlen]
  simp only [bind, Except.bind]
  rw [if_neg (by omega), if_neg (by omega), Int.toNat_natCast, ← append_assoc,
    parsePayload_bytes _ _ (h.trans (by decide)), mapValue_ok]

lemma readsBody_blobError :
    ReadsBody std item 0x21 (decimal bytes.length ++ crlf ++ (bytes ++ crlf)) (.blobError bytes) := by
  intro rest
  have hlen : bytes.length < 2 ^ 64 := by
    simp only [length_append] at h
    omega
  change parseBlobError std _ = _
  rw [parseBlobError, afterLine_decimal, parseLength_usize hlen]
  simp only [bind, Except.bind]
  rw [← append_assoc, parsePayload_bytes _ _ (h.trans (by decide)), mapValue_ok]

end

lemma readsBody_verbatimString {format text : Bytes} (hformat : format.length = 3)
    (h : (decimal (4 + text.length) ++ crlf ++ (format ++ 0x3A :: text ++ crlf)).length < 2 ^ 63) :
    ReadsBody std item 0x3D (decimal (4 + text.length) ++ crlf ++ (format ++ 0x3A :: text ++ crlf))
      (.verbatimString format text) := by
  intro rest
  have hraw : (format ++ 0x3A :: text).length = 4 + text.length := by
    rw [length_append, hformat, length_cons]
    omega
  have hlen : 4 + text.length < 2 ^ 64 := by
    simp only [length_append, hformat, length_cons] at h
    omega
  have hpayload := fun missing incomplete =>
    parsePayload_bytes missing incomplete (h.trans (by decide)) rest
  simp only [hraw] at hpayload
  change parseVerbatimString std _ = _
  rw [parseVerbatimString, afterLine_decimal, parseLength_usize hlen]
  simp only [bind, Except.bind]
  have htext : (format ++ 0x3A :: text).drop 4 = text := by simp [drop_append, hformat]
  rw [if_neg (by omega), ← append_assoc, hpayload]
  simp [checkValue, htext, hformat, bind, Except.bind, pure, Except.pure, take_left' hformat]

section

variable {formatF64 : BitVec 64 → String}

def ReadsAll (item : Incremental NetError RespValue) (formatF64 : BitVec 64 → String) (vs : List RespValue) : Prop :=
  ∀ v ∈ vs, ∀ rest, item (v.encode formatF64 ++ rest) = .ok (some (v, (v.encode formatF64).length))

variable {items : List RespValue}

lemma parseItems_encodeItems (h : ReadsAll item formatF64 items) (start rest : Bytes) (front : List RespValue) :
    parseItems item (start ++ (encodeItems formatF64 items ++ rest)) items.length start.length front =
      .ok (some (front ++ items, (start ++ encodeItems formatF64 items).length)) := by
  induction items generalizing start front with
  | nil => simp [parseItems, encodeItems]
  | cons v items ih =>
    obtain ⟨hv, hitems⟩ := List.forall_mem_cons.mp h
    rw [encodeItems, append_assoc, length_cons, parseItems_frame _ (hv _), ih hitems]
    simp [append_assoc]

variable {pairs : List (RespValue × RespValue)}

lemma parsePairs_encodePairs (h : ∀ pair ∈ pairs, ReadsAll item formatF64 [pair.1, pair.2]) (start rest : Bytes)
    (front : List (RespValue × RespValue)) :
    parsePairs item (start ++ (encodePairs formatF64 pairs ++ rest)) pairs.length start.length front =
      .ok (some (front ++ pairs, (start ++ encodePairs formatF64 pairs).length)) := by
  induction pairs generalizing start front with
  | nil => simp [parsePairs, encodePairs]
  | cons pair pairs ih =>
    obtain ⟨key, value⟩ := pair
    obtain ⟨hpair, hpairs⟩ := List.forall_mem_cons.mp h
    have hitems := parseItems_encodeItems hpair start (encodePairs formatF64 pairs ++ rest) []
    simp only [encodeItems, append_nil, length_cons, length_nil, nil_append] at hitems
    rw [encodePairs, length_cons, parsePairs, append_assoc, hitems]
    simp only
    rw [← append_assoc, ih hpairs]
    simp [append_assoc]

section

variable (hitems : ReadsAll item formatF64 items) (hlen : items.length ≤ maxRespCollectionLen)

include hitems hlen

lemma readsBody_array :
    ReadsBody std item 0x2A (decimal items.length ++ crlf ++ encodeItems formatF64 items) (.array (some items)) := by
  intro rest
  have hsmall : items.length < 2 ^ 63 := hlen.trans_lt (by decide)
  change parseArray std item _ = _
  rw [parseArray, afterLine_decimal, parseLength_i64 hsmall]
  simp only [bind, Except.bind]
  rw [if_neg (by omega), if_neg (by omega), Int.toNat_natCast, if_neg (not_lt.mpr hlen), parseItems_encodeItems hitems,
    mapValue_ok]
  rfl

lemma parseCollection_encodeItems {name : String} {make : List RespValue → RespValue} (rest : Bytes) :
    parseCollection std item what name make
        (decimal items.length ++ crlf ++ encodeItems formatF64 items ++ rest) =
      .ok (some (make items, (decimal items.length ++ crlf ++ encodeItems formatF64 items).length)) := by
  have hsmall : items.length < 2 ^ 64 := hlen.trans_lt (by decide)
  rw [parseCollection, afterLine_decimal, parseLength_usize hsmall]
  simp only [bind, Except.bind]
  rw [if_neg (not_lt.mpr hlen), parseItems_encodeItems hitems, mapValue_ok]
  rfl

lemma readsBody_set :
    ReadsBody std item 0x7E (decimal items.length ++ crlf ++ encodeItems formatF64 items) (.set items) :=
  parseCollection_encodeItems hitems hlen

lemma readsBody_push :
    ReadsBody std item 0x3E (decimal items.length ++ crlf ++ encodeItems formatF64 items) (.push items) :=
  parseCollection_encodeItems hitems hlen

end

lemma readsBody_map
    (hpairs : ∀ pair ∈ pairs, ReadsAll item formatF64 [pair.1, pair.2]) (hlen : pairs.length ≤ maxRespCollectionLen) :
    ReadsBody std item 0x25 (decimal pairs.length ++ crlf ++ encodePairs formatF64 pairs) (.map pairs) := by
  intro rest
  have hsmall : pairs.length < 2 ^ 64 := hlen.trans_lt (by decide)
  change parseMap std item _ = _
  rw [parseMap, afterLine_decimal, parseLength_usize hsmall]
  simp only [bind, Except.bind]
  rw [if_neg (not_lt.mpr hlen), parsePairs_encodePairs hpairs, mapValue_ok]
  rfl

def ReadsNested (std : Std) (formatF64 : BitVec 64 → String) (levels : ℕ) : Prop :=
  ∀ v : RespValue, v.Encodable → v.depth < levels → (v.encode formatF64).length < 2 ^ 63 → ∀ rest,
    parseRespSlice std levels (v.encode formatF64 ++ rest) = .ok (some (v, (v.encode formatF64).length))

variable {levels : ℕ}

lemma readsAll_of_nested (h : ReadsNested std formatF64 levels) (hitems : EncodableItems items)
    (hdepth : depthItems items < levels + 1) (hsize : (encodeItems formatF64 items).length < 2 ^ 63) :
    ReadsAll (parseRespSlice std levels) formatF64 items := by
  induction items with
  | nil => exact nofun
  | cons v items ih =>
    obtain ⟨hv, hitems⟩ := hitems
    rw [depthItems] at hdepth
    rw [encodeItems, length_append] at hsize
    exact List.forall_mem_cons.mpr ⟨h v hv (by omega) (by omega), ih hitems (by omega) (by omega)⟩

lemma readsAll_pairs_of_nested (h : ReadsNested std formatF64 levels)
    (hpairs : EncodablePairs pairs) (hdepth : depthPairs pairs < levels + 1)
    (hsize : (encodePairs formatF64 pairs).length < 2 ^ 63) :
    ∀ pair ∈ pairs, ReadsAll (parseRespSlice std levels) formatF64 [pair.1, pair.2] := by
  induction pairs with
  | nil => exact nofun
  | cons pair pairs ih =>
    obtain ⟨key, value⟩ := pair
    obtain ⟨⟨hkey, hvalue⟩, hpairs⟩ := hpairs
    rw [depthPairs] at hdepth
    rw [encodePairs, length_append, length_append] at hsize
    refine List.forall_mem_cons.mpr ⟨?_, ih hpairs (by omega) (by omega)⟩
    exact readsAll_of_nested h ⟨hkey, hvalue, trivial⟩ (by simp only [depthItems]; omega)
      (by simp only [encodeItems, length_append, length_nil]; omega)

lemma parseRespSlice_body {typeMarker : UInt8} {body : Bytes} {v : RespValue}
    (h : ReadsBody std (parseRespSlice std levels) typeMarker body v) (rest : Bytes) :
    parseRespSlice std (levels + 1) (typeMarker :: body ++ rest) = .ok (some (v, (typeMarker :: body).length)) := by
  rw [cons_append, parseRespSlice, h rest]
  rfl

lemma readsNested (levels : ℕ) : ReadsNested std formatF64 levels := by
  induction levels with
  | zero => exact fun _ _ hdepth => absurd hdepth (Nat.not_lt_zero _)
  | succ levels ih =>
    intro v hv hdepth hsize rest
    have hbody : ∀ {typeMarker : UInt8} {body : Bytes}, (typeMarker :: body).length < 2 ^ 63 → body.length < 2 ^ 63 :=
      fun h => (Nat.lt_succ_self _).trans h
    have hitems : ∀ {items : List RespValue} {header : Bytes}, EncodableItems items → depthItems items < levels + 1 →
        (header ++ encodeItems formatF64 items).length < 2 ^ 63 →
        ReadsAll (parseRespSlice std levels) formatF64 items := by
      intro items header henc hdepth hsize
      rw [length_append] at hsize
      exact readsAll_of_nested ih henc hdepth (by omega)
    match v with
    | .simpleString s => exact parseRespSlice_body (readsBody_simpleString hv) rest
    | .error e => exact parseRespSlice_body (readsBody_error hv) rest
    | .integer i => exact parseRespSlice_body (readsBody_integer hv) rest
    | .bulkString none => exact parseRespSlice_body readsBody_nullString rest
    | .bulkString (some bytes) => exact parseRespSlice_body (readsBody_bulkString (hbody hsize)) rest
    | .array none => exact parseRespSlice_body readsBody_nullArray rest
    | .array (some items) => exact parseRespSlice_body (readsBody_array (hitems hv.2 hdepth (hbody hsize)) hv.1) rest
    | .null => exact parseRespSlice_body readsBody_null rest
    | .double f => exact hv.elim
    | .boolean b => exact parseRespSlice_body (readsBody_boolean b) rest
    | .blobError bytes => exact parseRespSlice_body (readsBody_blobError (hbody hsize)) rest
    | .verbatimString format text => exact parseRespSlice_body (readsBody_verbatimString hv (hbody hsize)) rest
    | .bigNumber num => exact parseRespSlice_body (readsBody_bigNumber hv) rest
    | .map pairs =>
      have hpairs := hbody hsize
      rw [length_append] at hpairs
      exact parseRespSlice_body
        (readsBody_map (readsAll_pairs_of_nested ih hv.2 hdepth (by omega)) hv.1) rest
    | .set items => exact parseRespSlice_body (readsBody_set (hitems hv.2 hdepth (hbody hsize)) hv.1) rest
    | .push items => exact parseRespSlice_body (readsBody_push (hitems hv.2 hdepth (hbody hsize)) hv.1) rest

/-- What is written is read back, and no more than that; a buffer has fewer than `2 ^ 63` bytes. -/
theorem parse_encode (std : Std) (formatF64 : BitVec 64 → String) (v : RespValue) (rest : Bytes) (hv : v.Encodable)
    (hdepth : v.depth ≤ maxRespDepth) (hsize : (v.encode formatF64).length < 2 ^ 63) :
    RespValue.parseBuffer std (v.encode formatF64 ++ rest) = (.ok (some v), rest) := by
  have hparse : RespValue.parse std (v.encode formatF64 ++ rest) = .ok (some (v, (v.encode formatF64).length)) :=
    readsNested (maxRespDepth + 1) v hv (Nat.lt_succ_of_le hdepth) hsize rest
  rw [RespValue.parseBuffer, hparse]
  simp only [drop_left]

def sampleValue : RespValue :=
  .map [(.simpleString "key", .array (some [.integer (-12), .bulkString none, .boolean true])),
    (.null, .verbatimString [0x74, 0x78, 0x74] [13, 10, 0])]

theorem parse_encode_sample :
    RespValue.parseBuffer ⟨fun _ => "", fun _ => .error ""⟩ (sampleValue.encode (fun _ => "") ++ [0x2B]) =
      (.ok (some sampleValue), [0x2B]) := by
  refine parse_encode ⟨fun _ => "", fun _ => .error ""⟩ (fun _ => "") sampleValue [0x2B] ?_ (by decide) (by decide)
  simp [sampleValue, RespValue.Encodable, EncodableItems, EncodablePairs, Line, maxRespCollectionLen]

end

end

end Voyager.Redis
