import Voyager.Builder.Labels
import Voyager.Lib.Utf8
import Voyager.Net.Columns
import Voyager.Postgres.Message
import Voyager.Redis.Resp

/-! The text of a cell and the columns that the cells of a result become. -/

namespace Voyager.Postgres

open Lib Net List

def annotations : List String := ["::vertex", "::edge", "::path", "::numeric"]

/-- Whether a position before this byte lies inside a character, where slicing the text panics. -/
def isContinuation (b : UInt8) : Bool := 0x80 ≤ b && b < 0xC0

/-- The loop from a byte on, `skip` bytes of an annotation being left to pass over; nothing if it panics. -/
def cleanFrom : Bool → Bool → ℕ → Bytes → Option (List Char)
  | _, _, _, [] => some []
  | inQuote, escaped, skip + 1, _ :: rest => cleanFrom inQuote escaped skip rest
  | true, escaped, 0, b :: rest =>
    (cleanFrom (escaped || b != 0x22) (!escaped && b == 0x5C) 0 rest).map (asChar b :: ·)
  | false, escaped, 0, b :: rest =>
    if b == 0x22 then (cleanFrom true escaped 0 rest).map ('"' :: ·)
    else if isContinuation b then none
    else
      match annotations.find? fun mark => (utf8Bytes mark).isPrefixOf (b :: rest) with
      | some mark => cleanFrom false escaped ((utf8Bytes mark).length - 1) rest
      | none => (cleanFrom false escaped 0 rest).map (asChar b :: ·)

def cleanAgtypeString (unicode : Unicode) (s : String) : Option String :=
  (cleanFrom false false 0 (utf8Bytes s)).map fun out => unicode.trim (.ofList out)

/-- The characters of a text without the annotations outside its quotes. -/
def strip : Bool → Bool → ℕ → List Char → List Char
  | _, _, _, [] => []
  | inQuote, escaped, skip + 1, _ :: rest => strip inQuote escaped skip rest
  | true, escaped, 0, c :: rest => c :: strip (escaped || c != '"') (!escaped && c == '\\') 0 rest
  | false, escaped, 0, c :: rest =>
    if c == '"' then c :: strip true escaped 0 rest
    else
      match annotations.find? fun mark => mark.toList.isPrefixOf (c :: rest) with
      | some mark => strip false escaped (mark.length - 1) rest
      | none => c :: strip false escaped 0 rest

def IsAscii (s : String) : Prop := ∀ c ∈ s.toList, c.toNat < 128

lemma toNat_asChar (b : UInt8) : (asChar b).toNat = b.toNat := by
  have hvalid : b.toNat.isValidChar := .inl (b.toNat_lt.trans (by decide))
  rw [asChar, Char.ofNat, dif_pos hvalid]
  rfl

lemma asChar_injective : Function.Injective asChar := by
  intro a b h
  rw [← UInt8.toNat_inj, ← toNat_asChar, h, toNat_asChar]

lemma map_utf8EncodeChar {c : Char} (h : c.toNat < 128) : (String.utf8EncodeChar c).map asChar = [c] := by
  have hval : c.val.toNat ≤ 127 := Nat.le_of_lt_succ h
  rw [String.utf8EncodeChar, if_pos hval, map_singleton, asChar, UInt8.toNat_ofNat_of_lt' (by change _ < 256; omega)]
  exact congrArg (fun c => [c]) (Char.ofNat_toNat c)

/-- The characters that the bytes of a text are read as, each on its own. -/
def byteChars (cs : List Char) : List Char := cs.flatMap fun c => (String.utf8EncodeChar c).map asChar

lemma utf8EncodeChar_of_ascii {c : Char} (h : c.toNat < 128) :
    ∃ b : UInt8, String.utf8EncodeChar c = [b] ∧ asChar b = c ∧ b.toNat < 128 := by
  have hchar := map_utf8EncodeChar h
  obtain ⟨b, hb, hc⟩ := map_eq_singleton_iff.mp hchar
  exact ⟨b, hb, hc, by rwa [← toNat_asChar, hc]⟩

lemma isAscii_of_all {s : String} (h : s.toList.all (·.toNat < 128) = true) : IsAscii s :=
  fun c hc => of_decide_eq_true (all_eq_true.mp h c hc)

lemma isAscii_annotations : ∀ a ∈ annotations, IsAscii a := by
  have hall : annotations.all (·.toList.all (·.toNat < 128)) = true := by decide
  exact fun a ha => isAscii_of_all (all_eq_true.mp hall a ha)

lemma prefix_encoded_iff {mark cs : List Char} (h : ∀ c ∈ mark, c.toNat < 128) :
    mark.flatMap String.utf8EncodeChar <+: cs.flatMap String.utf8EncodeChar ↔ mark <+: cs := by
  induction mark generalizing cs with
  | nil => simp
  | cons m mark ih =>
    obtain ⟨hm, hmark⟩ := forall_mem_cons.mp h
    obtain ⟨a, ha, rfl, hlow⟩ := utf8EncodeChar_of_ascii hm
    cases cs with
    | nil => simp [ha]
    | cons c cs =>
      by_cases hc : c.toNat < 128
      · obtain ⟨b, hb, rfl, -⟩ := utf8EncodeChar_of_ascii hc
        simp only [flatMap_cons, ha, hb, singleton_append, cons_prefix_cons, ih hmark, asChar_injective.eq_iff]
      · obtain ⟨lead, second, bytes, hb, hlead, -⟩ := utf8EncodeChar_of_high (not_lt.mp hc)
        have hne : a ≠ lead := by
          rintro rfl
          omega
        have hne' : asChar a ≠ c := by
          rintro rfl
          exact hc hm
        simp [flatMap_cons, ha, hb, hne, hne']

lemma find_annotation (cs : List Char) :
    annotations.find? (fun a => (utf8Bytes a).isPrefixOf (cs.flatMap String.utf8EncodeChar)) =
      annotations.find? fun a => a.toList.isPrefixOf cs := by
  refine find?_congr fun a ha => ?_
  rw [utf8Bytes_eq, Bool.eq_iff_iff, isPrefixOf_iff_prefix, isPrefixOf_iff_prefix,
    prefix_encoded_iff (isAscii_annotations a ha)]

lemma length_annotationBytes {a : String} (ha : a ∈ annotations) : (utf8Bytes a).length = a.length := by
  revert a
  decide

lemma cleanFrom_high {bytes : Bytes} (h : ∀ b ∈ bytes, 0x80 ≤ b.toNat) (hne : bytes ≠ []) (escaped : Bool) (rest : Bytes) :
    cleanFrom true escaped 0 (bytes ++ rest) = (cleanFrom true false 0 rest).map (bytes.map asChar ++ ·) := by
  induction bytes generalizing escaped with
  | nil => exact absurd rfl hne
  | cons b bytes ih =>
    obtain ⟨hb, hbytes⟩ := forall_mem_cons.mp h
    have hquote : (b != 0x22) = true := by
      rw [bne_iff_ne]
      rintro rfl
      exact absurd hb (by decide)
    have hslash : (b == 0x5C) = false := by
      rw [beq_eq_false_iff_ne]
      rintro rfl
      exact absurd hb (by decide)
    rw [cons_append, cleanFrom, hquote, hslash, Bool.or_true, Bool.and_false]
    cases bytes with
    | nil => rfl
    | cons b' bytes =>
      rw [ih hbytes (cons_ne_nil _ _), Option.map_map]
      rfl

lemma ascii_of_annotated {c : Char} {cs : List Char} {a : String}
    (h : annotations.find? (fun a => a.toList.isPrefixOf (c :: cs)) = some a) :
    c.toNat < 128 ∧ ∀ d ∈ cs.take (a.length - 1), d.toNat < 128 := by
  have hmem := mem_of_find?_eq_some h
  have hpos : ∀ a ∈ annotations, a.length = a.length - 1 + 1 := by decide
  have hprefix : a.toList <+: c :: cs := isPrefixOf_iff_prefix.mp (find?_some h :)
  have hascii := isAscii_annotations a hmem
  rw [IsAscii, prefix_iff_eq_take.mp hprefix, String.length_toList, hpos a hmem, take_succ_cons] at hascii
  exact forall_mem_cons.mp hascii

def high (c : Char) : Bool := 128 ≤ c.toNat

/-- The loop returns what the kept characters are read as, or it panics; only ASCII characters are not kept. -/
structure Reads (result : Option (List Char)) (kept cs : List Char) : Prop where
  keepsHigh : kept.filter high = cs.filter high
  returns : result = some (byteChars kept) ∨ result = none ∧ cs.filter high ≠ []

section

variable {result : Option (List Char)} {kept cs : List Char} {c : Char} (h : Reads result kept cs)

include h

lemma Reads.skip (hc : c.toNat < 128) : Reads result kept (c :: cs) := by
  have hlow : ¬high c = true := by simpa [high] using hc
  constructor
  all_goals rw [filter_cons_of_neg hlow]
  · exact h.keepsHigh
  · exact h.returns

lemma Reads.cons : Reads (result.map ((String.utf8EncodeChar c).map asChar ++ ·)) (c :: kept) (c :: cs) where
  keepsHigh := by rw [filter_cons, filter_cons, h.keepsHigh]
  returns := by
    rcases h.returns with rfl | ⟨rfl, hhigh⟩
    · exact .inl rfl
    · refine .inr ⟨rfl, fun hnil => hhigh ?_⟩
      rw [filter_cons] at hnil
      split_ifs at hnil
      exact hnil

end

lemma cleanFrom_high_unquoted {c : Char} (hc : 128 ≤ c.toNat) (escaped : Bool) (rest : List Char) :
    cleanFrom false escaped 0 ((c :: rest).flatMap String.utf8EncodeChar) = none := by
  have hfind := find_annotation (c :: rest)
  obtain ⟨lead, second, bytes, hb, hlead, hbytes, -⟩ := utf8EncodeChar_of_high hc
  obtain ⟨hsecond, hsecond'⟩ := hbytes second mem_cons_self
  have hquote : ∀ {b : UInt8}, 0x80 ≤ b.toNat → ¬(b == 0x22) = true := by
    intro b hb h
    rw [eq_of_beq h] at hb
    exact absurd hb (by decide)
  have hnone : annotations.find? (fun a => a.toList.isPrefixOf (c :: rest)) = none := by
    by_contra hsome
    obtain ⟨a, ha⟩ := Option.ne_none_iff_exists'.mp hsome
    exact absurd (ascii_of_annotated ha).1 (not_lt.mpr hc)
  have hcontinues : isContinuation second = true := by
    simp [isContinuation, UInt8.le_iff_toNat_le, UInt8.lt_iff_toNat_lt, hsecond, hsecond']
  rw [flatMap_cons, hb, cons_append, hnone] at hfind
  rw [flatMap_cons, hb, cons_append, cleanFrom, if_neg (hquote (hlead.trans' (by decide))), hfind]
  split_ifs
  · rfl
  · rw [cons_append, cleanFrom, if_neg (hquote hsecond), if_pos hcontinues]
    rfl

lemma cleanFrom_reads (cs : List Char) (inQuote escaped : Bool) (skip : ℕ) (hskip : ∀ c ∈ cs.take skip, c.toNat < 128) :
    Reads (cleanFrom inQuote escaped skip (cs.flatMap String.utf8EncodeChar)) (strip inQuote escaped skip cs) cs := by
  induction cs generalizing inQuote escaped skip with
  | nil => exact ⟨by simp [strip], .inl (by simp [cleanFrom, strip, byteChars])⟩
  | cons c cs ih =>
    by_cases hc : c.toNat < 128
    · obtain ⟨b, hb, hbc, hlow⟩ := utf8EncodeChar_of_ascii hc
      have hquote : (c == '"') = (b == 0x22) := hbc ▸ asChar_injective.beq_eq (b := 0x22)
      have hslash : (c == '\\') = (b == 0x5C) := hbc ▸ asChar_injective.beq_eq (b := 0x5C)
      have hcons := fun inQuote escaped => (ih inQuote escaped 0 (by simp)).cons (c := c)
      have hfind := find_annotation (c :: cs)
      simp only [flatMap_cons, hb, map_singleton, singleton_append, hbc] at hcons hfind ⊢
      cases skip with
      | succ skip =>
        rw [take_succ_cons, forall_mem_cons] at hskip
        exact (ih inQuote escaped skip hskip.2).skip hc
      | zero =>
        cases inQuote with
        | true =>
          rw [cleanFrom, strip, hbc, hslash, bne, bne, hquote]
          exact hcons _ _
        | false =>
          have hstart : ¬isContinuation b = true := by
            simp [isContinuation, UInt8.le_iff_toNat_le, hlow]
          rw [cleanFrom, strip, hquote, hfind, hbc]
          by_cases hb : (b == 0x22) = true
          · rw [if_pos hb, if_pos hb]
            rw [← hquote, beq_iff_eq] at hb
            exact hb ▸ hcons true escaped
          · rw [if_neg hb, if_neg hb, if_neg hstart]
            cases ha : annotations.find? fun a => a.toList.isPrefixOf (c :: cs) with
            | none => exact hcons false escaped
            | some a =>
              simp only [length_annotationBytes (mem_of_find?_eq_some ha)]
              exact (ih false escaped _ (ascii_of_annotated ha).2).skip hc
    · obtain ⟨lead, second, bytes, hb, hlead, hbytes, -⟩ := utf8EncodeChar_of_high (not_lt.mp hc)
      have hne : ∀ d : Char, d.toNat < 128 → (c == d) = false := by
        rintro d hd
        rw [beq_eq_false_iff_ne]
        rintro rfl
        exact hc hd
      have hquote := hne '"' (by decide)
      have hslash := hne '\\' (by decide)
      cases skip with
      | succ skip => exact absurd (hskip c (by simp)) hc
      | zero =>
        cases inQuote with
        | true =>
          rw [flatMap_cons, cleanFrom_high _ _ escaped, strip, hslash, bne, hquote, Bool.not_false, Bool.or_true,
            Bool.and_false]
          · exact (ih true false 0 (by simp)).cons
          · rw [hb]
            exact forall_mem_cons.mpr ⟨hlead.trans' (by decide), fun b hb => (hbytes b hb).1⟩
          · simp [hb]
        | false =>
          have hhigh : high c = true := by simpa [high] using hc
          have hnone : annotations.find? (fun a => a.toList.isPrefixOf (c :: cs)) = none := by
            by_contra hsome
            obtain ⟨a, ha⟩ := Option.ne_none_iff_exists'.mp hsome
            exact hc (ascii_of_annotated ha).1
          refine ⟨?_, .inr ⟨cleanFrom_high_unquoted (not_lt.mp hc) escaped cs, by simp [hhigh]⟩⟩
          rw [strip, hquote, hnone]
          exact (ih false escaped 0 (by simp)).cons.keepsHigh

section

variable {unicode : Unicode}

/-- A character that is not ASCII and that trimming keeps. -/
def solid (unicode : Unicode) (c : Char) : Bool := high c && !unicode.isWhitespace c

lemma filter_dropWhile {p q : Char → Bool} (h : ∀ c, p c = true → q c = false) (cs : List Char) :
    (cs.dropWhile p).filter q = cs.filter q := by
  induction cs with
  | nil => rfl
  | cons c cs ih =>
    rw [dropWhile_cons]
    split_ifs with hc
    · rw [ih, filter_cons_of_neg (by simp [h c hc])]
    · rfl

lemma solid_trim (s : String) : (unicode.trim s).toList.filter (solid unicode) = s.toList.filter (solid unicode) := by
  have hspace : ∀ c, unicode.isWhitespace c = true → solid unicode c = false := fun c hc => by simp [solid, hc]
  rw [Unicode.trim, String.toList_ofList, filter_reverse, filter_dropWhile hspace, filter_reverse, reverse_reverse,
    filter_dropWhile hspace]

/-- The white space of the first 256 characters. -/
def LatinSpaces (unicode : Unicode) : Prop :=
  ∀ c : Char, 128 ≤ c.toNat → c.toNat < 256 → unicode.isWhitespace c = true → c.toNat = 0x85 ∨ c.toNat = 0xA0

lemma solid_byteChars_cons (c : Char) (cs : List Char) :
    (byteChars (c :: cs)).filter (solid unicode) =
      ((String.utf8EncodeChar c).map asChar).filter (solid unicode) ++ (byteChars cs).filter (solid unicode) := by
  rw [byteChars, flatMap_cons, filter_append]
  rfl

variable (h : LatinSpaces unicode)

include h

lemma solid_asChar {b : UInt8} (hb : b.toNat = 0x83 ∨ 0xC0 ≤ b.toNat) : solid unicode (asChar b) = true := by
  have hlt := b.toNat_lt
  have hspace : unicode.isWhitespace (asChar b) = false := by
    by_contra hspace
    have hcode := h (asChar b) (by rw [toNat_asChar]; omega) (by rw [toNat_asChar]; omega) (by simpa using hspace)
    rw [toNat_asChar] at hcode
    omega
  simp only [solid, high, toNat_asChar, hspace, Bool.not_false, Bool.and_true, decide_eq_true_eq]
  omega

lemma length_solid_le (cs : List Char) :
    (cs.filter (solid unicode)).length ≤ ((byteChars cs).filter (solid unicode)).length := by
  induction cs with
  | nil => simp
  | cons c cs ih =>
    rw [solid_byteChars_cons, length_append]
    by_cases hc : c.toNat < 128
    · have hlow : solid unicode c = false := by simp [solid, high, hc]
      rw [filter_cons_of_neg (by simp [hlow])]
      omega
    · obtain ⟨lead, second, bytes, hb, hlead, -⟩ := utf8EncodeChar_of_high (not_lt.mp hc)
      rw [hb, map_cons, filter_cons_of_pos (solid_asChar h (.inr hlead)), length_cons, filter_cons]
      split_ifs
      · rw [length_cons]
        omega
      · omega

/-- A character of several bytes is read as at least one that trimming keeps, and as itself only if it is U+00C3, whose
second byte trimming keeps too. -/
lemma high_of_solid {cs : List Char} (heq : (byteChars cs).filter (solid unicode) = cs.filter (solid unicode)) :
    cs.filter high = [] := by
  induction cs with
  | nil => rfl
  | cons c cs ih =>
    have hle := length_solid_le h cs
    rw [solid_byteChars_cons] at heq
    by_cases hc : c.toNat < 128
    · have hlow : solid unicode c = false := by simp [solid, high, hc]
      rw [map_utf8EncodeChar hc, filter_cons_of_neg (by simp [hlow]), filter_cons_of_neg (by simp [hlow])] at heq
      rw [filter_cons_of_neg (by simpa [high] using hc)]
      exact ih heq
    · obtain ⟨lead, second, bytes, hb, hlead, -, hself⟩ := utf8EncodeChar_of_high (not_lt.mp hc)
      rw [hb, map_cons, filter_cons_of_pos (solid_asChar h (.inr hlead)), filter_cons] at heq
      have hlength := congrArg length heq
      split_ifs at heq hlength
      · obtain ⟨hchar, -⟩ := cons_eq_cons.mp heq
        have hsecond := hself (by rw [← toNat_asChar, hchar])
        rw [map_cons, filter_cons_of_pos (solid_asChar h (.inl hsecond))] at hlength
        simp only [cons_append, length_cons, length_append] at hlength
        omega
      · simp only [cons_append, length_cons, length_append] at hlength
        omega

end

lemma byteChars_of_ascii {cs : List Char} (h : ∀ c ∈ cs, c.toNat < 128) : byteChars cs = cs := by
  rw [byteChars, flatMap_congr fun c hc => map_utf8EncodeChar (h c hc), flatMap_singleton']

lemma filter_high_eq_nil {cs : List Char} : cs.filter high = [] ↔ ∀ c ∈ cs, c.toNat < 128 := by
  simp [high]

/-- Bytes are read as characters of their own, so the text is kept exactly where every character is one byte. -/
theorem cleanAgtypeString_eq (unicode : Unicode) (hspaces : LatinSpaces unicode) (s : String) :
    cleanAgtypeString unicode s = some (unicode.trim (.ofList (strip false false 0 s.toList))) ↔ IsAscii s := by
  obtain ⟨hhigh, hreturns⟩ := cleanFrom_reads s.toList false false 0 (by simp)
  rw [cleanAgtypeString, utf8Bytes_eq]
  constructor
  · intro heq
    refine filter_high_eq_nil.mp (hhigh ▸ high_of_solid hspaces ?_)
    rcases hreturns with h | ⟨h, -⟩
    · rw [h, Option.map_some, Option.some_inj] at heq
      rw [← String.toList_ofList (l := byteChars _), ← solid_trim, heq, solid_trim, String.toList_ofList]
    · rw [h] at heq
      cases heq
  · intro hascii
    have hascii := filter_high_eq_nil.mpr hascii
    rcases hreturns with h | ⟨-, h⟩
    · rw [h, byteChars_of_ascii (filter_high_eq_nil.mp (hhigh.trans hascii))]
      rfl
    · exact absurd hascii h

theorem cleanAgtypeString_eq_numeric : cleanAgtypeString .ascii "1.5::numeric" = some "1.5" := by
  have hspaces : LatinSpaces .ascii := by
    intro c hlow _ hspace
    simp only [Unicode.ascii, Char.isWhitespace, Bool.or_eq_true, decide_eq_true_eq] at hspace
    rcases hspace with (((rfl | rfl) | rfl) | rfl) | rfl
    all_goals exact absurd hlow (by decide)
  rw [(cleanAgtypeString_eq .ascii hspaces "1.5::numeric").mpr (isAscii_of_all (by decide))]
  decide

theorem cleanAgtypeString_loses : cleanAgtypeString .ascii "é" = none ∧
    cleanAgtypeString .ascii "\"é\"" = some "\"Ã©\"" ∧
    Unicode.trim .ascii (.ofList (strip false false 0 "\"é\"".toList)) = "\"é\"" := by
  refine ⟨?_, ?_, by decide⟩
  all_goals rw [cleanAgtypeString, utf8Bytes_eq]
  all_goals decide

section

variable (std : Redis.Std) (unicode : Unicode)

/-- The inference of `rows_to_record_batch`, over cells with their cleaned texts. -/
def textInference : Inference (String × String) where
  canBe
    | .int64, (_, trimmed) => (Redis.parseI64 trimmed).toOption.isSome
    | .float64, (_, trimmed) => (std.parseF64 trimmed).toOption.isSome
    | .boolean, (_, trimmed) => trimmed = "t" ∨ trimmed = "f" ∨ trimmed = "true" ∨ trimmed = "false"
    | .utf8, _ => true
  read
    | .int64, (_, cleaned) => (Redis.parseI64 cleaned).toOption
    | .float64, (_, cleaned) => (std.parseF64 cleaned).toOption
    | .boolean, (_, cleaned) => some (decide (cleaned = "t" ∨ cleaned = "true"))
    | .utf8, (val, _) => some val
  canBe_utf8 _ := rfl
  isSome_read {type cell} h := by
    cases type with
    | int64 | float64 => exact h
    | boolean | utf8 => rfl

def cellAt (colIdx : ℕ) (row : List (Option String)) : Option String := row[colIdx]?.getD none

def columnCells (colIdx : ℕ) (rows : List (List (Option String))) : Option (List (Option (String × String))) :=
  rows.mapM fun row =>
    match cellAt colIdx row with
    | some val => (cleanAgtypeString unicode val).map fun cleaned => some (val, cleaned)
    | none => some none

/-- The fields with their columns, as `RecordBatch::try_new` is given them; nothing if a cell makes the call panic. -/
def rowsToRecordBatch (columnNames : List String) (rows : List (List (Option String))) :
    Option (List (String × Column)) :=
  columnNames.zipIdx.mapM fun field =>
    (columnCells unicode field.2 rows).map fun cells => (field.1, (textInference std).column cells)

lemma mapM_eq_map {α β : Type} {f : α → Option β} {g : α → β} {xs : List α} (h : ∀ x ∈ xs, f x = some (g x)) :
    xs.mapM f = some (xs.map g) := by
  induction xs with
  | nil => rfl
  | cons x xs ih =>
    rw [mapM_cons, h x mem_cons_self, ih fun y hy => h y (mem_cons_of_mem _ hy)]
    rfl

def withCleaned (clean : String → String) (cells : List (Option String)) : List (Option (String × String)) :=
  cells.map (Option.map fun val => (val, clean val))

/-- The column has the first type that all its cells fit, and the values that they read as; a column of texts keeps
them. -/
structure ReadFrom (f64Text : BitVec 64 → String) (clean : String → String) (cells : List (Option String))
    (column : Column) : Prop where
  nulls : column.values.map Option.isNone = cells.map Option.isNone
  fits : (∃ val, some val ∈ cells) → (textInference std).Fits (withCleaned clean cells) column.type
  first : ∀ type, (textInference std).Fits (withCleaned clean cells) type → column.type.rank ≤ type.rank
  values : column.texts f64Text = (withCleaned clean cells).map
    (·.bind fun cell => ((textInference std).read column.type cell).map (column.type.text f64Text))
  kept : column.type = .utf8 → column.texts f64Text = cells

lemma readFrom_column (f64Text : BitVec 64 → String) (clean : String → String) (cells : List (Option String)) :
    ReadFrom std f64Text clean cells ((textInference std).column (withCleaned clean cells)) where
  nulls := by simp [Inference.nulls_column, withCleaned, Function.comp_def]
  fits := by
    rintro ⟨val, hval⟩
    have hcell : some (val, clean val) ∈ withCleaned clean cells := mem_map.mpr ⟨some val, hval, rfl⟩
    exact Inference.fits_dataType hcell
  first _ := Inference.rank_dataType_le
  values := by
    rw [Column.texts, Inference.column, map_map]
    refine map_congr_left fun cell _ => ?_
    cases cell <;> rfl
  kept htype := by
    change (textInference std).dataType _ = _ at htype
    rw [Column.texts, Inference.column, htype, map_map, withCleaned, map_map]
    refine (map_congr_left fun cell _ => ?_).trans (map_id _)
    cases cell <;> rfl

end

def noFloats : Redis.Std := ⟨fun _ => "", fun _ => .error ""⟩

end Voyager.Postgres
