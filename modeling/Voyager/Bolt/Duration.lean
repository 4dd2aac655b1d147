import Voyager.Bolt.Calendar
import Voyager.Lib.Decimal
import Voyager.Lib.PrefixFree

/-! The text of a duration, read as ISO 8601 says. -/

namespace Voyager.Bolt

open Lib List Option

structure Component where
  negative : Bool
  whole : ℕ
  fraction : List Char
  unit : Char

namespace Component

def value (c : Component) : ℚ :=
  (if c.negative then -1 else 1) * (c.whole + Nat.ofDigitChars 10 c.fraction 0 / 10 ^ c.fraction.length)

def read (text : List Char) : Option (Component × List Char) :=
  let negative := text.head? = some '-'
  let text := if negative then text.tail else text
  let whole := text.takeWhile Char.isDigit
  if whole = [] then none
  else
    match text.dropWhile Char.isDigit with
    | [] => none
    | c :: rest =>
      if c = '.' then
        match rest.dropWhile Char.isDigit with
        | [] => none
        | unit :: rest' =>
          some (⟨negative, Nat.ofDigitChars 10 whole 0, rest.takeWhile Char.isDigit, unit⟩, rest')
      else some (⟨negative, Nat.ofDigitChars 10 whole 0, [], c⟩, rest)

def text (c : Component) : List Char :=
  (if c.negative then ['-'] else []) ++ Nat.toDigits 10 c.whole ++
    (if c.fraction = [] then [] else '.' :: c.fraction) ++ [c.unit]

structure WellFormed (c : Component) : Prop where
  fraction : ∀ d ∈ c.fraction, d.isDigit = true
  unit : c.unit.isDigit = false
  point : c.unit ≠ '.'

lemma dropWhile_append_of_stops {α : Type*} {p : α → Bool} {a rest : List α} (ha : ∀ c ∈ a, p c = true)
    (hrest : Stops p rest) : (a ++ rest).dropWhile p = rest := by
  have hsplit := takeWhile_append_dropWhile (p := p) (l := a ++ rest)
  rw [takeWhile_append_of_stops ha hrest] at hsplit
  exact append_cancel_left hsplit

lemma isDigit_toDigits (n : ℕ) : ∀ d ∈ Nat.toDigits 10 n, d.isDigit = true :=
  fun _ hd => Nat.isDigit_of_mem_toDigits (by decide) (by decide) hd

lemma read_text {c : Component} (hc : c.WellFormed) (rest : List Char) : read (c.text ++ rest) = some (c, rest) := by
  obtain ⟨negative, whole, fraction, unit⟩ := c
  obtain ⟨hfraction, hunit, hpoint⟩ := hc
  dsimp only at hfraction hunit hpoint
  set tail := (if fraction = [] then [] else '.' :: fraction) ++ unit :: rest with htail
  have hstops : Stops Char.isDigit tail := by
    rw [htail]
    split_ifs
    · exact stops_cons hunit rest
    · exact stops_cons (by decide) _
  have hsign : (Nat.toDigits 10 whole ++ tail).head? ≠ some '-' := by
    rw [head?_append_of_ne_nil _ Nat.toDigits_ne_nil]
    exact fun h => minus_notMem_toDigits whole (mem_of_head? h)
  have hunsigned : (if ((if negative then ['-'] else []) ++ (Nat.toDigits 10 whole ++ tail)).head? = some '-' then
      ((if negative then ['-'] else []) ++ (Nat.toDigits 10 whole ++ tail)).tail
      else (if negative then ['-'] else []) ++ (Nat.toDigits 10 whole ++ tail)) = Nat.toDigits 10 whole ++ tail := by
    cases negative with
    | false => exact if_neg hsign
    | true => rfl
  have hnegative : decide (((if negative then ['-'] else []) ++ (Nat.toDigits 10 whole ++ tail)).head? = some '-') =
      negative := by
    cases negative with
    | false => exact decide_eq_false hsign
    | true => rfl
  have htext : text ⟨negative, whole, fraction, unit⟩ ++ rest =
      (if negative then ['-'] else []) ++ (Nat.toDigits 10 whole ++ tail) := by
    simp [text, htail]
  rw [htext]
  simp only [read, hunsigned, hnegative, takeWhile_append_of_stops (isDigit_toDigits whole) hstops,
    dropWhile_append_of_stops (isDigit_toDigits whole) hstops, if_neg Nat.toDigits_ne_nil, Nat.ofDigitChars_ten_toDigits]
  by_cases hnil : fraction = []
  · simp [htail, hnil, hpoint]
  · simp [htail, hnil, takeWhile_append_of_stops hfraction (stops_cons hunit rest),
      dropWhile_append_of_stops hfraction (stops_cons hunit rest)]

end Component

open Component

def readFields : List Char → List Char → List ℚ × List Char
  | [], text => ([], text)
  | u :: us, text =>
    match Component.read text with
    | some (c, rest) =>
      if c.unit = u then (c.value :: (readFields us rest).1, (readFields us rest).2)
      else (0 :: (readFields us text).1, (readFields us text).2)
    | none => (0 :: (readFields us text).1, (readFields us text).2)

section

variable {us : List Char} {parts : List (Option Component)} {tail : List Char}

def Fills (u : Char) (part : Option Component) : Prop := ∀ c ∈ part, c.WellFormed ∧ c.unit = u

def fieldsText (parts : List (Option Component)) : List Char := parts.flatMap fun part => part.elim [] Component.text

lemma eq_none_of_fieldsText_eq_nil (hnil : fieldsText parts = []) : ∀ part ∈ parts, part = none := by
  intro part hpart
  have htext := flatMap_eq_nil_iff.mp hnil part hpart
  cases part with
  | none => rfl
  | some c => simp [text] at htext

lemma unit_mem_of_read (hfills : List.Forall₂ Fills us parts) (htail : read tail = none) {c : Component}
    {rest : List Char} (hread : read (fieldsText parts ++ tail) = some (c, rest)) : c.unit ∈ us := by
  induction hfills with
  | nil =>
    cases htail.symm.trans hread
  | @cons u part us parts hpart _ ih =>
    cases part with
    | none => exact mem_cons_of_mem u (ih hread)
    | some d =>
      obtain ⟨hd, rfl⟩ := hpart d rfl
      rw [fieldsText, flatMap_cons, append_assoc, elim_some, read_text hd] at hread
      cases hread
      exact mem_cons_self

lemma readFields_fieldsText (hnodup : us.Nodup) (hfills : List.Forall₂ Fills us parts) (htail : read tail = none) :
    readFields us (fieldsText parts ++ tail) = (parts.map fun part => part.elim 0 value, tail) := by
  induction hfills with
  | nil => rfl
  | @cons u part us parts hpart hparts ih =>
    obtain ⟨hu, hus⟩ := List.nodup_cons.mp hnodup
    cases part with
    | none =>
      have hskip : fieldsText (none :: parts) ++ tail = fieldsText parts ++ tail := rfl
      rw [hskip, readFields]
      cases hread : read (fieldsText parts ++ tail) with
      | none => simp [ih hus]
      | some found =>
        have hne : found.1.unit ≠ u := fun h => hu (h ▸ unit_mem_of_read hparts htail hread)
        simp [ih hus, hne]
    | some c =>
      obtain ⟨hc, rfl⟩ := hpart c rfl
      rw [fieldsText, flatMap_cons, append_assoc, elim_some, readFields, read_text hc]
      have hrest := ih hus
      rw [fieldsText] at hrest
      simp [hrest]

end

def readDuration (text : List Char) : Option (ℚ × ℚ × ℚ) :=
  match text with
  | 'P' :: date =>
    match readFields ['Y', 'M', 'D'] date with
    | ([years, months, days], []) => if date = [] then none else some (12 * years + months, days, 0)
    | ([years, months, days], 'T' :: time) =>
      match readFields ['H', 'M', 'S'] time with
      | ([hours, minutes, seconds], []) =>
        if time = [] then none else some (12 * years + months, days, 3600 * hours + 60 * minutes + seconds)
      | _ => none
    | _ => none
  | _ => none

section

variable {date time : List Char} {years months days hours minutes seconds : ℚ}

lemma readDuration_date (hdate : readFields ['Y', 'M', 'D'] date = ([years, months, days], [])) (hsome : date ≠ []) :
    readDuration ('P' :: date) = some (12 * years + months, days, 0) := by
  simp only [readDuration, hdate, if_neg hsome]

lemma readDuration_time (hdate : readFields ['Y', 'M', 'D'] date = ([years, months, days], 'T' :: time))
    (htime : readFields ['H', 'M', 'S'] time = ([hours, minutes, seconds], [])) (hsome : time ≠ []) :
    readDuration ('P' :: date) = some (12 * years + months, days, 3600 * hours + 60 * minutes + seconds) := by
  simp only [readDuration, hdate, htime, if_neg hsome]

end

def fractionText (nanos : ℕ) : String :=
  if nanos % 1000000 = 0 then zeroPadded 3 (nanos / 1000000)
  else if nanos % 1000 = 0 then zeroPadded 6 (nanos / 1000)
  else zeroPadded 9 nanos

def dateText (months days : ℤ) : String :=
  let years := months.tdiv 12
  let remMonths := months.tmod 12
  (if months ≠ 0 then
    (if years ≠ 0 then toString years ++ "Y" else "") ++
      (if remMonths ≠ 0 ∨ years = 0 then toString remMonths ++ "M" else "")
    else "") ++
  (if days ≠ 0 then toString days ++ "D" else "")

variable (s nanoseconds : ℤ)

def secondsText : String :=
  if nanoseconds ≠ 0 then toString s ++ "." ++ fractionText nanoseconds.natAbs ++ "S" else toString s ++ "S"

variable (seconds nanoseconds : ℤ)

def timeText : String :=
  let h := seconds.tdiv 3600
  let m := (seconds.tmod 3600).tdiv 60
  let s := seconds.tmod 60
  if seconds ≠ 0 ∨ nanoseconds ≠ 0 then
    "T" ++ (if h ≠ 0 then toString h ++ "H" else "") ++ (if m ≠ 0 then toString m ++ "M" else "") ++
      (if s ≠ 0 ∨ nanoseconds ≠ 0 ∨ (h = 0 ∧ m = 0) then secondsText s nanoseconds else "")
  else ""

def BoltDuration.toIsoString (d : BoltDuration) : String :=
  if d.months.toInt = 0 ∧ d.days.toInt = 0 ∧ d.seconds.toInt = 0 ∧ d.nanoseconds.toInt = 0 then "PT0S"
  else "P" ++ dateText d.months.toInt d.days.toInt ++ timeText d.seconds.toInt d.nanoseconds.toInt

def intComponent (v : ℤ) (u : Char) : Component := ⟨v < 0, v.natAbs, [], u⟩

def secondsComponent : Component :=
  ⟨s < 0, s.natAbs, if nanoseconds = 0 then [] else (fractionText nanoseconds.natAbs).toList, 'S'⟩

def dateParts (months days : ℤ) : List (Option Component) :=
  [if months.tdiv 12 = 0 then none else some (intComponent (months.tdiv 12) 'Y'),
    if months.tmod 12 = 0 then none else some (intComponent (months.tmod 12) 'M'),
    if days = 0 then none else some (intComponent days 'D')]

def timeParts : List (Option Component) :=
  [if seconds.tdiv 3600 = 0 then none else some (intComponent (seconds.tdiv 3600) 'H'),
    if (seconds.tmod 3600).tdiv 60 = 0 then none else some (intComponent ((seconds.tmod 3600).tdiv 60) 'M'),
    if seconds.tmod 60 = 0 ∧ nanoseconds = 0 then none else some (secondsComponent (seconds.tmod 60) nanoseconds)]

lemma text_intComponent (v : ℤ) (u : Char) : (intComponent v u).text = (toString v).toList ++ [u] := by
  rw [toList_toString_int, text, intComponent]
  simp

lemma value_intComponent (v : ℤ) (u : Char) : (intComponent v u).value = v := by
  simp only [value, intComponent, Nat.ofDigitChars_nil, Nat.cast_zero, length_nil, pow_zero, zero_div,
    add_zero, decide_eq_true_eq, Nat.cast_natAbs]
  split_ifs with h
  · rw [abs_of_neg h]
    push_cast
    ring
  · rw [abs_of_nonneg (not_lt.mp h), one_mul]

lemma fills_intComponent {v : ℤ} {u : Char} (hu : u.isDigit = false) (hpoint : u ≠ '.') :
    Fills u (if v = 0 then none else some (intComponent v u)) := by
  intro c hc
  split_ifs at hc
  · cases hc
  · cases hc
    exact ⟨⟨by simp [intComponent], hu, hpoint⟩, rfl⟩

lemma toList_part (v : ℤ) (u : String) (c : Char) (hu : u.toList = [c]) :
    (if v ≠ 0 then toString v ++ u else "").toList =
      (if v = 0 then none else some (intComponent v c)).elim [] text := by
  by_cases h : v = 0
  · simp [h]
  · simp [h, String.toList_append, hu, text_intComponent]

lemma value_part (v : ℤ) (c : Char) : (if v = 0 then none else some (intComponent v c)).elim 0 value = v := by
  split_ifs with h
  · simp [h]
  · exact value_intComponent v c

lemma fractionText_eq (n : ℕ) : ∃ w k, 0 < w ∧ fractionText n = zeroPadded w k ∧ n * 10 ^ w = k * 10 ^ 9 ∧
    (n < 10 ^ 9 → k < 10 ^ w) := by
  rw [fractionText]
  split_ifs
  · exact ⟨3, n / 1000000, by decide, rfl, by omega, by omega⟩
  · exact ⟨6, n / 1000, by decide, rfl, by omega, by omega⟩
  · exact ⟨9, n, by decide, rfl, rfl, id⟩

lemma isDigit_fractionText (n : ℕ) : ∀ c ∈ (fractionText n).toList, c.isDigit = true := by
  obtain ⟨w, k, -, htext, -⟩ := fractionText_eq n
  rw [htext]
  exact isDigit_zeroPadded w k

lemma fractionText_ne_nil (n : ℕ) : (fractionText n).toList ≠ [] := by
  obtain ⟨w, k, -, htext, -⟩ := fractionText_eq n
  rw [htext, toList_zeroPadded]
  exact append_ne_nil_of_right_ne_nil _ Nat.toDigits_ne_nil

lemma value_fractionText {n : ℕ} (hn : n < 10 ^ 9) :
    (Nat.ofDigitChars 10 (fractionText n).toList 0 / 10 ^ (fractionText n).toList.length : ℚ) = n / 10 ^ 9 := by
  obtain ⟨w, k, hw, htext, hscale, hlt⟩ := fractionText_eq n
  rw [htext, ofDigitChars_zeroPadded, length_zeroPadded hw (hlt hn), div_eq_div_iff (by positivity) (by positivity)]
  exact_mod_cast hscale.symm

lemma text_secondsComponent : (secondsComponent s nanoseconds).text = (secondsText s nanoseconds).toList := by
  rw [text, secondsComponent, secondsText]
  by_cases h : nanoseconds = 0
  · simp only [h, ne_eq, not_true_eq_false, if_false, if_true, decide_eq_true_eq, append_nil,
      String.toList_append, toList_toString_int]
    rfl
  · simp only [h, ne_eq, not_false_eq_true, if_false, if_true, decide_eq_true_eq, fractionText_ne_nil,
      String.toList_append, toList_toString_int]
    simp

lemma fills_secondsComponent :
    Fills 'S' (if s = 0 ∧ nanoseconds = 0 then none else some (secondsComponent s nanoseconds)) := by
  intro c hc
  split_ifs at hc
  · cases hc
  · cases hc
    refine ⟨⟨?_, rfl, by simp [secondsComponent]⟩, rfl⟩
    rw [secondsComponent]
    split_ifs
    · simp
    · exact isDigit_fractionText _

def fractionValue : ℚ := (secondsComponent 0 nanoseconds).value

lemma value_secondsComponent :
    (secondsComponent s nanoseconds).value = s + (if s < 0 then -1 else 1) * fractionValue nanoseconds := by
  simp only [fractionValue, value, secondsComponent, decide_eq_true_eq, Nat.cast_natAbs, lt_irrefl, if_false,
    Int.natAbs_zero, one_mul, Nat.cast_zero, zero_add, mul_add]
  by_cases h : s < 0
  · rw [if_pos h, abs_of_neg h]
    push_cast
    ring
  · rw [if_neg h, abs_of_nonneg (not_lt.mp h), one_mul]

lemma fractionValue_of_lt {nanoseconds : ℤ} (hsmall : nanoseconds.natAbs < 10 ^ 9) :
    fractionValue nanoseconds = |(nanoseconds : ℚ)| / 10 ^ 9 := by
  by_cases h : nanoseconds = 0
  · simp [fractionValue, secondsComponent, value, h]
  · simp [fractionValue, secondsComponent, value, h, value_fractionText hsmall, Nat.cast_natAbs]

lemma fractionValue_lt_one : fractionValue nanoseconds < 1 := by
  by_cases h : nanoseconds = 0
  · simp [fractionValue, secondsComponent, value, h]
  · have hlt := ofDigitChars_lt (isDigit_fractionText nanoseconds.natAbs) 0
    rw [zero_add, one_mul] at hlt
    have hvalue : fractionValue nanoseconds = Nat.ofDigitChars 10 (fractionText nanoseconds.natAbs).toList 0 /
        10 ^ (fractionText nanoseconds.natAbs).toList.length := by
      simp [fractionValue, secondsComponent, value, h]
    rw [hvalue, div_lt_one (by positivity)]
    exact_mod_cast hlt

lemma fractionValue_nonneg : 0 ≤ fractionValue nanoseconds := by
  simp only [fractionValue, value, secondsComponent, lt_irrefl, decide_false, Bool.false_eq_true, if_false]
  positivity

/-- The seconds are printed right exactly where the nanoseconds are a fraction with the sign of the seconds. -/
lemma value_secondsComponent_iff : (secondsComponent s nanoseconds).value = s + nanoseconds / 10 ^ 9 ↔
    nanoseconds = 0 ∨ (0 < nanoseconds ∧ nanoseconds < 10 ^ 9 ∧ 0 ≤ s) ∨
      (-10 ^ 9 < nanoseconds ∧ nanoseconds < 0 ∧ s < 0) := by
  rw [value_secondsComponent, add_right_inj]
  by_cases hsmall : nanoseconds.natAbs < 10 ^ 9
  · rw [fractionValue_of_lt hsmall]
    rcases lt_trichotomy nanoseconds 0 with hn | rfl | hn
    · have hcast : (nanoseconds : ℚ) < 0 := by exact_mod_cast hn
      rw [abs_of_neg hcast]
      split_ifs with hs
      · exact iff_of_true (by ring) (.inr (.inr (by omega)))
      · exact iff_of_false (by linarith) (by omega)
    · simp
    · have hcast : 0 < (nanoseconds : ℚ) := by exact_mod_cast hn
      rw [abs_of_pos hcast]
      split_ifs with hs
      · exact iff_of_false (by linarith) (by omega)
      · exact iff_of_true (by ring) (.inr (.inl (by omega)))
  · -- a whole second or more among the nanoseconds is no fraction of a second
    refine iff_of_false (fun heq => ?_) (by omega)
    have hlt := fractionValue_lt_one nanoseconds
    have hnonneg := fractionValue_nonneg nanoseconds
    rcases (by omega : nanoseconds ≤ -10 ^ 9 ∨ 10 ^ 9 ≤ nanoseconds) with hn | hn
    · have hcast : (nanoseconds : ℚ) ≤ -10 ^ 9 := by exact_mod_cast hn
      split_ifs at heq <;> linarith
    · have hcast : (10 ^ 9 : ℚ) ≤ nanoseconds := by exact_mod_cast hn
      split_ifs at heq <;> linarith

section

variable (months days seconds nanoseconds : ℤ)

lemma toList_dateText : (dateText months days).toList = fieldsText (dateParts months days) := by
  have hyears := Int.mul_tdiv_add_tmod months 12
  have hmonths : (if months ≠ 0 then (if months.tdiv 12 ≠ 0 then toString (months.tdiv 12) ++ "Y" else "") ++
      (if months.tmod 12 ≠ 0 ∨ months.tdiv 12 = 0 then toString (months.tmod 12) ++ "M" else "") else "") =
      (if months.tdiv 12 ≠ 0 then toString (months.tdiv 12) ++ "Y" else "") ++
        (if months.tmod 12 ≠ 0 then toString (months.tmod 12) ++ "M" else "") := by
    by_cases hzero : months = 0
    · simp [hzero]
    · rw [if_pos hzero]
      congr 2
      simp only [ne_eq, eq_iff_iff, or_iff_left_iff_imp]
      omega
  rw [dateText, hmonths]
  simp only [String.toList_append, toList_part _ "Y" 'Y' rfl, toList_part _ "M" 'M' rfl, toList_part _ "D" 'D' rfl,
    fieldsText, dateParts, flatMap_cons, flatMap_nil, append_nil, append_assoc]

lemma toList_timeText : (timeText seconds nanoseconds).toList =
    if seconds = 0 ∧ nanoseconds = 0 then [] else 'T' :: fieldsText (timeParts seconds nanoseconds) := by
  have hhours := Int.mul_tdiv_add_tmod seconds 3600
  have hminutes := Int.mul_tdiv_add_tmod (seconds.tmod 3600) 60
  rw [Int.tmod_tmod_of_dvd seconds (by decide : (60 : ℤ) ∣ 3600)] at hminutes
  rw [timeText]
  by_cases hzero : seconds = 0 ∧ nanoseconds = 0
  · simp [hzero]
  · have hsome : seconds ≠ 0 ∨ nanoseconds ≠ 0 := by omega
    have hlast : (seconds.tmod 60 ≠ 0 ∨ nanoseconds ≠ 0 ∨ (seconds.tdiv 3600 = 0 ∧
        (seconds.tmod 3600).tdiv 60 = 0)) ↔ ¬ (seconds.tmod 60 = 0 ∧ nanoseconds = 0) := by omega
    have hseconds : (if ¬ (seconds.tmod 60 = 0 ∧ nanoseconds = 0) then secondsText (seconds.tmod 60) nanoseconds
        else "").toList = (if seconds.tmod 60 = 0 ∧ nanoseconds = 0 then none
          else some (secondsComponent (seconds.tmod 60) nanoseconds)).elim [] text := by
      rw [ite_not]
      split_ifs
      · rfl
      · exact (text_secondsComponent _ _).symm
    rw [if_pos hsome, if_neg hzero]
    simp only [hlast, String.toList_append, toList_part _ "H" 'H' rfl, toList_part _ "M" 'M' rfl, hseconds,
      fieldsText, timeParts, flatMap_cons, flatMap_nil, append_nil, append_assoc]
    rfl

lemma readFields_dateParts {tail : List Char} (htail : read tail = none) :
    readFields ['Y', 'M', 'D'] (fieldsText (dateParts months days) ++ tail) =
      ([((months.tdiv 12 : ℤ) : ℚ), (months.tmod 12 : ℤ), days], tail) := by
  have hfills : List.Forall₂ Fills ['Y', 'M', 'D'] (dateParts months days) :=
    .cons (fills_intComponent rfl (by decide)) (.cons (fills_intComponent rfl (by decide))
      (.cons (fills_intComponent rfl (by decide)) .nil))
  rw [readFields_fieldsText (by decide) hfills htail]
  simp only [dateParts, map_cons, map_nil, value_part]

lemma readFields_timeParts : readFields ['H', 'M', 'S'] (fieldsText (timeParts seconds nanoseconds)) =
    ([((seconds.tdiv 3600 : ℤ) : ℚ), ((seconds.tmod 3600).tdiv 60 : ℤ),
      (secondsComponent (seconds.tmod 60) nanoseconds).value], []) := by
  have hfills : List.Forall₂ Fills ['H', 'M', 'S'] (timeParts seconds nanoseconds) :=
    .cons (fills_intComponent rfl (by decide)) (.cons (fills_intComponent rfl (by decide))
      (.cons (fills_secondsComponent _ _) .nil))
  have hseconds : (if seconds.tmod 60 = 0 ∧ nanoseconds = 0 then none
      else some (secondsComponent (seconds.tmod 60) nanoseconds)).elim 0 value =
        (secondsComponent (seconds.tmod 60) nanoseconds).value := by
    split_ifs with h
    · simp [h, secondsComponent, value]
    · rfl
  rw [← append_nil (fieldsText _), readFields_fieldsText (by decide) hfills rfl]
  simp only [timeParts, map_cons, map_nil, value_part, hseconds]

lemma dateParts_ne_nil (hsome : months ≠ 0 ∨ days ≠ 0) : fieldsText (dateParts months days) ≠ [] := by
  intro hnil
  have hnone := eq_none_of_fieldsText_eq_nil hnil
  have hyears := Int.mul_tdiv_add_tmod months 12
  simp [dateParts] at hnone
  omega

lemma timeParts_ne_nil (hsome : ¬ (seconds = 0 ∧ nanoseconds = 0)) : fieldsText (timeParts seconds nanoseconds) ≠ [] := by
  intro hnil
  have hnone := eq_none_of_fieldsText_eq_nil hnil
  have hhours := Int.mul_tdiv_add_tmod seconds 3600
  have hminutes := Int.mul_tdiv_add_tmod (seconds.tmod 3600) 60
  rw [Int.tmod_tmod_of_dvd seconds (by decide : (60 : ℤ) ∣ 3600)] at hminutes
  simp [timeParts] at hnone
  omega

end

def BoltDuration.denoted (d : BoltDuration) : ℚ × ℚ × ℚ :=
  ((d.months.toInt : ℚ), (d.days.toInt : ℚ), (d.seconds.toInt : ℚ) + (d.nanoseconds.toInt : ℚ) / 10 ^ 9)

/-- The nanoseconds are a fraction of a second, with the sign of the seconds that are left after the minutes. -/
def SignsAgree : Prop :=
  nanoseconds = 0 ∨ (0 < nanoseconds ∧ nanoseconds < 10 ^ 9 ∧ (0 ≤ seconds ∨ 60 ∣ seconds)) ∨
    (-10 ^ 9 < nanoseconds ∧ nanoseconds < 0 ∧ seconds < 0 ∧ ¬ 60 ∣ seconds)

lemma signsAgree_iff : SignsAgree seconds nanoseconds ↔ nanoseconds = 0 ∨
    (0 < nanoseconds ∧ nanoseconds < 10 ^ 9 ∧ 0 ≤ seconds.tmod 60) ∨
      (-10 ^ 9 < nanoseconds ∧ nanoseconds < 0 ∧ seconds.tmod 60 < 0) := by
  rw [SignsAgree, Int.tmod_eq_emod]
  split_ifs <;> omega

theorem readDuration_toIsoString (d : BoltDuration) :
    readDuration d.toIsoString.toList = some d.denoted ↔ SignsAgree d.seconds.toInt d.nanoseconds.toInt := by
  rw [BoltDuration.toIsoString, BoltDuration.denoted, signsAgree_iff, ← value_secondsComponent_iff]
  generalize d.months.toInt = months, d.days.toInt = days
  generalize d.seconds.toInt = seconds, d.nanoseconds.toInt = nanoseconds
  have hmonths := Int.mul_tdiv_add_tmod months 12
  have hhours := Int.mul_tdiv_add_tmod seconds 3600
  have hminutes := Int.mul_tdiv_add_tmod (seconds.tmod 3600) 60
  rw [Int.tmod_tmod_of_dvd seconds (by decide : (60 : ℤ) ∣ 3600)] at hminutes
  have hdate : (12 * (months.tdiv 12 : ℤ) + (months.tmod 12 : ℤ) : ℚ) = months := by exact_mod_cast hmonths
  split_ifs with hzero
  · obtain ⟨rfl, rfl, rfl, rfl⟩ := hzero
    refine iff_of_true ?_ (by decide +kernel)
    simp only [Int.cast_zero, zero_div, add_zero]
    decide +kernel
  · rw [String.toList_append, String.toList_append, toList_dateText, toList_timeText]
    split_ifs with htime
    · obtain ⟨rfl, rfl⟩ := htime
      have hread := readDuration_date (readFields_dateParts months days rfl)
        (by simpa using dateParts_ne_nil months days (by omega))
      refine iff_of_true ?_ (by decide +kernel)
      simpa [hdate] using hread
    · have hread := readDuration_time (readFields_dateParts months days rfl)
        (readFields_timeParts seconds nanoseconds) (timeParts_ne_nil seconds nanoseconds htime)
      have hclock : (3600 * (seconds.tdiv 3600 : ℤ) + 60 * ((seconds.tmod 3600).tdiv 60 : ℤ) : ℚ) =
          seconds - (seconds.tmod 60 : ℤ) := by
        exact_mod_cast (by omega : 3600 * seconds.tdiv 3600 + 60 * (seconds.tmod 3600).tdiv 60 = seconds - seconds.tmod 60)
      rw [hdate, hclock] at hread
      refine (Eq.congr_left hread).trans ?_
      rw [some_inj, Prod.mk.injEq, Prod.mk.injEq, and_iff_right rfl, and_iff_right rfl]
      constructor <;> intro h <;> linarith

theorem readDuration_toIsoString_mixed :
    readDuration (BoltDuration.toIsoString ⟨14, 3, -60, 500000000⟩).toList =
      some (BoltDuration.denoted ⟨14, 3, -60, 500000000⟩) :=
  (readDuration_toIsoString _).mpr (.inr (.inl (by decide)))

theorem not_readDuration_toIsoString : ¬ ∀ d : BoltDuration, readDuration d.toIsoString.toList = some d.denoted := by
  intro h
  have hread : readDuration (BoltDuration.toIsoString ⟨0, 0, 0, -500000000⟩).toList = some (0, 0, 1 / 2) := by
    decide +kernel
  have hdenoted := hread.symm.trans (h ⟨0, 0, 0, -500000000⟩)
  revert hdenoted
  decide +kernel

end Voyager.Bolt
