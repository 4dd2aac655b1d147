import Voyager.Bolt.Value
import Voyager.Lib.Calendar
import Voyager.Lib.Decimal
import Voyager.Net.Error

namespace Voyager.Bolt

open Lib Lib.Calendar Net BitVec UInt32

abbrev I32 := BitVec 32

/-- The addition saturates; the other operations on `i64` and `u32` stay in range. -/
def daysToYmd (days : I64) : I32 × UInt32 × UInt32 :=
  let z := min (days.toInt + 719468) (2 ^ 63 - 1)
  let era := (if 0 ≤ z then z else z - 146096).tdiv 146097
  let doe := (z - era * 146097).toNat
  let yoe := (doe - doe / 1460 + doe / 36524 - doe / 146096) / 365
  let y := yoe + era * 400
  let doy := doe - (365 * yoe + yoe / 4 - yoe / 100)
  let mp := (5 * doy + 2) / 153
  let d := doy - (153 * mp + 2) / 5 + 1
  let m := if mp < 10 then mp + 3 else mp - 9
  let y := if m ≤ 2 then y + 1 else y
  (BitVec.ofInt 32 y, UInt32.ofNat m, UInt32.ofNat d)

/-- For a month or a day that is none the operations on `u32` wrap. -/
def ymdToDays (year : I32) (month day : UInt32) : I64 :=
  let y := if month ≤ 2 then year.toInt - 1 else year.toInt
  let era := (if 0 ≤ y then y else y - 399).tdiv 400
  let yoe := UInt32.ofNat (y - era * 400).toNat
  let m := if month > 2 then month - 3 else month + 9
  let doy := (153 * m + 2) / 5 + day - 1
  let doe := yoe * 365 + yoe / 4 - yoe / 100 + doy
  BitVec.ofInt 64 (era * 146097 + doe.toNat - 719468)

def zeroPadded (width : ℕ) (n : ℕ) : String :=
  String.ofList ((Nat.toDigits 10 n).leftpad width '0')

def zeroPaddedInt (width : ℕ) (n : ℤ) : String :=
  if n < 0 then "-" ++ zeroPadded (width - 1) n.natAbs else zeroPadded width n.natAbs

lemma toList_zeroPadded (w n : ℕ) :
    (zeroPadded w n).toList = List.replicate (w - (Nat.toDigits 10 n).length) '0' ++ Nat.toDigits 10 n := by
  rw [zeroPadded, String.toList_ofList, List.leftpad]

lemma ofDigitChars_replicate (k : ℕ) : Nat.ofDigitChars 10 (List.replicate k '0') 0 = 0 := by
  induction k with
  | zero => rfl
  | succ k ih => rwa [List.replicate_succ, Nat.ofDigitChars_cons]

lemma ofDigitChars_zeroPadded (w n : ℕ) : Nat.ofDigitChars 10 (zeroPadded w n).toList 0 = n := by
  rw [toList_zeroPadded, Nat.ofDigitChars_append, ofDigitChars_replicate, Nat.ofDigitChars_ten_toDigits]

lemma length_zeroPadded {w n : ℕ} (hw : 0 < w) (hn : n < 10 ^ w) : (zeroPadded w n).toList.length = w := by
  have := Nat.toDigits_length 10 n w hw hn
  rw [toList_zeroPadded, List.length_append, List.length_replicate]
  omega

lemma isDigit_zeroPadded (w n : ℕ) : ∀ c ∈ (zeroPadded w n).toList, c.isDigit = true := by
  intro c hc
  rw [toList_zeroPadded, List.mem_append, List.mem_replicate] at hc
  rcases hc with ⟨-, rfl⟩ | hc
  · rfl
  · exact Nat.isDigit_of_mem_toDigits (by decide) (by decide) hc

lemma zeroPadded_append_inj {w n n' : ℕ} {a a' : List Char} (hw : 0 < w) (hn : n < 10 ^ w) (hn' : n' < 10 ^ w)
    (h : a ++ (zeroPadded w n).toList = a' ++ (zeroPadded w n').toList) : a = a' ∧ n = n' := by
  obtain ⟨hfront, htext⟩ := List.append_inj' h (by rw [length_zeroPadded hw hn, length_zeroPadded hw hn'])
  have hread := congrArg (Nat.ofDigitChars 10 · 0) htext
  rw [ofDigitChars_zeroPadded, ofDigitChars_zeroPadded] at hread
  exact ⟨hfront, hread⟩

lemma minus_notMem_zeroPadded (w n : ℕ) : '-' ∉ (zeroPadded w n).toList :=
  fun h => absurd (isDigit_zeroPadded w n '-' h) (by decide)

lemma zeroPaddedInt_injective {w : ℕ} {i j : ℤ} (h : (zeroPaddedInt w i).toList = (zeroPaddedInt w j).toList) : i = j := by
  have hread : ∀ {v n v' n'}, (zeroPadded v n).toList = (zeroPadded v' n').toList → n = n' := fun heq => by
    simpa only [ofDigitChars_zeroPadded] using congrArg (Nat.ofDigitChars 10 · 0) heq
  have hminus : "-".toList = ['-'] := rfl
  rw [zeroPaddedInt, zeroPaddedInt] at h
  split_ifs at h with hi hj hj
  · rw [String.toList_append, String.toList_append, hminus] at h
    have := hread (List.cons.inj h).2
    omega
  · rw [String.toList_append, hminus] at h
    exact absurd (h ▸ List.mem_cons_self) (minus_notMem_zeroPadded w j.natAbs)
  · rw [String.toList_append, hminus] at h
    exact absurd (h.symm ▸ List.mem_cons_self) (minus_notMem_zeroPadded w i.natAbs)
  · have := hread h
    omega

variable (ymd : I32 × UInt32 × UInt32)

def isoDate : String :=
  zeroPaddedInt 4 ymd.1.toInt ++ "-" ++ zeroPadded 2 ymd.2.1.toNat ++ "-" ++ zeroPadded 2 ymd.2.2.toNat

lemma isoDate_injective {ymd ymd' : I32 × UInt32 × UInt32} (hmonth : ymd.2.1.toNat < 100) (hday : ymd.2.2.toNat < 100)
    (hmonth' : ymd'.2.1.toNat < 100) (hday' : ymd'.2.2.toNat < 100) (h : isoDate ymd = isoDate ymd') : ymd = ymd' := by
  have htext := congrArg String.toList h
  simp only [isoDate, String.toList_append] at htext
  obtain ⟨hfront, hd⟩ := zeroPadded_append_inj (by decide) hday hday' htext
  obtain ⟨hfront, hm⟩ := zeroPadded_append_inj (by decide) hmonth hmonth' (List.append_cancel_right hfront)
  have hy := zeroPaddedInt_injective (List.append_cancel_right hfront)
  exact Prod.ext (eq_of_toInt_eq hy) (Prod.ext (UInt32.toNat_inj.mp hm) (UInt32.toNat_inj.mp hd))

def BoltDate.fromYmd (year : I32) (month day : UInt32) : Except NetError BoltDate :=
  if ¬ (1 ≤ month ∧ month ≤ 12) ∨ ¬ (1 ≤ day ∧ day ≤ 31) then
    .error (.protocolError ("Invalid calendar date: " ++ isoDate (year, month, day)))
  else .ok ⟨ymdToDays year month day⟩

def BoltDate.toYmd (date : BoltDate) : I32 × UInt32 × UInt32 := daysToYmd date.days

variable (date : Date)

def Denotes (date : Date) : Prop :=
  ymd.1.toInt = date.year ∧ ymd.2.1.toNat = date.month ∧ ymd.2.2.toNat = date.day

def YearFits : Prop := -2 ^ 31 ≤ date.year ∧ date.year < 2 ^ 31

lemma Denotes.yearFits {ymd : I32 × UInt32 × UInt32} {date : Date} (h : Denotes ymd date) : YearFits date := by
  rw [YearFits, ← h.1]
  exact ⟨le_toInt ymd.1, toInt_lt⟩

lemma Denotes.small {ymd : I32 × UInt32 × UInt32} {date : Date} (h : Denotes ymd date) :
    ymd.2.1.toNat < 100 ∧ ymd.2.2.toNat < 100 := by
  have := date.month_le
  have := date.day_le.trans (daysInMonth_le _ _)
  rw [h.2.1, h.2.2]
  omega

lemma Denotes.eq {ymd ymd' : I32 × UInt32 × UInt32} {date : Date} (h : Denotes ymd date) (h' : Denotes ymd' date) :
    ymd = ymd' := by
  apply Prod.ext
  · exact eq_of_toInt_eq (h.1.trans h'.1.symm)
  · apply Prod.ext
    · exact UInt32.toNat_inj.mp (h.2.1.trans h'.2.1.symm)
    · exact UInt32.toNat_inj.mp (h.2.2.trans h'.2.2.symm)

lemma tdiv_floor {n : ℤ} (hn : 0 < n) (z : ℤ) : (if 0 ≤ z then z else z - (n - 1)).tdiv n = z / n := by
  split_ifs with hz
  · exact Int.tdiv_eq_ediv_of_nonneg hz
  · obtain ⟨k, rfl⟩ := Int.eq_negSucc_of_lt_zero (not_le.mp hz)
    have hceil : Int.negSucc k - (n - 1) = -((k : ℤ) + 1 * n) := by
      rw [Int.negSucc_eq]
      ring
    rw [hceil, Int.neg_tdiv, Int.tdiv_eq_ediv_of_nonneg (by omega), Int.add_mul_ediv_right _ _ hn.ne',
      Int.negSucc_ediv k hn]
    rfl

lemma yoe_digits {doe doy : ℕ} (c q r : ℕ) (hdoe : doe = 36524 * c + 1461 * q + 365 * r + doy) (hc : c < 4) (hq : q < 25)
    (hr : r < 4) (hdoy : doy ≤ 364 ∨ doy = 365 ∧ r = 3 ∧ (q < 24 ∨ c = 3)) :
    doe < 146097 ∧ (doe - doe / 1460 + doe / 36524 - doe / 146096) / 365 = 100 * c + 4 * q + r := by
  by_cases hlast : doe = 146096
  · subst hlast
    omega
  · have hera : doe / 146096 = 0 := by omega
    have hhundred : doe / 36524 = c := by omega
    rw [hera, hhundred]
    -- the remainder by 1460 leaves the last days of some cycles of four years behind
    obtain ⟨hfour, hdoy'⟩ | ⟨hfour, hdoy'⟩ : doe / 1460 = 25 * c + q ∧ doy ≤ 364 ∨
        doe / 1460 = 25 * c + q + 1 ∧ 1 ≤ doy := by
      omega
    all_goals
      rw [hfour]
      omega

def marchYear : ℤ := if date.month ≤ 2 then date.year - 1 else date.year

def marchMonth : ℕ := if date.month ≤ 2 then date.month + 9 else date.month - 3

def marchDay : ℕ := (153 * marchMonth date + 2) / 5 + date.day - 1

lemma number_eq : date.number + 719468 =
    marchYear date / 400 * 146097 + (365 * (marchYear date % 400) + marchYear date % 400 / 4 -
      marchYear date % 400 / 100 + marchDay date) := by
  have hbefore := daysBefore_eq date.year date.one_le_month (by have := date.month_le; omega)
  have hleap := isLeap_iff date.year
  have := date.one_le_month
  have := date.one_le_day
  rw [Date.number, dayNumber, hbefore, marchDay, marchMonth, marchYear]
  cases h : isLeap date.year with
  | true =>
    have := hleap.mp h
    split_ifs
    · omega
    · simp only [Bool.toNat_true]
      omega
  | false =>
    have := mt hleap.mpr (by simp [h])
    split_ifs
    · omega
    · simp only [Bool.toNat_false]
      omega

lemma day_le_marchMonth : (153 * marchMonth date + 2) / 5 + date.day ≤ (153 * (marchMonth date + 1) + 2) / 5 ∧
    (marchDay date ≤ 364 ∨ marchDay date = 365 ∧ date.month = 2 ∧ isLeap date.year = true) := by
  obtain ⟨y, m, k, hm, hm', hk, hk'⟩ := date
  rw [marchDay, marchMonth]
  dsimp only
  interval_cases m
  all_goals simp only [daysInMonth, Nat.reduceLeDiff, ↓reduceIte, Nat.reduceAdd, Nat.reduceSub, Nat.reduceMul] at hk' ⊢
  case «2» =>
    refine ⟨by split_ifs at hk' <;> omega, ?_⟩
    split_ifs at hk' with hleap
    · exact (by omega : 337 + k - 1 ≤ 364 ∨ 337 + k - 1 = 365).imp id fun h => ⟨h, trivial, hleap⟩
    · omega
  all_goals omega

lemma month_of_marchDay : (5 * marchDay date + 2) / 153 = marchMonth date := by
  have hle := (day_le_marchMonth date).1
  have := date.one_le_day
  rw [marchDay]
  omega

lemma month_of_marchMonth :
    (if marchMonth date < 10 then marchMonth date + 3 else marchMonth date - 9) = date.month := by
  have := date.one_le_month
  have := date.month_le
  rw [marchMonth]
  split_ifs <;> omega

lemma yoe_of_doe {yoe doe : ℕ} (hyoe : marchYear date % 400 = yoe)
    (hdoe : doe = 365 * yoe + yoe / 4 - yoe / 100 + marchDay date) :
    doe < 146097 ∧ (doe - doe / 1460 + doe / 36524 - doe / 146096) / 365 = yoe := by
  have hlast : marchDay date ≤ 364 ∨ marchDay date = 365 ∧ yoe % 4 = 3 ∧ (yoe % 100 / 4 < 24 ∨ yoe / 100 = 3) := by
    refine (day_le_marchMonth date).2.imp id fun ⟨hday, htwo, hleap⟩ => ⟨hday, ?_⟩
    have := (isLeap_iff date.year).mp hleap
    rw [marchYear, if_pos htwo.le] at hyoe
    omega
  obtain ⟨hlt, hyear⟩ := yoe_digits (yoe / 100) (yoe % 100 / 4) (yoe % 4) (by omega : doe = _) (by omega)
    (by omega) (by omega) hlast
  exact ⟨hlt, by omega⟩

lemma denotes_daysToYmd {days : I64} {date : Date} (hdays : days.toInt = date.number) (hfits : YearFits date) :
    Denotes (daysToYmd days) date := by
  obtain ⟨hlow, hhigh⟩ := hfits
  have hyear : marchYear date = date.year ∨ marchYear date = date.year - 1 := by
    rw [marchYear]
    split_ifs <;> simp
  have hmarch := day_le_marchMonth date
  obtain ⟨yoe, hyoe⟩ := Int.eq_ofNat_of_zero_le (Int.emod_nonneg (marchYear date) (by decide : (400 : ℤ) ≠ 0))
  obtain ⟨doe, hdoe⟩ : ∃ doe, doe = 365 * yoe + yoe / 4 - yoe / 100 + marchDay date := ⟨_, rfl⟩
  obtain ⟨hlt, hyoe'⟩ := yoe_of_doe date hyoe hdoe
  have hnumber := number_eq date
  rw [hyoe] at hnumber
  have hz : min (days.toInt + 719468) (2 ^ 63 - 1) = marchYear date / 400 * 146097 + doe := by
    rw [hdays]
    omega
  have hera : (if 0 ≤ marchYear date / 400 * 146097 + doe then marchYear date / 400 * 146097 + doe
      else marchYear date / 400 * 146097 + doe - 146096).tdiv 146097 = marchYear date / 400 :=
    (tdiv_floor (n := 146097) (by decide) _).trans (by omega)
  have hdoy : doe - (365 * yoe + yoe / 4 - yoe / 100) = marchDay date := by omega
  have hday : marchDay date - (153 * marchMonth date + 2) / 5 + 1 = date.day := by
    have := date.one_le_day
    rw [marchDay]
    omega
  simp only [daysToYmd, hz, hera, add_sub_cancel_left, Int.toNat_natCast, hyoe', hdoy, month_of_marchDay,
    month_of_marchMonth, hday]
  have hday_le : date.day ≤ 31 := date.day_le.trans (daysInMonth_le _ _)
  have hmonth_le := date.month_le
  refine ⟨?_, ?_, ?_⟩
  · dsimp only
    rw [marchYear] at hyoe ⊢
    rw [toInt_ofInt_eq_self (by decide)]
    all_goals split_ifs at *
    all_goals omega
  · exact toNat_ofNat_of_lt' (lt_of_le_of_lt hmonth_le (by decide))
  · exact toNat_ofNat_of_lt' (lt_of_le_of_lt hday_le (by decide))

lemma toNat_sub {a b : UInt32} (h : b.toNat ≤ a.toNat) : (a - b).toNat = a.toNat - b.toNat :=
  UInt32.toNat_sub_of_le a b (UInt32.le_iff_toNat_le.mpr h)

variable {day : UInt32}

lemma toNat_doe {yoe m : UInt32} (hyoe : yoe.toNat < 400) (hm : m.toNat < 12) (hday : 1 ≤ day.toNat)
    (hday' : day.toNat ≤ 31) : (yoe * 365 + yoe / 4 - yoe / 100 + ((153 * m + 2) / 5 + day - 1)).toNat =
      365 * yoe.toNat + yoe.toNat / 4 - yoe.toNat / 100 + ((153 * m.toNat + 2) / 5 + day.toNat - 1) := by
  have hmonths : ((153 * m + 2) / 5 + day).toNat = (153 * m.toNat + 2) / 5 + day.toNat := by
    simp (disch := omega) only [UInt32.toNat_add, UInt32.toNat_mul, UInt32.toNat_div, UInt32.reduceToNat,
      Nat.mod_eq_of_lt]
  have hyears : (yoe * 365 + yoe / 4).toNat = 365 * yoe.toNat + yoe.toNat / 4 := by
    simp only [UInt32.toNat_add, UInt32.toNat_mul, UInt32.toNat_div, UInt32.reduceToNat]
    omega
  have hhundreds : (yoe / 100).toNat = yoe.toNat / 100 := UInt32.toNat_div yoe 100
  rw [UInt32.toNat_add, toNat_sub (by rw [hyears, hhundreds]; omega),
    toNat_sub (a := (153 * m + 2) / 5 + day) (b := 1) (by rw [hmonths]; exact le_add_left hday), hmonths, hyears,
    hhundreds]
  exact Nat.mod_eq_of_lt (by omega)

section

variable {year : I32} {month : UInt32} {date : Date}

/-- The day counts on from the first of the month, also past the month's end. -/
lemma ymdToDays_of_first (h : Denotes (year, month, 1) date) (hday : 1 ≤ day.toNat) (hday' : day.toNat ≤ 31) :
    (ymdToDays year month day).toInt = date.number + day.toNat - 1 := by
  obtain ⟨hlow, hhigh⟩ := h.yearFits
  obtain ⟨hyear, hmonth, hfirst⟩ := h
  dsimp only at hyear hmonth hfirst
  have hle := date.month_le
  have hy : (if month ≤ 2 then year.toInt - 1 else year.toInt) = marchYear date := by
    simp only [marchYear, ← hyear, ← hmonth, le_iff_toNat_le, UInt32.reduceToNat]
  have hm : (if month > 2 then month - 3 else month + 9).toNat = marchMonth date := by
    simp only [marchMonth, ← hmonth, gt_iff_lt, lt_iff_toNat_lt, UInt32.reduceToNat]
    split_ifs
    · omega
    · exact toNat_sub (b := 3) (by simp only [UInt32.reduceToNat]; omega)
    · simp only [UInt32.toNat_add, UInt32.reduceToNat]
      omega
    · omega
  have hm' : marchMonth date < 12 := by
    rw [marchMonth]
    split_ifs <;> omega
  have hera : (if 0 ≤ marchYear date then marchYear date else marchYear date - 399).tdiv 400 = marchYear date / 400 :=
    tdiv_floor (n := 400) (by decide) (marchYear date)
  have hyoe : (UInt32.ofNat (marchYear date - marchYear date / 400 * 400).toNat).toNat = (marchYear date % 400).toNat := by
    rw [toNat_ofNat_of_lt' (lt_of_lt_of_le (by omega : _ < 400) (by decide))]
    omega
  simp only [ymdToDays, hy, hera]
  rw [toNat_doe (by rw [hyoe]; omega) (by rw [hm]; exact hm') hday hday', hyoe, hm]
  have hnumber := number_eq date
  rw [marchDay, ← hfirst] at hnumber
  have hmarch : marchYear date = date.year ∨ marchYear date = date.year - 1 := by
    rw [marchYear]
    split_ifs <;> simp
  simp only [UInt32.reduceToNat] at hnumber
  rw [toInt_ofInt_eq_self (by decide)]
  all_goals omega

lemma ymdToDays_eq (h : Denotes (year, month, day) date) : (ymdToDays year month day).toInt = date.number := by
  obtain ⟨hyear, hmonth, hday⟩ := h
  dsimp only at hday
  have hfirst : Denotes (year, month, 1) ⟨date.year, date.month, 1, date.one_le_month, date.month_le, le_refl 1,
    one_le_daysInMonth _ _⟩ := ⟨hyear, hmonth, rfl⟩
  rw [ymdToDays_of_first hfirst (by rw [hday]; exact date.one_le_day)
    (by rw [hday]; exact date.day_le.trans (daysInMonth_le _ _)), hday]
  simp only [Date.number, dayNumber]
  omega

lemma daysToYmd_ymdToDays (h : Denotes (year, month, day) date) :
    daysToYmd (ymdToDays year month day) = (year, month, day) :=
  (denotes_daysToYmd (ymdToDays_eq h) h.yearFits).eq h

end

lemma yearFits_of_number {date : Date} (hlow : -2 ^ 39 ≤ date.number) (hhigh : date.number ≤ 2 ^ 39) : YearFits date := by
  have hbefore := daysBefore_eq date.year date.one_le_month (date.month_le.trans (by decide))
  have hmonth := date.month_le
  have hleap := (isLeap date.year).toNat_le
  have hday := date.day_le.trans (daysInMonth_le _ _)
  rw [Date.number, dayNumber] at hlow hhigh
  rw [YearFits]
  split_ifs at hbefore <;> omega

lemma isoDate_daysToYmd_injective {days days' : I64} (hlow : -2 ^ 39 ≤ days.toInt) (hhigh : days.toInt ≤ 2 ^ 39)
    (hlow' : -2 ^ 39 ≤ days'.toInt) (hhigh' : days'.toInt ≤ 2 ^ 39)
    (h : isoDate (daysToYmd days) = isoDate (daysToYmd days')) : days = days' := by
  obtain ⟨date, hdate⟩ := exists_number days.toInt
  obtain ⟨date', hdate'⟩ := exists_number days'.toInt
  have hshown := denotes_daysToYmd hdate.symm (yearFits_of_number (by omega) (by omega))
  have hshown' := denotes_daysToYmd hdate'.symm (yearFits_of_number (by omega) (by omega))
  have hymd := isoDate_injective hshown.small.1 hshown.small.2 hshown'.small.1 hshown'.small.2 h
  rw [← hymd] at hshown'
  have hsame : date = date' := Date.ext (hshown.1.symm.trans hshown'.1) (hshown.2.1.symm.trans hshown'.2.1)
    (hshown.2.2.symm.trans hshown'.2.2)
  exact eq_of_toInt_eq (by rw [← hdate, ← hdate', hsame])

theorem calendar_conversion :
    (∀ days : I64, ∃ date : Date, date.number = days.toInt ∧ (YearFits date → Denotes (daysToYmd days) date ∧
      ymdToDays (daysToYmd days).1 (daysToYmd days).2.1 (daysToYmd days).2.2 = days)) ∧
    (∀ (year : I32) (month day : UInt32) (date : Date), Denotes (year, month, day) date →
      daysToYmd (ymdToDays year month day) = (year, month, day)) ∧
    daysToYmd 0 = (1970, 1, 1) ∧
    ∀ (days days' : I64) (date : Date), date.number = days.toInt → days'.toInt = days.toInt + 1 → YearFits date →
      YearFits date.next → Denotes (daysToYmd days) date ∧ Denotes (daysToYmd days') date.next := by
  refine ⟨fun days => ?_, fun _ _ _ _ => daysToYmd_ymdToDays, ?_, fun days days' date hdays hnext hfits hfits' => ?_⟩
  · obtain ⟨date, hdate⟩ := exists_number days.toInt
    refine ⟨date, hdate, fun hfits => ?_⟩
    have hdenotes := denotes_daysToYmd hdate.symm hfits
    exact ⟨hdenotes, eq_of_toInt_eq ((ymdToDays_eq hdenotes).trans hdate)⟩
  · have hdenotes : Denotes (daysToYmd 0) epoch := denotes_daysToYmd number_epoch.symm ⟨by decide, by decide⟩
    exact hdenotes.eq ⟨rfl, rfl, rfl⟩
  · exact ⟨denotes_daysToYmd hdays.symm hfits, denotes_daysToYmd (by rw [hnext, Date.number_next, hdays]) hfits'⟩

theorem calendar_conversion_leapDay : ∃ date : Date, Denotes (2024, 2, 29) date ∧
    daysToYmd (ymdToDays 2024 2 29) = (2024, 2, 29) ∧ Denotes (daysToYmd 19782) date ∧
    Denotes (daysToYmd 19783) date.next := by
  obtain ⟨-, hback, -, hnext⟩ := calendar_conversion
  have hleap : Denotes (2024, 2, 29) ⟨2024, 2, 29, by decide, by decide, by decide, by decide⟩ := ⟨rfl, rfl, rfl⟩
  exact ⟨_, hleap, hback 2024 2 29 _ hleap, hnext 19782 19783 _ (by decide) (by decide) ⟨by decide, by decide⟩
    ⟨by decide, by decide⟩⟩

/-- A day past the end of its month is converted to a day of the next month. -/
lemma daysToYmd_overflow {year : I32} {month : UInt32} (hm : 1 ≤ month.toNat) (hm' : month.toNat ≤ 12)
    (hday : day.toNat ≤ 31) (hover : daysInMonth year.toInt month.toNat < day.toNat) :
    (daysToYmd (ymdToDays year month day)).2.1.toNat = month.toNat + 1 := by
  have hdays := le_daysInMonth year.toInt month.toNat
  have hlast : month.toNat ≠ 12 := fun h => by
    rw [h] at hover
    exact absurd hday (not_le.mpr hover)
  have hnext := le_daysInMonth year.toInt (month.toNat + 1)
  obtain ⟨first, hfirst⟩ : ∃ first : Date, Denotes (year, month, 1) first :=
    ⟨⟨year.toInt, month.toNat, 1, hm, hm', le_refl 1, one_le_daysInMonth _ _⟩, rfl, rfl, rfl⟩
  let date : Date := ⟨year.toInt, month.toNat + 1, day.toNat - daysInMonth year.toInt month.toNat, by omega, by omega,
    by omega, by omega⟩
  have hnumber : (ymdToDays year month day).toInt = date.number := by
    rw [ymdToDays_of_first hfirst (by omega) hday]
    obtain ⟨hyear, hmonth, hone⟩ := hfirst
    dsimp only at hyear hmonth hone
    simp only [Date.number, dayNumber, ← hyear, ← hmonth, ← hone, date, daysBefore_succ _ hm, UInt32.reduceToNat]
    omega
  exact (denotes_daysToYmd hnumber ⟨le_toInt year, toInt_lt⟩).2.1

theorem toYmd_fromYmd {year : I32} {month day : UInt32} {date : BoltDate}
    (hok : BoltDate.fromYmd year month day = .ok date) :
    date.toYmd = (year, month, day) ↔ day.toNat ≤ daysInMonth year.toInt month.toNat := by
  rw [BoltDate.fromYmd] at hok
  split_ifs at hok with hrange
  cases hok
  push Not at hrange
  simp only [le_iff_toNat_le, UInt32.reduceToNat] at hrange
  obtain ⟨⟨hm, hm'⟩, hd, hd'⟩ := hrange
  refine ⟨fun h => not_lt.mp fun hover => ?_, fun hday => ?_⟩
  · have hmonth := daysToYmd_overflow hm hm' hd' hover
    rw [show daysToYmd _ = _ from h] at hmonth
    dsimp only at hmonth
    omega
  · have hdenotes : Denotes (year, month, day) ⟨year.toInt, month.toNat, day.toNat, hm, hm', hd, hday⟩ := ⟨rfl, rfl, rfl⟩
    exact daysToYmd_ymdToDays hdenotes

theorem toYmd_fromYmd_leapDay : ∃ date, BoltDate.fromYmd 2024 2 29 = .ok date ∧ date.toYmd = (2024, 2, 29) :=
  ⟨⟨19782⟩, rfl, (toYmd_fromYmd rfl).mpr (by decide)⟩

theorem toYmd_fromYmd_overflow :
    ¬ ∀ (year : I32) (month day : UInt32) (date : BoltDate), BoltDate.fromYmd year month day = .ok date →
      date.toYmd = (year, month, day) := by
  intro h
  have hdate := h 2023 2 31 ⟨19419⟩ rfl
  revert hdate
  decide

def nanosToHmsn (nanos : I64) : ℕ × ℕ × ℕ × ℕ :=
  let totalSecs := (nanos.toInt.tdiv 1000000000 % 86400).toNat
  let subNanos := (nanos.toInt % 1000000000).toNat
  (totalSecs / 3600, totalSecs % 3600 / 60, totalSecs % 60, subNanos)

theorem nanosToHmsn_splits (nanos : I64) : ∃ h m s f, nanosToHmsn nanos = (h, m, s, f) ∧
    h < 24 ∧ m < 60 ∧ s < 60 ∧ f < 10 ^ 9 ∧
    (((h * 60 + m) * 60 + s) * 10 ^ 9 + f ≡ nanos.toInt [ZMOD 86400 * 10 ^ 9] ↔
      0 ≤ nanos.toInt ∨ (10 ^ 9 : ℤ) ∣ nanos.toInt) := by
  refine ⟨_, _, _, _, rfl, by omega, by omega, by omega, by omega, ?_⟩
  generalize nanos.toInt = n
  have htrunc := Int.mul_tdiv_add_tmod n 1000000000
  have hsign := Int.tmod_eq_emod (a := n) (b := 1000000000)
  rw [Int.ModEq]
  split_ifs at hsign
  all_goals omega

theorem nanosToHmsn_before_midnight : nanosToHmsn (-1) = (0, 0, 0, 999999999) ∧
    ¬ 999999999 ≡ (-1 : I64).toInt [ZMOD 86400 * 10 ^ 9] := by
  decide

end Voyager.Bolt
