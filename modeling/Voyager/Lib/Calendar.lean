import Mathlib.Tactic

namespace Voyager.Lib.Calendar

variable (y : ℤ)

def isLeap : Bool := y % 4 = 0 && (y % 100 != 0 || y % 400 = 0)

def daysInMonth : ℕ → ℕ
  | 2 => if isLeap y then 29 else 28
  | 4 | 6 | 9 | 11 => 30
  | _ => 31

@[ext]
structure Date where
  year : ℤ
  month : ℕ
  day : ℕ
  one_le_month : 1 ≤ month
  month_le : month ≤ 12
  one_le_day : 1 ≤ day
  day_le : day ≤ daysInMonth year month

lemma le_daysInMonth (m : ℕ) : 28 ≤ daysInMonth y m := by
  unfold daysInMonth
  split
  · split <;> decide
  all_goals decide

lemma one_le_daysInMonth (m : ℕ) : 1 ≤ daysInMonth y m := le_trans (by decide) (le_daysInMonth y m)

lemma daysInMonth_le (m : ℕ) : daysInMonth y m ≤ 31 := by
  unfold daysInMonth
  split
  · split <;> decide
  all_goals decide

def epoch : Date := ⟨1970, 1, 1, by decide, by decide, by decide, by decide⟩

variable (date : Date)

def Date.next : Date :=
  if hday : date.day < daysInMonth date.year date.month then
    ⟨date.year, date.month, date.day + 1, date.one_le_month, date.month_le, Nat.le_add_left 1 _, hday⟩
  else if hmonth : date.month < 12 then
    ⟨date.year, date.month + 1, 1, Nat.le_add_left 1 _, hmonth, le_refl 1, one_le_daysInMonth _ _⟩
  else ⟨date.year + 1, 1, 1, by decide, by decide, le_refl 1, one_le_daysInMonth _ _⟩

def daysBefore (m : ℕ) : ℕ := ((List.range (m - 1)).map fun i => daysInMonth y (i + 1)).sum

def dayNumber (m k : ℕ) : ℤ :=
  365 * (y - 1) + (y - 1) / 4 - (y - 1) / 100 + (y - 1) / 400 + daysBefore y m + k - 719163

def Date.number : ℤ := dayNumber date.year date.month date.day

lemma number_epoch : epoch.number = 0 := by decide

lemma daysBefore_succ {m : ℕ} (hm : 1 ≤ m) : daysBefore y (m + 1) = daysBefore y m + daysInMonth y m := by
  obtain ⟨m, rfl⟩ := Nat.exists_eq_add_of_le' hm
  simp [daysBefore, List.range_succ]

lemma isLeap_iff : isLeap y = true ↔ y % 4 = 0 ∧ (y % 100 ≠ 0 ∨ y % 400 = 0) := by
  simp [isLeap]

lemma daysBefore_eq {m : ℕ} (hm : 1 ≤ m) (hm' : m ≤ 13) :
    daysBefore y m = if m ≤ 2 then 31 * (m - 1) else (153 * (m - 3) + 2) / 5 + 59 + (isLeap y).toNat := by
  interval_cases m
  all_goals cases h : isLeap y
  all_goals simp [daysBefore, List.range_succ, daysInMonth, h]

theorem Date.number_next : date.next.number = date.number + 1 := by
  have hle := date.day_le
  unfold Date.next
  split_ifs with hday hmonth
  · simp only [Date.number, dayNumber]
    omega
  · have hsucc := daysBefore_succ date.year date.one_le_month
    simp only [Date.number, dayNumber, hsucc]
    omega
  · have hmonth' : date.month = 12 := le_antisymm date.month_le (by omega)
    rw [hmonth', show daysInMonth date.year 12 = 31 from rfl] at hday hle
    have hbefore := daysBefore_eq date.year (m := 12) (by decide) (by decide)
    have hfirst : daysBefore (date.year + 1) 1 = 0 := rfl
    simp only [Date.number, dayNumber, hfirst, hmonth', hbefore, add_sub_cancel_right]
    have hleap := isLeap_iff date.year
    cases h : isLeap date.year with
    | true =>
      have := hleap.mp h
      simp only [Nat.reduceLeDiff, if_false, Bool.toNat_true]
      omega
    | false =>
      have := mt hleap.mpr (by simp [h])
      simp only [Nat.reduceLeDiff, if_false, Bool.toNat_false]
      omega

lemma isLeap_add (y k : ℤ) : isLeap (y + 400 * k) = isLeap y := by
  rw [Bool.eq_iff_iff, isLeap_iff, isLeap_iff]
  omega

lemma daysInMonth_add (y k : ℤ) : daysInMonth (y + 400 * k) = daysInMonth y := by
  funext m
  simp only [daysInMonth, isLeap_add]

def Date.shift (k : ℤ) : Date :=
  ⟨date.year + 400 * k, date.month, date.day, date.one_le_month, date.month_le, date.one_le_day,
    (congrFun (daysInMonth_add date.year k) date.month).symm ▸ date.day_le⟩

lemma Date.number_shift (k : ℤ) : (date.shift k).number = date.number + 146097 * k := by
  have hbefore : daysBefore (date.year + 400 * k) date.month = daysBefore date.year date.month := by
    simp only [daysBefore, daysInMonth_add]
  simp only [Date.number, dayNumber, Date.shift, hbefore]
  omega

theorem exists_number (d : ℤ) : ∃ date : Date, date.number = d := by
  have hnat : ∀ n : ℕ, ∃ date : Date, date.number = n := by
    intro n
    induction n with
    | zero => exact ⟨epoch, number_epoch⟩
    | succ n ih =>
      obtain ⟨date, hdate⟩ := ih
      exact ⟨date.next, by rw [Date.number_next, hdate, Nat.cast_succ]⟩
  obtain ⟨date, hdate⟩ := hnat (d % 146097).toNat
  refine ⟨date.shift (d / 146097), ?_⟩
  rw [Date.number_shift, hdate]
  omega

end Voyager.Lib.Calendar
