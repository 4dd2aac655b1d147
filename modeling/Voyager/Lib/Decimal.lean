import Mathlib.Tactic

namespace Voyager.Lib

lemma toList_toString_nat (n : ℕ) : (toString n).toList = Nat.toDigits 10 n := by
  rw [Nat.toString_eq_ofList_toDigits, String.toList_ofList]

lemma toList_toString_int (n : ℤ) :
    (toString n).toList = (if n < 0 then ['-'] else []) ++ Nat.toDigits 10 n.natAbs := by
  cases n with
  | ofNat m =>
    have : ¬ (Int.ofNat m < 0) := by simp
    simp [toString, Int.repr, Nat.repr]
  | negSucc m =>
    have : Int.negSucc m < 0 := Int.negSucc_lt_zero m
    simp [toString, Int.repr, Nat.repr, this]

lemma toDigits_injective {m n : ℕ} (h : Nat.toDigits 10 m = Nat.toDigits 10 n) : m = n := by
  have hread := congrArg (Nat.ofDigitChars 10 · 0) h
  simpa [Nat.ofDigitChars_toDigits] using hread

lemma minus_notMem_toDigits (n : ℕ) : '-' ∉ Nat.toDigits 10 n := by
  intro h
  have hdigit := Nat.isDigit_of_mem_toDigits (by decide) (by decide) h
  exact absurd hdigit (by decide)

lemma toString_int_injective {i j : ℤ} (h : (toString i).toList = (toString j).toList) : i = j := by
  rw [toList_toString_int, toList_toString_int] at h
  have hi := minus_notMem_toDigits i.natAbs
  have hj := minus_notMem_toDigits j.natAbs
  split_ifs at h with hineg hjneg hjneg
  · have := toDigits_injective (List.cons.inj h).2
    omega
  · rw [List.nil_append] at h
    exact absurd (h ▸ List.mem_cons_self) hj
  · rw [List.nil_append] at h
    exact absurd (h.symm ▸ List.mem_cons_self) hi
  · have := toDigits_injective h
    omega

lemma le_ofDigitChars (cs : List Char) (n : ℕ) : n ≤ Nat.ofDigitChars 10 cs n := by
  rw [Nat.ofDigitChars_eq_ofDigitChars_zero]
  have := Nat.one_le_pow cs.length 10 (by decide)
  nlinarith

lemma ofDigitChars_lt {cs : List Char} (hdigits : ∀ c ∈ cs, c.isDigit = true) (n : ℕ) :
    Nat.ofDigitChars 10 cs n < (n + 1) * 10 ^ cs.length := by
  induction cs generalizing n with
  | nil => simp
  | cons c cs ih =>
    have hc : c.toNat ≤ 57 := by
      have := hdigits c List.mem_cons_self
      simp only [Char.isDigit, Bool.and_eq_true, decide_eq_true_eq] at this
      exact this.2
    have htail := ih (fun d hd => hdigits d (List.mem_cons_of_mem c hd)) (10 * n + (c.toNat - '0'.toNat))
    have hzero : '0'.toNat = 48 := rfl
    have hbound : 10 * n + (c.toNat - '0'.toNat) + 1 ≤ 10 * (n + 1) := by omega
    rw [Nat.ofDigitChars_cons, List.length_cons, pow_succ', ← mul_assoc, mul_comm _ 10]
    exact htail.trans_le (Nat.mul_le_mul_right _ hbound)

def digitSum (cs : List Char) : ℕ := (cs.map fun c => c.toNat - '0'.toNat).sum

lemma digitSum_digitChar {n : ℕ} (h : n < 10) : digitSum [n.digitChar] = n := by
  simp [digitSum, Nat.toNat_digitChar_of_lt_ten h]

lemma digitSum_toDigits {n : ℕ} (h : 10 ≤ n) :
    digitSum (Nat.toDigits 10 n) = digitSum (Nat.toDigits 10 (n / 10)) + n % 10 := by
  have hlast := digitSum_digitChar (Nat.mod_lt n (by decide : 0 < 10))
  rw [Nat.toDigits_of_base_le (by decide) h]
  simp only [digitSum, List.map_append, List.sum_append] at hlast ⊢
  rw [hlast]

lemma digitSum_of_lt {n : ℕ} (h : n < 10) : digitSum (Nat.toDigits 10 n) = n := by
  rw [Nat.toDigits_of_lt_base h, digitSum_digitChar h]

lemma digitSum_pos {n : ℕ} (h : 0 < n) : 0 < digitSum (Nat.toDigits 10 n) := by
  induction n using Nat.strong_induction_on with
  | _ n ih =>
    by_cases hn : n < 10
    · rwa [digitSum_of_lt hn]
    · rw [digitSum_toDigits (not_lt.mp hn)]
      have := ih (n / 10) (by omega) (by omega)
      omega

lemma digitSum_pow_add (m : ℕ) {x : ℕ} (hx : x < 10) : digitSum (Nat.toDigits 10 (10 ^ (m + 1) + x)) = 1 + x := by
  have hpow : ∀ k, digitSum (Nat.toDigits 10 (10 ^ k)) = 1 := by
    intro k
    induction k with
    | zero => exact digitSum_of_lt (by decide)
    | succ k ih =>
      have hpos := Nat.one_le_pow k 10 (by decide)
      have hstep : 10 ^ (k + 1) = 10 * 10 ^ k := pow_succ' 10 k
      rw [digitSum_toDigits (by omega), hstep, Nat.mul_div_cancel_left _ (by decide), ih]
      omega
  have hpos := Nat.one_le_pow m 10 (by decide)
  have hstep : 10 ^ (m + 1) = 10 * 10 ^ m := pow_succ' 10 m
  have hquot : (10 ^ (m + 1) + x) / 10 = 10 ^ m := by omega
  have hrest : (10 ^ (m + 1) + x) % 10 = x := by omega
  rw [digitSum_toDigits (by omega), hquot, hrest, hpow]

lemma lt_pow_length_toDigits (n : ℕ) : n < 10 ^ (Nat.toDigits 10 n).length := by
  have hdigits := ofDigitChars_lt (fun c hc => Nat.isDigit_of_mem_toDigits (b := 10) (n := n) (by decide) (by decide) hc) 0
  rwa [Nat.ofDigitChars_toDigits (by decide) (by decide), zero_add, one_mul] at hdigits

lemma length_toDigits_mono {m n : ℕ} (h : m ≤ n) : (Nat.toDigits 10 m).length ≤ (Nat.toDigits 10 n).length :=
  Nat.toDigits_length 10 m _ Nat.length_toDigits_pos (h.trans_lt (lt_pow_length_toDigits n))

/-- Written behind each other two numerals have more digits than their sum, or digits of another sum. -/
lemma toDigits_add {p q : ℕ}
    (hlength : (Nat.toDigits 10 p).length + (Nat.toDigits 10 q).length = (Nat.toDigits 10 (p + q)).length)
    (hsum : digitSum (Nat.toDigits 10 p) + digitSum (Nat.toDigits 10 q) = digitSum (Nat.toDigits 10 (p + q))) :
    False := by
  wlog h : (Nat.toDigits 10 q).length ≤ (Nat.toDigits 10 p).length generalizing p q
  · exact this (by rw [add_comm q p]; omega) (by rw [add_comm q p]; omega) (by omega)
  have hp := lt_pow_length_toDigits p
  have hq := lt_pow_length_toDigits q
  have hqpos := Nat.length_toDigits_pos (b := 10) (n := q)
  obtain ⟨m, hm⟩ := Nat.exists_eq_succ_of_ne_zero (Nat.length_toDigits_pos (b := 10) (n := p)).ne'
  have hpow : 10 ^ (m + 2) = 10 * 10 ^ (m + 1) := pow_succ' 10 (m + 1)
  have hmono : 10 ^ (Nat.toDigits 10 q).length ≤ 10 ^ (m + 1) := Nat.pow_le_pow_right (by decide) (by omega)
  have hup := Nat.toDigits_length 10 (p + q) (m + 2) (by omega) (by rw [hm] at hp; omega)
  have hone : (Nat.toDigits 10 q).length = 1 := by omega
  rw [hone, pow_one] at hq
  rw [hm] at hp hlength
  have hover : 10 ^ (m + 1) ≤ p + q := by
    by_contra hunder
    have := Nat.toDigits_length 10 (p + q) (m + 1) (by omega) (by omega)
    omega
  obtain ⟨x, hx⟩ := Nat.exists_eq_add_of_le hover
  rw [hx, digitSum_pow_add m (by omega), digitSum_of_lt hq] at hsum
  have hpos := digitSum_pos (n := p) (by omega)
  omega

lemma toString_int_add (c d : ℤ) : ¬((toString c).toList ++ (toString d).toList).Perm (toString (c + d)).toList := by
  intro h
  have hlength := h.length_eq
  have hcount := h.count_eq '-'
  have hsum : digitSum ((toString c).toList ++ (toString d).toList) = digitSum (toString (c + d)).toList :=
    (h.map _).sum_eq
  have hminus : ∀ n : ℕ, (Nat.toDigits 10 n).count '-' = 0 := fun n => List.count_eq_zero.mpr (minus_notMem_toDigits n)
  have hc := Nat.length_toDigits_pos (b := 10) (n := c.natAbs)
  have hd := Nat.length_toDigits_pos (b := 10) (n := d.natAbs)
  simp only [toList_toString_int, List.length_append, List.count_append, hminus, digitSum, List.map_append,
    List.sum_append, add_zero] at hlength hcount hsum
  by_cases hcneg : c < 0 <;> by_cases hdneg : d < 0 <;> by_cases hneg : c + d < 0 <;>
    simp only [hcneg, hdneg, hneg, if_true, if_false, List.count_singleton_self, List.count_nil, List.length_nil,
      List.length_singleton, List.map_nil, List.sum_nil, zero_add] at hlength hcount hsum
  all_goals first
    | omega
    | have := length_toDigits_mono (m := (c + d).natAbs) (n := c.natAbs) (by omega)
      omega
    | have := length_toDigits_mono (m := (c + d).natAbs) (n := d.natAbs) (by omega)
      omega
    | have habs : (c + d).natAbs = c.natAbs + d.natAbs := by omega
      rw [habs] at hlength hsum
      exact toDigits_add hlength hsum

end Voyager.Lib
