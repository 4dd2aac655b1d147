import Mathlib.Tactic

namespace Voyager.Lib

def toBytes : ℕ → ℕ → List UInt8
  | 0, _ => []
  | width + 1, n => UInt8.ofNat (n / 256 ^ width) :: toBytes width n

def ofBytes (bytes : List UInt8) : ℕ := bytes.foldl (fun n b => n * 256 + b.toNat) 0

@[simp] lemma length_toBytes (width n : ℕ) : (toBytes width n).length = width := by
  induction width with
  | zero => rfl
  | succ width ih => simp [toBytes, ih]

lemma foldl_toBytes (width n acc : ℕ) :
    (toBytes width n).foldl (fun n b => n * 256 + b.toNat) acc = acc * 256 ^ width + n % 256 ^ width := by
  induction width generalizing acc with
  | zero => simp [toBytes, Nat.mod_one]
  | succ width ih =>
    have hsplit : n % 256 ^ (width + 1) = n / 256 ^ width % 256 * 256 ^ width + n % 256 ^ width := by
      rw [pow_succ, Nat.mod_mul, Nat.add_comm, Nat.mul_comm]
    rw [toBytes, List.foldl_cons, ih, hsplit, UInt8.toNat_ofNat', show 2 ^ 8 = 256 from rfl]
    ring

lemma ofBytes_toBytes (width n : ℕ) : ofBytes (toBytes width n) = n % 256 ^ width := by
  rw [ofBytes, foldl_toBytes, Nat.zero_mul, Nat.zero_add]

lemma ofBytes_toBytes_of_lt {width n : ℕ} (h : n < 256 ^ width) : ofBytes (toBytes width n) = n := by
  rw [ofBytes_toBytes, Nat.mod_eq_of_lt h]

end Voyager.Lib
