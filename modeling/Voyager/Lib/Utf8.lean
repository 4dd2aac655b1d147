import Mathlib.Tactic

namespace Voyager.Lib

open List

def utf8Bytes (s : String) : List UInt8 := s.toByteArray.data.toList

def asChar (b : UInt8) : Char := Char.ofNat b.toNat

def hexByte (b : UInt8) : String := String.ofList ([b.toNat / 16, b.toNat % 16].map Nat.digitChar)

lemma utf8Bytes_eq (s : String) : utf8Bytes s = s.toList.flatMap String.utf8EncodeChar := by
  rw [utf8Bytes, ← String.utf8Encode_toList, List.utf8Encode, data_toByteArray]

lemma fromUTF8_utf8Bytes (s : String) : String.fromUTF8? ⟨(utf8Bytes s).toArray⟩ = some s := by
  have hbytes : (⟨(utf8Bytes s).toArray⟩ : ByteArray) = s.toByteArray := by simp [utf8Bytes]
  rw [hbytes, String.fromUTF8?, dif_pos s.isValidUTF8]
  rfl

lemma toNat_of_mem_utf8EncodeChar {c : Char} {b : UInt8} (h : b ∈ String.utf8EncodeChar c) (hb : b.toNat < 128) :
    c.toNat = b.toNat := by
  have hhigh : ∀ n, 128 ≤ n → n < 256 → b ≠ UInt8.ofNat n := by
    rintro n hlow hn rfl
    rw [UInt8.toNat_ofNat_of_lt' hn] at hb
    omega
  rw [String.utf8EncodeChar] at h
  split_ifs at h with h1 h2 h3
  · rw [List.mem_singleton.mp h, UInt8.toNat_ofNat_of_lt' (by change c.val.toNat < 256; omega)]
    rfl
  · simp only [mem_cons, not_mem_nil, or_false] at h
    rcases h with h | h
    all_goals exact absurd h (hhigh _ (by omega) (by omega))
  · simp only [mem_cons, not_mem_nil, or_false] at h
    rcases h with h | h | h
    all_goals exact absurd h (hhigh _ (by omega) (by omega))
  · simp only [mem_cons, not_mem_nil, or_false] at h
    rcases h with h | h | h | h
    all_goals exact absurd h (hhigh _ (by omega) (by omega))

lemma utf8EncodeChar_of_high {c : Char} (h : 128 ≤ c.toNat) : ∃ lead second bytes,
    String.utf8EncodeChar c = lead :: second :: bytes ∧ 0xC0 ≤ lead.toNat ∧
      (∀ b ∈ second :: bytes, 0x80 ≤ b.toNat ∧ b.toNat < 0xC0) ∧ (lead.toNat = c.toNat → second.toNat = 0x83) := by
  have hval : c.val.toNat = c.toNat := rfl
  have hbyte : ∀ n, n < 256 → (UInt8.ofNat n).toNat = n := fun n hn => UInt8.toNat_ofNat_of_lt' hn
  -- among the characters of two bytes only U+00C3 is its own first byte
  have hlead : c.toNat = c.toNat / 64 % 32 + 0xC0 → c.toNat = 0xC3 := by
    intro hc
    have hquot : c.toNat / 64 = 3 := by omega
    omega
  rw [String.utf8EncodeChar]
  split_ifs with h1 h2 h3
  · omega
  all_goals refine ⟨_, _, _, rfl, ?_, ?_, ?_⟩
  all_goals simp only [forall_mem_cons, not_mem_nil, false_implies, implies_true, and_true, hval] at *
  all_goals repeat rw [hbyte _ (by omega)]
  all_goals omega

lemma notMem_utf8Bytes {s : String} {b : UInt8} (hb : b.toNat < 128) (h : ∀ c ∈ s.toList, c.toNat ≠ b.toNat) :
    b ∉ utf8Bytes s := by
  rw [utf8Bytes_eq, mem_flatMap]
  rintro ⟨c, hc, hmem⟩
  exact h c hc (toNat_of_mem_utf8EncodeChar hmem hb)

end Voyager.Lib
