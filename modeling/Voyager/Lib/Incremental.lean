import Mathlib.Tactic

/-! Parsers of a buffer that is still being filled. -/

namespace Voyager.Lib

open List

abbrev Incremental (ε α : Type) : Type := List UInt8 → Except ε (Option (α × ℕ))

namespace Incremental

variable {ε α : Type}

def Stable (p : Incremental ε α) : Prop :=
  ∀ bytes a n, p bytes = .ok (some (a, n)) → ∃ front back, bytes = front ++ back ∧ front.length = n ∧
    ∀ other, p (front ++ other) = .ok (some (a, n))

def Fails (result : Except ε (Option (α × ℕ))) : Prop := ∃ e, result = .error e

def Final (p : Incremental ε α) : Prop := ∀ bytes more, Fails (p bytes) → Fails (p (bytes ++ more))

structure Settled (p : Incremental ε α) : Prop where
  stable : Stable p
  final : Final p

inductive Frames (p : Incremental ε α) : List UInt8 → List α → Prop where
  | nil : Frames p [] []
  | cons {frame rest : List UInt8} {a : α} {as : List α} (hne : frame ≠ [])
      (hframe : p frame = .ok (some (a, frame.length))) (hrest : Frames p rest as) : Frames p (frame ++ rest) (a :: as)

section

variable {p : Incremental ε α} {front back : List UInt8} {as bs : List α}

lemma Frames.append (hfront : Frames p front as) (hback : Frames p back bs) :
    Frames p (front ++ back) (as ++ bs) := by
  induction hfront with
  | nil => exact hback
  | cons hne hframe _ ih =>
    rw [append_assoc]
    exact .cons hne hframe ih

lemma Stable.frame_unique (hp : Stable p) {frame frame' rest rest' : List UInt8} {a a' : α}
    (h : p frame = .ok (some (a, frame.length))) (h' : p frame' = .ok (some (a', frame'.length)))
    (heq : frame ++ rest = frame' ++ rest') : frame = frame' ∧ a = a' ∧ rest = rest' := by
  have hwhole : ∀ {frame : List UInt8} {a : α} (rest : List UInt8), p frame = .ok (some (a, frame.length)) →
      p (frame ++ rest) = .ok (some (a, frame.length)) := by
    intro frame a rest h
    obtain ⟨front, back, rfl, hlen, hsame⟩ := hp frame a _ h
    obtain rfl : back = [] := by simpa using hlen
    simpa using hsame rest
  have hfirst := hwhole rest h
  rw [heq, hwhole rest' h'] at hfirst
  obtain ⟨rfl, hlen⟩ : a' = a ∧ frame'.length = frame.length := by simpa using hfirst
  obtain ⟨rfl, rfl⟩ := append_inj heq hlen.symm
  exact ⟨rfl, rfl, rfl⟩

lemma Stable.append (hp : Stable p) {bytes : List UInt8} {a : α} {n : ℕ} (h : p bytes = .ok (some (a, n)))
    (more : List UInt8) : p (bytes ++ more) = .ok (some (a, n)) := by
  obtain ⟨front, back, rfl, rfl, hsame⟩ := hp bytes a n h
  rw [append_assoc]
  exact hsame _

lemma Settled.of_fixed {k : ℕ} (hshort : ∀ bytes : List UInt8, bytes.length < k → p bytes = .ok none)
    (hlong : ∀ bytes other : List UInt8, bytes.length = k → p (bytes ++ other) = p bytes)
    (hsize : ∀ bytes a n, p bytes = .ok (some (a, n)) → n = k) : Settled p := by
  have htake : ∀ bytes other : List UInt8, p bytes ≠ .ok none → p (bytes.take k ++ other) = p bytes := by
    intro bytes other hne
    have hlen : (bytes.take k).length = k := length_take_of_le (not_lt.mp fun hlt => hne (hshort bytes hlt))
    rw [hlong _ other hlen, ← hlong _ (bytes.drop k) hlen, take_append_drop]
  constructor
  · intro bytes a n h
    have hne : p bytes ≠ .ok none := by simp [h]
    have hlen : k ≤ bytes.length := not_lt.mp fun hlt => hne (hshort bytes hlt)
    refine ⟨bytes.take k, bytes.drop k, (take_append_drop k bytes).symm, ?_, fun other => (htake _ other hne).trans h⟩
    rw [length_take_of_le hlen, hsize bytes a n h]
  · rintro bytes more ⟨e, h⟩
    have hne : p bytes ≠ .ok none := by simp [h]
    refine ⟨e, ?_⟩
    rw [← take_append_drop k bytes, append_assoc, htake _ _ hne, h]

lemma Settled.eq_none_of_frame (hp : Settled p) {frame piece : List UInt8} {a : α}
    (h : p frame = .ok (some (a, frame.length))) (hpiece : piece <+: frame) (hne : piece ≠ frame) :
    p piece = .ok none := by
  obtain ⟨more, rfl⟩ := hpiece
  match hresult : p piece with
  | .ok none => rfl
  | .error e =>
    obtain ⟨e', he'⟩ := hp.final piece more ⟨e, hresult⟩
    cases h.symm.trans he'
  | .ok (some (b, n)) =>
    obtain ⟨front, back, rfl, rfl, -⟩ := hp.stable piece b n hresult
    have hwhole := hp.stable.append hresult more
    rw [h] at hwhole
    obtain ⟨-, hlength⟩ : a = b ∧ (front ++ back ++ more).length = front.length := by simpa using hwhole
    have hmore : more = [] := by
      rw [length_append, length_append] at hlength
      exact eq_nil_of_length_eq_zero (by omega)
    rw [hmore, append_nil] at hne
    exact absurd rfl hne

lemma Frames.of_append (hp : Stable p) {cs : List α} (hfront : Frames p front as)
    (hall : Frames p (front ++ back) cs) : ∃ bs, cs = as ++ bs ∧ Frames p back bs := by
  induction hfront generalizing cs with
  | nil => exact ⟨cs, rfl, hall⟩
  | @cons frame rest a as hne hframe hrest ih =>
    rw [append_assoc] at hall
    generalize hbytes : frame ++ (rest ++ back) = bytes at hall
    cases hall with
    | nil => exact absurd (List.append_eq_nil_iff.mp hbytes).1 hne
    | cons hne' hframe' hrest' =>
      obtain ⟨rfl, rfl, rfl⟩ := hp.frame_unique hframe hframe' hbytes
      obtain ⟨bs, rfl, hbs⟩ := ih hrest'
      exact ⟨bs, rfl, hbs⟩

end

end Incremental

end Voyager.Lib
