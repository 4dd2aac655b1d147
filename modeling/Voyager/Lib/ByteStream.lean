import Voyager.Lib.Call

/-! Reading from a stream that delivers its bytes in pieces. -/

namespace Voyager.Lib

open List

inductive Arrival where
  | data (bytes : List UInt8)
  | failed (message : String)
deriving DecidableEq, Repr

abbrev Source := List Arrival

/-- How the writing of a message ends; a message may have gone out although the write did not succeed. -/
inductive Written where
  | done
  | failed (message : String) (sent : Bool)
  | stalled (sent : Bool)
deriving DecidableEq, Repr

def Written.sent : Written → Bool
  | .done => true
  | .failed _ sent => sent
  | .stalled sent => sent

namespace Source

def size (source : Source) : ℕ :=
  (source.map fun
    | .data bytes => bytes.length
    | .failed _ => 0).sum

section

variable {ε : Type}

def fill (count : ℕ) (failed : String → ε) (closed : ε) (buf : List UInt8) :
    Source → Except (Stop ε) Unit × List UInt8 × Source
  | [] => (if buf.length < count then .error .pending else .ok (), buf, [])
  | arrival :: source =>
    if buf.length < count then
      match arrival with
      | .failed message => (.error (.error (failed message)), buf, source)
      | .data [] => (.error (.error closed), buf, source)
      | .data (b :: bytes) => fill count failed closed (buf ++ b :: bytes) source
    else (.ok (), buf, arrival :: source)

def readExact (count : ℕ) (failed : String → ε) (closed : ε) : Source → Except (Stop ε) (List UInt8) × Source
  | [] => (if count = 0 then .ok [] else .error .pending, [])
  | arrival :: source =>
    if count = 0 then (.ok [], arrival :: source)
    else
      match arrival with
      | .failed message => (.error (.error (failed message)), source)
      | .data [] => (.error (.error closed), source)
      | .data (b :: bytes) =>
        if (b :: bytes).length ≤ count then
          let (more, left) := readExact (count - (b :: bytes).length) failed closed source
          (more.map fun more => b :: bytes ++ more, left)
        else (.ok ((b :: bytes).take count), .data ((b :: bytes).drop count) :: source)

end

inductive Delivers : Source → List UInt8 → Prop where
  | nil : Delivers [] []
  | cons {piece rest : List UInt8} {source : Source} (hpiece : piece ≠ []) (hrest : Delivers source rest) :
    Delivers (.data piece :: source) (piece ++ rest)

lemma delivers_pieces {pieces : List (List UInt8)} (h : ∀ piece ∈ pieces, piece ≠ []) :
    Delivers (pieces.map .data) pieces.flatten := by
  induction pieces with
  | nil => exact .nil
  | cons piece pieces ih =>
    obtain ⟨hpiece, hpieces⟩ := List.forall_mem_cons.mp h
    exact .cons hpiece (ih hpieces)

variable {source : Source}

lemma Delivers.eq_nil (h : Delivers source []) : source = [] := by
  generalize hbytes : ([] : List UInt8) = bytes at h
  cases h with
  | nil => rfl
  | cons hpiece _ => exact absurd (List.append_eq_nil_iff.mp hbytes.symm).1 hpiece

section

variable {ε : Type} {failed : String → ε} {closed : ε} {count : ℕ}

variable {buf : List UInt8}

lemma fill_size {buf' : List UInt8} {source' : Source}
    (h : fill count failed closed buf source = (.ok (), buf', source')) :
    buf'.length + size source' = buf.length + size source ∧ count ≤ buf'.length := by
  induction source generalizing buf with
  | nil =>
    by_cases hlen : buf.length < count
    · simp [fill, hlen] at h
    · obtain ⟨rfl, rfl⟩ : buf = buf' ∧ [] = source' := by simpa [fill, hlen] using h
      exact ⟨rfl, Nat.le_of_not_lt hlen⟩
  | cons arrival source ih =>
    by_cases hlen : buf.length < count
    · rw [fill.eq_def] at h
      simp only [if_pos hlen] at h
      match arrival with
      | .failed _ | .data [] => simp at h
      | .data (b :: bytes) =>
        obtain ⟨hsize, hcount⟩ := ih h
        refine ⟨?_, hcount⟩
        simp only [size, map_cons, sum_cons, length_append] at hsize ⊢
        omega
    · obtain ⟨rfl, rfl⟩ : buf = buf' ∧ arrival :: source = source' := by simpa [fill, hlen] using h
      exact ⟨rfl, Nat.le_of_not_lt hlen⟩

variable {bytes : List UInt8}

lemma readExact_size {source' : Source} (h : readExact count failed closed source = (.ok bytes, source')) :
    count + size source' = size source := by
  induction source generalizing count bytes with
  | nil =>
    by_cases hcount : count = 0
    · obtain ⟨-, rfl⟩ : [] = bytes ∧ [] = source' := by simpa [readExact, hcount] using h
      rw [hcount, Nat.zero_add]
    · simp [readExact, hcount] at h
  | cons arrival source ih =>
    by_cases hcount : count = 0
    · obtain ⟨-, rfl⟩ : [] = bytes ∧ arrival :: source = source' := by simpa [readExact, hcount] using h
      rw [hcount, Nat.zero_add]
    · rw [readExact.eq_def] at h
      simp only [if_neg hcount] at h
      match arrival with
      | .failed _ | .data [] => simp at h
      | .data (b :: piece) =>
        by_cases hlen : (b :: piece).length ≤ count
        · simp only [if_pos hlen] at h
          cases hmore : readExact (count - (b :: piece).length) failed closed source with
          | mk more left =>
            rw [hmore] at h
            cases more with
            | error e => simp [Except.map] at h
            | ok more =>
              obtain ⟨-, rfl⟩ : b :: piece ++ more = bytes ∧ left = source' := by simpa [Except.map] using h
              have := ih hmore
              simp only [size, map_cons, sum_cons] at this ⊢
              omega
        · simp only [if_neg hlen, Prod.mk.injEq] at h
          obtain ⟨-, rfl⟩ := h
          simp only [size, map_cons, sum_cons, length_drop]
          omega

variable (h : Delivers source bytes)

include h

lemma Delivers.fill (hcount : count ≤ (buf ++ bytes).length) (failed : String → ε) (closed : ε) :
    ∃ buf' source' bytes', fill count failed closed buf source = (.ok (), buf', source') ∧ count ≤ buf'.length ∧
      Delivers source' bytes' ∧ buf' ++ bytes' = buf ++ bytes := by
  induction h generalizing buf with
  | nil =>
    rw [append_nil] at hcount
    exact ⟨buf, [], [], by simp [Source.fill, Nat.not_lt.mpr hcount], hcount, .nil, rfl⟩
  | @cons piece rest source hpiece hrest ih =>
    by_cases hlen : buf.length < count
    · obtain ⟨b, bytes, rfl⟩ := exists_cons_of_ne_nil hpiece
      rw [← append_assoc] at hcount ⊢
      rw [Source.fill, if_pos hlen]
      exact ih hcount
    · exact ⟨buf, _, _, by simp [Source.fill, hlen], Nat.le_of_not_lt hlen, .cons hpiece hrest, rfl⟩

lemma Delivers.fill_front {front rest : List UInt8}
    (hbytes : buf ++ bytes = front ++ rest) (failed : String → ε) (closed : ε) :
    ∃ tail source' bytes', Source.fill front.length failed closed buf source = (.ok (), front ++ tail, source') ∧
      Delivers source' bytes' ∧ tail ++ bytes' = rest := by
  have hcount : front.length ≤ (buf ++ bytes).length := by
    rw [hbytes, length_append]
    exact Nat.le_add_right _ _
  obtain ⟨buf', source', bytes', hfill, hlen, hdelivers, heq⟩ := h.fill hcount failed closed
  rw [hbytes] at heq
  obtain ⟨tail, rfl⟩ : front <+: buf' := prefix_of_prefix_length_le
    (prefix_append front rest) (heq ▸ prefix_append buf' bytes') hlen
  rw [append_assoc, append_cancel_left_eq] at heq
  exact ⟨tail, source', bytes', hfill, hdelivers, heq⟩

lemma Delivers.readExact {first rest : List UInt8} (hbytes : bytes = first ++ rest)
    (failed : String → ε) (closed : ε) :
    ∃ source', readExact first.length failed closed source = (.ok first, source') ∧ Delivers source' rest := by
  induction h generalizing first with
  | nil =>
    obtain ⟨rfl, rfl⟩ := List.append_eq_nil_iff.mp hbytes.symm
    exact ⟨[], rfl, .nil⟩
  | @cons piece after source hpiece hafter ih =>
    obtain ⟨b, piece, rfl⟩ := exists_cons_of_ne_nil hpiece
    by_cases hfirst : first = []
    · subst hfirst
      refine ⟨_, rfl, ?_⟩
      rw [← nil_append rest, ← hbytes]
      exact .cons hpiece hafter
    · have hpos : first.length ≠ 0 := by simpa using hfirst
      rw [Source.readExact, if_neg hpos]
      by_cases hlen : (b :: piece).length ≤ first.length
      · -- the piece is read whole
        obtain ⟨more, rfl⟩ : b :: piece <+: first := prefix_of_prefix_length_le
          (prefix_append _ after) (hbytes ▸ prefix_append first rest) hlen
        rw [append_assoc, append_cancel_left_eq] at hbytes
        obtain ⟨source', hread, hdelivers⟩ := ih hbytes
        refine ⟨source', ?_, hdelivers⟩
        have hmore : (b :: piece ++ more).length - (b :: piece).length = more.length := by
          rw [length_append, Nat.add_sub_cancel_left]
        simp only [if_pos hlen, hmore, hread]
        rfl
      · obtain ⟨left, hleft⟩ : first <+: b :: piece := prefix_of_prefix_length_le
          (hbytes ▸ prefix_append first rest) (prefix_append _ after) (Nat.le_of_not_le hlen)
        have hne : left ≠ [] := by
          rintro rfl
          rw [append_nil] at hleft
          exact hlen (by rw [hleft])
        rw [← hleft, append_assoc, append_cancel_left_eq] at hbytes
        refine ⟨.data left :: source, ?_, hbytes ▸ .cons hne hafter⟩
        rw [if_neg hlen, ← hleft, take_left, drop_left]

end

end Source

end Voyager.Lib
