import Mathlib.Tactic

/-! Decoders that read a buffer from its front. A decoder also reports what it did: how deep it went, which
capacities it reserved and how many bytes it took, each with the number of bytes that were left. -/

namespace Voyager.Lib

inductive Event where
  | enter (depth : ℕ)
  | reserve (capacity remaining : ℕ)
  | read (count remaining : ℕ)
deriving DecidableEq, Repr

/-- Besides its own errors a decoder can read past the end, ask for more memory than there can be, or run out of
fuel. -/
inductive Fault (ε : Type) where
  | error (e : ε)
  | overread
  | overflow
  | outOfFuel

def Decoder (ε α : Type) : Type := List UInt8 → Except (Fault ε) (α × List UInt8) × List Event

namespace Decoder

variable {ε α β : Type}

def andThen (d : Decoder ε α) (f : α → Decoder ε β) : Decoder ε β := fun bytes =>
  match d bytes with
  | (.ok (a, rest), events) => ((f a rest).1, events ++ (f a rest).2)
  | (.error e, events) => (.error e, events)

instance : Monad (Decoder ε) where
  pure a := fun bytes => (.ok (a, bytes), [])
  bind := andThen

def fail (e : ε) : Decoder ε α := fun _ => (.error (.error e), [])

def exhausted : Decoder ε α := fun _ => (.error .outOfFuel, [])

def enter (depth : ℕ) : Decoder ε Unit := fun bytes => (.ok ((), bytes), [.enter depth])

def reserve (capacity : ℕ) : Decoder ε Unit := fun bytes => (.ok ((), bytes), [.reserve capacity bytes.length])

def allocate (size count : ℕ) : Decoder ε Unit := fun bytes =>
  (if size * count < 2 ^ 63 then .ok ((), bytes) else .error .overflow, [.reserve count bytes.length])

def remaining : Decoder ε (List UInt8) := fun bytes => (.ok (bytes, bytes), [])

def need (count : ℕ) (e : ℕ → ε) : Decoder ε Unit := fun bytes =>
  if bytes.length < count then (.error (.error (e bytes.length)), []) else (.ok ((), bytes), [])

def splitTo (count : ℕ) : Decoder ε (List UInt8) := fun bytes =>
  (if count ≤ bytes.length then .ok (bytes.take count, bytes.drop count) else .error .overread,
    [.read count bytes.length])

def getU8 : Decoder ε UInt8 := fun bytes =>
  (match bytes with
    | [] => .error .overread
    | b :: rest => .ok (b, rest),
    [.read 1 bytes.length])

def times : ℕ → Decoder ε α → Decoder ε (List α)
  | 0, _ => pure []
  | n + 1, d => do
    let a ← d
    let as ← times n d
    return a :: as

def Reads (d : Decoder ε α) (bytes : List UInt8) (a : α) : Prop :=
  ∀ rest, (d (bytes ++ rest)).1 = .ok (a, rest)

variable {bytes : List UInt8}

lemma bind_fst_of_ok {d : Decoder ε α} {f : α → Decoder ε β} {rest : List UInt8} {a : α}
    (h : (d bytes).1 = .ok (a, rest)) : ((d >>= f) bytes).1 = (f a rest).1 := by
  show (andThen d f bytes).1 = _
  unfold andThen
  cases hd : d bytes with
  | mk result events =>
    rw [hd] at h
    obtain rfl : result = .ok (a, rest) := h
    rfl

lemma bind_fst_of_error {d : Decoder ε α} {f : α → Decoder ε β} {e : Fault ε}
    (h : (d bytes).1 = .error e) : ((d >>= f) bytes).1 = .error e := by
  show (andThen d f bytes).1 = _
  unfold andThen
  cases hd : d bytes with
  | mk result events =>
    rw [hd] at h
    obtain rfl : result = .error e := h
    rfl

section

variable {d : Decoder ε α} {f : α → Decoder ε β}

lemma reads_pure (a : α) : Reads (pure a : Decoder ε α) [] a := fun _ => rfl

lemma Reads.bind {first second : List UInt8} {a : α} {b : β} (hd : Reads d first a) (hf : Reads (f a) second b) :
    Reads (d >>= f) (first ++ second) b := by
  intro rest
  rw [List.append_assoc, bind_fst_of_ok (hd _), hf]

lemma Reads.map {a : α} (hd : Reads d bytes a) (g : α → β) : Reads (d >>= fun a => pure (g a)) bytes (g a) := by
  have := hd.bind (f := fun a => pure (g a)) (reads_pure (g a))
  rwa [List.append_nil] at this

lemma Reads.enter {a : α} (h : Reads d bytes a) (depth : ℕ) :
    Reads (Decoder.enter depth >>= fun _ => d) bytes a := fun rest => h rest

lemma Reads.reserve {a : α} (h : Reads d bytes a) (capacity : ℕ) :
    Reads (Decoder.reserve capacity >>= fun _ => d) bytes a := fun rest => h rest

lemma Reads.need {a : α} (h : Reads d bytes a) {count : ℕ} (e : ℕ → ε)
    (hcount : count ≤ bytes.length) : Reads (Decoder.need count e >>= fun _ => d) bytes a := by
  intro rest
  have hlen : ¬ (bytes ++ rest).length < count := by
    rw [List.length_append]
    omega
  have hneed : (Decoder.need count e (bytes ++ rest)).1 = .ok ((), bytes ++ rest) := by
    simp only [Decoder.need, if_neg hlen]
  rw [bind_fst_of_ok hneed]
  exact h rest

lemma reads_getU8 (b : UInt8) : Reads (getU8 : Decoder ε UInt8) [b] b := fun _ => rfl

lemma reads_splitTo (bytes : List UInt8) : Reads (splitTo bytes.length : Decoder ε _) bytes bytes := by
  intro rest
  simp [splitTo]

lemma reads_times {pieces : List (List UInt8)} {as : List α} (h : List.Forall₂ (Reads d) pieces as) :
    Reads (times as.length d) pieces.flatten as := by
  induction h with
  | nil => exact reads_pure []
  | cons hfirst _ ih => exact hfirst.bind (ih.map _)

end

end Decoder

end Voyager.Lib
