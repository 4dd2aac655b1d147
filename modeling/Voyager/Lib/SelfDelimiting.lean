import Voyager.Lib.Decoder

/-! Decoders that stop by themselves: what they read does not depend on what follows, and less is not enough.
Contained decoders stay within the buffer and within a depth. -/

namespace Voyager.Lib.Decoder

open List

variable {ε α β : Type}

def Delimited (length : α → ℕ → Prop) (d : Decoder ε α) : Prop :=
  ∀ bytes a rest, (d bytes).1 = .ok (a, rest) → ∃ read, bytes = read ++ rest ∧ length a read.length ∧
    (∀ other, (d (read ++ other)).1 = .ok (a, other)) ∧
      ∀ short, short <+: read → short ≠ read → ∃ e, (d short).1 = .error e

lemma bind_eq_ok {d : Decoder ε α} {f : α → Decoder ε β} {bytes rest : List UInt8} {b : β}
    (h : ((d >>= f) bytes).1 = .ok (b, rest)) :
    ∃ a mid, (d bytes).1 = .ok (a, mid) ∧ (f a mid).1 = .ok (b, rest) := by
  cases hd : (d bytes).1 with
  | error e =>
    rw [bind_fst_of_error hd] at h
    cases h
  | ok p =>
    rw [bind_fst_of_ok hd] at h
    exact ⟨p.1, p.2, rfl, h⟩

section

variable {d : Decoder ε α} {f : α → Decoder ε β} {P : α → ℕ → Prop} {Q : β → ℕ → Prop}

lemma Delimited.mono {P' : α → ℕ → Prop} (h : Delimited P d) (himp : ∀ a n, P a n → P' a n) : Delimited P' d := by
  intro bytes a rest hrun
  obtain ⟨read, hbytes, hlength, hsame, hshort⟩ := h bytes a rest hrun
  exact ⟨read, hbytes, himp _ _ hlength, hsame, hshort⟩

lemma delimited_pure (a : α) (h : P a 0) : Delimited P (pure a : Decoder ε α) := by
  rintro bytes _ rest ⟨⟩
  refine ⟨[], rfl, h, fun _ => rfl, ?_⟩
  intro short hshort hne
  exact absurd (prefix_nil.mp hshort) hne

lemma delimited_fail (e : ε) : Delimited P (fail e : Decoder ε α) := by
  rintro bytes a rest ⟨⟩

lemma delimited_exhausted : Delimited P (exhausted : Decoder ε α) := by
  rintro bytes a rest ⟨⟩

lemma Delimited.bind (hd : Delimited P d) (hf : ∀ a n, P a n → Delimited (fun b m => Q b (n + m)) (f a)) :
    Delimited Q (d >>= f) := by
  intro bytes b rest hrun
  obtain ⟨a, mid, hfirst, hsecond⟩ := bind_eq_ok hrun
  obtain ⟨read, rfl, hlength, hsame, hshort⟩ := hd bytes a mid hfirst
  obtain ⟨read', rfl, hlength', hsame', hshort'⟩ := hf a _ hlength mid b rest hsecond
  refine ⟨read ++ read', by rw [append_assoc], by rwa [length_append], ?_, ?_⟩
  · intro other
    rw [append_assoc, bind_fst_of_ok (hsame _), hsame']
  · intro short hbegins hne
    obtain hbefore | ⟨more, rfl⟩ := prefix_or_prefix_of_prefix hbegins (prefix_append read read')
    · by_cases heq : short = read
      · subst heq
        have hempty : read' ≠ [] := by
          rintro rfl
          exact hne (by simp)
        obtain ⟨e, he⟩ := hshort' [] nil_prefix (Ne.symm hempty)
        refine ⟨e, ?_⟩
        have := hsame []
        rw [append_nil] at this
        rw [bind_fst_of_ok this, he]
      · obtain ⟨e, he⟩ := hshort short hbefore heq
        exact ⟨e, bind_fst_of_error he⟩
    · rw [prefix_append_right_inj] at hbegins
      obtain ⟨e, he⟩ := hshort' more hbegins fun heq => hne (by rw [heq])
      exact ⟨e, by rw [bind_fst_of_ok (hsame more), he]⟩

lemma Delimited.enter (h : Delimited P d) (depth : ℕ) : Delimited P (Decoder.enter depth >>= fun _ => d) := by
  intro bytes a rest hrun
  exact h bytes a rest hrun

lemma Delimited.reserve (h : Delimited P d) (capacity : ℕ) :
    Delimited P (Decoder.reserve capacity >>= fun _ => d) := by
  intro bytes a rest hrun
  exact h bytes a rest hrun

lemma need_bind (count : ℕ) (e : ℕ → ε) (d : Decoder ε α) (bytes : List UInt8) :
    (Decoder.need count e >>= fun _ => d) bytes =
      if bytes.length < count then (.error (.error (e bytes.length)), []) else d bytes := by
  show andThen (Decoder.need count e) (fun _ => d) bytes = _
  unfold andThen Decoder.need
  by_cases h : bytes.length < count
  · simp [h]
  · simp [h]

lemma Delimited.need {count : ℕ} (h : Delimited (fun a n => P a n ∧ count ≤ n) d) (e : ℕ → ε) :
    Delimited P (Decoder.need count e >>= fun _ => d) := by
  intro bytes a rest hrun
  rw [need_bind] at hrun
  split_ifs at hrun with hlen
  obtain ⟨read, rfl, ⟨hlength, henough⟩, hsame, hshort⟩ := h bytes a rest hrun
  refine ⟨read, rfl, hlength, fun other => ?_, fun short hbegins hne => ?_⟩
  · rw [need_bind, if_neg (by rw [length_append]; omega), hsame]
  · rw [need_bind]
    split_ifs
    · exact ⟨_, rfl⟩
    · exact hshort short hbegins hne

lemma delimited_getU8 : Delimited (fun _ n => n = 1) (getU8 : Decoder ε UInt8) := by
  intro bytes b rest hrun
  cases bytes with
  | nil => cases hrun
  | cons c cs =>
    cases hrun
    refine ⟨[b], rfl, rfl, fun _ => rfl, fun short hbegins hne => ?_⟩
    cases short with
    | nil => exact ⟨_, rfl⟩
    | cons c cs =>
      obtain ⟨rfl, hnil⟩ := cons_prefix_cons.mp hbegins
      exact absurd (by rw [prefix_nil.mp hnil]) hne

lemma delimited_splitTo (count : ℕ) :
    Delimited (fun read n => n = count ∧ read.length = count) (splitTo count : Decoder ε _) := by
  intro bytes read rest hrun
  simp only [splitTo] at hrun
  split_ifs at hrun with hlen
  obtain ⟨rfl, rfl⟩ : bytes.take count = read ∧ bytes.drop count = rest := by simpa using hrun
  have hlength : (bytes.take count).length = count := by simp [hlen]
  refine ⟨bytes.take count, by rw [take_append_drop], ⟨hlength, hlength⟩, fun other => ?_, ?_⟩
  · have := reads_splitTo (ε := ε) (bytes.take count) other
    rwa [hlength] at this
  · intro short hbegins hne
    have hshort : short.length < count := by
      have hle := hbegins.length_le
      have : short.length ≠ (bytes.take count).length := fun h => hne (hbegins.eq_of_length h)
      omega
    exact ⟨.overread, by simp [splitTo, hshort]⟩

lemma delimited_times {weight : α → ℕ} (h : Delimited (fun a n => weight a ≤ n) d) (count : ℕ) :
    Delimited (fun as n => as.length = count ∧ (as.map weight).sum ≤ n) (times count d) := by
  induction count with
  | zero => exact delimited_pure [] ⟨rfl, le_rfl⟩
  | succ count ih =>
    refine h.bind fun a n hn => ih.bind fun as m hm => delimited_pure _ ?_
    refine ⟨by simp [hm.1], ?_⟩
    rw [map_cons, sum_cons]
    omega

end

/-- The depth stays below a bound, no capacity exceeds the bytes left and no read goes past the end. -/
def Event.Within (limit : ℕ) : Event → Prop
  | .enter depth => depth ≤ limit
  | .reserve capacity remaining => capacity ≤ remaining
  | .read count remaining => count ≤ remaining

/-- What the events of a run have to satisfy; a read has to stay within the bytes left. -/
structure EventBound where
  holds : Event → Prop
  read : ∀ {count remaining : ℕ}, count ≤ remaining → holds (.read count remaining)

def depthBound (limit : ℕ) : EventBound := ⟨Event.Within limit, id⟩

def Safe (bound : EventBound) (run : Except (Fault ε) (α × List UInt8) × List Event) : Prop :=
  (∀ event ∈ run.2, bound.holds event) ∧ ∀ fault, run.1 = .error fault → ∃ e, fault = .error e

def Contained (bound : EventBound) (left : ℕ) (d : Decoder ε α) : Prop :=
  ∀ bytes : List UInt8, left ≤ bytes.length → Safe bound (d bytes)

section

variable {d : Decoder ε α} {f : α → Decoder ε β} {bound : EventBound} {left : ℕ}

lemma Contained.run (h : Contained bound 0 d) (bytes : List UInt8) : Safe bound (d bytes) := h bytes (Nat.zero_le _)

lemma contained_pure (a : α) : Contained bound left (pure a : Decoder ε α) :=
  fun _ _ => ⟨forall_mem_nil _, nofun⟩

lemma safe_error (e : ε) : Safe bound ((.error (.error e), []) : Except (Fault ε) (α × List UInt8) × List Event) := by
  refine ⟨forall_mem_nil _, ?_⟩
  rintro _ ⟨⟩
  exact ⟨e, rfl⟩

lemma contained_fail (e : ε) : Contained bound left (fail e : Decoder ε α) :=
  fun _ _ => safe_error e

lemma contained_enter {depth : ℕ} (h : bound.holds (.enter depth)) : Contained bound left (enter depth : Decoder ε Unit) :=
  fun _ _ => ⟨forall_mem_singleton.mpr h, nofun⟩

lemma contained_reserve {capacity : ℕ} (h : ∀ remaining, left ≤ remaining → bound.holds (.reserve capacity remaining)) :
    Contained bound left (reserve capacity : Decoder ε Unit) :=
  fun _ hleft => ⟨forall_mem_singleton.mpr (h _ hleft), nofun⟩

lemma contained_splitTo (count : ℕ) : Contained bound count (splitTo count : Decoder ε _) := by
  intro bytes hleft
  refine ⟨forall_mem_singleton.mpr (bound.read hleft), ?_⟩
  simp [splitTo, if_pos hleft]

lemma contained_getU8 : Contained bound 1 (getU8 : Decoder ε UInt8) := by
  intro bytes hleft
  cases bytes with
  | nil => simp at hleft
  | cons b rest => exact ⟨forall_mem_singleton.mpr (bound.read hleft), nofun⟩

lemma safe_bind_iff {bytes : List UInt8} : Safe bound ((d >>= f) bytes) ↔
    Safe bound (d bytes) ∧ ∀ a rest, (d bytes).1 = .ok (a, rest) → Safe bound (f a rest) := by
  change Safe bound (andThen d f bytes) ↔ _
  unfold andThen
  cases hrun : d bytes with
  | mk result events =>
    cases result with
    | error fault => exact ⟨fun h => ⟨⟨h.1, fun _ hfault => by cases hfault; exact h.2 fault rfl⟩, nofun⟩,
        fun h => ⟨h.1.1, fun _ hfault => by cases hfault; exact h.1.2 fault rfl⟩⟩
    | ok p =>
      simp only [Safe, forall_mem_append, reduceCtorEq, false_implies, implies_true, and_true, Except.ok.injEq]
      constructor
      · rintro ⟨⟨hfirst, hsecond⟩, herror⟩
        refine ⟨hfirst, ?_⟩
        rintro _ _ rfl
        exact ⟨hsecond, herror⟩
      · rintro ⟨hfirst, hrest⟩
        exact ⟨⟨hfirst, (hrest p.1 p.2 rfl).1⟩, (hrest p.1 p.2 rfl).2⟩

lemma Safe.bind {bytes : List UInt8} (hd : Safe bound (d bytes))
    (hf : ∀ a rest, (d bytes).1 = .ok (a, rest) → Safe bound (f a rest)) : Safe bound ((d >>= f) bytes) :=
  safe_bind_iff.mpr ⟨hd, hf⟩

lemma Contained.bind (hd : Contained bound left d) (hf : ∀ a, Contained bound 0 (f a)) :
    Contained bound left (d >>= f) :=
  fun bytes hleft => (hd bytes hleft).bind fun a rest _ => (hf a).run rest

lemma Contained.need {count : ℕ} (h : Contained bound count d) (e : ℕ → ε) :
    Contained bound left (Decoder.need count e >>= fun _ => d) := by
  intro bytes _
  rw [need_bind]
  split_ifs with hlen
  · exact safe_error _
  · exact h bytes (Nat.le_of_not_lt hlen)

lemma Contained.times (h : Contained bound 0 d) (count : ℕ) : Contained bound 0 (times count d) := by
  induction count with
  | zero => exact contained_pure []
  | succ count ih => exact h.bind fun a => ih.bind fun as => contained_pure _

end

end Voyager.Lib.Decoder
