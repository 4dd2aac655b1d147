import Mathlib.Tactic

/-! Asynchronous calls on a state that they change as they go. A call that does not return leaves the state as it was
when it stopped. -/

namespace Voyager.Lib

/-- Why a call has no result: it failed, it waits for something that does not come, or it panicked. -/
inductive Stop (ε : Type) where
  | error (e : ε)
  | pending
  | panicked
deriving DecidableEq, Repr

def Call (σ ε α : Type) : Type := σ → Except (Stop ε) α × σ

namespace Call

variable {σ τ ε α β : Type} (x : Call σ ε α) (f : α → Call σ ε β)

def andThen : Call σ ε β := fun s =>
  match x s with
  | (.ok a, s) => f a s
  | (.error e, s) => (.error e, s)

instance : Monad (Call σ ε) where
  pure a := fun s => (.ok a, s)
  bind := andThen

def fail (e : ε) : Call σ ε α := fun s => (.error (.error e), s)

def get : Call σ ε σ := fun s => (.ok s, s)

def modify (f : σ → σ) : Call σ ε Unit := fun s => (.ok (), f s)

def on (part : σ → τ) (update : σ → τ → σ) (x : Call τ ε α) : Call σ ε α := fun s =>
  let (result, t) := x (part s)
  (result, update s t)

def attempt : Call σ ε (Except ε α) := fun s =>
  match x s with
  | (.ok a, s) => (.ok (.ok a), s)
  | (.error (.error e), s) => (.ok (.error e), s)
  | (.error .pending, s) => (.error .pending, s)
  | (.error .panicked, s) => (.error .panicked, s)

def timeout {δ : Type} (limit : Option δ) (expired : σ → σ) (e : δ → ε) (x : Call σ ε α) : Call σ ε α := fun s =>
  match limit, x s with
  | some duration, (.error .pending, s) => (.error (.error (e duration)), expired s)
  | _, result => result

def returned (s : σ) : Option σ :=
  match x s with
  | (.ok _, s) => some s
  | (.error (.error _), s) => some s
  | (.error .pending, _) => none
  | (.error .panicked, _) => none

lemma bind_apply (s : σ) : (x >>= f) s =
      match x s with
      | (.ok a, s) => f a s
      | (.error e, s) => (.error e, s) := rfl

variable {x : Call σ ε α} {f : α → Call σ ε β} {s s' t : σ}

lemma bind_of_ok {a : α} (h : x s = (.ok a, t)) : (x >>= f) s = f a t := by
  rw [bind_apply, h]

lemma bind_of_error {e : Stop ε} (h : x s = (.error e, t)) : (x >>= f) s = (.error e, t) := by
  rw [bind_apply, h]

lemma get_bind (f : σ → Call σ ε α) (s : σ) : (get >>= f) s = f s s := rfl

lemma bind_assoc {γ : Type} (g : β → Call σ ε γ) : (x >>= f) >>= g = x >>= fun a => f a >>= g := by
  funext s
  cases hx : x s with
  | mk result t =>
    cases result with
    | error e => rw [bind_of_error hx, bind_of_error (bind_of_error hx)]
    | ok a =>
      rw [bind_of_ok hx, bind_apply, bind_of_ok hx]
      rfl

lemma bind_eq_ok {b : β} (h : (x >>= f) s = (.ok b, s')) : ∃ a t, x s = (.ok a, t) ∧ f a t = (.ok b, s') := by
  cases hx : x s with
  | mk result t =>
    cases result with
    | error e =>
      rw [bind_of_error hx] at h
      cases h
    | ok a =>
      rw [bind_of_ok hx] at h
      exact ⟨a, t, rfl, h⟩

lemma snd_of_returned (h : x.returned s = some s') : (x s).2 = s' := by
  unfold returned at h
  split at h
  all_goals simp_all

lemma returned_of_bind (hf : ∀ a s, (f a s).2 = s) (h : (x >>= f).returned s = some s') : x.returned s = some s' := by
  cases hx : x s with
  | mk result t =>
    cases result with
    | error e =>
      rw [returned, bind_of_error hx] at h
      rw [returned, hx]
      cases e <;> exact h
    | ok a =>
      have hstate : (f a t).2 = s' := snd_of_returned (by rwa [returned, bind_of_ok hx] at h)
      rw [returned, hx, ← hstate, hf]

lemma returned_of_attempt_bind {f : Except ε α → Call σ ε β}
    (h : (x.attempt >>= f).returned s = some s') : ∃ t result, x.returned s = some t ∧ (f result t).2 = s' := by
  rw [← snd_of_returned h]
  cases hx : x s with
  | mk result t =>
    match result with
    | .ok a => exact ⟨t, .ok a, by rw [returned, hx], by rw [bind_of_ok (a := .ok a) (by rw [attempt, hx])]⟩
    | .error (.error e) =>
      exact ⟨t, .error e, by rw [returned, hx], by rw [bind_of_ok (a := .error e) (by rw [attempt, hx])]⟩
    | .error .pending =>
      rw [returned, bind_of_error (e := .pending) (t := t) (by rw [attempt, hx])] at h
      cases h
    | .error .panicked =>
      rw [returned, bind_of_error (e := .panicked) (t := t) (by rw [attempt, hx])] at h
      cases h

lemma snd_bind_of_snd (hf : ∀ a s, (f a s).2 = s) (s : σ) : ((x >>= f) s).2 = (x s).2 := by
  cases hx : x s with
  | mk result t =>
    cases result with
    | error e => rw [bind_of_error hx]
    | ok a => rw [bind_of_ok hx, hf]

@[simp] lemma snd_attempt (s : σ) : (x.attempt s).2 = (x s).2 := by
  unfold attempt
  split
  all_goals simp_all

lemma snd_timeout {δ : Type} (limit : Option δ) (expired : σ → σ) (e : δ → ε) (x : Call σ ε α) (s : σ) :
    (timeout limit expired e x s).2 = (x s).2 ∨ (timeout limit expired e x s).2 = expired (x s).2 := by
  unfold timeout
  split
  · rename_i hx
    rw [hx]
    exact .inr rfl
  · exact .inl rfl

lemma returned_timeout {δ : Type} {limit : Option δ} {expired : σ → σ} {e : δ → ε}
    (h : (timeout limit expired e x).returned s = some s') :
    x.returned s = some s' ∨ ∃ t, x s = (.error .pending, t) ∧ expired t = s' := by
  unfold returned timeout at h
  split at h
  all_goals
    rename_i heq
    split at heq
  · cases heq
  · cases h
    exact .inl (by rw [returned, heq])
  · rename_i t hx
    cases heq
    cases h
    exact .inr ⟨t, hx, rfl⟩
  · cases h
    exact .inl (by rw [returned, heq])
  all_goals cases h

def Keeps (P : σ → Prop) (x : Call σ ε α) : Prop := ∀ s, P s → P (x s).2

section

variable {P : σ → Prop}

lemma keeps_fail (e : ε) : Keeps P (fail e : Call σ ε α) := fun _ hs => hs

lemma Keeps.bind (hx : Keeps P x) (hf : ∀ a, Keeps P (f a)) : Keeps P (x >>= f) := by
  intro s hs
  have ht := hx s hs
  cases hrun : x s with
  | mk result t =>
    rw [hrun] at ht
    cases result with
    | error e => rwa [bind_of_error hrun]
    | ok a =>
      rw [bind_of_ok hrun]
      exact hf a t ht

lemma Keeps.attempt (hx : Keeps P x) : Keeps P x.attempt := by
  intro s hs
  rw [snd_attempt]
  exact hx s hs

lemma Keeps.of_returned (hx : Keeps P x) (hs : P s) (h : x.returned s = some s') : P s' := by
  rw [← snd_of_returned h]
  exact hx s hs

end

end Call

section

variable {σ κ : Type} (call : σ → κ → Option σ)

def after : σ → List κ → List σ
  | _, [] => []
  | s, k :: ks =>
    match call s k with
    | some s => s :: after s ks
    | none => []

/-- Each of some calls, as far as they return, meets a condition on itself and the state that it starts from. -/
def Meets (cond : σ → κ → Prop) : σ → List κ → Prop
  | _, [] => True
  | s, k :: ks => ∀ s', call s k = some s' → cond s k ∧ Meets cond s' ks

variable {call}

theorem meets_iff_forall_after {cond : σ → κ → Prop} {inv : σ → Prop}
    (hstep : ∀ s k s', inv s → call s k = some s' → (inv s' ↔ cond s k)) {s : σ} (hs : inv s) (ks : List κ) :
    Meets call cond s ks ↔ ∀ t ∈ after call s ks, inv t := by
  induction ks generalizing s with
  | nil => simp [Meets, after]
  | cons k ks ih =>
    cases hcall : call s k with
    | none => simp [Meets, after, hcall]
    | some s' =>
      simp only [Meets, after, hcall, Option.some.injEq, forall_eq', List.forall_mem_cons]
      rw [← hstep s k s' hs hcall]
      exact and_congr_right fun hs' => ih hs'

theorem after_of_meets {cond cond' : σ → κ → Prop} {inv : σ → Prop}
    (hstep : ∀ s k s', inv s → cond s k → call s k = some s' → inv s' ∧ cond' s k) {s : σ} (hs : inv s) {ks : List κ}
    (h : Meets call cond s ks) : (∀ t ∈ after call s ks, inv t) ∧ Meets call cond' s ks := by
  induction ks generalizing s with
  | nil => exact ⟨nofun, trivial⟩
  | cons k ks ih =>
    rw [after, Meets]
    cases hcall : call s k with
    | none => exact ⟨nofun, nofun⟩
    | some s' =>
      obtain ⟨hk, hks⟩ := h s' hcall
      obtain ⟨hs', hk'⟩ := hstep s k s' hs hk hcall
      obtain ⟨hafter, hmeets⟩ := ih hs' hks
      refine ⟨List.forall_mem_cons.mpr ⟨hs', hafter⟩, ?_⟩
      rintro _ ⟨⟩
      exact ⟨hk', hmeets⟩

lemma meets_of_forall {cond : σ → κ → Prop} (h : ∀ s k, cond s k) (s : σ) (ks : List κ) : Meets call cond s ks := by
  induction ks generalizing s with
  | nil => trivial
  | cons k ks ih => exact fun s' _ => ⟨h s k, ih s'⟩

end

end Voyager.Lib
