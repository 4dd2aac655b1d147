import Voyager.Session.Execute

/-! How often one call of a session takes effect on the database. -/

namespace Voyager

variable {α β : Type} (m : CallM α)

def CallM.after (s : CallState) : Except Exc α × CallState := StateT.run (ExceptT.run m) s

variable (s : CallState) (e : Exc)

namespace CallM

@[simp] lemma after_pure (a : α) (s : CallState) : after (pure a) s = (.ok a, s) := rfl

@[simp] lemma after_throw (s : CallState) : after (throw e : CallM α) s = (.error e, s) := rfl

lemma after_bind (f : α → CallM β) (s : CallState) : after (m >>= f) s =
      match after m s with
      | (.ok a, s') => after (f a) s'
      | (.error e, s') => (.error e, s') := by
  rcases h : after m s with ⟨e | a, s'⟩ <;>
  · rw [after] at h
    simp only [after, ExceptT.run_bind, StateT.run_bind, h]
    rfl

lemma after_tryCatch (handler : Exc → CallM α) (s : CallState) : after (tryCatch m handler) s =
      match after m s with
      | (.ok a, s') => (.ok a, s')
      | (.error e, s') => after (handler e) s' := by
  rcases h : after m s with ⟨e | a, s'⟩ <;>
  · change StateT.run m s = _ at h
    simp only [after, tryCatch, tryCatchThe, MonadExceptOf.tryCatch, ExceptT.tryCatch, ExceptT.run_mk,
      StateT.run_bind, h]
    rfl

@[simp] lemma after_get : after get s = (.ok s, s) := rfl

@[simp] lemma after_set (s' : CallState) : after (set s') s = (.ok ⟨⟩, s') := rfl

@[simp] lemma after_modify (f : CallState → CallState) (s : CallState) : after (modify f) s = (.ok ⟨⟩, f s) := rfl

@[simp] lemma after_liftM (r : Except Exc α) (s : CallState) : after (liftM r) s = (r, s) := by
  cases r <;> rfl

@[simp] lemma after_map (f : α → β) (m : CallM α) (s : CallState) :
    after (f <$> m) s = ((after m s).1.map f, (after m s).2) := by
  rw [map_eq_pure_bind, after_bind]
  rcases after m s with ⟨e | a, s'⟩ <;> rfl

def Quiet : Prop :=
  ∀ s, (CallM.after m s).2.effects = s.effects ∧ (CallM.after m s).2.natives = s.natives

lemma Quiet.pure (a : α) : Quiet (pure a : CallM α) := fun _ => ⟨rfl, rfl⟩

lemma Quiet.throw : Quiet (throw e : CallM α) := fun _ => ⟨rfl, rfl⟩

lemma Quiet.bind {m : CallM α} {f : α → CallM β} (hm : Quiet m) (hf : ∀ a, Quiet (f a)) : Quiet (m >>= f) := by
  intro s
  rw [after_bind]
  have hs := hm s
  rcases h : after m s with ⟨e | a, s'⟩
  · simpa [h] using hs
  · have hs' := hf a s'
    rw [h] at hs
    exact ⟨hs'.1.trans hs.1, hs'.2.trans hs.2⟩

lemma Quiet.ite {p : Prop} [Decidable p] {m m' : CallM α} (hm : Quiet m) (hm' : Quiet m') :
    Quiet (if p then m else m') := by
  split
  · exact hm
  · exact hm'

end CallM

namespace Surroundings

variable {R B F A : Type} (env : Surroundings R B F A)

open CallM

lemma now_quiet : Quiet env.now := fun _ => ⟨rfl, rfl⟩

lemma updateCircuit_quiet (f : CircuitInner → CircuitInner) : Quiet (updateCircuit f) := fun _ => ⟨rfl, rfl⟩

lemma get_quiet : Quiet (get : CallM CallState) := fun _ => ⟨rfl, rfl⟩

lemma circuitState_quiet : Quiet env.circuitState :=
  env.now_quiet.bind fun _ => (updateCircuit_quiet _).bind fun _ => get_quiet.bind fun _ => .pure _

lemma shouldRouteNative_quiet : Quiet env.shouldRouteNative :=
  env.now_quiet.bind fun _ => (updateCircuit_quiet _).bind fun _ => get_quiet.bind fun _ => .pure _

lemma recordNativeSuccess_quiet : Quiet env.recordNativeSuccess :=
  env.circuitState_quiet.bind fun _ => updateCircuit_quiet _

lemma recordNativeFailure_quiet : Quiet (env.recordNativeFailure e) :=
  env.circuitState_quiet.bind fun _ => env.now_quiet.bind fun _ => env.now_quiet.bind fun _ => updateCircuit_quiet _

lemma handleNative_quiet : Quiet (env.handleNative e) := by
  exact Quiet.ite (.throw _) (.ite (.throw _) (env.recordNativeFailure_quiet e))

lemma after_executeSync : after env.executeSync s = ((env.native s.natives).outcome,
      { s with natives := s.natives + 1, effects := s.effects + (env.native s.natives).effect.toNat }) := by
  simp only [executeSync, received, after_bind, after_get, after_set, after_modify, after_liftM]

variable (convert : R → Except Exc α)

lemma after_attemptNative (s : CallState) :
    (after (env.attemptNative convert) s).1 = (env.native s.natives).outcome.bind convert ∧
      (after (env.attemptNative convert) s).2.natives = s.natives + 1 ∧
      (after (env.attemptNative convert) s).2.effects =
        s.effects + (env.native s.natives).effect.toNat := by
  rw [attemptNative, after_bind, after_executeSync]
  cases (env.native s.natives).outcome with
  | error e => exact ⟨rfl, rfl, rfl⟩
  | ok result =>
    let mid : CallState :=
      { s with natives := s.natives + 1, effects := s.effects + (env.native s.natives).effect.toNat }
    have hok : (after env.recordNativeSuccess mid).1 = .ok () := rfl
    obtain ⟨heffects, hnatives⟩ := env.recordNativeSuccess_quiet mid
    simp only [after_bind]
    rw [show after env.recordNativeSuccess mid = (.ok (), (after env.recordNativeSuccess mid).2) from
      Prod.ext hok rfl]
    simp only [after_liftM]
    exact ⟨rfl, hnatives, heffects⟩

/-- A native request that took effect has brought a result that converts, or an error in the query. -/
def Settled (i : ℕ) : Prop :=
  (env.native i).effect = true →
    (∃ a, (env.native i).outcome.bind convert = .ok a) ∨
      ∃ e, (env.native i).outcome = .error e ∧ env.isQuerySemanticError e = true

lemma not_semantic_of_handled {e : Exc} {s : CallState}
    (h : (after (env.handleNative e) s).1 = .ok ()) : env.isQuerySemanticError e = false := by
  by_contra hsemantic
  rw [Bool.not_eq_false] at hsemantic
  simp [handleNative, hsemantic] at h

lemma handled_of_goes_on {e : Exc} {s : CallState}
    (h : (after (do env.handleNative e; return (none : Option α)) s).1 = .ok none) :
    (after (env.handleNative e) s).1 = .ok () := by
  rw [after_bind] at h
  rcases hr : after (env.handleNative e) s with ⟨e' | u, s'⟩
  · rw [hr] at h
    cases h
  · rfl

lemma after_tryNative (s : CallState) : s.natives ≤ (after (env.tryNative convert) s).2.natives ∧
      (after (env.tryNative convert) s).2.effects ≤ s.effects + 1 ∧ ((after (env.tryNative convert) s).1 = .ok none →
        (∀ i, s.natives ≤ i → i < (after (env.tryNative convert) s).2.natives → env.Settled convert i) →
        (after (env.tryNative convert) s).2.effects = s.effects) := by
  unfold tryNative
  split
  · obtain ⟨routed, hrouted⟩ : ∃ b, (after env.shouldRouteNative s).1 = .ok b := ⟨_, rfl⟩
    obtain ⟨heffects, hnatives⟩ := env.shouldRouteNative_quiet s
    rw [after_bind]
    generalize after env.shouldRouteNative s = r at hrouted heffects hnatives
    obtain ⟨result, mid⟩ := r
    simp only at hrouted heffects hnatives
    subst hrouted
    cases routed with
    | false => simp [heffects, hnatives]
    | true =>
      simp only [if_true, after_tryCatch, after_map]
      obtain ⟨hresult, hnative, heffect⟩ := env.after_attemptNative convert mid
      have hone : (env.native mid.natives).effect.toNat ≤ 1 := Bool.toNat_le _
      generalize after (env.attemptNative convert) mid = r at hresult hnative heffect
      obtain ⟨result, last⟩ := r
      simp only at hresult hnative heffect
      cases result with
      | ok a =>
        simp only [Except.map]
        exact ⟨by omega, by omega, fun h => by cases h⟩
      | error e =>
        simp only [Except.map]
        obtain ⟨hquiet, hquiet'⟩ := (env.handleNative_quiet e).bind (fun _ => Quiet.pure (none : Option α)) last
        refine ⟨by omega, by omega, fun hnone hsettled => ?_⟩
        have hhandled := env.not_semantic_of_handled (env.handled_of_goes_on hnone)
        have hquery := hsettled mid.natives (by omega) (by omega)
        cases heff : (env.native mid.natives).effect with
        | false => simp_all
        | true =>
          obtain ⟨a, ha⟩ | ⟨e', he', hsemantic⟩ := hquery heff
          · rw [ha] at hresult
            cases hresult
          · rw [he'] at hresult
            cases hresult
            rw [hhandled] at hsemantic
            cases hsemantic
  · exact ⟨le_rfl, Nat.le_succ _, fun _ _ => rfl⟩

lemma after_received (attempt : Attempt α) (s : CallState) : after (received attempt) s =
      (attempt.outcome, { s with effects := s.effects + attempt.effect.toNat }) := by
  simp only [received, after_bind, after_modify, after_liftM]

def Once (m : CallM β) : Prop :=
  ∀ s, s.natives ≤ (CallM.after m s).2.natives ∧
    ((∀ i, s.natives ≤ i → i < (CallM.after m s).2.natives → env.Settled convert i) →
      (CallM.after m s).2.effects ≤ s.effects + 1)

variable {env} {convert : R → Except Exc α}

lemma Once.tryNative_bind {f : Option α → CallM β} (hsome : ∀ a, Quiet (f (some a)))
    (hnone : env.Once convert (f none)) : env.Once convert (env.tryNative convert >>= f) := by
  intro s
  obtain ⟨hnatives, heffects, hgoes⟩ := env.after_tryNative convert s
  rw [after_bind]
  generalize after (env.tryNative convert) s = r at hnatives heffects hgoes
  obtain ⟨_ | _ | a, mid⟩ := r
  · exact ⟨hnatives, fun _ => heffects⟩
  · obtain ⟨hmid, honce⟩ := hnone mid
    refine ⟨hnatives.trans hmid, fun hsettled => ?_⟩
    have hfirst : mid.effects = s.effects :=
      hgoes rfl fun i hi hlt => hsettled i hi (lt_of_lt_of_le hlt hmid)
    have hsecond := honce fun i hi hlt => hsettled i (hnatives.trans hi) hlt
    exact hfirst ▸ hsecond
  · obtain ⟨hquiet, hquiet'⟩ := hsome a mid
    exact ⟨hnatives.trans hquiet'.ge, fun _ => hquiet.trans_le heffects⟩

lemma Settled.stream {i : ℕ} (h : env.Settled convert i) (f : R → β) :
    env.Settled (fun result => .ok (f result)) i := by
  intro heffect
  obtain ⟨a, ha⟩ | hsemantic := h heffect
  · cases houtcome : (env.native i).outcome with
    | error e =>
      rw [houtcome] at ha
      cases ha
    | ok result => exact .inl ⟨f result, rfl⟩
  · exact .inr hsemantic

lemma once_of_received {m : CallM β} (h : ∀ s, (after m s).2.natives = s.natives ∧
    (after m s).2.effects ≤ s.effects + 1) : env.Once convert m :=
  fun s => ⟨(h s).1.ge, fun _ => (h s).2⟩

lemma execute_once : env.Once (fun result => .ok (ExecutionResult.stream (B := B) result)) env.execute := by
  refine Once.tryNative_bind (fun a => .pure a) (once_of_received fun s => ?_)
  have hone := Bool.toNat_le (env.bridge s.bridges).effect
  simp only [bridgeExecute, after_bind, after_get, after_set, after_received]
  cases (env.bridge s.bridges).outcome <;> simp <;> omega

lemma executeToPolars_once : env.Once env.toPolars env.executeToPolars := by
  refine Once.tryNative_bind (fun a => .pure a) (once_of_received fun s => ?_)
  have hone := Bool.toNat_le (env.bridgeToPolars s.bridges).effect
  simp only [bridgeExecuteToPolars, after_bind, after_get, after_set, after_received]
  exact ⟨trivial, by omega⟩

lemma executeToArrow_once : env.Once env.toArrow env.executeToArrow := by
  refine Once.tryNative_bind (fun a => .pure a) fun s => ?_
  have hexecute : env.Once _ env.execute := execute_once
  obtain ⟨hnatives, honce⟩ := hexecute s
  simp only [after_bind]
  rcases h : after env.execute s with ⟨e | result, s'⟩ <;>
  · rw [h] at hnatives honce
    simp only [after_liftM]
    exact ⟨hnatives, fun hsettled => honce fun i hi hlt => (hsettled i hi hlt).stream _⟩

end Surroundings

inductive EntryPoint
  | execute | executeToPolars | executeToArrow

namespace Surroundings

variable {R B F A : Type} (env : Surroundings R B F A)

def call : EntryPoint → CallState
  | .execute => (CallM.after env.execute s).2
  | .executeToPolars => (CallM.after env.executeToPolars s).2
  | .executeToArrow => (CallM.after env.executeToArrow s).2

def SettledFor : EntryPoint → ℕ → Prop
  | .execute => env.Settled fun result => .ok (ExecutionResult.stream (B := B) result)
  | .executeToPolars => env.Settled env.toPolars
  | .executeToArrow => env.Settled env.toArrow

theorem effects_le_one_of_settled (entry : EntryPoint) (s : CallState)
    (h : ∀ i, s.natives ≤ i → i < (env.call s entry).natives → env.SettledFor entry i) :
    (env.call s entry).effects ≤ s.effects + 1 := by
  cases entry with
  | execute => exact (execute_once s).2 h
  | executeToPolars => exact (executeToPolars_once s).2 h
  | executeToArrow => exact (executeToArrow_once s).2 h

/-- A session with both backends whose native requests go as given; the bridge always works. -/
def withNative (native : ℕ → Attempt Unit) : Surroundings Unit Unit Unit Unit where
  requestedBackend := .auto
  hasNativeClient := true
  bridgeIsMock := false
  isExplicitMock := false
  lower := id
  clock := id
  native := native
  bridge := fun _ => ⟨true, .ok ()⟩
  bridgeToPolars := fun _ => ⟨true, .ok ()⟩
  toPolars := .ok
  toArrow := .ok
  resultToArrow := fun _ => .ok ()

def twoFailures : CallState := ⟨.new ⟨2, 30, 1⟩, 0, 0, 0, 0⟩

def refusedOnce (i : ℕ) : Attempt Unit := if i = 0 then ⟨false, .error ⟨"connection refused"⟩⟩ else ⟨true, .ok ()⟩

theorem effects_le_one_refusedOnce :
    ((withNative refusedOnce).call twoFailures .executeToArrow).natives = 2 ∧
      ((withNative refusedOnce).call twoFailures .executeToArrow).effects ≤ 0 + 1 := by
  refine ⟨rfl, effects_le_one_of_settled _ .executeToArrow twoFailures fun i _ _ heffect => ?_⟩
  cases i with
  | zero => exact absurd heffect (by decide)
  | succ i => exact .inl ⟨(), rfl⟩

theorem timeout_takes_effect_twice :
    ((withNative fun _ => ⟨true, .error ⟨"timed out"⟩⟩).call twoFailures .execute).effects = 2 := by
  rfl

end Surroundings

end Voyager
