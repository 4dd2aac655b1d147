import Voyager.Net.PoolWaiters

namespace Voyager.Net

open Lib AsyncConnection List

variable {C : Type}

namespace Pool

def Drained (s : Pool C) : Prop := .close .emptying ∈ s.tasks ∨ .close .done ∈ s.tasks

structure Shut (s : Pool C) : Prop where
  waiters : s.Drained → s.inner.waiters = []
  idle : .close .done ∈ s.tasks → s.inner.idleQueue = []

/-- Nobody joins the waiters after they are drained, and no connection the idle ones after they are. -/
structure Timely (s : Pool C) (e : Event C) : Prop where
  joined : (s.flags e).joined = true → ¬ s.Drained
  stowed : (s.flags e).stowed = true → .close .done ∉ s.tasks

def Finished (s : Pool C) : Prop :=
  .close .done ∈ s.tasks ∧ ∀ state, .acquire state ∈ s.tasks → state = .done

end Pool

open Pool

section

variable {s : Pool C}

lemma timely_of_none {e : Event C} (h : s.flags e = .none) : s.Timely e := by
  constructor
  all_goals
    rw [h]
    exact nofun

variable {i : ℕ}

variable {tasks : List (Task C)}

lemma mem_set_iff {t t' u : Task C} (hi : tasks[i]? = some t) (ht : u ≠ t) (ht' : u ≠ t') :
    u ∈ tasks.set i t' ↔ u ∈ tasks := by
  constructor
  · intro hu
    exact (mem_or_eq_of_mem_set hu).resolve_right ht'
  · intro hu
    obtain ⟨j, hj⟩ := mem_iff_getElem?.mp hu
    have hij : i ≠ j := by
      rintro rfl
      exact ht (Option.some.inj (hj.symm.trans hi))
    exact mem_iff_getElem?.mpr ⟨j, by rw [getElem?_set_ne hij, hj]⟩

variable {state : AcquireState C}

lemma close_mem_set_acquire (hi : tasks[i]? = some (.acquire state)) (state' : AcquireState C)
    (closing : CloseState) :
    .close closing ∈ tasks.set i (.acquire state') ↔ .close closing ∈ tasks :=
  mem_set_iff hi nofun nofun

lemma close_mem_conclude {flags : Flags} {turn : Turn C} (hi : s.tasks[i]? = some (.acquire state))
    (heffect : Effect s.waits s.inner state i flags turn) (closing : CloseState) :
    .close closing ∈ (s.conclude i turn).tasks ↔ .close closing ∈ s.tasks := by
  rw [conclude]
  cases hsent : turn.sent with
  | none => exact close_mem_set_acquire hi _ _
  | some sent =>
    obtain ⟨hj, hi'⟩ := tasks_of_sent hi heffect hsent
    exact (close_mem_set_acquire hi' _ _).trans (close_mem_set_acquire hj _ _)

lemma shut_turn {e : Event C} {turn : Turn C} (hs : s.Shut) (hi : s.tasks[i]? = some (.acquire state))
    (heffect : Effect s.waits s.inner state i (s.flags e) turn) :
    (s.conclude i turn).Shut ↔ s.Timely e := by
  have hclose := close_mem_conclude hi heffect
  have hdrained : (s.conclude i turn).Drained ↔ s.Drained := or_congr (hclose _) (hclose _)
  have hwaiters : (s.flags e).joined = false → s.inner.waiters = [] → turn.inner.waiters = [] := by
    intro hjoined hnil
    cases heffect.queue with
    | kept _ _ hsub _ _ =>
      rw [hnil] at hsub
      exact List.eq_nil_iff_forall_not_mem.mpr fun j hj => nomatch hsub j hj
    | emptied _ _ hwaiters _ => exact hwaiters
    | joined _ htrue _ _ => cases hjoined.symm.trans htrue
    | released _ _ _ hwaiters _ _ _ => rw [hwaiters, hnil]
  have hjoined : (s.flags e).joined = true → turn.inner.waiters ≠ [] := by
    intro htrue
    cases heffect.queue with
    | kept _ hfalse _ _ _ | emptied _ hfalse _ _ | released _ hfalse _ _ _ _ _ => cases hfalse.symm.trans htrue
    | joined _ _ hwaiters _ => simp [hwaiters]
  constructor
  · intro h
    constructor
    · intro htrue hdrain
      exact hjoined htrue (h.waiters (hdrained.mpr hdrain))
    · intro htrue hdone
      exact heffect.stowed htrue (h.idle ((hclose _).mpr hdone))
  · intro h
    constructor
    · intro hdrain
      rw [hdrained] at hdrain
      cases hflag : (s.flags e).joined with
      | false => exact hwaiters hflag (hs.waiters hdrain)
      | true => exact absurd hdrain (h.joined hflag)
    · intro hdone
      rw [hclose] at hdone
      cases hflag : (s.flags e).stowed with
      | false =>
        have hle := heffect.idle
        rw [hflag, hs.idle hdone] at hle
        exact length_eq_zero_iff.mp (Nat.le_zero.mp hle)
      | true => exact absurd hdone (h.stowed hflag)

variable {inner : PoolInner C}

lemma shut_set {t t' : Task C} (hi : s.tasks[i]? = some t) (ht : ∀ state, t ≠ .close state)
    (ht' : ∀ state, t' ≠ .close state) (hwaiters : inner.waiters = s.inner.waiters) :
    Pool.Shut ⟨inner, s.tasks.set i t'⟩ ↔
      (s.Drained → s.inner.waiters = []) ∧ (.close .done ∈ s.tasks → inner.idleQueue = []) := by
  have hclose : ∀ state, .close state ∈ s.tasks.set i t' ↔ .close state ∈ s.tasks :=
    fun state => mem_set_iff hi (ht state).symm (ht' state).symm
  have hdrained : Pool.Drained ⟨inner, s.tasks.set i t'⟩ ↔ s.Drained := or_congr (hclose _) (hclose _)
  constructor
  · rintro ⟨h, h'⟩
    rw [hdrained] at h
    exact ⟨fun hdrain => hwaiters ▸ h hdrain, fun hdone => h' ((hclose _).mpr hdone)⟩
  · rintro ⟨h, h'⟩
    refine ⟨fun hdrain => ?_, fun hdone => h' ((hclose _).mp hdone)⟩
    rw [hdrained] at hdrain
    exact hwaiters.trans (h hdrain)

lemma shut_warmUp {o : Outcome C} {state state' : WarmUpState C} (hs : s.Shut)
    (hi : s.tasks[i]? = some (.warmUp state)) (h : state.resume s.inner o = some (state', inner)) :
    Pool.Shut ⟨inner, s.tasks.set i (.warmUp state')⟩ ↔ s.Timely (.resume i o) := by
  have htimely : s.Timely (.resume i o) ↔ (state.isStowing = true → .close .done ∉ s.tasks) := by
    constructor
    · intro h hstowing
      refine h.stowed ?_
      rw [flags_warmUp hi]
      exact hstowing
    · intro h
      constructor
      · rw [flags_warmUp hi]
        exact nofun
      · rw [flags_warmUp hi]
        exact h
  have hresumed := warmUp_resumed h
  have hshut : Pool.Shut ⟨inner, s.tasks.set i (.warmUp state')⟩ ↔ _ := shut_set hi nofun nofun hresumed.waiters
  rw [hshut, htimely]
  refine ⟨fun h' hstowing hdone => ?_, fun h' => ⟨hs.waiters, fun hdone => ?_⟩⟩
  · cases state with
    | stowing idle n =>
      cases h
      have := h'.2 hdone
      simp [PoolInner.stow] at this
    | _ => cases hstowing
  · have hflag : state.isStowing = false := by simpa using mt h' (not_not.mpr hdone)
    have hle := hresumed.idle
    rw [hflag, hs.idle hdone] at hle
    exact length_eq_zero_iff.mp (Nat.le_zero.mp hle)

lemma shut_close {state state' : CloseState} (hs : s.Shut) (hi : s.tasks[i]? = some (.close state))
    (h : state.resume s.inner = some (state', inner)) :
    Pool.Shut ⟨inner, s.tasks.set i (.close state')⟩ := by
  have hmem : Task.close state ∈ s.tasks := mem_of_getElem? hi
  cases state with
  | entered =>
    cases h
    have hclose : ∀ {state}, state ≠ .draining → .close state ∈ s.tasks.set i (.close .draining) →
        .close state ∈ s.tasks := by
      intro state hstate hmem
      exact (mem_or_eq_of_mem_set hmem).resolve_right (by simpa using hstate)
    exact ⟨fun hdrain => hs.waiters (hdrain.imp (hclose nofun) (hclose nofun)), fun hdone => hs.idle (hclose nofun hdone)⟩
  | draining =>
    cases h
    refine ⟨fun _ => rfl, fun hdone => hs.idle ?_⟩
    exact (mem_or_eq_of_mem_set hdone).resolve_right nofun
  | emptying =>
    cases h
    exact ⟨fun _ => hs.waiters (.inl hmem), fun _ => rfl⟩
  | done => cases h

variable [AsyncConnection C] {config : PoolConfig} {s' : Pool C} {e : Event C}

lemma shut_step (hs : s.Shut) (h : s.step config e = some s') : s'.Shut ↔ s.Timely e := by
  cases stepped h with
  | @start task he hfresh =>
    subst he
    have hclose : ∀ {state}, state ≠ .entered → .close state ∈ s.tasks ++ [task] → .close state ∈ s.tasks := by
      intro state hstate hmem
      refine (List.mem_append.mp hmem).resolve_right fun hmem => ?_
      cases List.mem_singleton.mp hmem
      cases state with
      | entered => exact hstate rfl
      | _ => cases hfresh
    refine ⟨fun _ => ⟨nofun, nofun⟩, fun _ => ⟨fun hdrain => ?_, fun hdone => hs.idle (hclose nofun hdone)⟩⟩
    exact hs.waiters (hdrain.imp (hclose nofun) (hclose nofun))
  | turn hi heffect => exact shut_turn hs hi heffect
  | warmUp he hi hresume =>
    subst he
    exact shut_warmUp hs hi hresume
  | evict he hi =>
    subst he
    refine ⟨fun _ => timely_of_none (flags_evict hi), fun _ => ?_⟩
    refine (shut_set hi ?_ ?_ ?_).mpr ⟨hs.waiters, fun hdone => ?_⟩
    · exact nofun
    · exact nofun
    · rfl
    simp [evict, PoolInner.lose, PoolInner.withIdle, retained, hs.idle hdone]
  | close he hi hresume =>
    subst he
    exact ⟨fun _ => timely_of_none (flags_close hi), fun _ => shut_close hs hi hresume⟩

theorem closed_pool_empty (config : PoolConfig) (es : List (Event C)) :
    (Meets (Pool.step config) Pool.Timely (Pool.new config) es ↔
      ∀ s ∈ after (Pool.step config) (Pool.new config) es, s.Shut) ∧
      (Meets (Pool.step config) Pool.Timely (Pool.new config) es →
        ∀ s ∈ after (Pool.step config) (Pool.new config) es,
          s.Finished → s.inner.idleQueue = [] ∧ s.inner.waiters = []) := by
  have hnew : Pool.Shut (new config : Pool C) := ⟨fun _ => rfl, fun _ => rfl⟩
  have hiff : Meets (step config) Pool.Timely (new config) es ↔
      ∀ s ∈ after (step config) (new config) es, s.Shut :=
    meets_iff_forall_after (fun _ _ _ hs h => shut_step hs h) hnew es
  refine ⟨hiff, fun hes s hs hfinished => ?_⟩
  have hshut := hiff.mp hes s hs
  exact ⟨hshut.idle hfinished.1, hshut.waiters (.inr hfinished.1)⟩

end

def closedEvents : List (Event SteadyConnection) :=
  leaseEvents ++ .start (.close .entered) :: List.replicate 3 (.resume 1 sampleOutcome)

theorem closed_pool_empty_lease :
    (after (Pool.step sampleConfig) (Pool.new sampleConfig) closedEvents).getLast?.map (·.tasks) =
        some [.acquire .done, .close .done] ∧
      ∀ s ∈ after (Pool.step sampleConfig) (Pool.new sampleConfig) closedEvents,
        s.Finished → s.inner.idleQueue = [] ∧ s.inner.waiters = [] := by
  refine ⟨rfl, (closed_pool_empty sampleConfig closedEvents).2 ?_⟩
  iterate 9
    rintro _ ⟨⟩
    refine ⟨⟨nofun, nofun⟩, ?_⟩
  -- the connection is put back before the pool is closed
  rintro _ ⟨⟩
  have hopen : Task.close .done ∉ [Task.acquire (.stowing (⟨⟨⟩, 0, false⟩ : PooledConnection SteadyConnection))] := by simp
  refine ⟨⟨nofun, fun _ => hopen⟩, ?_⟩
  iterate 5
    rintro _ ⟨⟩
    refine ⟨⟨nofun, nofun⟩, ?_⟩
  trivial

/-- A lease is given back, finds the pool open, and goes on when the pool has been closed. -/
def lateReturnEvents : List (Event SteadyConnection) :=
  .start (.acquire .entered) :: List.replicate 5 (.resume 0 sampleOutcome) ++
    [.drop 0 true, .resume 0 sampleOutcome, .start (.close .entered)] ++ List.replicate 3 (.resume 1 sampleOutcome) ++
    List.replicate 3 (.resume 0 sampleOutcome)

theorem late_return_stays :
    ∃ s ∈ after (Pool.step singleConfig) (Pool.new singleConfig) lateReturnEvents,
      s.Finished ∧ s.inner.idleQueue = [⟨⟨⟩, 0, 0⟩] := by
  have hlast : (after (step singleConfig) (new singleConfig) lateReturnEvents).getLast? =
      some ⟨⟨1, [⟨⟨⟩, 0, 0⟩], [], 1, true⟩, [.acquire .done, .close .done]⟩ := by
    rfl
  refine ⟨_, mem_of_getLast? hlast, ⟨by simp, fun state hmem => ?_⟩, rfl⟩
  simpa using hmem

end Voyager.Net
