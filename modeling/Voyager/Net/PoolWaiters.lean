import Voyager.Net.PoolConnections

/-! Whether a waiter can be left behind while a permit is there. -/

namespace Voyager.Net

open Lib AsyncConnection Pool List

variable {C : Type}

def Event.isOutside : Event C → Bool
  | .start _ => true
  | .timeout _ _ => true
  | .cancel _ _ => true
  | _ => false

namespace Pool

def Waited (s : Pool C) : Prop := ∃ j ∈ s.inner.waiters, s.waits j = true

def Awake (s : Pool C) : Prop := s.inner.isClosed = false → 0 < s.inner.available → ¬ s.Waited

/-- A permit goes back past the waiters only when nobody waits. -/
def Considerate (s : Pool C) (e : Event C) : Prop :=
  s.inner.isClosed = false → (s.flags e).released = true → ¬ s.Waited

def Quiescent [AsyncConnection C] (config : PoolConfig) (s : Pool C) : Prop :=
  ∀ e s', s.step config e = some s' → e.isOutside = true

end Pool

section

variable {s : Pool C}

variable {i : ℕ} {inner : PoolInner C}

variable {t : Task C}

lemma waits_set_of_ne {j : ℕ} (h : i ≠ j) : waits ⟨inner, s.tasks.set i t⟩ j = s.waits j := by
  rw [waits, waits, getElem?_set_ne h]

lemma waits_eq_false (hi : s.tasks[i]? = some t) (ht : t ≠ .acquire (.waiting none)) : s.waits i = false := by
  rw [waits, hi]
  split
  · rename_i h
    exact absurd (Option.some.inj h) ht
  · rfl

lemma waits_set_self (ht : t ≠ .acquire (.waiting none)) : waits ⟨inner, s.tasks.set i t⟩ i = false := by
  by_cases hlt : i < s.tasks.length
  · exact waits_eq_false (getElem?_set_self hlt) ht
  · rw [waits, getElem?_eq_none (by simpa using hlt)]

lemma waits_of_set {j : ℕ} (ht : t ≠ .acquire (.waiting none)) (h : waits ⟨inner, s.tasks.set i t⟩ j = true) :
    s.waits j = true := by
  by_cases hij : i = j
  · subst hij
    rw [waits_set_self ht] at h
    cases h
  · rwa [waits_set_of_ne hij] at h

lemma waits_set {t' : Task C} (hi : s.tasks[i]? = some t) (ht : t ≠ .acquire (.waiting none))
    (ht' : t' ≠ .acquire (.waiting none)) (j : ℕ) :
    waits ⟨inner, s.tasks.set i t'⟩ j = s.waits j := by
  by_cases hij : i = j
  · subst hij
    rw [waits_set_self ht', waits_eq_false hi ht]
  · exact waits_set_of_ne hij

lemma waits_of_waits_conclude {j : ℕ} {turn : Turn C} (hstate : turn.state ≠ .waiting none)
    (h : (s.conclude i turn).waits j = true) : s.waits j = true := by
  have hne : Task.acquire turn.state ≠ .acquire (.waiting none) := by simpa using hstate
  rw [conclude] at h
  cases hsent : turn.sent with
  | none =>
    simp only [hsent] at h
    exact waits_of_set hne h
  | some sent =>
    simp only [hsent] at h
    exact waits_of_set (by simp) (waits_of_set (s := ⟨turn.inner, _⟩) hne h)

lemma awake_of_same {s' : Pool C} (hs : s.Awake) (hclosed : s'.inner.isClosed = s.inner.isClosed)
    (havailable : s'.inner.available ≤ s.inner.available) (hwaited : s'.Waited → s.Waited) : s'.Awake := by
  intro hopen hpos hwaited'
  rw [hclosed] at hopen
  exact hs hopen (hpos.trans_le havailable) (hwaited hwaited')

lemma awake_turn {e : Event C} {state : AcquireState C} {turn : Turn C} (hs : s.Awake)
    (hi : s.tasks[i]? = some (.acquire state)) (heffect : Effect s.waits s.inner state i (s.flags e) turn) :
    (s.conclude i turn).Awake ↔ s.Considerate e := by
  have hclosed : (s.conclude i turn).inner.isClosed = s.inner.isClosed := heffect.closed
  have hconsiderate : (s.flags e).released = false → s.Considerate e := fun h _ hreleased => by simp [h] at hreleased
  cases heffect.queue with
  | kept hreleased _ hwaiters havailable hstate =>
    refine ⟨fun _ => hconsiderate hreleased, fun _ => awake_of_same hs hclosed havailable ?_⟩
    rintro ⟨j, hj, hwaits⟩
    exact ⟨j, hwaiters j hj, waits_of_waits_conclude hstate hwaits⟩
  | emptied hreleased _ hwaiters hstate =>
    refine ⟨fun _ => hconsiderate hreleased, fun _ _ _ => ?_⟩
    rintro ⟨j, hj, -⟩
    change j ∈ turn.inner.waiters at hj
    rw [hwaiters] at hj
    cases hj
  | joined hreleased _ hwaiters havailable =>
    refine ⟨fun _ => hconsiderate hreleased, fun _ _ hpos => ?_⟩
    change 0 < turn.inner.available at hpos
    rw [havailable] at hpos
    cases hpos
  | released hreleased _ hwaits hwaiters hsent havailable hstate =>
    have hsame : ∀ j, (s.conclude i turn).waits j = s.waits j := by
      intro j
      simp only [conclude, hsent]
      exact waits_set hi (by simpa using hwaits) (by simpa using hstate) j
    have hwaited : (s.conclude i turn).Waited ↔ s.Waited := by
      simp only [Pool.Waited, hsame]
      change (∃ j ∈ turn.inner.waiters, _) ↔ _
      rw [hwaiters]
    rw [Pool.Awake, Pool.Considerate, hclosed, hwaited]
    constructor
    · intro h hopen _
      refine h hopen ?_
      change 0 < turn.inner.available
      rw [havailable]
      exact Nat.succ_pos _
    · intro h hopen _
      obtain hreleased | hclosed := hreleased
      · exact h hopen hreleased
      · cases hopen.symm.trans hclosed

variable {config : PoolConfig} {s' : Pool C} {e : Event C}

lemma waits_append {task : Task C} (h : fresh config task = true) (j : ℕ) :
    waits { s with tasks := s.tasks ++ [task] } j = s.waits j := by
  rw [waits, waits]
  obtain hlt | rfl | hgt := Nat.lt_trichotomy j s.tasks.length
  · rw [getElem?_append_left hlt]
  · rw [getElem?_concat_length, getElem?_eq_none le_rfl]
    cases task with
    | acquire state =>
      cases state with
      | entered => rfl
      | _ => cases h
    | warmUp state | evictExpired _ | close _ => rfl
  · rw [getElem?_eq_none hgt.le, getElem?_eq_none]
    simpa using hgt

lemma waited_of_set {t' : Task C} (hi : s.tasks[i]? = some t) (ht : t ≠ .acquire (.waiting none))
    (ht' : t' ≠ .acquire (.waiting none)) (hwaiters : ∀ j ∈ inner.waiters, j ∈ s.inner.waiters)
    (h : Pool.Waited ⟨inner, s.tasks.set i t'⟩) : s.Waited := by
  obtain ⟨j, hj, hwaits⟩ := h
  rw [waits_set hi ht ht'] at hwaits
  exact ⟨j, hwaiters j hj, hwaits⟩

lemma awake_close {state state' : CloseState} (hs : s.Awake)
    (hi : s.tasks[i]? = some (.close state)) (h : state.resume s.inner = some (state', inner)) :
    Pool.Awake ⟨inner, s.tasks.set i (.close state')⟩ := by
  cases state with
  | entered =>
    cases h
    exact nofun
  | draining =>
    cases h
    exact awake_of_same hs rfl le_rfl (waited_of_set hi nofun nofun nofun)
  | emptying =>
    cases h
    exact awake_of_same hs rfl le_rfl (waited_of_set hi nofun nofun fun _ hj => hj)
  | done => cases h

variable {state state' : WarmUpState C}

lemma awake_warmUp {o : Outcome C} (hs : s.Awake) (hi : s.tasks[i]? = some (.warmUp state))
    (h : state.resume s.inner o = some (state', inner)) :
    Pool.Awake ⟨inner, s.tasks.set i (.warmUp state')⟩ := by
  have h := warmUp_resumed h
  refine awake_of_same hs h.closed h.available.le (waited_of_set hi nofun nofun ?_)
  rw [h.waiters]
  exact fun _ hj => hj

variable [AsyncConnection C]

lemma awake_step (hs : s.Awake) (h : s.step config e = some s') : s'.Awake ↔ s.Considerate e := by
  have hconsiderate : (s.flags e).released = false → s.Considerate e := fun h _ hreleased => by simp [h] at hreleased
  cases stepped h with
  | start he hfresh =>
    subst he
    refine ⟨fun _ => hconsiderate rfl, fun _ => awake_of_same hs rfl le_rfl ?_⟩
    rintro ⟨j, hj, hwaits⟩
    rw [waits_append hfresh] at hwaits
    exact ⟨j, hj, hwaits⟩
  | turn hi heffect => exact awake_turn hs hi heffect
  | warmUp he hi hresume =>
    subst he
    refine ⟨fun _ => hconsiderate ?_, fun _ => awake_warmUp hs hi hresume⟩
    rw [flags_warmUp hi]
  | evict he hi =>
    subst he
    refine ⟨fun _ => hconsiderate ?_, fun _ => awake_of_same hs rfl le_rfl (waited_of_set hi nofun nofun fun _ hj => hj)⟩
    rw [flags_evict hi]
    rfl
  | close he hi hresume =>
    subst he
    refine ⟨fun _ => hconsiderate ?_, fun _ => awake_close hs hi hresume⟩
    rw [flags_close hi]
    rfl

theorem waiters_served (config : PoolConfig) (es : List (Event C)) :
    (Meets (Pool.step config) Pool.Considerate (Pool.new config) es ↔
      ∀ s ∈ after (Pool.step config) (Pool.new config) es, s.Awake) ∧
      (Meets (Pool.step config) Pool.Considerate (Pool.new config) es →
        ∀ s ∈ after (Pool.step config) (Pool.new config) es,
          s.Quiescent config → s.inner.isClosed = false → s.Waited → s.inner.available = 0) := by
  have hnew : Pool.Awake (new config : Pool C) := by
    rintro - - ⟨j, hj, -⟩
    cases hj
  have hiff : Meets (step config) Pool.Considerate (new config) es ↔
      ∀ s ∈ after (step config) (new config) es, s.Awake :=
    meets_iff_forall_after (fun _ _ _ hs h => awake_step hs h) hnew es
  refine ⟨hiff, fun hes s hs _ hopen hwaited => ?_⟩
  by_contra hne
  exact hiff.mp hes s hs hopen (Nat.pos_of_ne_zero hne) hwaited

end

def singleConfig : PoolConfig := ⟨0, 1, none, none, true⟩

/-- A lease goes back, and between its look at the waiters and the release of its permit another task joins them. -/
def strandingEvents : List (Event SteadyConnection) :=
  .start (.acquire .entered) :: List.replicate 5 (.resume 0 sampleOutcome) ++ .drop 0 true ::
    List.replicate 2 (.resume 0 sampleOutcome) ++ .start (.acquire .entered) ::
    List.replicate 3 (.resume 1 sampleOutcome) ++ List.replicate 2 (.resume 0 sampleOutcome)

def strandedPool : Pool SteadyConnection :=
  ⟨⟨1, [⟨⟨⟩, 0, 0⟩], [1], 1, false⟩, [.acquire .done, .acquire (.waiting none)]⟩

lemma strandedPool_quiescent : strandedPool.Quiescent singleConfig := by
  intro e s' h
  match e with
  | .start _ | .timeout _ _ | .cancel _ _ => rfl
  | .resume 0 o => cases h
  | .resume 1 o => cases h
  | .resume (i + 2) o => cases h
  | .use 0 _ _ => cases h
  | .use 1 _ _ => cases h
  | .use (i + 2) _ _ => cases h
  | .drop 0 _ => cases h
  | .drop 1 _ => cases h
  | .drop (i + 2) _ => cases h

theorem waiter_left_behind :
    ∃ s ∈ after (Pool.step singleConfig) (Pool.new singleConfig) strandingEvents,
      s.Quiescent singleConfig ∧ s.inner.isClosed = false ∧ s.Waited ∧ s.inner.available = 1 := by
  have hlast : (after (step singleConfig) (new singleConfig) strandingEvents).getLast? =
      some strandedPool := by
    rfl
  refine ⟨strandedPool, mem_of_getLast? hlast, strandedPool_quiescent, rfl, ?_, rfl⟩
  exact ⟨1, mem_singleton_self 1, rfl⟩

end Voyager.Net
