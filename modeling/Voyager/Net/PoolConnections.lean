import Voyager.Lib.Call
import Voyager.Net.PoolSteps

/-! How many connections a pool has, and how many it counts. -/

namespace Voyager.Net

open Lib AsyncConnection Net.Task Tasks PoolInner

variable {C : Type}

variable {t : Task C}

namespace Task

def owned : Task C → ℕ
  | .acquire state => state.owned
  | .warmUp (.stowing _ _) => 1
  | _ => 0

def committed : Task C → ℕ
  | .acquire state => state.committed
  | .warmUp (.creating _) => 1
  | .warmUp (.stowing _ _) => 1
  | _ => 0

def permits : Task C → ℕ
  | .acquire state => state.permits
  | _ => 0

def weight : Task C → ℕ
  | .acquire state => state.committed
  | .warmUp (.looping n) => n
  | .warmUp (.creating n) => n + 1
  | .warmUp (.stowing _ n) => n + 1
  | _ => 0

def isAcquire : Task C → Bool
  | .acquire _ => true
  | _ => false

def isWarmUp : Task C → Bool
  | .warmUp _ => true
  | _ => false

lemma committed_le_weight (t : Task C) : t.committed ≤ t.weight := by
  match t with
  | .acquire state => exact le_rfl
  | .warmUp (.looping n) => exact Nat.zero_le _
  | .warmUp (.creating _) | .warmUp (.stowing _ _) => exact Nat.le_add_left _ _
  | .warmUp .done | .evictExpired _ | .close _ => exact le_rfl

lemma weight_eq_zero (hacquire : t.isAcquire = false) (hwarmUp : t.isWarmUp = false) : t.weight = 0 := by
  cases t with
  | acquire state => cases hacquire
  | warmUp state => cases hwarmUp
  | evictExpired finished => rfl
  | close state => rfl

end Task

namespace Pool

/-- The connections that are idle, leased, in handover, being checked or being reset. -/
def owned (s : Pool C) : ℕ := s.inner.idleQueue.length + Tasks.load Task.owned s.tasks

def committed (s : Pool C) : ℕ := s.inner.idleQueue.length + Tasks.load Task.committed s.tasks

def Counted (s : Pool C) : Prop := s.inner.totalConnections = s.owned

/-- `warm_up` is called at most once, and no `acquire` before it has returned. -/
def Orderly (s : Pool C) : Event C → Prop
  | .start (.warmUp _) => ∀ t ∈ s.tasks, t.isAcquire = false ∧ t.isWarmUp = false
  | .start (.acquire _) => ∀ state, .warmUp state ∈ s.tasks → state = .done
  | _ => True

structure Bounded (m : ℕ) (s : Pool C) : Prop where
  permits : s.inner.available + Tasks.load Task.permits s.tasks = m
  weight : s.inner.idleQueue.length + Tasks.load Task.weight s.tasks ≤ m
  warmed : (∃ t ∈ s.tasks, t.isAcquire = true) → ∀ state, .warmUp state ∈ s.tasks → state = .done
  fresh : (∀ t ∈ s.tasks, t.isAcquire = false ∧ t.isWarmUp = false) → s.inner.idleQueue = []

end Pool

variable {inner : PoolInner C}

variable {state state' : CloseState} {t' task : Task C} {i : ℕ}

section

variable {config : PoolConfig} {s s' : Pool C} {e : Event C}

lemma evict_counted (p : PoolInner C) (now : ℕ) : (evict config p now).totalConnections + p.idleQueue.length =
      p.totalConnections + (evict config p now).idleQueue.length := by
  have hle : (retained config p now).length ≤ p.idleQueue.length := List.length_filter_le _ _
  simp only [evict, lose, withIdle]
  omega

lemma close_counted {p : PoolInner C} (h : state.resume p = some (state', inner)) :
    inner.totalConnections + p.idleQueue.length = p.totalConnections + inner.idleQueue.length := by
  cases state with
  | entered | draining =>
    cases h
    rfl
  | emptying =>
    cases h
    simp [lose, withIdle]
  | done => cases h

/-- What a step of `warm_up` does to the pool. -/
structure WarmUpResumed (p inner : PoolInner C) (o : Outcome C) (state state' : WarmUpState C) : Prop where
  closed : inner.isClosed = p.isClosed
  available : inner.available = p.available
  waiters : inner.waiters = p.waiters
  running : state ≠ .done
  counted : inner.totalConnections + p.idleQueue.length + (warmUp state).owned =
    p.totalConnections + inner.idleQueue.length + (warmUp state').owned
  weight : inner.idleQueue.length + (warmUp state').weight ≤ p.idleQueue.length + (warmUp state).weight
  total : inner.totalConnections ≤ p.totalConnections + (state.creates o).toNat
  idle : inner.idleQueue.length ≤ p.idleQueue.length + state.isStowing.toNat

lemma warmUp_resumed {p : PoolInner C} {o : Outcome C} {state state' : WarmUpState C}
    (h : state.resume p o = some (state', inner)) : WarmUpResumed p inner o state state' := by
  cases state with
  | looping n =>
    cases n with
    | zero =>
      cases h
      exact ⟨rfl, rfl, rfl, by simp, rfl, le_rfl, by simp, le_rfl⟩
    | succ n =>
      rw [WarmUpState.resume] at h
      split_ifs at h
      all_goals
        cases h
        exact ⟨rfl, rfl, rfl, by simp, rfl, by simp [weight], by simp, le_rfl⟩
  | creating n =>
    rw [WarmUpState.resume] at h
    split_ifs at h with hok
    · cases h
      refine ⟨rfl, rfl, rfl, by simp, ?_, le_rfl, by simp [gain, WarmUpState.creates, hok], le_rfl⟩
      simp only [gain, owned]
      omega
    · cases h
      exact ⟨rfl, rfl, rfl, by simp, rfl, by simp [weight], by simp, le_rfl⟩
  | stowing idle n =>
    cases h
    refine ⟨rfl, rfl, rfl, by simp, ?_, ?_, by simp [stow], by simp [stow, WarmUpState.isStowing]⟩
    all_goals
      simp only [stow, owned, weight, List.length_append, List.length_singleton]
      omega
  | done => cases h

lemma counted_set (hs : s.Counted) (hi : s.tasks[i]? = some t)
    (h : inner.totalConnections + s.inner.idleQueue.length + t.owned =
      s.inner.totalConnections + inner.idleQueue.length + t'.owned) :
    Pool.Counted ⟨inner, s.tasks.set i t'⟩ := by
  have hload := load_set owned hi t'
  rw [Pool.Counted, Pool.owned] at hs ⊢
  simp only
  omega

lemma checking_resume (i : ℕ) (o : Outcome C) : (s.flags (.resume i o)).checking = false := by
  simp only [Pool.flags]
  split <;> rfl

lemma owned_of_fresh (h : Pool.fresh config task = true) : task.owned = 0 := by
  match task with
  | .acquire .entered | .warmUp (.looping _) | .evictExpired _ | .close _ => rfl

variable [AsyncConnection C]

lemma counted_step (hs : s.Counted) (h : s.step config e = some s') : s'.Counted ↔ (s.flags e).checking = false := by
  cases stepped h with
  | start he hfresh =>
    subst he
    refine ⟨fun _ => rfl, fun _ => ?_⟩
    rw [Pool.Counted, Pool.owned, load_append, owned_of_fresh hfresh]
    exact hs
  | turn hi heffect =>
    have hload := load_conclude hi heffect (f := owned) rfl
    have howned := heffect.owned
    simp only [Pool.Counted, Pool.owned] at hs ⊢
    change load owned _ + AcquireState.owned _ = _ + Turn.holds _ AcquireState.owned at hload
    simp only [Pool.conclude] at hload ⊢
    cases hchecking : (s.flags e).checking with
    | false =>
      simp only [hchecking, Bool.toNat_false] at howned
      refine ⟨fun _ => rfl, fun _ => ?_⟩
      omega
    | true =>
      simp only [hchecking, Bool.toNat_true] at howned
      refine ⟨fun h => ?_, fun h => absurd h (by simp)⟩
      omega
  | warmUp he hi hresume =>
    subst he
    exact ⟨fun _ => checking_resume _ _, fun _ => counted_set hs hi (warmUp_resumed hresume).counted⟩
  | evict he hi =>
    subst he
    refine ⟨fun _ => checking_resume _ _, fun _ => counted_set hs hi ?_⟩
    rw [evict_counted]
    rfl
  | close he hi hresume =>
    subst he
    refine ⟨fun _ => checking_resume _ _, fun _ => counted_set hs hi ?_⟩
    rw [close_counted hresume]
    rfl

theorem total_count_owned (config : PoolConfig) (es : List (Event C)) :
    Meets (Pool.step config) (fun s e => (s.flags e).checking = false) (Pool.new config) es ↔
      ∀ s ∈ after (Pool.step config) (Pool.new config) es, s.inner.totalConnections = s.owned := by
  have hnew : Pool.Counted (Pool.new config : Pool C) := rfl
  exact meets_iff_forall_after (fun _ _ _ hs h => counted_step hs h) hnew es

end

structure SteadyConnection where
  deriving Inhabited

instance : AsyncConnection SteadyConnection := ⟨fun _ => true, fun _ => false⟩

def sampleConfig : PoolConfig := ⟨1, 2, none, none, true⟩

def sampleOutcome : Outcome SteadyConnection := ⟨0, true, ⟨⟩⟩

def leaseEvents : List (Event SteadyConnection) :=
  .start (.acquire .entered) :: List.replicate 5 (.resume 0 sampleOutcome) ++ .drop 0 true ::
    List.replicate 4 (.resume 0 sampleOutcome)

theorem cancelled_check_stays_counted :
    (after (Pool.step sampleConfig) (Pool.new sampleConfig) (leaseEvents ++ .start (.acquire .entered) ::
      List.replicate 4 (.resume 1 sampleOutcome) ++ [.cancel 1 true])).getLast?.map
        (fun s => (s.inner.totalConnections, s.owned)) = some (1, 0) := by
  rfl

section

variable {config : PoolConfig} {s s' : Pool C} {e : Event C} {m : ℕ}

lemma weight_le_permits {tasks : List (Task C)} (h : ∀ state, .warmUp state ∈ tasks → state = .done) :
    load weight tasks ≤ load permits tasks := by
  apply load_le_load
  intro t ht
  match t with
  | .acquire state => exact state.committed_le_permits
  | .warmUp state =>
    rw [h state ht]
    exact le_rfl
  | .evictExpired _ | .close _ => exact le_rfl

lemma mem_conclude {turn : Turn C} (h : t ∈ (s.conclude i turn).tasks) : t ∈ s.tasks ∨ t.isAcquire = true := by
  rw [Pool.conclude] at h
  obtain h | rfl := List.mem_or_eq_of_mem_set h
  · cases hsent : turn.sent with
    | none =>
      rw [hsent] at h
      exact .inl h
    | some sent =>
      rw [hsent] at h
      obtain h | rfl := List.mem_or_eq_of_mem_set h
      · exact .inl h
      · exact .inr rfl
  · exact .inr rfl

section

variable (hs : s.Bounded m)

include hs

lemma bounded_turn {state : AcquireState C} {flags : Flags} {turn : Turn C}
    (hi : s.tasks[i]? = some (.acquire state)) (heffect : Effect s.waits s.inner state i flags turn) :
    (s.conclude i turn).Bounded m := by
  have hacquire : acquire state ∈ s.tasks := List.mem_of_getElem? hi
  have hwarmed := hs.warmed ⟨_, hacquire, rfl⟩
  have hwarmed' : ∀ state, .warmUp state ∈ (s.conclude i turn).tasks → state = .done := by
    intro state hmem
    obtain hmem | hmem := mem_conclude hmem
    · exact hwarmed state hmem
    · cases hmem
  have hpermits : turn.inner.available + load permits (s.conclude i turn).tasks = m := by
    have hload := load_conclude hi heffect (f := permits) rfl
    have hturn := heffect.permits
    have hm := hs.permits
    change _ + AcquireState.permits _ = _ + Turn.holds _ AcquireState.permits at hload
    omega
  constructor
  case permits => exact hpermits
  case weight =>
    change turn.inner.idleQueue.length + _ ≤ m
    obtain hle | hnil := heffect.committed
    · have hload := load_conclude hi heffect (f := weight) rfl
      have hm := hs.weight
      change _ + AcquireState.committed _ = _ + Turn.holds _ AcquireState.committed at hload
      omega
    · -- nothing is idle, so every connection has its permit
      have hle := weight_le_permits hwarmed'
      rw [hnil, List.length_nil]
      omega
  case warmed => exact fun _ => hwarmed'
  case fresh =>
    intro hnone
    have hlt : i < s.tasks.length := (List.getElem?_eq_some_iff.mp hi).1
    have hmem : acquire turn.state ∈ (s.conclude i turn).tasks := by
      rw [Pool.conclude]
      refine List.mem_set ?_ _
      cases turn.sent with
      | none => exact hlt
      | some sent => simpa using hlt
    cases (hnone _ hmem).1

lemma bounded_start (hm : config.maxSize ≤ m) (hfresh : Pool.fresh config task = true)
    (horderly : s.Orderly (.start task)) : Pool.Bounded m { s with tasks := s.tasks ++ [task] } := by
  have hpermits : task.permits = 0 := by
    match task with
    | .acquire .entered | .warmUp (.looping _) | .evictExpired _ | .close _ => rfl
  have hmem : ∀ {t}, t ∈ s.tasks ++ [task] ↔ t ∈ s.tasks ∨ t = task := by simp
  constructor
  case permits =>
    rw [load_append, hpermits]
    exact hs.permits
  case weight =>
    rw [load_append]
    match task with
    | .acquire .entered | .evictExpired _ | .close _ => exact hs.weight
    | .warmUp (.looping n) =>
      -- no operation that creates a connection has started
      have hnone : ∀ t ∈ s.tasks, t.isAcquire = false ∧ t.isWarmUp = false := horderly
      have hweight : load weight s.tasks = 0 :=
        load_eq_zero _ fun t ht => weight_eq_zero (hnone t ht).1 (hnone t ht).2
      have hn : n = min config.minIdle config.maxSize := of_decide_eq_true hfresh
      rw [hs.fresh hnone, hweight, hn]
      simp only [weight, List.length_nil]
      omega
  case warmed =>
    rintro ⟨t, ht, hacquire⟩ state hstate
    match task with
    | .acquire .entered =>
      obtain hstate | hstate := hmem.mp hstate
      · exact horderly state hstate
      · cases hstate
    | .warmUp (.looping n) =>
      obtain ht | rfl := hmem.mp ht
      · have := (horderly t ht).1
        rw [hacquire] at this
        cases this
      · cases hacquire
    | .evictExpired _ | .close _ =>
      obtain ht | rfl := hmem.mp ht
      · obtain hstate | hstate := hmem.mp hstate
        · exact hs.warmed ⟨t, ht, hacquire⟩ state hstate
        · cases hstate
      · cases hacquire
  case fresh => exact fun hnone => hs.fresh fun t ht => hnone t (hmem.mpr (.inl ht))

lemma bounded_set (hi : s.tasks[i]? = some t) (hacquire : t.isAcquire = false)
    (hacquire' : t'.isAcquire = false) (hkind : t'.isWarmUp = t.isWarmUp)
    (hrunning : t.isWarmUp = true → t ≠ .warmUp .done) (havailable : inner.available = s.inner.available)
    (hweight : inner.idleQueue.length + t'.weight ≤ s.inner.idleQueue.length + t.weight)
    (hidle : t.isWarmUp = false → s.inner.idleQueue = [] → inner.idleQueue = []) :
    Pool.Bounded m ⟨inner, s.tasks.set i t'⟩ := by
  have hpermits : ∀ {u : Task C}, u.isAcquire = false → u.permits = 0 := by
    intro u hu
    cases u with
    | acquire state => cases hu
    | _ => rfl
  have ht : t ∈ s.tasks := List.mem_of_getElem? hi
  have hlt : i < s.tasks.length := (List.getElem?_eq_some_iff.mp hi).1
  -- an `acquire` among the tasks was there before
  have hold : (∃ u ∈ s.tasks.set i t', u.isAcquire = true) → ∃ u ∈ s.tasks, u.isAcquire = true := by
    rintro ⟨u, hu, huacquire⟩
    obtain hu | rfl := List.mem_or_eq_of_mem_set hu
    · exact ⟨u, hu, huacquire⟩
    · cases hacquire'.symm.trans huacquire
  constructor
  case permits =>
    have hload := load_set permits hi t'
    have hm := hs.permits
    rw [hpermits hacquire, hpermits hacquire'] at hload
    simp only
    omega
  case weight =>
    have hload := load_set weight hi t'
    have hm := hs.weight
    simp only
    omega
  case warmed =>
    intro hexists state hstate
    have hwarmed := hs.warmed (hold hexists)
    obtain hstate | rfl := List.mem_or_eq_of_mem_set hstate
    · exact hwarmed state hstate
    · cases t with
      | warmUp state' => exact absurd (congrArg warmUp (hwarmed state' ht)) (hrunning rfl)
      | _ => cases hkind
  case fresh =>
    intro hnone
    have hwarmUp : t.isWarmUp = false := hkind ▸ (hnone t' (List.mem_set hlt t')).2
    refine hidle hwarmUp (hs.fresh fun u hu => ?_)
    obtain ⟨j, hj⟩ := List.mem_iff_getElem?.mp hu
    by_cases hij : i = j
    · subst hij
      obtain rfl : t = u := Option.some.inj (hi.symm.trans hj)
      exact ⟨hacquire, hwarmUp⟩
    · refine hnone u (List.mem_iff_getElem?.mpr ⟨j, ?_⟩)
      rw [List.getElem?_set_ne hij, hj]

lemma bounded_warmUp {o : Outcome C} {state state' : WarmUpState C}
    (hi : s.tasks[i]? = some (.warmUp state)) (h : state.resume s.inner o = some (state', inner)) :
    Pool.Bounded m ⟨inner, s.tasks.set i (.warmUp state')⟩ := by
  have h := warmUp_resumed h
  exact bounded_set hs hi rfl rfl rfl (fun _ => by simpa using h.running) h.available h.weight nofun

lemma bounded_close (hi : s.tasks[i]? = some (.close state)) (h : state.resume s.inner = some (state', inner)) :
    Pool.Bounded m ⟨inner, s.tasks.set i (.close state')⟩ := by
  cases state with
  | entered | draining =>
    cases h
    exact bounded_set hs hi rfl rfl rfl nofun rfl le_rfl fun _ h => h
  | emptying =>
    cases h
    exact bounded_set hs hi rfl rfl rfl nofun rfl (Nat.zero_le _) fun _ _ => rfl
  | done => cases h

end

variable [AsyncConnection C]

lemma bounded_step (hm : config.maxSize ≤ m) (hs : s.Bounded m) (he : s.Orderly e) (h : s.step config e = some s') :
    s'.Bounded m := by
  cases stepped h with
  | start heq hfresh =>
    subst heq
    exact bounded_start hs hm hfresh he
  | turn hi heffect => exact bounded_turn hs hi heffect
  | warmUp _ hi hresume => exact bounded_warmUp hs hi hresume
  | evict _ hi =>
    refine bounded_set hs hi rfl rfl rfl nofun rfl ?_ fun _ hnil => ?_
    · exact List.length_filter_le _ _
    · simp [evict, lose, withIdle, retained, hnil]
  | close _ hi hresume => exact bounded_close hs hi hresume

theorem committed_le_maxSize (config : PoolConfig) (hsize : 1 ≤ config.maxSize) (es : List (Event C))
    (hes : Meets (Pool.step config) Pool.Orderly (Pool.new config) es) :
    ∀ s ∈ after (Pool.step config) (Pool.new config) es, s.committed ≤ config.maxSize := by
  have hnew : Pool.Bounded config.maxSize (Pool.new config : Pool C) := by
    constructor
    case permits => exact Nat.max_eq_left hsize
    case weight => exact Nat.zero_le _
    case warmed => exact fun _ _ => nofun
    case fresh => exact fun _ => rfl
  intro s hs
  have hbounded := (after_of_meets (fun _ _ _ hs he h => ⟨bounded_step le_rfl hs he h, he⟩) hnew hes).1 s hs
  have hle : load committed s.tasks ≤ load weight s.tasks :=
    load_le_load _ fun t _ => t.committed_le_weight
  have hweight := hbounded.weight
  rw [Pool.committed]
  omega

def warmUpEvents : List (Event SteadyConnection) :=
  .start (.warmUp (.looping 1)) :: List.replicate 4 (.resume 0 sampleOutcome) ++ .start (.acquire .entered) ::
    List.replicate 5 (.resume 1 sampleOutcome) ++ .drop 1 true :: List.replicate 4 (.resume 1 sampleOutcome)

theorem committed_le_maxSize_warmUp :
    (after (Pool.step sampleConfig) (Pool.new sampleConfig) warmUpEvents).length = 16 ∧
      ∀ s ∈ after (Pool.step sampleConfig) (Pool.new sampleConfig) warmUpEvents, s.committed ≤ 2 := by
  refine ⟨rfl, ?_⟩
  apply committed_le_maxSize sampleConfig (by decide)
  rintro _ ⟨⟩
  refine ⟨nofun, ?_⟩
  iterate 4
    rintro _ ⟨⟩
    refine ⟨trivial, ?_⟩
  rintro _ ⟨⟩
  refine ⟨?_, ?_⟩
  · intro state hstate
    simpa [Pool.new] using hstate
  · iterate 10
      rintro _ ⟨⟩
      refine ⟨trivial, ?_⟩
    trivial

lemma permits_step (h : s.step config e = some s') :
    s'.inner.available + load permits s'.tasks = s.inner.available + load permits s.tasks := by
  cases stepped h with
  | @start task _ hfresh =>
    rw [load_append]
    match task with
    | .acquire .entered | .warmUp (.looping _) | .evictExpired _ | .close _ => rfl
  | @turn i state turn hi heffect =>
    have hload := load_conclude hi heffect (f := permits) rfl
    have hturn := heffect.permits
    change _ + AcquireState.permits _ = _ + Turn.holds _ AcquireState.permits at hload
    change turn.inner.available + _ = _
    omega
  | warmUp _ hi hresume => exact congrArg₂ (· + ·) (warmUp_resumed hresume).available (load_set permits hi _)
  | evict _ hi => exact congrArg _ (load_set permits hi _)
  | @close _ _ state _ _ _ hi hresume =>
    cases state <;> cases hresume <;> exact congrArg _ (load_set permits hi _)

theorem permits_conserved (config : PoolConfig) (es : List (Event C)) :
    ∀ s ∈ after (Pool.step config) (Pool.new config) es,
      s.inner.available + load permits s.tasks = max config.maxSize 1 :=
  (after_of_meets (fun _ _ _ hs _ h => ⟨(permits_step h).trans hs, trivial⟩) rfl
    (meets_of_forall (fun _ _ => trivial) _ es)).1

end

theorem permits_conserved_lease :
    (after (Pool.step sampleConfig) (Pool.new sampleConfig) leaseEvents).length = 11 ∧
      ∀ s ∈ after (Pool.step sampleConfig) (Pool.new sampleConfig) leaseEvents,
        s.inner.available + load permits s.tasks = 2 :=
  ⟨rfl, permits_conserved sampleConfig leaseEvents⟩

section

def warmUpTarget (config : PoolConfig) : ℕ := min config.minIdle config.maxSize

namespace WarmUpState

/-- How many connections it creates before it returns. -/
def toCreate (closed : Bool) : WarmUpState C → ℕ
  | .looping n => if closed then 0 else n
  | .creating n => (if closed then 0 else n) + 1
  | .stowing _ n => if closed then 0 else n
  | .done => 0

def toStow (closed : Bool) (state : WarmUpState C) : ℕ := state.toCreate closed + (Task.warmUp state).owned

lemma toCreate_le {closed closed' : Bool} (h : closed = true → closed' = true) (state : WarmUpState C) :
    state.toCreate closed' ≤ state.toCreate closed := by
  have hle : ∀ n : ℕ, (if closed' then 0 else n) ≤ if closed then 0 else n := by
    intro n
    cases closed <;> cases closed' <;> simp_all
  cases state with
  | looping n => exact hle n
  | creating n => exact Nat.succ_le_succ (hle n)
  | stowing idle n => exact hle n
  | done => exact le_rfl

end WarmUpState

namespace Pool

variable (s : Pool C)

def warmUp (config : PoolConfig) : Pool C := { s with tasks := s.tasks ++ [.warmUp (.looping (warmUpTarget config))] }

/-- While task `i`, a `warm_up` whose creations succeed, adds its connections, the others add theirs only where there
is room for them beside its own. -/
def LeavesRoom (live idle i : ℕ) (s : Pool C) (e : Event C) : Prop :=
  (∃ o, e = .resume i o ∧ o.ok = true) ∨
    ∀ state, s.tasks[i]? = some (.warmUp state) →
      ((s.flags e).created = true → s.owned + state.toCreate s.inner.isClosed < live) ∧
        ((s.flags e).stowed = true → s.inner.idleQueue.length + state.toStow s.inner.isClosed < idle)

/-- Task `i` is a `warm_up` that brings the pool to at most `live` connections and `idle` idle ones. -/
def Warming (live idle i : ℕ) : Prop :=
  ∃ state, s.tasks[i]? = some (.warmUp state) ∧ s.owned + state.toCreate s.inner.isClosed ≤ live ∧
    s.inner.idleQueue.length + state.toStow s.inner.isClosed ≤ idle

end Pool

variable {config : PoolConfig} {s s' : Pool C} {e : Event C} {o : Outcome C}

lemma close_resumed {p : PoolInner C} {state state' : CloseState} (h : state.resume p = some (state', inner)) :
    inner.idleQueue.length ≤ p.idleQueue.length ∧ (p.isClosed = true → inner.isClosed = true) := by
  cases state with
  | entered =>
    cases h
    exact ⟨le_rfl, fun _ => rfl⟩
  | draining =>
    cases h
    exact ⟨le_rfl, id⟩
  | emptying =>
    cases h
    exact ⟨Nat.zero_le _, id⟩
  | done => cases h

lemma toStow_resume {p : PoolInner C} {state state' : WarmUpState C} (h : state.resume p o = some (state', inner)) :
    inner.idleQueue.length + state'.toStow inner.isClosed ≤ p.idleQueue.length + state.toStow p.isClosed := by
  cases state with
  | looping n =>
    cases n with
    | zero =>
      cases h
      exact Nat.le_add_right _ _
    | succ n =>
      rw [WarmUpState.resume] at h
      split_ifs at h with hclosed
      · cases h
        exact Nat.le_add_right _ _
      · cases h
        simp [WarmUpState.toStow, WarmUpState.toCreate, Task.owned, hclosed]
  | creating n =>
    rw [WarmUpState.resume] at h
    split_ifs at h
    · cases h
      exact le_rfl
    · cases h
      exact Nat.le_add_right _ _
  | stowing idle n =>
    cases h
    simp only [stow, WarmUpState.toStow, Task.owned, List.length_append, List.length_singleton]
    change _ + (WarmUpState.toCreate p.isClosed (.stowing idle n) + 0) ≤ _
    omega
  | done => cases h

section

variable {state : WarmUpState C} (hi : s.tasks[i]? = some (.warmUp state))

include hi

lemma getElem?_conclude {j : ℕ} {acquire : AcquireState C} {flags : Flags} {turn : Turn C}
    (hj : s.tasks[j]? = some (.acquire acquire)) (heffect : Effect s.waits s.inner acquire j flags turn) :
    (s.conclude j turn).tasks[i]? = some (.warmUp state) := by
  have hne : ∀ {k : ℕ} {acquire : AcquireState C}, s.tasks[k]? = some (.acquire acquire) → k ≠ i := by
    rintro k acquire hk rfl
    cases hk.symm.trans hi
  rw [Pool.conclude, List.getElem?_set_ne (hne hj)]
  cases hsent : turn.sent with
  | none => exact hi
  | some sent => exact (List.getElem?_set_ne (hne (tasks_of_sent hj heffect hsent).1)).trans hi

variable [AsyncConnection C]

/-- What the other tasks do while a `warm_up` runs. -/
lemma others_step (he : ∀ o, e ≠ .resume i o) (h : s.step config e = some s') :
    s'.tasks[i]? = some (.warmUp state) ∧ s'.owned ≤ s.owned + (s.flags e).created.toNat ∧
      s'.inner.idleQueue.length ≤ s.inner.idleQueue.length + (s.flags e).stowed.toNat ∧
      (s.inner.isClosed = true → s'.inner.isClosed = true) := by
  have hne : ∀ {j : ℕ} {o : Outcome C}, e = .resume j o → j ≠ i := by
    rintro j o rfl rfl
    exact he o rfl
  cases stepped h with
  | start _ hfresh =>
    have hlt : i < s.tasks.length := (List.getElem?_eq_some_iff.mp hi).1
    refine ⟨(List.getElem?_append_left hlt).trans hi, ?_, Nat.le_add_right _ _, id⟩
    rw [Pool.owned, load_append, owned_of_fresh hfresh]
    exact Nat.le_add_right _ _
  | @turn j _ turn hj heffect =>
    have hload := load_conclude hj heffect (f := owned) rfl
    have howned := heffect.owned
    have htotal := heffect.total
    refine ⟨getElem?_conclude hi hj heffect, ?_, heffect.idle, fun hclosed => heffect.closed.trans hclosed⟩
    change load owned _ + AcquireState.owned _ = _ + Turn.holds _ AcquireState.owned at hload
    change turn.inner.idleQueue.length + load owned (s.conclude j turn).tasks ≤ _
    rw [Pool.owned]
    omega
  | @warmUp j o _ next inner heq hj hresume =>
    have hresumed := warmUp_resumed hresume
    have hcounted := hresumed.counted
    have htotal := hresumed.total
    have hload := load_set owned hj (.warmUp next)
    rw [heq, flags_warmUp hj]
    refine ⟨(List.getElem?_set_ne (hne heq)).trans hi, ?_, hresumed.idle,
      fun hclosed => hresumed.closed.trans hclosed⟩
    change inner.idleQueue.length + load owned (s.tasks.set j (.warmUp next)) ≤ _ + (WarmUpState.creates o _).toNat
    rw [Pool.owned]
    omega
  | @evict j o heq hj =>
    have hload := load_set owned hj (.evictExpired true)
    have hidle : (retained config s.inner o.now).length ≤ s.inner.idleQueue.length := List.length_filter_le _ _
    refine ⟨(List.getElem?_set_ne (hne heq)).trans hi, ?_, Nat.le_add_right_of_le hidle, id⟩
    exact Nat.le_add_right_of_le (Nat.add_le_add hidle hload.le)
  | @close j o closing next inner heq hj hresume =>
    have hload := load_set owned hj (.close next)
    have hidle := close_resumed hresume
    refine ⟨(List.getElem?_set_ne (hne heq)).trans hi, ?_, Nat.le_add_right_of_le hidle.1, hidle.2⟩
    exact Nat.le_add_right_of_le (Nat.add_le_add hidle.1 hload.le)

end

variable [AsyncConnection C] {live idle : ℕ}

omit [AsyncConnection C] in
private lemma add_toNat_le {b : Bool} {m n : ℕ} (h : m ≤ n) (hlt : b = true → m < n) : m + b.toNat ≤ n := by
  cases b with
  | false => exact h
  | true => exact hlt rfl

lemma warming_step (hs : s.Warming live idle i) (he : s.LeavesRoom live idle i e) (h : s.step config e = some s') :
    s'.Warming live idle i := by
  obtain ⟨state, hi, hlive, hidle⟩ := hs
  by_cases hown : ∃ o, e = .resume i o
  · obtain ⟨o, rfl⟩ := hown
    simp only [Pool.step, Pool.resume, hi, Option.map_eq_some_iff] at h
    obtain ⟨⟨next, inner⟩, hresume, rfl⟩ := h
    have hstow := toStow_resume hresume
    have hload := load_set owned hi (.warmUp next)
    have hlt : i < s.tasks.length := (List.getElem?_eq_some_iff.mp hi).1
    refine ⟨next, List.getElem?_set_self hlt, ?_, ?_⟩
    · simp only [Pool.owned, WarmUpState.toStow] at hlive hstow ⊢
      omega
    · exact hstow.trans hidle
  · rw [not_exists] at hown
    obtain ⟨o, heq, -⟩ | hroom := he
    · exact absurd heq (hown o)
    · obtain ⟨hcreated, hstowed⟩ := hroom state hi
      obtain ⟨hi', howned, hqueue, hclosed⟩ := others_step hi hown h
      have hle := state.toCreate_le hclosed
      refine ⟨state, hi', ?_, ?_⟩
      · have := add_toNat_le hlive hcreated
        omega
      · have := add_toNat_le hidle hstowed
        rw [WarmUpState.toStow] at this ⊢
        omega

/-- A run of `warm_up` in which no creation fails and no other task takes a turn. -/
lemma exists_warmUp_run [Inhabited C] (config : PoolConfig) (live idle : ℕ) (tasks : List (Task C)) (n : ℕ) (p : PoolInner C)
    (hclosed : p.isClosed = false) :
    ∃ es, Meets (Pool.step config) (Pool.LeavesRoom live idle tasks.length) ⟨p, tasks ++ [.warmUp (.looping n)]⟩ es ∧
      ∃ s' ∈ after (Pool.step config) ⟨p, tasks ++ [.warmUp (.looping n)]⟩ es,
        s'.tasks = tasks ++ [.warmUp .done] ∧ s'.inner.idleQueue.length = p.idleQueue.length + n := by
  let o : Outcome C := ⟨0, true, default⟩
  have hstep : ∀ (p : PoolInner C) (state : WarmUpState C), Pool.step config ⟨p, tasks ++ [.warmUp state]⟩
      (.resume tasks.length o) = (state.resume p o).map fun r => ⟨r.2, tasks ++ [.warmUp r.1]⟩ := by
    intro p state
    simp [Pool.step, Pool.resume]
  have hown : ∀ s : Pool C, s.LeavesRoom live idle tasks.length (.resume tasks.length o) := fun s => .inl ⟨o, rfl, rfl⟩
  induction n generalizing p with
  | zero =>
    refine ⟨[.resume tasks.length o], fun _ _ => ⟨hown _, trivial⟩, ⟨p, tasks ++ [.warmUp .done]⟩, ?_, rfl, rfl⟩
    simp [after, hstep, WarmUpState.resume]
  | succ n ih =>
    -- a turn of the loop ends with one more idle connection
    let entry : IdleEntry C := ⟨default, 0, 0⟩
    have hloop : (WarmUpState.looping (n + 1) : WarmUpState C).resume p o = some (.creating n, p) := by
      simp [WarmUpState.resume, hclosed]
    have hcreate : (WarmUpState.creating n : WarmUpState C).resume p o = some (.stowing entry n, p.gain) := rfl
    have hstow : (WarmUpState.stowing entry n : WarmUpState C).resume p.gain o =
        some (.looping n, p.gain.stow entry) := rfl
    obtain ⟨es, hes, s', hs', htasks, hlength⟩ := ih (p.gain.stow entry) hclosed
    let e : Event C := .resume tasks.length o
    refine ⟨e :: e :: e :: es, ?_, s', ?_, htasks, ?_⟩
    · simp only [Meets, e, hstep, hloop, hcreate, hstow, Option.map_some, Option.some.injEq, forall_eq']
      exact ⟨hown _, hown _, hown _, hes⟩
    · simp only [after, e, hstep, hloop, hcreate, hstow, Option.map_some, List.mem_cons]
      exact .inr (.inr (.inr hs'))
    · simp only [hlength, stow, gain, List.length_append, List.length_singleton]
      omega

end

def leasedPool : Pool SteadyConnection :=
  ⟨⟨1, [], [], 1, false⟩, [.acquire (.leased ⟨⟨⟩, 0, false⟩)]⟩

/-- The lease is dropped while the connection is being created. -/
def leaseDroppedEvents : List (Event SteadyConnection) :=
  [.resume 1 sampleOutcome, .use 0 ⟨⟩ true, .drop 0 true, .resume 1 sampleOutcome, .resume 1 sampleOutcome,
    .resume 1 sampleOutcome]

end Voyager.Net
