import Voyager.Net.Pool

/-! What one turn does to the permits, the connections and the waiters of a pool. -/

namespace Voyager.Net

open Lib AsyncConnection PoolInner AcquireState

variable {C : Type}

namespace AcquireState

def permits : AcquireState C → ℕ
  | .entered => 0
  | .trying => 0
  | .contending => 0
  | .waiting none => 0
  | .done => 0
  | _ => 1

def owned : AcquireState C → ℕ
  | .waiting (some (.connection _)) => 1
  | .pinging _ => 1
  | .resetting _ => 1
  | .leased _ => 1
  | .returning _ => 1
  | .handing _ => 1
  | .stowing _ => 1
  | .rollingBack _ => 1
  | _ => 0

def committed : AcquireState C → ℕ
  | .creating => 1
  | state => state.owned

def isReleasing : AcquireState C → Bool
  | .releasing => true
  | _ => false

def isStowing : AcquireState C → Bool
  | .stowing _ => true
  | _ => false

def joins (p : PoolInner C) : AcquireState C → Bool
  | .contending => p.available = 0
  | _ => false

def dropsPermit : AcquireState C → Bool
  | .waiting (some .permit) => true
  | .creating => true
  | .pinging _ => true
  | .resetting _ => true
  | .closing => true
  | _ => false

def isChecking : AcquireState C → Bool
  | .pinging _ => true
  | .resetting _ => true
  | _ => false

def creates (o : Outcome C) : AcquireState C → Bool
  | .creating => o.ok
  | _ => false

lemma committed_le_permits (state : AcquireState C) : state.committed ≤ state.permits := by
  match state with
  | .waiting (some (.connection _)) => exact le_rfl
  | .waiting (some .permit) => exact Nat.zero_le _
  | .waiting none => exact le_rfl
  | .entered | .trying | .contending | .done | .obtaining | .popping | .closing | .releasing | .permitBack |
    .abandoning => exact Nat.zero_le _
  | .creating | .pinging _ | .resetting _ | .leased _ | .returning _ | .handing _ | .stowing _ | .rollingBack _ =>
    exact le_rfl

@[simp] lemma permits_done : (done : AcquireState C).permits = 0 := rfl

@[simp] lemma owned_done : (done : AcquireState C).owned = 0 := rfl

@[simp] lemma committed_done : (done : AcquireState C).committed = 0 := rfl

@[simp] lemma permits_obtaining : (obtaining : AcquireState C).permits = 1 := rfl

@[simp] lemma owned_obtaining : (obtaining : AcquireState C).owned = 0 := rfl

@[simp] lemma committed_obtaining : (obtaining : AcquireState C).committed = 0 := rfl

end AcquireState

def Turn.holds (turn : Turn C) (f : AcquireState C → ℕ) : ℕ :=
  f turn.state +
    match turn.sent with
    | some (_, handover) => f (.waiting (some handover))
    | none => 0

attribute [local simp] Turn.holds

structure Flags where
  released : Bool
  joined : Bool
  stowed : Bool
  checking : Bool
  created : Bool

def Flags.none : Flags := ⟨false, false, false, false, false⟩

@[simp] lemma Flags.checking_none : Flags.none.checking = false := rfl

inductive QueueEffect (p : PoolInner C) (state : AcquireState C) (i : ℕ) (flags : Flags) (turn : Turn C) : Prop where
  | kept (hreleased : flags.released = false) (hjoined : flags.joined = false)
      (hwaiters : ∀ j ∈ turn.inner.waiters, j ∈ p.waiters) (havailable : turn.inner.available ≤ p.available)
      (hstate : turn.state ≠ .waiting none)
  | emptied (hreleased : flags.released = false) (hjoined : flags.joined = false) (hwaiters : turn.inner.waiters = [])
      (hstate : turn.state ≠ .waiting none)
  | joined (hreleased : flags.released = false) (hjoined : flags.joined = true)
      (hwaiters : turn.inner.waiters = p.waiters ++ [i]) (havailable : turn.inner.available = 0)
  | released (hreleased : flags.released = true ∨ p.isClosed = true) (hjoined : flags.joined = false)
      (hwaits : state ≠ .waiting none) (hwaiters : turn.inner.waiters = p.waiters) (hsent : turn.sent = none)
      (havailable : turn.inner.available = p.available + 1) (hstate : turn.state ≠ .waiting none)

structure Effect (waits : ℕ → Bool) (p : PoolInner C) (state : AcquireState C) (i : ℕ) (flags : Flags)
    (turn : Turn C) : Prop where
  permits : turn.inner.available + turn.holds AcquireState.permits = p.available + state.permits
  owned : turn.inner.totalConnections + p.idleQueue.length + state.owned =
    p.totalConnections + turn.inner.idleQueue.length + turn.holds AcquireState.owned + flags.checking.toNat
  committed : turn.inner.idleQueue.length + turn.holds AcquireState.committed ≤
    p.idleQueue.length + state.committed ∨ turn.inner.idleQueue = []
  closed : turn.inner.isClosed = p.isClosed
  total : turn.inner.totalConnections ≤ p.totalConnections + flags.created.toNat
  idle : turn.inner.idleQueue.length ≤ p.idleQueue.length + flags.stowed.toNat
  stowed : flags.stowed = true → turn.inner.idleQueue ≠ []
  sent : ∀ j handover, turn.sent = some (j, handover) → waits j = true ∧ state ≠ .waiting none
  queue : QueueEffect p state i flags turn

section

variable {waits : ℕ → Bool} {p : PoolInner C} {state : AcquireState C} {i : ℕ}

lemma Effect.quiet {flags : Flags} {turn : Turn C} (hsent : turn.sent = none)
    (hidle : turn.inner.idleQueue = p.idleQueue) (hclosed : turn.inner.isClosed = p.isClosed)
    (hstowed : flags.stowed = false)
    (hpermits : turn.inner.available + turn.state.permits = p.available + state.permits)
    (howned : turn.inner.totalConnections + state.owned =
      p.totalConnections + turn.state.owned + flags.checking.toNat)
    (htotal : turn.inner.totalConnections ≤ p.totalConnections + flags.created.toNat)
    (hcommitted : turn.state.committed ≤ state.committed) (hqueue : QueueEffect p state i flags turn) :
    Effect waits p state i flags turn where
  permits := by simpa [hsent] using hpermits
  owned := by
    simp only [Turn.holds, hsent, hidle]
    omega
  committed := .inl (by simpa [hsent, hidle] using hcommitted)
  closed := hclosed
  total := htotal
  idle := by simp [hidle]
  stowed := by simp [hstowed]
  sent := by simp [hsent]
  queue := hqueue

lemma queue_kept {turn : Turn C} (hwaiters : turn.inner.waiters = p.waiters)
    (havailable : turn.inner.available ≤ p.available) (hstate : turn.state ≠ .waiting none) :
    QueueEffect p state i .none turn :=
  .kept rfl rfl (fun _ hj => hwaiters ▸ hj) havailable hstate

variable {state' : AcquireState C}

lemma effect_of_same (hpermits : state'.permits = state.permits) (howned : state'.owned = state.owned)
    (hcommitted : state'.committed ≤ state.committed) (hstate : state' ≠ .waiting none) :
    Effect waits p state i .none ⟨state', p, none⟩ :=
  .quiet rfl rfl rfl rfl (by rw [hpermits]) (by simp [howned]) (Int.le_add_of_nonneg_right (Int.natCast_nonneg _)) hcommitted
    (queue_kept rfl le_rfl hstate)

lemma effect_of_lose (hpermits : state'.permits = state.permits) (howned : state.owned = 1)
    (hcommitted : state'.committed = 0) (hstate : state' ≠ .waiting none) :
    Effect waits p state i .none ⟨state', p.lose 1, none⟩ := by
  have howned' : state'.owned = 0 := by
    cases state' with
    | creating => rfl
    | _ => exact hcommitted
  refine .quiet rfl rfl rfl rfl (by simp [lose, hpermits]) ?_ (by simp [lose, Flags.none]) (by simp [hcommitted])
    (queue_kept rfl le_rfl hstate)
  simp [lose, howned, howned']

lemma effect_of_release {released checking : Bool} (hpermits : state.permits = 1)
    (howned : state.owned = checking.toNat) (hreleased : released = true ∨ p.isClosed = true)
    (hstate : state ≠ .waiting none) :
    Effect waits p state i ⟨released, false, false, checking, false⟩ ⟨.done, p.release, none⟩ :=
  .quiet rfl rfl rfl rfl (by simp [release, hpermits]) (by simp [release, howned]) (by simp [release])
    (Nat.zero_le _) (.released hreleased rfl hstate rfl rfl rfl nofun)

lemma effect_of_take (hpermits : state.permits = 0) (howned : state.owned = 0) (havailable : 0 < p.available) :
    Effect waits p state i .none ⟨.obtaining, p.takePermit, none⟩ := by
  refine .quiet rfl rfl rfl rfl ?_ (by simp [takePermit, howned]) (by simp [takePermit, Flags.none]) (Nat.zero_le _)
    (queue_kept rfl (Nat.sub_le _ _) nofun)
  simp only [takePermit, hpermits, permits_obtaining]
  omega

lemma nextWaiter_some {j : ℕ} {queue rest : List ℕ} (h : nextWaiter waits queue = some (j, rest)) :
    waits j = true ∧ ∀ k ∈ rest, k ∈ queue := by
  induction queue with
  | nil => cases h
  | cons k queue ih =>
    rw [nextWaiter] at h
    split_ifs at h with hk
    · cases h
      exact ⟨hk, fun _ => List.mem_cons_of_mem _⟩
    · obtain ⟨hj, hrest⟩ := ih h
      exact ⟨hj, fun k hk => List.mem_cons_of_mem _ (hrest k hk)⟩

lemma effect_of_send {handover : Handover C} {j : ℕ} {rest : List ℕ}
    (hnext : nextWaiter waits p.waiters = some (j, rest)) (hpermits : state.permits = 1)
    (howned : state.owned = AcquireState.owned (.waiting (some handover))) (hstate : state ≠ .waiting none) :
    Effect waits p state i .none ⟨.done, p.withWaiters rest, some (j, handover)⟩ := by
  obtain ⟨hj, hrest⟩ := nextWaiter_some hnext
  have hcommitted : AcquireState.owned (.waiting (some handover)) ≤ state.committed := by
    rw [← howned]
    cases state with
    | creating => exact Nat.zero_le _
    | _ => exact le_rfl
  have hwaiting : permits (.waiting (some handover)) = 1 := by cases handover <;> rfl
  constructor
  case permits =>
    simp only [Turn.holds, withWaiters, hpermits, hwaiting]
    rfl
  case owned => simp [withWaiters, howned]
  case committed =>
    left
    simp only [Turn.holds, withWaiters]
    exact Nat.add_le_add_left ((Nat.zero_add _).le.trans hcommitted) _
  case closed => rfl
  case total => simp [withWaiters, Flags.none]
  case idle => exact le_rfl
  case stowed => exact nofun
  case sent =>
    rintro _ _ h
    cases h
    exact ⟨hj, hstate⟩
  case queue => exact .kept rfl rfl hrest le_rfl nofun

variable {turn : Turn C}

variable {idle : IdleEntry C}

lemma Effect.of_pop {rest : List (IdleEntry C)} (hidle : p.idleQueue = idle :: rest)
    (h : Effect waits (p.withIdle rest) (.pinging idle) i .none turn) :
    Effect waits p .popping i .none turn := by
  have hlength : p.idleQueue.length = rest.length + 1 := by rw [hidle, List.length_cons]
  constructor
  case permits => exact h.permits
  case owned =>
    have := h.owned
    simp only [withIdle, AcquireState.owned] at this ⊢
    omega
  case committed =>
    refine h.committed.imp (fun hle => ?_) id
    simp only [withIdle, AcquireState.committed, AcquireState.owned] at hle ⊢
    omega
  case closed => exact h.closed
  case total => exact h.total
  case idle =>
    have hle : turn.inner.idleQueue.length ≤ rest.length := h.idle
    exact hle.trans (hlength ▸ Nat.le_succ _)
  case stowed => exact nofun
  case sent => exact fun j handover hsent => ⟨(h.sent j handover hsent).1, nofun⟩
  case queue =>
    cases h.queue with
    | kept hreleased hjoined hwaiters havailable hstate => exact .kept hreleased hjoined hwaiters havailable hstate
    | emptied hreleased hjoined hwaiters hstate => exact .emptied hreleased hjoined hwaiters hstate
    | joined _ hjoined _ _ => cases hjoined
    | released hreleased hjoined _ hwaiters hsent havailable hstate =>
      exact .released hreleased hjoined nofun hwaiters hsent havailable hstate

variable [AsyncConnection C]

lemma effect_checkTransaction (hpermits : state.permits = 1) (howned : state.owned = 1)
    (hcommitted : state.committed = 1) : Effect waits p state i .none (checkTransaction p idle) := by
  rw [checkTransaction]
  split_ifs
  · exact effect_of_same hpermits.symm howned.symm hcommitted.ge nofun
  · exact effect_of_same hpermits.symm howned.symm hcommitted.ge nofun
  · exact effect_of_lose hpermits.symm howned rfl nofun

variable {runtime : Bool} {lease : PooledConnection C}

lemma effect_dropLease (hpermits : state.permits = 1) (howned : state.owned = 1) (hcommitted : state.committed = 1) :
    Effect waits p state i .none (dropLease p lease runtime) := by
  rw [dropLease]
  split_ifs
  · exact effect_of_lose hpermits.symm howned rfl nofun
  · exact effect_of_same hpermits.symm howned.symm hcommitted.ge nofun
  · exact effect_of_lose hpermits.symm howned rfl nofun
  · exact effect_of_same hpermits.symm howned.symm hcommitted.ge nofun

lemma effect_dropReceiver {received : Option (Handover C)} :
    Effect waits p (.waiting received) i ⟨dropsPermit (.waiting received), false, false, false, false⟩
      (dropReceiver p runtime received) := by
  match received with
  | none => exact effect_of_same rfl rfl le_rfl nofun
  | some .permit => exact effect_of_release rfl rfl (.inl rfl) nofun
  | some (.connection lease) => exact effect_dropLease rfl rfl rfl

variable (config : PoolConfig)

lemma effect_inspect {now : ℕ} : Effect waits p (.pinging idle) i .none (inspect config p idle now) := by
  rw [inspect]
  split_ifs
  · exact effect_of_lose rfl rfl rfl nofun
  · exact effect_of_lose rfl rfl rfl nofun
  · exact effect_of_same rfl rfl le_rfl nofun
  · exact effect_of_lose rfl rfl rfl nofun
  · exact effect_checkTransaction rfl rfl rfl

variable {o : Outcome C}

lemma effect_popping (h : resume config waits i p o .popping = some turn) : Effect waits p .popping i .none turn := by
  rw [resume] at h
  split at h
  · rename_i hidle
    cases h
    -- a connection is created only when none is idle
    constructor
    case permits => rfl
    case owned => simp [AcquireState.owned]
    case committed => exact .inr hidle
    case closed => rfl
    case total => simp [Flags.none]
    case idle => exact le_rfl
    case stowed => exact nofun
    case sent => exact nofun
    case queue => exact queue_kept rfl le_rfl nofun
  · rename_i hidle
    cases h
    exact .of_pop hidle (effect_inspect config)

omit [AsyncConnection C] in
lemma effect_emptied {inner : PoolInner C} {state' : AcquireState C} (hwaiters : inner.waiters = [])
    (hidle : inner.idleQueue = p.idleQueue) (hclosed : inner.isClosed = p.isClosed)
    (htotal : inner.totalConnections = p.totalConnections) (howned : state'.owned = state.owned)
    (hcommitted : state'.committed ≤ state.committed)
    (hpermits : inner.available + state'.permits = p.available + state.permits) (hstate : state' ≠ .waiting none) :
    Effect waits p state i .none ⟨state', inner, none⟩ :=
  .quiet rfl hidle hclosed rfl hpermits (by simp [htotal, howned]) (by simp [htotal, Flags.none]) hcommitted
    (.emptied rfl rfl hwaiters hstate)

lemma effect_handing (h : resume config waits i p o (.handing lease) = some turn) :
    Effect waits p (.handing lease) i .none turn := by
  rw [resume] at h
  split at h
  · rename_i hnext
    cases h
    exact effect_of_send hnext rfl rfl nofun
  · cases h
    exact effect_emptied rfl rfl rfl rfl rfl le_rfl rfl nofun

lemma effect_permitBack
    (h : resume config waits i p o .permitBack = some turn) : Effect waits p .permitBack i .none turn := by
  rw [resume] at h
  split at h
  · rename_i hnext
    cases h
    exact effect_of_send hnext rfl rfl nofun
  · cases h
    exact effect_emptied rfl rfl rfl rfl rfl le_rfl rfl nofun

lemma effect_contending (h : resume config waits i p o .contending = some turn) :
    Effect waits p .contending i ⟨false, joins p .contending, false, false, false⟩ turn := by
  rw [resume] at h
  split_ifs at h with havailable
  · cases h
    have hjoins : joins p .contending = false := by simpa [joins] using havailable.ne'
    rw [hjoins]
    exact effect_of_take rfl rfl havailable
  · cases h
    have hzero : p.available = 0 := Nat.eq_zero_of_not_pos havailable
    refine .quiet rfl rfl rfl rfl rfl ?_ (by simp [withWaiters]) le_rfl (.joined rfl (by simpa [joins] using hzero) rfl hzero)
    simp [AcquireState.owned, withWaiters]

lemma effect_creating (h : resume config waits i p o .creating = some turn) :
    Effect waits p .creating i ⟨false, false, false, false, o.ok⟩ turn := by
  rw [resume] at h
  split_ifs at h with hok
  · cases h
    refine .quiet rfl rfl rfl rfl rfl ?_ (by simp [gain, hok]) le_rfl (.kept rfl rfl (fun _ hj => hj) le_rfl nofun)
    simp [gain, AcquireState.owned]
  · cases h
    rw [Bool.not_eq_true] at hok
    rw [hok]
    exact effect_of_same rfl rfl (Nat.zero_le _) nofun

lemma effect_stowing (h : resume config waits i p o (.stowing lease) = some turn) :
    Effect waits p (.stowing lease) i ⟨false, false, true, false, false⟩ turn := by
  cases h
  have hlength : ∀ idle, (p.stow idle).idleQueue.length = p.idleQueue.length + 1 := by simp [stow]
  constructor
  case permits => rfl
  case owned =>
    simp only [stow, Turn.holds, AcquireState.owned, List.length_append, List.length_singleton,
      Bool.toNat_false]
    omega
  case committed => exact .inl (hlength _).le
  case closed => rfl
  case total => simp [stow]
  case idle => exact (hlength _).le
  case stowed =>
    intro _ hnil
    simp [stow] at hnil
  case sent => exact nofun
  case queue => exact .kept rfl rfl (fun _ hj => hj) le_rfl nofun

omit [AsyncConnection C] in
lemma effect_ite {flags : Flags} {c : Prop} [Decidable c] {yes no : Turn C} (h : some (if c then yes else no) = some turn)
    (hyes : c → Effect waits p state i flags yes) (hno : ¬c → Effect waits p state i flags no) :
    Effect waits p state i flags turn := by
  cases h
  split_ifs with hc
  · exact hyes hc
  · exact hno hc

lemma effect_resume (h : state.resume config waits i p o = some turn) :
    Effect waits p state i ⟨state.isReleasing, state.joins p, state.isStowing, false, state.creates o⟩ turn := by
  match state with
  | .entered =>
    exact effect_ite h (fun _ => effect_of_same rfl rfl le_rfl nofun) fun _ => effect_of_same rfl rfl le_rfl nofun
  | .trying => exact effect_ite h (effect_of_take rfl rfl) fun _ => effect_of_same rfl rfl le_rfl nofun
  | .contending => exact effect_contending config h
  | .waiting none =>
    rw [resume] at h
    split_ifs at h
    cases h
    exact effect_of_same rfl rfl le_rfl nofun
  | .obtaining =>
    exact effect_ite h (fun hclosed => effect_of_release rfl rfl (.inr hclosed) nofun)
      fun _ => effect_of_same rfl rfl le_rfl nofun
  | .popping => exact effect_popping config h
  | .creating => exact effect_creating config h
  | .pinging idle =>
    exact effect_ite h (fun _ => effect_checkTransaction rfl rfl rfl) fun _ => effect_of_lose rfl rfl rfl nofun
  | .resetting idle | .rollingBack lease =>
    exact effect_ite h (fun _ => effect_of_same rfl rfl le_rfl nofun) fun _ => effect_of_lose rfl rfl rfl nofun
  | .returning lease =>
    exact effect_ite h (fun _ => effect_of_lose rfl rfl rfl nofun) fun _ => effect_of_same rfl rfl le_rfl nofun
  | .handing lease => exact effect_handing config h
  | .stowing lease => exact effect_stowing config h
  | .releasing =>
    cases h
    exact effect_of_release rfl rfl (.inl rfl) nofun
  | .permitBack => exact effect_permitBack config h
  | .waiting (some (.connection _)) | .waiting (some .permit) | .closing | .abandoning =>
    cases h
    exact effect_of_same rfl rfl le_rfl nofun
  | .leased _ | .done => cases h

lemma effect_timeout (h : state.timeout p runtime = some turn) :
    Effect waits p state i ⟨state.dropsPermit, false, false, false, false⟩ turn := by
  cases state with
  | waiting received =>
    cases h
    exact effect_dropReceiver
  | _ => cases h

lemma effect_cancel (h : state.cancel p runtime = some turn) :
    Effect waits p state i ⟨state.dropsPermit, false, false, state.isChecking, false⟩ turn := by
  cases state with
  | waiting received =>
    cases h
    exact effect_dropReceiver
  | creating | pinging | resetting | closing =>
    cases h
    exact effect_of_release rfl rfl (.inl rfl) nofun
  | _ => cases h

lemma effect_drop (h : state.drop p runtime = some turn) : Effect waits p state i .none turn := by
  cases state with
  | leased lease =>
    cases h
    exact effect_dropLease rfl rfl rfl
  | _ => cases h

omit [AsyncConnection C] in
lemma effect_use {conn : C} {markBroken : Bool} (h : state.use p conn markBroken = some turn) :
    Effect waits p state i .none turn := by
  cases state with
  | leased lease =>
    cases h
    exact effect_of_same rfl rfl le_rfl nofun
  | _ => cases h

end

end Voyager.Net
