import Voyager.Lib.Tasks

/-! The connection pool. Its operations are tasks that run in turns; a turn lasts until the next lock is taken or the
next future is awaited. -/

namespace Voyager.Net

open Lib

class AsyncConnection (C : Type) where
  isValid : C → Bool
  isInTransaction : C → Bool

open AsyncConnection

structure PoolConfig where
  minIdle : ℕ
  maxSize : ℕ
  idleTimeout : Option ℕ
  maxLifetime : Option ℕ
  testOnAcquire : Bool

structure IdleEntry (C : Type) where
  conn : C
  createdAt : ℕ
  lastUsedAt : ℕ

structure PooledConnection (C : Type) where
  conn : C
  createdAt : ℕ
  isBroken : Bool

inductive Handover (C : Type) where
  | connection (lease : PooledConnection C)
  | permit

inductive AcquireState (C : Type) where
  | entered
  | trying
  | contending
  | waiting (received : Option (Handover C))
  -- in `obtain_with_permit`
  | obtaining
  | popping
  | creating
  | pinging (idle : IdleEntry C)
  | resetting (idle : IdleEntry C)
  | closing
  | leased (lease : PooledConnection C)
  -- in `return_connection`
  | returning (lease : PooledConnection C)
  | handing (lease : PooledConnection C)
  | stowing (lease : PooledConnection C)
  | releasing
  -- in `handle_permit_return`
  | permitBack
  -- in the background task of a dropped lease
  | rollingBack (lease : PooledConnection C)
  | abandoning
  | done

inductive WarmUpState (C : Type) where
  | looping (remaining : ℕ)
  | creating (remaining : ℕ)
  | stowing (idle : IdleEntry C) (remaining : ℕ)
  | done

inductive CloseState where
  | entered
  | draining
  | emptying
  | done

inductive Task (C : Type) where
  | acquire (state : AcquireState C)
  | warmUp (state : WarmUpState C)
  | evictExpired (finished : Bool)
  | close (state : CloseState)

structure PoolInner (C : Type) where
  available : ℕ
  idleQueue : List (IdleEntry C)
  waiters : List ℕ
  totalConnections : ℤ
  isClosed : Bool

structure Pool (C : Type) where
  inner : PoolInner C
  tasks : List (Task C)

structure Outcome (C : Type) where
  now : ℕ
  ok : Bool
  conn : C

inductive Event (C : Type) where
  | start (task : Task C)
  | resume (i : ℕ) (outcome : Outcome C)
  | use (i : ℕ) (conn : C) (markBroken : Bool)
  | drop (i : ℕ) (runtime : Bool)
  | timeout (i : ℕ) (runtime : Bool)
  | cancel (i : ℕ) (runtime : Bool)

namespace PoolInner

variable {C : Type} (p : PoolInner C)

def takePermit : PoolInner C := { p with available := p.available - 1 }

def release : PoolInner C := { p with available := p.available + 1 }

def gain : PoolInner C := { p with totalConnections := p.totalConnections + 1 }

def lose (n : ℕ) : PoolInner C := { p with totalConnections := p.totalConnections - n }

def stow (idle : IdleEntry C) : PoolInner C := { p with idleQueue := p.idleQueue ++ [idle] }

def withWaiters (waiters : List ℕ) : PoolInner C := { p with waiters }

def withIdle (idleQueue : List (IdleEntry C)) : PoolInner C := { p with idleQueue }

end PoolInner

structure Turn (C : Type) where
  state : AcquireState C
  inner : PoolInner C
  sent : Option (ℕ × Handover C)

section

variable {C : Type} [AsyncConnection C] (config : PoolConfig)

def nextWaiter (waits : ℕ → Bool) : List ℕ → Option (ℕ × List ℕ)
  | [] => none
  | i :: waiters => if waits i then some (i, waiters) else nextWaiter waits waiters

def exceeds (limit : Option ℕ) (since now : ℕ) : Bool := limit.any fun max => now - since > max

variable (p : PoolInner C)

def discard : Turn C := ⟨.closing, p.lose 1, none⟩

variable (idle : IdleEntry C)

def lease : PooledConnection C := ⟨idle.conn, idle.createdAt, false⟩

def checkTransaction : Turn C :=
  if isInTransaction idle.conn then ⟨.resetting idle, p, none⟩
  else if isValid idle.conn then ⟨.leased (lease idle), p, none⟩
  else discard p

def inspect (now : ℕ) : Turn C :=
  if exceeds config.maxLifetime idle.createdAt now then discard p
  else if exceeds config.idleTimeout idle.lastUsedAt now then discard p
  else if config.testOnAcquire then
    if isValid idle.conn then ⟨.pinging idle, p, none⟩ else discard p
  else checkTransaction p idle

def AcquireState.resume (waits : ℕ → Bool) (i : ℕ) (p : PoolInner C) (o : Outcome C) :
    AcquireState C → Option (Turn C)
  | .entered => some (if p.isClosed then ⟨.done, p, none⟩ else ⟨.trying, p, none⟩)
  | .trying => some (if 0 < p.available then ⟨.obtaining, p.takePermit, none⟩ else ⟨.contending, p, none⟩)
  | .contending =>
    some (if 0 < p.available then ⟨.obtaining, p.takePermit, none⟩
      else ⟨.waiting none, p.withWaiters (p.waiters ++ [i]), none⟩)
  | .waiting (some (.connection lease)) => some ⟨.leased lease, p, none⟩
  | .waiting (some .permit) => some ⟨.obtaining, p, none⟩
  -- the sender is gone
  | .waiting none => if i ∈ p.waiters then none else some ⟨.done, p, none⟩
  | .obtaining => some (if p.isClosed then ⟨.done, p.release, none⟩ else ⟨.popping, p, none⟩)
  | .popping =>
    match p.idleQueue with
    | [] => some ⟨.creating, p, none⟩
    | idle :: idleQueue => some (inspect config (p.withIdle idleQueue) idle o.now)
  | .creating =>
    some (if o.ok then ⟨.leased ⟨o.conn, o.now, false⟩, p.gain, none⟩ else ⟨.permitBack, p, none⟩)
  | .pinging idle => some (if o.ok then checkTransaction p { idle with conn := o.conn } else discard p)
  | .resetting idle =>
    some (if o.ok && isValid o.conn then ⟨.leased (lease { idle with conn := o.conn }), p, none⟩ else discard p)
  | .closing => some ⟨.obtaining, p, none⟩
  | .leased _ => none
  | .returning lease =>
    some (if p.isClosed || !isValid lease.conn then ⟨.permitBack, p.lose 1, none⟩ else ⟨.handing lease, p, none⟩)
  | .handing lease =>
    match nextWaiter waits p.waiters with
    | some (j, waiters) =>
      some ⟨.done, p.withWaiters waiters, some (j, .connection { lease with isBroken := false })⟩
    | none => some ⟨.stowing lease, p.withWaiters [], none⟩
  | .stowing lease => some ⟨.releasing, p.stow ⟨lease.conn, lease.createdAt, o.now⟩, none⟩
  | .releasing => some ⟨.done, p.release, none⟩
  | .permitBack =>
    match nextWaiter waits p.waiters with
    | some (j, waiters) => some ⟨.done, p.withWaiters waiters, some (j, .permit)⟩
    | none => some ⟨.done, (p.withWaiters []).release, none⟩
  | .rollingBack lease =>
    some (if o.ok && isValid o.conn && !p.isClosed then ⟨.returning { lease with conn := o.conn }, p, none⟩
      else ⟨.abandoning, p.lose 1, none⟩)
  | .abandoning => some ⟨.permitBack, p, none⟩
  | .done => none

def dropLease (lease : PooledConnection C) (runtime : Bool) : Turn C :=
  if lease.isBroken || p.isClosed || !isValid lease.conn then ⟨.permitBack, p.lose 1, none⟩
  else if isInTransaction lease.conn then
    if runtime then ⟨.rollingBack lease, p, none⟩ else ⟨.permitBack, p.lose 1, none⟩
  else ⟨.returning lease, p, none⟩

variable (runtime : Bool)

def dropReceiver : Option (Handover C) → Turn C
  | none => ⟨.done, p, none⟩
  | some .permit => ⟨.done, p.release, none⟩
  | some (.connection lease) => dropLease p lease runtime

def AcquireState.timeout : AcquireState C → Option (Turn C)
  | .waiting received => some (dropReceiver p runtime received)
  | _ => none

def AcquireState.cancel : AcquireState C → Option (Turn C)
  | .waiting received => some (dropReceiver p runtime received)
  | .creating => some ⟨.done, p.release, none⟩
  | .pinging _ => some ⟨.done, p.release, none⟩
  | .resetting _ => some ⟨.done, p.release, none⟩
  | .closing => some ⟨.done, p.release, none⟩
  | _ => none

def AcquireState.drop : AcquireState C → Option (Turn C)
  | .leased lease => some (dropLease p lease runtime)
  | _ => none

def AcquireState.use (conn : C) (markBroken : Bool) : AcquireState C → Option (Turn C)
  | .leased lease => some ⟨.leased { lease with conn, isBroken := lease.isBroken || markBroken }, p, none⟩
  | _ => none

def WarmUpState.resume (o : Outcome C) : WarmUpState C → Option (WarmUpState C × PoolInner C)
  | .looping 0 => some (.done, p)
  | .looping (n + 1) => some (if p.isClosed then (.done, p) else (.creating n, p))
  | .creating n => some (if o.ok then (.stowing ⟨o.conn, o.now, o.now⟩ n, p.gain) else (.done, p))
  | .stowing idle n => some (.looping n, p.stow idle)
  | .done => none

def retained (now : ℕ) : List (IdleEntry C) :=
  p.idleQueue.filter fun entry =>
    !(exceeds config.idleTimeout entry.lastUsedAt now || exceeds config.maxLifetime entry.createdAt now)

def evict (now : ℕ) : PoolInner C :=
  (p.withIdle (retained config p now)).lose (p.idleQueue.length - (retained config p now).length)

def CloseState.resume : CloseState → Option (CloseState × PoolInner C)
  | .entered => some (.draining, { p with isClosed := true })
  | .draining => some (.emptying, p.withWaiters [])
  | .emptying => some (.done, (p.withIdle []).lose p.idleQueue.length)
  | .done => none

end

namespace Pool

variable {C : Type} [AsyncConnection C] (config : PoolConfig)

variable (s : Pool C)

def waits (i : ℕ) : Bool :=
  match s.tasks[i]? with
  | some (.acquire (.waiting none)) => true
  | _ => false

def conclude (i : ℕ) (turn : Turn C) : Pool C :=
  let tasks :=
    match turn.sent with
    | some (j, handover) => s.tasks.set j (.acquire (.waiting (some handover)))
    | none => s.tasks
  ⟨turn.inner, tasks.set i (.acquire turn.state)⟩

def resume (i : ℕ) (o : Outcome C) : Option (Pool C) :=
  match s.tasks[i]? with
  | some (.acquire state) => (state.resume config s.waits i s.inner o).map (s.conclude i)
  | some (.warmUp state) => (state.resume s.inner o).map fun (state, inner) => ⟨inner, s.tasks.set i (.warmUp state)⟩
  | some (.evictExpired false) => some ⟨evict config s.inner o.now, s.tasks.set i (.evictExpired true)⟩
  | some (.close state) => (state.resume s.inner).map fun (state, inner) => ⟨inner, s.tasks.set i (.close state)⟩
  | _ => none

def befall (i : ℕ) (f : AcquireState C → Option (Turn C)) : Option (Pool C) :=
  match s.tasks[i]? with
  | some (.acquire state) => (f state).map (s.conclude i)
  | _ => none

def fresh : Task C → Bool
  | .acquire .entered => true
  | .warmUp (.looping n) => n = min config.minIdle config.maxSize
  | .evictExpired false => true
  | .close .entered => true
  | _ => false

def step : Event C → Option (Pool C)
  | .start task => if fresh config task then some { s with tasks := s.tasks ++ [task] } else none
  | .resume i o => s.resume config i o
  | .use i conn markBroken => s.befall i (AcquireState.use s.inner conn markBroken)
  | .drop i runtime => s.befall i (AcquireState.drop s.inner runtime)
  | .timeout i runtime => s.befall i (AcquireState.timeout s.inner runtime)
  | .cancel i runtime => s.befall i (AcquireState.cancel s.inner runtime)

def new : Pool C := ⟨⟨max config.maxSize 1, [], [], 0, false⟩, []⟩

end Pool

end Voyager.Net
