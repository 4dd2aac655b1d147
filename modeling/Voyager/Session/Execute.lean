import Voyager.Net.Circuit

namespace Voyager

structure Exc where
  message : String

inductive Backend
  | native | auto | bridge
deriving DecidableEq

structure Attempt (α : Type) where
  effect : Bool
  outcome : Except Exc α

inductive ExecutionResult (R B : Type)
  | stream (result : R)
  | records (records : B)

structure Surroundings (R B F A : Type) where
  requestedBackend : Backend
  hasNativeClient : Bool
  bridgeIsMock : Bool
  isExplicitMock : Bool
  lower : String → String
  clock : ℕ → ℕ
  native : ℕ → Attempt R
  bridge : ℕ → Attempt B
  bridgeToPolars : ℕ → Attempt F
  toPolars : R → Except Exc F
  toArrow : R → Except Exc A
  resultToArrow : ExecutionResult R B → Except Exc A

/-- The circuit, the looks at the clock, the requests so far and how many of them took effect. -/
structure CallState where
  circuit : CircuitInner
  ticks : ℕ
  natives : ℕ
  bridges : ℕ
  effects : ℕ

abbrev CallM (α : Type) := ExceptT Exc (StateM CallState) α

namespace Surroundings

variable {R B F A α : Type} (env : Surroundings R B F A)

def now : CallM ℕ := do
  let s ← get
  set { s with ticks := s.ticks + 1 }
  return env.clock s.ticks

def updateCircuit (f : CircuitInner → CircuitInner) : CallM Unit := modify fun s => { s with circuit := f s.circuit }

def circuitState : CallM CircuitState := do
  let now ← env.now
  updateCircuit (·.checkAndUpdateState now)
  return (← get).circuit.state

def shouldRouteNative : CallM Bool := do
  let now ← env.now
  updateCircuit (·.checkAndUpdateState now)
  return (← get).circuit.route.shouldRouteNative

def isQuerySemanticError (e : Exc) : Bool := isSemanticError env.lower e.message

def recordNativeSuccess : CallM Unit := do
  let _ ← env.circuitState
  updateCircuit (·.recordSuccess)

def recordNativeFailure (e : Exc) : CallM Unit := do
  let _ ← env.circuitState
  let now ← env.now
  let later ← env.now
  updateCircuit (·.recordFailure (!env.isQuerySemanticError e) now later)

def received (attempt : Attempt α) : CallM α := do
  modify fun s => { s with effects := s.effects + attempt.effect.toNat }
  liftM attempt.outcome

def executeSync : CallM R := do
  let s ← get
  set { s with natives := s.natives + 1 }
  received (env.native s.natives)

def bridgeExecute : CallM B := do
  let s ← get
  set { s with bridges := s.bridges + 1 }
  received (env.bridge s.bridges)

def bridgeExecuteToPolars : CallM F := do
  let s ← get
  set { s with bridges := s.bridges + 1 }
  received (env.bridgeToPolars s.bridges)

def noDriver (e : Exc) : Exc :=
  ⟨"Native backend execution failed: " ++ e.message ++ ". No official database driver available for fallback."⟩

def handleNative (e : Exc) : CallM Unit :=
  if env.requestedBackend = .native ∨ env.isQuerySemanticError e = true then throw e
  else if env.bridgeIsMock && !env.isExplicitMock then throw (noDriver e)
  else env.recordNativeFailure e

def attemptNative (convert : R → Except Exc α) : CallM α := do
  let result ← env.executeSync
  env.recordNativeSuccess
  liftM (convert result)

def tryNative (convert : R → Except Exc α) : CallM (Option α) := do
  if env.hasNativeClient ∧ env.requestedBackend ≠ .bridge then
    if ← env.shouldRouteNative then
      tryCatch (some <$> env.attemptNative convert) fun e => do
        env.handleNative e
        return none
    else return none
  else return none

def execute : CallM (ExecutionResult R B) := do
  match ← env.tryNative (fun result => .ok (.stream result)) with
  | some result => return result
  | none => return .records (← env.bridgeExecute)

def executeToPolars : CallM F := do
  match ← env.tryNative env.toPolars with
  | some frame => return frame
  | none => env.bridgeExecuteToPolars

def executeToArrow : CallM A := do
  match ← env.tryNative env.toArrow with
  | some table => return table
  | none =>
    let result ← env.execute
    liftM (env.resultToArrow result)

end Surroundings

end Voyager
