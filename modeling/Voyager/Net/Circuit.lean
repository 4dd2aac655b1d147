import Mathlib.Tactic

/-! The router between the native client and the bridge. Instants are natural numbers. -/

namespace Voyager

inductive CircuitState
  | closed | open_ | halfOpen
deriving DecidableEq, Repr

inductive BackendRoute
  | native | fallback | probe
deriving DecidableEq, Repr

def BackendRoute.shouldRouteNative : BackendRoute → Bool
  | native | probe => true
  | fallback => false

def semanticPatterns : List String :=
  ["syntaxerror", "syntax error", "semanticerror", "constraintvalidationfailed", "parametermissing", "typeerror",
    "entitynotfound", "unknown function", "invalid input", "already exists", "does not exist",
    "violates unique constraint", "violates not-null constraint", "violates foreign key constraint"]

variable (lower : String → String)

def findSemanticPattern (errorMsg : String) : Option String :=
  semanticPatterns.find? fun pattern => decide (pattern.toList <:+: (lower errorMsg).toList)

def isSemanticError (errorMsg : String) : Bool :=
  (findSemanticPattern lower errorMsg).isSome

structure CircuitConfig where
  failureThreshold : ℕ
  cooldownDuration : ℕ
  successThreshold : ℕ

variable (config : CircuitConfig)

namespace CircuitConfig

def new (failureThreshold cooldownDuration : ℕ) : CircuitConfig := ⟨max failureThreshold 1, cooldownDuration, 1⟩

def withSuccessThreshold (threshold : ℕ) : CircuitConfig :=
  { config with successThreshold := max threshold 1 }

end CircuitConfig

structure CircuitInner where
  state : CircuitState
  consecutiveFailures : ℕ
  consecutiveSuccesses : ℕ
  openedAt : Option ℕ
  config : CircuitConfig

variable (c : CircuitInner)

namespace CircuitInner

def new : CircuitInner := ⟨.closed, 0, 0, none, config⟩

def checkAndUpdateState (now : ℕ) : CircuitInner :=
  match c.state, c.openedAt with
  | .open_, some openedAt =>
    if c.config.cooldownDuration ≤ now - openedAt then { c with state := .halfOpen, consecutiveSuccesses := 0 }
    else c
  | _, _ => c

def route : BackendRoute :=
  match c.state with
  | .closed => .native
  | .open_ => .fallback
  | .halfOpen => .probe

def recordSuccess : CircuitInner :=
  match c.state with
  | .closed => { c with consecutiveFailures := 0 }
  | .halfOpen =>
    if c.config.successThreshold ≤ c.consecutiveSuccesses + 1 then
      { c with state := .closed, consecutiveFailures := 0, consecutiveSuccesses := 0, openedAt := none }
    else { c with consecutiveSuccesses := c.consecutiveSuccesses + 1 }
  | .open_ => c

def recordFailure (isTransient : Bool) (now later : ℕ) : CircuitInner :=
  if !isTransient then c
  else
    let c := c.checkAndUpdateState now
    let failures := c.consecutiveFailures + 1
    match c.state with
    | .closed =>
      if c.config.failureThreshold ≤ failures then
        { c with state := .open_, consecutiveFailures := failures, openedAt := some later, consecutiveSuccesses := 0 }
      else { c with consecutiveFailures := failures }
    | .halfOpen =>
      { c with state := .open_, consecutiveFailures := failures, openedAt := some later, consecutiveSuccesses := 0 }
    | .open_ => { c with consecutiveFailures := failures, openedAt := some later }

def recordError (errorMsg : String) (now later : ℕ) : CircuitInner :=
  c.recordFailure (!isSemanticError lower errorMsg) now later

def trip (now : ℕ) : CircuitInner :=
  { c with
    state := .open_, openedAt := some now, consecutiveSuccesses := 0, consecutiveFailures := c.consecutiveFailures + 1 }

def reset : CircuitInner :=
  { c with state := .closed, consecutiveFailures := 0, consecutiveSuccesses := 0, openedAt := none }

end CircuitInner

inductive CircuitCall
  | state (now : ℕ)
  | route (now : ℕ)
  | shouldProbe (now : ℕ)
  | recordSuccess
  | recordFailure (isTransient : Bool) (now later : ℕ)
  | recordError (errorMsg : String) (now later : ℕ)
  | trip (now : ℕ)
  | reset
deriving DecidableEq, Repr

namespace CircuitCall

def run : CircuitCall → CircuitInner
  | state now | route now | shouldProbe now => c.checkAndUpdateState now
  | recordSuccess => c.recordSuccess
  | recordFailure isTransient now later => c.recordFailure isTransient now later
  | recordError errorMsg now later => c.recordError lower errorMsg now later
  | trip now => c.trip now
  | reset => c.reset

end CircuitCall

end Voyager
