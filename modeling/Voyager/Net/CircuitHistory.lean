import Voyager.Net.Circuit

/-! The state of the router, read off the calls that were made of it. Histories have the latest call first. -/

namespace Voyager

open CircuitCall List

inductive Opening
  | threshold | halfOpen | whileOpen | trip
deriving DecidableEq, Repr

namespace CircuitCall

def readings : CircuitCall → List ℕ
  | state now | route now | shouldProbe now | trip now => [now]
  | recordFailure _ now later | recordError _ now later => [later, now]
  | recordSuccess | reset => []

def failed (lower : String → String) : CircuitCall → Option (ℕ × ℕ)
  | recordFailure isTransient now later => if isTransient then some (now, later) else none
  | recordError errorMsg now later => if isSemanticError lower errorMsg then none else some (now, later)
  | _ => none

def tripped : CircuitCall → Option (Opening × ℕ)
  | trip now => some (.trip, now)
  | _ => none

def isSemantic (lower : String → String) : CircuitCall → Bool
  | recordFailure isTransient _ _ => !isTransient
  | recordError errorMsg _ _ => isSemanticError lower errorMsg
  | _ => false

def clears : CircuitCall → Bool
  | recordSuccess | reset => true
  | _ => false

end CircuitCall

namespace CircuitHistory

variable (lower : String → String) (config : CircuitConfig)

def inner : List CircuitCall → CircuitInner
  | [] => .new config
  | call :: earlier => call.run lower (inner earlier)

variable (calls : List CircuitCall)

def failuresSince : ℕ :=
  (calls.takeWhile fun call => !call.clears).countP fun call => (call.failed lower).isSome

def opening (earlier : List CircuitCall) (call : CircuitCall) : Option (Opening × ℕ) :=
  match call.failed lower with
  | some (now, later) =>
    match ((inner lower config earlier).checkAndUpdateState now).state with
    | .closed => if config.failureThreshold ≤ failuresSince lower earlier + 1 then some (.threshold, later) else none
    | .halfOpen => some (.halfOpen, later)
    | .open_ => some (.whileOpen, later)
  | none => call.tripped

def lastOpening (counts : Opening → Bool) : List CircuitCall → Option ℕ
  | [] => none
  | .reset :: _ => none
  | call :: earlier =>
    match opening lower config earlier call with
    | some (kind, t) => if counts kind then some t else lastOpening counts earlier
    | none => lastOpening counts earlier

def Timed (now : ℕ) : Prop := (now :: calls.flatMap CircuitCall.readings).Pairwise (· ≥ ·)

end CircuitHistory

structure CircuitInner.Follows (config : CircuitConfig) (failures : ℕ) (opened : Option ℕ) (latest : ℕ)
    (c : CircuitInner) : Prop where
  sameConfig : c.config = config
  whenClosed : c.state = .closed → c.consecutiveFailures = failures ∧ failures < config.failureThreshold
  whenOpen : c.state = .open_ → ∃ t ≤ latest, c.openedAt = some t ∧ opened = some t
  cooled : c.state ≠ .open_ → ∀ t, opened = some t → t + config.cooldownDuration ≤ latest

section

variable {config : CircuitConfig} {failures now later latest : ℕ} {opened : Option ℕ} {c : CircuitInner}

lemma CircuitInner.checked (c : CircuitInner) (now : ℕ) : c.checkAndUpdateState now = c ∧
        (c.state = .open_ → ∀ t, c.openedAt = some t → now - t < c.config.cooldownDuration) ∨
      c.state = .open_ ∧ (∃ t, c.openedAt = some t ∧ c.config.cooldownDuration ≤ now - t) ∧
        c.checkAndUpdateState now = { c with state := .halfOpen, consecutiveSuccesses := 0 } := by
  rw [checkAndUpdateState]
  split
  · rename_i t hstate hopened
    split_ifs with h
    · exact .inr ⟨hstate, ⟨t, hopened, h⟩, rfl⟩
    · refine .inl ⟨rfl, fun _ t' ht' => ?_⟩
      rw [hopened] at ht'
      cases ht'
      omega
  · rename_i hne
    exact .inl ⟨rfl, fun hstate t ht => absurd ht (hne t hstate)⟩

namespace CircuitInner.Follows

lemma later_clock (h : c.Follows config failures opened latest) (hle : latest ≤ now) :
    c.Follows config failures opened now := by
  refine ⟨h.sameConfig, h.whenClosed, fun hopen => ?_, fun hopen t ht => (h.cooled hopen t ht).trans hle⟩
  obtain ⟨t, ht, h'⟩ := h.whenOpen hopen
  exact ⟨t, ht.trans hle, h'⟩

lemma check (h : c.Follows config failures opened latest) (hle : latest ≤ now) :
    (c.checkAndUpdateState now).Follows config failures opened now := by
  obtain ⟨hc, -⟩ | ⟨hopen, ⟨t, ht, hcool⟩, hc⟩ := c.checked now
  · rw [hc]
    exact h.later_clock hle
  · rw [hc]
    obtain ⟨t', ht', htt, hopened⟩ := h.whenOpen hopen
    rw [ht] at htt
    cases htt
    refine ⟨h.sameConfig, nofun, nofun, fun _ t' ht' => ?_⟩
    rw [hopened] at ht'
    cases ht'
    rw [h.sameConfig] at hcool
    omega

lemma of_opening {t : ℕ} (hconfig : c.config = config) (hopen : c.state = .open_) (ht : c.openedAt = some t) :
    c.Follows config failures (some t) t := by
  refine ⟨hconfig, fun hclosed => ?_, fun _ => ⟨t, le_rfl, ht, rfl⟩, fun hne => absurd hopen hne⟩
  rw [hopen] at hclosed
  cases hclosed

lemma success (hpos : 0 < config.failureThreshold) (h : c.Follows config failures opened latest) :
    c.recordSuccess.Follows config 0 opened latest := by
  have hcool : ∀ {c' : CircuitInner}, c.state ≠ .open_ → c'.config = config → c'.state ≠ .open_ →
      (c'.state = .closed → c'.consecutiveFailures = 0) → c'.Follows config 0 opened latest := by
    intro c' hne hconfig hne' hzero
    exact ⟨hconfig, fun hclosed => ⟨hzero hclosed, hpos⟩, fun hopen => absurd hopen hne', fun _ => h.cooled hne⟩
  rw [recordSuccess]
  split
  · rename_i hstate
    exact hcool (by simp [hstate]) h.sameConfig (by simp [hstate]) fun _ => rfl
  · rename_i hstate
    split_ifs
    · exact hcool (by simp [hstate]) h.sameConfig nofun fun _ => rfl
    · exact hcool (by simp [hstate]) h.sameConfig (by simp [hstate]) (by simp [hstate])
  · rename_i hstate
    refine ⟨h.sameConfig, fun hclosed => ?_, h.whenOpen, h.cooled⟩
    rw [hstate] at hclosed
    cases hclosed

lemma isOpen_iff (h : c.Follows config failures opened latest) (hle : latest ≤ now) :
    (c.checkAndUpdateState now).state = .open_ ↔ ∃ t, opened = some t ∧ now - t < config.cooldownDuration := by
  constructor
  · intro hopen
    obtain ⟨hc, hwarm⟩ | ⟨-, -, hc⟩ := c.checked now
    · rw [hc] at hopen
      obtain ⟨t, -, ht, hopened⟩ := h.whenOpen hopen
      exact ⟨t, hopened, h.sameConfig ▸ hwarm hopen t ht⟩
    · rw [hc] at hopen
      cases hopen
  · rintro ⟨t, hopened, hwarm⟩
    by_contra hne
    have hcool := (h.check hle).cooled hne t hopened
    omega

end CircuitInner.Follows

end

namespace CircuitHistory

variable {lower : String → String} {config : CircuitConfig} {earlier : List CircuitCall} {call : CircuitCall}
  {now later : ℕ}

lemma failuresSince_cons (hclears : call.clears = false) : failuresSince lower (call :: earlier) =
      failuresSince lower earlier + if (call.failed lower).isSome then 1 else 0 := by
  simp only [failuresSince, List.takeWhile_cons, hclears, Bool.not_false, if_true, List.countP_cons]

lemma lastOpening_cons (counts : Opening → Bool) (hreset : call ≠ .reset) :
    lastOpening lower config counts (call :: earlier) =
      match opening lower config earlier call with
      | some (kind, t) => if counts kind then some t else lastOpening lower config counts earlier
      | none => lastOpening lower config counts earlier := by
  cases call with
  | reset => exact absurd rfl hreset
  | _ => rfl

def Followed (lower : String → String) (config : CircuitConfig) (calls : List CircuitCall) (latest : ℕ) : Prop :=
  (inner lower config calls).Follows config (failuresSince lower calls)
    (lastOpening lower config (fun _ => true) calls) latest

lemma followed_failure (hfailed : call.failed lower = some (now, later)) (hclears : call.clears = false)
    (hrun : call.run lower (inner lower config earlier) = (inner lower config earlier).recordFailure true now later)
    (h : Followed lower config earlier now) (hle : now ≤ later) : Followed lower config (call :: earlier) later := by
  have hreset : call ≠ .reset := by
    rintro rfl
    cases hclears
  have hcheck := h.check (le_refl now)
  rw [Followed, inner, hrun, failuresSince_cons hclears, lastOpening_cons _ hreset, opening, hfailed]
  simp only [CircuitInner.recordFailure, Bool.not_true, Bool.false_eq_true, if_false, Option.isSome_some, if_true]
  cases hstate : ((inner lower config earlier).checkAndUpdateState now).state with
  | closed =>
    obtain ⟨hcount, hlt⟩ := hcheck.whenClosed hstate
    simp only [hcheck.sameConfig, hcount]
    split_ifs with hthreshold
    · exact .of_opening rfl rfl rfl
    · refine ⟨rfl, fun _ => ⟨rfl, not_le.mp hthreshold⟩, fun h => absurd h (by simp), fun _ t ht => ?_⟩
      exact (hcheck.cooled (by simp [hstate]) t ht).trans hle
  | halfOpen | open_ => exact .of_opening hcheck.sameConfig rfl rfl

lemma followed_quiet {latest : ℕ} (hfailed : call.failed lower = none) (hclears : call.clears = false)
    (htripped : call.tripped = none)
    (h : (call.run lower (inner lower config earlier)).Follows config (failuresSince lower earlier)
      (lastOpening lower config (fun _ => true) earlier) latest) : Followed lower config (call :: earlier) latest := by
  have hreset : call ≠ .reset := by
    rintro rfl
    cases hclears
  rw [Followed, inner, failuresSince_cons hclears, lastOpening_cons _ hreset, opening, hfailed, htripped]
  exact h

lemma run_semantic (c : CircuitInner) (h : call.isSemantic lower = true) : call.run lower c = c := by
  cases call with
  | recordFailure isTransient now later =>
    rw [isSemantic] at h
    rw [run, CircuitInner.recordFailure, if_pos h]
  | recordError errorMsg now later =>
    rw [isSemantic] at h
    simp [run, CircuitInner.recordError, CircuitInner.recordFailure, h]
  | _ => cases h

lemma Timed.of_cons (h : Timed (call :: earlier) now) : Timed earlier now := by
  refine h.sublist (List.Sublist.cons_cons now ?_)
  rw [flatMap_cons]
  exact sublist_append_right _ _

lemma Timed.reading {t : ℕ} (h : Timed (call :: earlier) now) (ht : t ∈ call.readings) :
    t ≤ now ∧ Timed earlier t := by
  rw [Timed, flatMap_cons, pairwise_cons, pairwise_append] at h
  obtain ⟨hnow, -, hearlier, hcross⟩ := h
  refine ⟨hnow t (mem_append_left _ ht), ?_⟩
  exact List.pairwise_cons.mpr ⟨fun t' ht' => hcross t ht t' ht', hearlier⟩

lemma followed_report {b : Bool} (ih : ∀ {now}, Timed earlier now → Followed lower config earlier now)
    (hreadings : call.readings = [later, now]) (hclears : call.clears = false)
    (hfailed : call.failed lower = if b then some (now, later) else none)
    (htripped : call.tripped = none)
    (hrun : ∀ c, call.run lower c = c.recordFailure b now later) {end_ : ℕ}
    (h : Timed (call :: earlier) end_) : Followed lower config (call :: earlier) end_ := by
  cases b with
  | false =>
    refine followed_quiet hfailed hclears htripped ?_
    rw [hrun]
    exact ih h.of_cons
  | true =>
    obtain ⟨-, hearlier⟩ := h.reading (t := now) (by simp [hreadings])
    obtain ⟨hend, -⟩ := h.reading (t := later) (by simp [hreadings])
    have hle : now ≤ later := by
      rw [Timed, flatMap_cons, hreadings] at h
      have := List.pairwise_cons.mp (List.pairwise_cons.mp h).2
      exact this.1 now (by simp)
    exact (followed_failure hfailed hclears (hrun _) (ih hearlier) hle).later_clock hend

lemma followed (hpos : 0 < config.failureThreshold) (calls : List CircuitCall) {now : ℕ} (h : Timed calls now) :
    Followed lower config calls now := by
  induction calls generalizing now with
  | nil => exact ⟨rfl, fun _ => ⟨rfl, hpos⟩, nofun, nofun⟩
  | cons call earlier ih =>
    have hlook : ∀ t, call.readings = [t] → call.clears = false → call.failed lower = none →
        call.tripped = none → (∀ c, call.run lower c = c.checkAndUpdateState t) →
        Followed lower config (call :: earlier) now := by
      intro t hreadings hclears hfailed htripped hrun
      obtain ⟨hle, hearlier⟩ := h.reading (t := t) (by simp [hreadings])
      refine followed_quiet hfailed hclears htripped ?_
      rw [hrun]
      exact (CircuitInner.Follows.check (ih hearlier) le_rfl).later_clock hle
    cases call with
    | state t | route t | shouldProbe t => exact hlook t rfl rfl rfl rfl fun _ => rfl
    | recordSuccess => exact CircuitInner.Follows.success hpos (ih h.of_cons)
    | recordFailure isTransient first second => exact followed_report ih rfl rfl rfl rfl (fun _ => rfl) h
    | recordError errorMsg first second =>
      refine followed_report (b := !isSemanticError lower errorMsg) ih rfl rfl ?_ rfl (fun _ => rfl) h
      rw [failed]
      cases isSemanticError lower errorMsg
      all_goals rfl
    | trip t =>
      obtain ⟨hle, hearlier⟩ := h.reading (t := t) (by simp [readings])
      have hopened : (run lower (inner lower config earlier) (.trip t)).Follows config
          (failuresSince lower (.trip t :: earlier)) (some t) t :=
        .of_opening (ih hearlier).sameConfig rfl rfl
      exact hopened.later_clock hle
    | reset => exact ⟨(ih h.of_cons).sameConfig, fun _ => ⟨rfl, hpos⟩, nofun, nofun⟩

theorem router_follows_history (lower : String → String) (failureThreshold cooldownDuration threshold : ℕ)
    (calls : List CircuitCall) (now : ℕ) (h : Timed calls now) :
    let config := (CircuitConfig.new failureThreshold cooldownDuration).withSuccessThreshold threshold
    let c := inner lower config calls
    (c.state = .closed → failuresSince lower calls < config.failureThreshold) ∧
      ((c.checkAndUpdateState now).state = .open_ ↔
        ∃ t, lastOpening lower config (fun _ => true) calls = some t ∧ now - t < config.cooldownDuration) ∧
      ∀ call : CircuitCall, call.isSemantic lower = true → call.run lower c = c := by
  intro config c
  have hpos : 0 < config.failureThreshold := lt_max_of_lt_right Nat.one_pos
  have hfollowed : Followed lower config calls now := followed hpos calls h
  refine ⟨fun hclosed => (hfollowed.whenClosed hclosed).2, hfollowed.isOpen_iff le_rfl, fun call hsemantic => ?_⟩
  exact run_semantic c hsemantic

theorem router_follows_history_reopened :
    Timed [.route 20, .recordFailure true 12 12, .route 11, .recordFailure true 1 1] 21 ∧
      ((inner id ((CircuitConfig.new 1 10).withSuccessThreshold 1)
        [.route 20, .recordFailure true 12 12, .route 11, .recordFailure true 1 1]).checkAndUpdateState 21).state =
        .open_ := by
  have htimed : Timed [.route 20, .recordFailure true 12 12, .route 11, .recordFailure true 1 1] 21 := by
    simp [Timed, readings]
  refine ⟨htimed, (router_follows_history id 1 10 1 _ 21 htimed).2.1.mpr ⟨12, ?_, ?_⟩⟩
  · decide
  · decide

theorem late_failure_extends_cooldown :
    Timed [.recordFailure true 5 5, .trip 0] 12 ∧
      ((inner id ((CircuitConfig.new 5 10).withSuccessThreshold 1)
        [.recordFailure true 5 5, .trip 0]).checkAndUpdateState 12).state = .open_ ∧
      ¬ ∃ t, lastOpening id ((CircuitConfig.new 5 10).withSuccessThreshold 1) (fun kind => kind ≠ .whileOpen)
          [.recordFailure true 5 5, .trip 0] = some t ∧ 12 - t < 10 := by
  refine ⟨by simp [Timed, readings], by decide, ?_⟩
  rintro ⟨t, ht, hlt⟩
  have hzero : lastOpening id ((CircuitConfig.new 5 10).withSuccessThreshold 1) (fun kind => kind ≠ .whileOpen)
      [.recordFailure true 5 5, .trip 0] = some 0 := by
    decide
  rw [hzero] at ht
  cases ht
  omega

end CircuitHistory

end Voyager
