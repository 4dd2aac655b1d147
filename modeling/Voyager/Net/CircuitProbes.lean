import Voyager.Lib.Call
import Voyager.Net.Circuit

/-! The requests that the router sends to the native client, and what is reported of them. -/

namespace Voyager

open Lib CircuitInner List Option Bool

/-- A request: the answer of `route`, the period that it falls in, and whether it succeeded once it is reported. -/
structure Request where
  answer : BackendRoute
  period : ℕ
  outcome : Option Bool
deriving DecidableEq, Repr

def Request.probes (period : ℕ) (r : Request) : Bool := r.answer = .probe ∧ r.period = period

def Request.report (r : Request) (ok : Bool) : Request := { r with outcome := some ok }

/-- A router with the requests that it answered; `period` counts the times it has become half open. -/
structure SharedRouter where
  inner : CircuitInner
  requests : List Request
  period : ℕ

structure RouterEvent where
  call : CircuitCall
  request : Option ℕ := none

def CircuitCall.outcome : CircuitCall → Option Bool
  | .recordSuccess => some true
  | .recordFailure _ _ _ | .recordError _ _ _ => some false
  | _ => none

variable (config : CircuitConfig)

namespace SharedRouter

def new : SharedRouter := ⟨.new config, [], 0⟩

variable (s : SharedRouter)

def enter (inner : CircuitInner) : ℕ :=
  if s.inner.state ≠ .halfOpen ∧ inner.state = .halfOpen then s.period + 1 else s.period

def step (lower : String → String) (s : SharedRouter) (e : RouterEvent) : Option SharedRouter :=
  let inner := e.call.run lower s.inner
  let period := s.enter inner
  match e.call.outcome, e.request with
  | some ok, some i =>
    match s.requests[i]? with
    | some r => if r.outcome = none then some ⟨inner, s.requests.set i (r.report ok), period⟩ else none
    | none => none
  | some _, none => some ⟨inner, s.requests, period⟩
  | none, _ =>
    match e.call with
    | .route _ => some ⟨inner, s.requests ++ [⟨inner.route, period, none⟩], period⟩
    | _ => some ⟨inner, s.requests, period⟩

def probes : ℕ := s.requests.countP (·.probes s.period)

def settled : ℕ := s.requests.countP fun r => r.probes s.period && r.outcome.isSome

def succeeded : ℕ := s.requests.countP fun r => r.probes s.period && r.outcome = some true

def SingleProbe : Prop := s.inner.state = .halfOpen → s.settled = 0 → s.probes ≤ 1

/-- Nobody asks for a route between the first probe of a period and the first report of one. -/
def Patient (e : RouterEvent) : Prop :=
  ∀ now, e.call = .route now → s.inner.state = .halfOpen → s.settled = 0 → s.probes = 0

end SharedRouter

open SharedRouter

inductive Routed (s : SharedRouter) (e : RouterEvent) (inner : CircuitInner) : SharedRouter → Prop
  | asked {now : ℕ} (hcall : e.call = .route now) :
      Routed s e inner ⟨inner, s.requests ++ [⟨inner.route, s.enter inner, none⟩], s.enter inner⟩
  | reported {i : ℕ} {r : Request} {ok : Bool} (hcall : e.call.outcome = some ok) (hrequest : e.request = some i)
      (hi : s.requests[i]? = some r) (hpending : r.outcome = none) :
      Routed s e inner ⟨inner, s.requests.set i (r.report ok), s.enter inner⟩
  | other (hcall : ∀ now, e.call ≠ .route now) (hrequest : e.call.outcome.isSome → e.request = none) :
      Routed s e inner ⟨inner, s.requests, s.enter inner⟩

section

variable {lower : String → String} {s s' : SharedRouter} {e : RouterEvent} {inner : CircuitInner}

lemma routed (h : s.step lower e = some s') : Routed s e (e.call.run lower s.inner) s' := by
  rw [step] at h
  split at h
  · rename_i ok i hcall hrequest
    split at h
    · rename_i r hi
      split_ifs at h with hpending
      cases h
      exact .reported hcall hrequest hi hpending
    · cases h
  · rename_i hcall hrequest
    cases h
    refine .other (fun now hroute => ?_) fun _ => hrequest
    rw [hroute] at hcall
    cases hcall
  · rename_i hcall
    split at h
    · rename_i hroute
      cases h
      exact .asked hroute
    · rename_i hroute
      cases h
      exact .other hroute fun hsome => by simp [hcall] at hsome

lemma inner_step (h : s.step lower e = some s') :
    s'.inner = e.call.run lower s.inner ∧ s'.period = s.enter s'.inner := by
  cases routed h with
  | _ => exact ⟨rfl, rfl⟩

lemma SharedRouter.enter_of_halfOpen (h : s.inner.state = .halfOpen) : s.enter inner = s.period := by
  rw [enter, if_neg]
  simp [h]

lemma SharedRouter.enter_of_not_halfOpen (h : s.inner.state ≠ .halfOpen) (h' : inner.state = .halfOpen) :
    s.enter inner = s.period + 1 := by
  rw [enter, if_pos ⟨h, h'⟩]

lemma SharedRouter.le_enter : s.period ≤ s.enter inner := by
  rw [enter]
  split_ifs
  · exact Nat.le_succ _
  · exact le_rfl

def SharedRouter.Dated (s : SharedRouter) : Prop := ∀ r ∈ s.requests, r.period ≤ s.period

lemma dated_step (hs : s.Dated) (h : s.step lower e = some s') : s'.Dated := by
  have hle : ∀ r ∈ s.requests, r.period ≤ s.enter (e.call.run lower s.inner) :=
    fun r hr => (hs r hr).trans le_enter
  cases routed h with
  | asked hcall =>
    intro r hr
    rcases List.mem_append.mp hr with hr | hr
    · exact hle r hr
    · cases List.mem_singleton.mp hr
      exact le_rfl
  | @reported i r ok hcall hrequest hi hpending =>
    intro r' hr
    rcases mem_or_eq_of_mem_set hr with hr | hr
    · exact hle r' hr
    · rw [hr]
      exact hle r (mem_of_getElem? hi)
  | other hcall hrequest => exact hle

lemma dated_new : (SharedRouter.new config).Dated := by
  intro r hr
  cases hr

lemma SharedRouter.Dated.countP_next (hs : s.Dated) (p : Request → Bool) :
    s.requests.countP (fun r => r.probes (s.period + 1) && p r) = 0 := by
  rw [countP_eq_zero]
  intro r hr hprobes
  have hle := hs r hr
  simp only [Request.probes, and_eq_true, decide_eq_true_eq] at hprobes
  omega

variable {requests : List Request}

lemma countP_report {i : ℕ} {r : Request} (hi : requests[i]? = some r) (ok : Bool) (p : Request → Bool) :
    (requests.set i (r.report ok)).countP p + (if p r then 1 else 0) =
      requests.countP p + if p (r.report ok) then 1 else 0 := by
  obtain ⟨hlt, hget⟩ := List.getElem?_eq_some_iff.mp hi
  have hpos : p r = true → 0 < requests.countP p := fun hr => List.countP_pos_iff.mpr ⟨r, mem_of_getElem? hi, hr⟩
  rw [countP_set hlt, hget]
  split_ifs with hr
  · have := hpos hr
    omega
  · have := hpos hr
    omega
  all_goals omega

lemma probes_report {i : ℕ} {r : Request} (hi : requests[i]? = some r) (ok : Bool) (period : ℕ) :
    (requests.set i (r.report ok)).countP (·.probes period) = requests.countP (·.probes period) := by
  have h := countP_report hi ok (·.probes period)
  have hsame : (r.report ok).probes period = r.probes period := rfl
  simp only [hsame] at h
  omega

variable {c : CircuitInner}

lemma check_of_halfOpen (h : c.state = .halfOpen) (now : ℕ) : c.checkAndUpdateState now = c := by
  rw [checkAndUpdateState, h]

lemma single_of_entered (hd : s.Dated) (hne : s.inner.state ≠ .halfOpen) (h : s.step lower e = some s') :
    s'.SingleProbe := by
  intro hopen _
  have hnext : s.requests.countP (·.probes (s.period + 1)) = 0 := by simpa using hd.countP_next fun _ => true
  cases routed h with
  | asked hcall =>
    rw [probes, enter_of_not_halfOpen hne hopen, countP_append, hnext, Nat.zero_add]
    exact countP_le_length
  | @reported i r ok hcall hrequest hi hpending =>
    rw [probes, enter_of_not_halfOpen hne hopen, probes_report hi, hnext]
    exact Nat.zero_le 1
  | other hcall hrequest =>
    rw [probes, enter_of_not_halfOpen hne hopen, hnext]
    exact Nat.zero_le 1

lemma single_step (hd : s.Dated) (hs : s.SingleProbe) (h : s.step lower e = some s') :
    s'.SingleProbe ↔ s.Patient e := by
  by_cases hopen : s.inner.state = .halfOpen
  · have hquiet : (∀ now, e.call ≠ .route now) → s.Patient e := fun hcall now hroute => absurd hroute (hcall now)
    cases routed h with
    | asked hcall =>
      have hinner : e.call.run lower s.inner = s.inner := by
        rw [hcall]
        exact check_of_halfOpen hopen _
      rw [hinner, SharedRouter.SingleProbe, settled, probes]
      simp only [enter_of_halfOpen hopen, countP_append, route, hopen]
      have hprobe : [(⟨.probe, s.period, none⟩ : Request)].countP (·.probes s.period) = 1 := by
        simp [Request.probes]
      have hsettled : [(⟨.probe, s.period, none⟩ : Request)].countP
          (fun r => r.probes s.period && r.outcome.isSome) = 0 := by
        simp
      rw [hprobe, hsettled]
      constructor
      · intro hsingle now _ _ hzero
        have := hsingle trivial hzero
        rw [probes]
        omega
      · intro hpatient _ hzero
        have := hpatient _ hcall hopen hzero
        rw [probes] at this
        omega
    | @reported i r ok hcall hrequest hi hpending =>
      have hroute : ∀ now, e.call ≠ .route now := by
        intro now hroute
        rw [hroute] at hcall
        cases hcall
      refine ⟨fun _ => hquiet hroute, fun _ _ hsettled => ?_⟩
      have hcount := countP_report hi ok fun r => r.probes s.period && r.outcome.isSome
      rw [settled] at hsettled
      simp only [enter_of_halfOpen hopen] at hsettled
      rw [hsettled, hpending] at hcount
      rw [probes]
      simp only [enter_of_halfOpen hopen, probes_report hi]
      refine hs hopen ?_
      rw [settled]
      simp at hcount
      omega
    | other hcall hrequest =>
      refine ⟨fun _ => hquiet hcall, fun _ _ hsettled => ?_⟩
      rw [settled, enter_of_halfOpen hopen] at hsettled
      rw [probes, enter_of_halfOpen hopen]
      exact hs hopen hsettled
  · refine ⟨fun _ _ _ hopen' => absurd hopen' hopen, fun _ => single_of_entered hd hopen h⟩

theorem single_probe (lower : String → String) (config : CircuitConfig) (es : List RouterEvent) :
    Meets (SharedRouter.step lower) SharedRouter.Patient (.new config) es ↔
      ∀ s ∈ after (SharedRouter.step lower) (.new config) es, s.SingleProbe := by
  have hiff : Meets (step lower) SharedRouter.Patient (.new config) es ↔
      ∀ s ∈ after (step lower) (.new config) es, s.Dated ∧ s.SingleProbe := by
    refine meets_iff_forall_after (fun s e s' hs h => ?_) ⟨dated_new config, nofun⟩ es
    rw [and_iff_right (dated_step hs.1 h)]
    exact single_step hs.1 hs.2 h
  have hdated : ∀ s ∈ after (step lower) (.new config) es, s.Dated :=
    (after_of_meets (fun _ _ _ hs _ h => ⟨dated_step hs h, trivial⟩) (dated_new config)
      (meets_of_forall (fun _ _ => trivial) _ es)).1
  rw [hiff]
  exact ⟨fun h s hs => (h s hs).2, fun h s hs => ⟨hdated s hs, h s hs⟩⟩

namespace SharedRouter

/-- While the router is half open, only the probes of the period report a success. -/
def Genuine (s : SharedRouter) (e : RouterEvent) : Prop :=
  s.inner.state = .halfOpen → e.call = .recordSuccess →
    (e.request.bind fun i => s.requests[i]?).any (·.probes s.period) = true

/-- If the router closes, then enough probes of the period have succeeded, unless it is reset. -/
def Evidenced (lower : String → String) (s : SharedRouter) (e : RouterEvent) : Prop :=
  ∀ s', s.step lower e = some s' → s.inner.state = .halfOpen → s'.inner.state = .closed → e.call ≠ .reset →
    s.inner.config.successThreshold ≤ s'.succeeded

def Counted (s : SharedRouter) : Prop := s.inner.state = .halfOpen → s.inner.consecutiveSuccesses = s.succeeded

end SharedRouter

lemma run_of_halfOpen {call : CircuitCall} (h : c.state = .halfOpen) (hcall : call ≠ .recordSuccess) :
    call.run lower c = c ∨ (call.run lower c).state = .open_ ∨ call = .reset := by
  have hfailure : ∀ b now later,
      c.recordFailure b now later = c ∨ (c.recordFailure b now later).state = .open_ := by
    intro b now later
    cases b with
    | false => exact .inl rfl
    | true =>
      refine .inr ?_
      simp [recordFailure, check_of_halfOpen h, h]
  cases call with
  | state now | route now | shouldProbe now => exact .inl (check_of_halfOpen h now)
  | recordSuccess => exact absurd rfl hcall
  | recordFailure b now later => exact (hfailure b now later).imp id .inl
  | recordError errorMsg now later => exact (hfailure _ now later).imp id .inl
  | trip now => exact .inr (.inl rfl)
  | reset => exact .inr (.inr rfl)

lemma run_enters {call : CircuitCall} (h : c.state ≠ .halfOpen) (h' : (call.run lower c).state = .halfOpen) :
    (call.run lower c).consecutiveSuccesses = 0 := by
  have hcheck : ∀ now, (c.checkAndUpdateState now).state = .halfOpen →
      (c.checkAndUpdateState now).consecutiveSuccesses = 0 := by
    intro now
    rw [checkAndUpdateState]
    split
    · split_ifs
      · exact fun _ => rfl
      · exact fun h' => absurd h' h
    · exact fun h' => absurd h' h
  have hfailure : ∀ b now later, (c.recordFailure b now later).state ≠ .halfOpen := by
    intro b now later
    cases b with
    | false => exact h
    | true =>
      simp only [recordFailure, Bool.not_true, Bool.false_eq_true, if_false]
      cases hstate : (c.checkAndUpdateState now).state with
      | closed =>
        split_ifs
        all_goals simp
      | halfOpen => simp
      | open_ => simp
  cases call with
  | state now | route now | shouldProbe now => exact hcheck now h'
  | recordSuccess =>
    rw [CircuitCall.run, recordSuccess] at h'
    cases hstate : c.state with
    | halfOpen => exact absurd hstate h
    | _ => simp [hstate] at h'
  | recordFailure b now later => exact absurd h' (hfailure b now later)
  | recordError errorMsg now later => exact absurd h' (hfailure _ now later)
  | trip now => cases h'
  | reset => cases h'

lemma succeeded_same {period : ℕ} (hcall : e.call ≠ .recordSuccess) (h : s.step lower e = some s') :
    s'.requests.countP (fun r => r.probes period && r.outcome = some true) =
      s.requests.countP fun r => r.probes period && r.outcome = some true := by
  cases routed h with
  | asked hroute => simp [countP_append]
  | @reported i r ok hreport hrequest hi hpending =>
    have hfalse : ok = false := by
      cases hok : e.call with
      | recordSuccess => exact absurd hok hcall
      | _ =>
        rw [hok] at hreport
        cases hreport
        try rfl
    have hcount := countP_report hi ok fun r => r.probes period && r.outcome = some true
    simpa [hpending, hfalse, Request.report] using hcount
  | other hroute hrequest => rfl

lemma counted_of_entered (hd : s.Dated) (hne : s.inner.state ≠ .halfOpen) (h : s.step lower e = some s') :
    s'.Counted := by
  intro hopen
  obtain ⟨hinner, hperiod⟩ := inner_step h
  rw [enter_of_not_halfOpen hne hopen] at hperiod
  rw [hinner] at hopen ⊢
  have hcall : e.call ≠ .recordSuccess := by
    intro hcall
    rw [hcall, CircuitCall.run, recordSuccess] at hopen
    cases hstate : s.inner.state with
    | halfOpen => exact hne hstate
    | _ => simp [hstate] at hopen
  rw [run_enters hne hopen, succeeded, hperiod, succeeded_same hcall h]
  exact (hd.countP_next _).symm

lemma succeeded_of_success (hopen : s.inner.state = .halfOpen) (hcall : e.call = .recordSuccess)
    (hgenuine : s.Genuine e) (h : s.step lower e = some s') : s'.succeeded = s.succeeded + 1 := by
  have hprobe := hgenuine hopen hcall
  obtain ⟨hinner, hperiod⟩ := inner_step h
  rw [enter_of_halfOpen hopen] at hperiod
  rw [succeeded, hperiod]
  cases routed h with
  | asked hroute => cases hcall.symm.trans hroute
  | @reported i r ok hreport hrequest hi hpending =>
    rw [hcall] at hreport
    cases hreport
    rw [hrequest, bind_some, hi, any_some] at hprobe
    have hcount := countP_report hi true fun r => r.probes s.period && r.outcome = some true
    have hpast : (r.probes s.period && decide (r.outcome = some true)) = false := by simp [hpending]
    have hnow : ((r.report true).probes s.period && decide ((r.report true).outcome = some true)) = true := by
      have hreported : (r.report true).probes s.period = true := hprobe
      rw [hreported]
      rfl
    simp only [hpast, hnow, Bool.false_eq_true, if_false, if_true, Nat.add_zero] at hcount
    exact hcount
  | other hroute hrequest =>
    rw [hrequest (by rw [hcall]; rfl)] at hprobe
    cases hprobe

lemma counted_step (hd : s.Dated) (hs : s.Counted) (hgenuine : s.Genuine e) (h : s.step lower e = some s') :
    s'.Counted ∧ s.Evidenced lower e := by
  by_cases hopen : s.inner.state = .halfOpen
  · obtain ⟨hinner, hperiod⟩ := inner_step h
    rw [enter_of_halfOpen hopen] at hperiod
    have hcount := hs hopen
    by_cases hcall : e.call = .recordSuccess
    · have hsucceeded := succeeded_of_success hopen hcall hgenuine h
      rw [hcall, CircuitCall.run, recordSuccess, hopen] at hinner
      constructor
      · intro hopen'
        rw [hinner] at hopen' ⊢
        split_ifs at hopen' ⊢ with hthreshold
        rw [hsucceeded, ← hcount]
      · intro t ht _ hclosed _
        cases h.symm.trans ht
        rw [hinner] at hclosed
        split_ifs at hclosed with hthreshold
        rw [hsucceeded, ← hcount]
        exact hthreshold
    · have hsucceeded : s'.succeeded = s.succeeded := by
        rw [succeeded, hperiod, succeeded_same hcall h, succeeded]
      have hcases : e.call.run lower s.inner = s.inner ∨ (e.call.run lower s.inner).state = .open_ ∨ e.call = .reset :=
        run_of_halfOpen hopen hcall
      rcases hcases with hrun | hrun | hreset
      · rw [hrun] at hinner
        refine ⟨fun _ => by rw [hinner, hsucceeded, hcount], fun t ht _ hclosed _ => ?_⟩
        cases h.symm.trans ht
        rw [hinner, hopen] at hclosed
        cases hclosed
      · rw [← hinner] at hrun
        refine ⟨fun hopen' => ?_, fun t ht _ hclosed _ => ?_⟩
        · cases hrun.symm.trans hopen'
        · cases h.symm.trans ht
          cases hrun.symm.trans hclosed
      · rw [hreset] at hinner
        refine ⟨fun hopen' => ?_, fun _ _ _ _ hne => absurd hreset hne⟩
        rw [hinner] at hopen'
        cases hopen'
  · exact ⟨counted_of_entered hd hopen h, fun _ _ hopen' => absurd hopen' hopen⟩

theorem closes_on_probes (lower : String → String) (config : CircuitConfig) (es : List RouterEvent)
    (hes : Meets (SharedRouter.step lower) SharedRouter.Genuine (.new config) es) :
    Meets (SharedRouter.step lower) (SharedRouter.Evidenced lower) (.new config) es := by
  have hstep : ∀ (s : SharedRouter) e (s' : SharedRouter), s.Dated ∧ s.Counted → s.Genuine e →
      s.step lower e = some s' → (s'.Dated ∧ s'.Counted) ∧ s.Evidenced lower e := by
    intro s e s' hs hgenuine h
    obtain ⟨hcounted, hevidenced⟩ := counted_step hs.1 hs.2 hgenuine h
    exact ⟨⟨dated_step hs.1 h, hcounted⟩, hevidenced⟩
  exact (after_of_meets hstep ⟨dated_new config, nofun⟩ hes).2

end

theorem two_probes :
    ∃ s ∈ after (SharedRouter.step id) (.new (.new 1 10)) [⟨.trip 0, none⟩, ⟨.route 10, none⟩, ⟨.route 11, none⟩],
      s.inner.state = .halfOpen ∧ s.requests = [⟨.probe, 1, none⟩, ⟨.probe, 1, none⟩] := by
  refine ⟨⟨⟨.halfOpen, 1, 0, some 0, .new 1 10⟩, [⟨.probe, 1, none⟩, ⟨.probe, 1, none⟩], 1⟩, ?_, rfl, rfl⟩
  exact mem_of_getLast? rfl

def probedEvents : List RouterEvent := [⟨.trip 0, none⟩, ⟨.route 10, none⟩, ⟨.recordSuccess, some 0⟩]

theorem closes_on_probes_probed :
    Meets (SharedRouter.step id) SharedRouter.Genuine (.new (.new 1 10)) probedEvents ∧
      Meets (SharedRouter.step id) (SharedRouter.Evidenced id) (.new (.new 1 10)) probedEvents := by
  have hes : Meets (step id) SharedRouter.Genuine (.new (.new 1 10)) probedEvents := by
    rintro _ ⟨⟩
    refine ⟨nofun, ?_⟩
    rintro _ ⟨⟩
    refine ⟨nofun, ?_⟩
    rintro _ ⟨⟩
    exact ⟨fun _ _ => rfl, trivial⟩
  exact ⟨hes, closes_on_probes id (.new 1 10) probedEvents hes⟩

/-- A request that was routed before the router opened is reported while it is half open. -/
def lateSuccessEvents : List RouterEvent :=
  [⟨.route 0, none⟩, ⟨.route 0, none⟩, ⟨.recordFailure true 1 1, some 1⟩, ⟨.route 11, none⟩, ⟨.recordSuccess, some 0⟩]

theorem late_success_closes :
    ((after (SharedRouter.step id) (.new (.new 1 10)) lateSuccessEvents).map
        fun s => (s.inner.state, s.requests, s.succeeded)).drop 3 =
      [(.halfOpen, [⟨.native, 0, none⟩, ⟨.native, 0, some false⟩, ⟨.probe, 1, none⟩], 0),
        (.closed, [⟨.native, 0, some true⟩, ⟨.native, 0, some false⟩, ⟨.probe, 1, none⟩], 0)] := by
  rfl

end Voyager
