import Voyager.Redis.Connection
import Voyager.Redis.Falkor

/-! Transactions of FalkorDB: `MULTI`, queued queries, then `EXEC` or `DISCARD`. -/

namespace Voyager.Redis

open Lib Net

structure RedisTransaction where
  session : Session
  isActive : Bool
  queuedCount : ℕ
  accumulatedSummary : QuerySummary

def Session.enterTransaction (s : Session) : Session :=
  { s with connection := { s.connection with inTransaction := true } }

namespace RedisTransaction

section

variable {Params Result Batch : Type} (lib : Library Params Result) (texts : Texts)

def begin : Call Session NetError RedisTransaction := do
  let resp ← executeRaw lib ["MULTI"]
  match resp with
  | .simpleString "OK" =>
    Call.modify Session.enterTransaction
    return ⟨← Call.get, true, 0, .empty⟩
  | .error err => Call.fail (.transactionError s!"Failed to begin Redis transaction (MULTI): {err}")
  | other => Call.fail (.protocolError s!"Unexpected response to MULTI: {lib.debug other}")

def onSession {α : Type} : Call Session NetError α → Call RedisTransaction NetError α :=
  Call.on session fun t s => { t with session := s }

def finish (t : RedisTransaction) : RedisTransaction :=
  { t with session := t.session.leaveTransaction, isActive := false }

def execute (defaultGraph query : String) (params : Params) : Call RedisTransaction NetError (QueryResult Batch) := do
  let t ← Call.get
  if !t.isActive then Call.fail (.transactionError "Cannot execute query on inactive transaction")
  else
    let resp ← onSession (executeRaw lib ["GRAPH.QUERY", defaultGraph, lib.formatCypherWithParams query params])
    match resp with
    | .simpleString "QUEUED" =>
      Call.modify fun t => { t with queuedCount := t.queuedCount + 1 }
      return ⟨[], [], .empty⟩
    | .error err => Call.fail (.executionError s!"Failed to queue query in transaction: {err}")
    | other => Call.fail (.protocolError s!"Expected +QUEUED in transaction, got {lib.debug other}")

variable (total : QuerySummary)

def addSummary (summary : QuerySummary) : QuerySummary :=
  { total with
    nodesCreated := total.nodesCreated + summary.nodesCreated
    nodesDeleted := total.nodesDeleted + summary.nodesDeleted
    relationshipsCreated := total.relationshipsCreated + summary.relationshipsCreated
    relationshipsDeleted := total.relationshipsDeleted + summary.relationshipsDeleted
    propertiesSet := total.propertiesSet + summary.propertiesSet
    labelsAdded := total.labelsAdded + summary.labelsAdded
    labelsRemoved := total.labelsRemoved + summary.labelsRemoved
    indexesAdded := total.indexesAdded + summary.indexesAdded
    executionTimeMs := total.executionTimeMs + summary.executionTimeMs }

def addResult (item : RespValue) : QuerySummary :=
  match FalkorQueryResult.parse texts item with
  | .ok res => addSummary total (res.statistics.toQuerySummary texts)
  | .error _ => total

def commitReply (accumulated : QuerySummary) : RespValue → Except NetError QuerySummary
  | .array (some results) => .ok (results.foldl (addResult texts) accumulated)
  | .array none => .error (.transactionError "Transaction was aborted (EXEC returned null)")
  | .error err => .error (.transactionError s!"Transaction EXEC failed: {err}")
  | other => .error (.protocolError s!"Unexpected response to EXEC: {lib.debug other}")

def commit : Call RedisTransaction NetError QuerySummary := do
  let t ← Call.get
  if !t.isActive then Call.fail (.transactionError "Transaction is already completed")
  else
    let resp ← onSession (executeRaw lib ["EXEC"])
    Call.modify finish
    match commitReply lib texts t.accumulatedSummary resp with
    | .ok summary => return summary
    | .error e => Call.fail e

def rollback : Call RedisTransaction NetError Unit := do
  let t ← Call.get
  if !t.isActive then return
  else
    let resp ← onSession (executeRaw lib ["DISCARD"])
    Call.modify finish
    match resp with
    | .simpleString "OK" => return
    | .error err => Call.fail (.transactionError s!"Failed to discard transaction: {err}")
    | other => Call.fail (.protocolError s!"Unexpected response to DISCARD: {lib.debug other}")

end

section

variable {Params Result : Type} {lib : Library Params Result} {texts : Texts} {t t' : RedisTransaction} {s : Session}
  {reply : RespValue} {summary : QuerySummary}

lemma commit_of_exec (hactive : t.isActive = true) (hexec : executeRaw lib ["EXEC"] t.session = (.ok reply, s)) :
    commit lib texts t =
      ((commitReply lib texts t.accumulatedSummary reply).mapError .error, finish { t with session := s }) := by
  have hrun : onSession (executeRaw lib ["EXEC"]) t = (.ok reply, { t with session := s }) := by
    rw [onSession, Call.on, hexec]
  rw [commit, Call.get_bind, hactive]
  simp only [Bool.not_true, Bool.false_eq_true, if_false]
  rw [Call.bind_of_ok hrun]
  change (match commitReply lib texts t.accumulatedSummary reply with
    | .ok summary => pure summary
    | .error e => Call.fail e : Call RedisTransaction NetError QuerySummary) (finish { t with session := s }) = _
  cases commitReply lib texts t.accumulatedSummary reply <;> rfl

lemma isActive_of_commit (h : commit lib texts t = (.ok summary, t')) : t.isActive = true := by
  rw [commit, Call.get_bind] at h
  cases hactive : t.isActive with
  | true => rfl
  | false =>
    rw [hactive] at h
    cases h

lemma commitReply_ok {accumulated : QuerySummary} (h : commitReply lib texts accumulated reply = .ok summary) :
    ∃ results, reply = .array (some results) ∧ summary = results.foldl (addResult texts) accumulated := by
  unfold commitReply at h
  split at h
  · cases h
    exact ⟨_, rfl, rfl⟩
  all_goals cases h

/-- The commit succeeds only on an array without a failed query, and its summary counts every element. -/
def CommitReports (lib : Library Params Result) (texts : Texts) (t : RedisTransaction) (reply : RespValue) : Prop :=
  ∀ summary t', commit lib texts t = (.ok summary, t') → ∃ results parsed, reply = .array (some results) ∧
    (∀ r ∈ results, ∀ e, r ≠ .error e) ∧
    List.Forall₂ (fun r res => FalkorQueryResult.parse texts r = .ok res) results parsed ∧
    summary = parsed.foldl (fun total res => addSummary total (res.statistics.toQuerySummary texts)) t.accumulatedSummary

lemma foldl_addResult {results : List RespValue} (hresults : ∀ r ∈ results, r.isResult = true) (total : QuerySummary) :
    ∃ parsed, List.Forall₂ (fun r res => FalkorQueryResult.parse texts r = .ok res) results parsed ∧
      results.foldl (addResult texts) total =
        parsed.foldl (fun total res => addSummary total (res.statistics.toQuerySummary texts)) total := by
  induction results generalizing total with
  | nil => exact ⟨[], .nil, rfl⟩
  | cons r results ih =>
    have hok := (FalkorQueryResult.parse_isOk_iff texts r).mpr (hresults r List.mem_cons_self)
    cases hparse : FalkorQueryResult.parse texts r with
    | error e =>
      rw [hparse] at hok
      cases hok
    | ok res =>
      have hadd : addResult texts total r = addSummary total (res.statistics.toQuerySummary texts) := by
        rw [addResult, hparse]
      obtain ⟨parsed, hparsed, hsum⟩ := ih (fun r hr => hresults r (List.mem_cons_of_mem _ hr)) (addResult texts total r)
      refine ⟨res :: parsed, .cons hparse hparsed, ?_⟩
      rw [List.foldl_cons, List.foldl_cons, hsum, hadd]

lemma commitReply_of_commit (hexec : executeRaw lib ["EXEC"] t.session = (.ok reply, s))
    (hcommit : commit lib texts t = (.ok summary, t')) :
    commitReply lib texts t.accumulatedSummary reply = .ok summary := by
  rw [commit_of_exec (isActive_of_commit hcommit) hexec] at hcommit
  cases hreply : commitReply lib texts t.accumulatedSummary reply with
  | ok sum =>
    rw [hreply] at hcommit
    cases hcommit
    rfl
  | error e =>
    rw [hreply] at hcommit
    cases hcommit

theorem commit_reports_failures (lib : Library Params Result) (texts : Texts) (t : RedisTransaction) (s : Session)
    (reply : RespValue) (hexec : executeRaw lib ["EXEC"] t.session = (.ok reply, s)) :
    CommitReports lib texts t reply ↔
      (t.isActive = true → ∀ results, reply = .array (some results) → ∀ r ∈ results, r.isResult = true) := by
  constructor
  · rintro h hactive results rfl
    obtain ⟨_, parsed, hsame, -, hparsed, -⟩ := h _ _ (commit_of_exec hactive hexec)
    cases hsame
    have hresult : ∀ r res, FalkorQueryResult.parse texts r = .ok res →
        r.isResult = true ∧ FalkorQueryResult.parse texts r = .ok res := fun r res hres =>
      ⟨(FalkorQueryResult.parse_isOk_iff texts r).mp (by rw [hres]; rfl), hres⟩
    exact ((List.forall₂_and_left _ _).mp (hparsed.imp hresult)).1
  · intro hresults summary t' hcommit
    obtain ⟨results, rfl, hsum⟩ := commitReply_ok (commitReply_of_commit hexec hcommit)
    have hall := hresults (isActive_of_commit hcommit) results rfl
    obtain ⟨parsed, hparsed, htotal⟩ := foldl_addResult hall t.accumulatedSummary
    refine ⟨results, parsed, rfl, ?_, hparsed, hsum.trans htotal⟩
    rintro r hr e rfl
    cases hall _ hr

end

def plainTexts : Texts where
  std := ⟨fun _ => "", fun _ => .ok 0⟩
  unicode := .ascii
  lossy bytes := .ofList (bytes.map fun b => Char.ofNat b.toNat)
  f64Text _ := ""
  debug _ := ""
  roundF64 _ := 0

def plainLibrary : Library Unit FalkorQueryResult where
  std := plainTexts.std
  debug _ := ""
  durationText := toString
  formatCypherWithParams query _ := query
  falkorParse := FalkorQueryResult.parse plainTexts

def answeredBy (bytes : Bytes) : RedisTransaction where
  session := ⟨⟨⟨[], []⟩, true, true, none⟩, [.data bytes], [.done], [], []⟩
  isActive := true
  queuedCount := 1
  accumulatedSummary := .empty

def createdTwo : Bytes :=
  [42, 49, 13, 10, 42, 49, 13, 10, 42, 49, 13, 10, 36, 49, 54, 13, 10, 78, 111, 100, 101, 115, 32, 99, 114, 101,
    97, 116, 101, 100, 58, 32, 50, 13, 10]

def createdTwoReply : RespValue :=
  .array (some [.array (some [.array (some [.bulkString (some ((createdTwo.drop 17).take 16))])])])

theorem commit_reports_created :
    (executeRaw plainLibrary ["EXEC"] (answeredBy createdTwo).session).1 = .ok createdTwoReply ∧
      (∃ summary t', commit plainLibrary plainTexts (answeredBy createdTwo) = (.ok summary, t')) ∧
      CommitReports plainLibrary plainTexts (answeredBy createdTwo) createdTwoReply := by
  refine ⟨rfl, ⟨_, _, rfl⟩, ?_⟩
  refine (commit_reports_failures plainLibrary plainTexts (answeredBy createdTwo) _ createdTwoReply rfl).mpr ?_
  intro _ results h r hr
  cases h
  obtain rfl := List.mem_singleton.mp hr
  rfl

def failedQuery : Bytes := [42, 49, 13, 10, 45, 69, 82, 82, 13, 10]

theorem commit_hides_failure :
    (executeRaw plainLibrary ["EXEC"] (answeredBy failedQuery).session).1 = .ok (.array (some [.error "ERR"])) ∧
      (commit plainLibrary plainTexts (answeredBy failedQuery)).1 = .ok .empty ∧
      ¬CommitReports plainLibrary plainTexts (answeredBy failedQuery) (.array (some [.error "ERR"])) := by
  refine ⟨rfl, rfl, fun h => ?_⟩
  obtain ⟨results, -, hresults, herrors, -⟩ := h .empty (commit plainLibrary plainTexts (answeredBy failedQuery)).2 rfl
  cases hresults
  exact herrors _ List.mem_cons_self "ERR" rfl

end RedisTransaction

end Voyager.Redis
