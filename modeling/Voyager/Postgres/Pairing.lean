import Voyager.Postgres.Connection

namespace Voyager.Postgres

open Lib Net Call

inductive Op where
  | executeSimple (query : String)
  | execute (query : String) (params : Params)
  | ping
  | reset

structure Use where
  op : Op
  writes : List Written
  arrivals : Source

def Session.Paired (s : Session) : Prop := s.readied = s.sent.length

def Session.begin (s : Session) (u : Use) : Session :=
  { s with writes := u.writes, incoming := s.incoming ++ u.arrivals }

section

variable {Batch : Type} (lib : Library Batch)

def perform : Op → Call Session NetError Unit
  | .executeSimple query => do
    let _ ← executeSimple lib query
  | .execute query params => do
    let _ ← execute lib query params
  | .ping => ping lib
  | .reset => reset lib

def use (s : Session) (u : Use) : Option Session := (perform lib u.op).returned (s.begin u)

inductive Answered : Source → Prop where
  | ready {source rest : Source} {status : TransactionStatus}
      (h : readBackendMessage lib source = (.ok (.readyForQuery status), rest)) : Answered source
  | more {source rest : Source} {message : BackendMessage} (h : readBackendMessage lib source = (.ok message, rest))
      (hmessage : ∀ status, message ≠ .readyForQuery status) (hrest : Answered rest) : Answered source

def Settles (writes : List Written) (incoming : Source) : Prop :=
  match writes with
  | [] => True
  | .done :: _ => Answered lib incoming
  | .failed _ sent :: _ => sent = false
  | .stalled sent :: _ => sent = false

def Settled (s : Session) (u : Use) : Prop :=
  (u.op = .reset ∧ s.connection.transactionStatus = .idle) ∨ Settles lib u.writes (s.incoming ++ u.arrivals)

variable {lib}

variable {message : BackendMessage} {source rest : Source}

lemma answered_iff_of_other (h : readBackendMessage lib source = (.ok message, rest))
    (hmessage : ∀ status, message ≠ .readyForQuery status) :
    Answered lib source ↔ Answered lib rest := by
  constructor
  · rintro (h' | ⟨h', hmessage', hrest⟩)
    · rw [h] at h'
      cases h'
      exact absurd rfl (hmessage _)
    · rw [h] at h'
      cases h'
      exact hrest
  · exact fun hrest => .more h hmessage hrest

lemma not_answered_of_error {e : Stop NetError} (h : readBackendMessage lib source = (.error e, rest)) :
    ¬ Answered lib source := by
  rintro (h' | ⟨h', -, -⟩)
  all_goals
    rw [h] at h'
    cases h'

section

variable {reply : Reply} {s : Session} {incoming : Source}

lemma readReply_error {e : Stop NetError} (h : readBackendMessage lib s.incoming = (.error e, incoming)) :
    readReply lib reply s = (.error e, { s with incoming }) := by
  rw [readReply]
  split
  all_goals
    rename_i heq
    cases h.symm.trans heq
  rfl

lemma readReply_ready {status : TransactionStatus}
    (h : readBackendMessage lib s.incoming = (.ok (.readyForQuery status), incoming)) :
    readReply lib reply s = (.ok reply, { s with
      incoming, readied := s.readied + 1, connection := { s.connection with transactionStatus := status } }) := by
  rw [readReply]
  split
  · rename_i heq
    cases h.symm.trans heq
  · rename_i heq
    cases h.symm.trans heq
    rfl
  · rename_i hother heq
    cases h.symm.trans heq
    exact absurd rfl (hother _)

lemma readReply_other (h : readBackendMessage lib s.incoming = (.ok message, incoming))
    (hmessage : ∀ status, message ≠ .readyForQuery status) :
    readReply lib reply s =
      readReply lib (reply.add lib message) { s with incoming, connection := s.connection.note message } := by
  rw [readReply]
  split
  · rename_i heq
    cases h.symm.trans heq
  · rename_i heq
    cases h.symm.trans heq
    exact absurd rfl (hmessage _)
  · rename_i heq
    cases h.symm.trans heq
    rfl

end

variable (lib) in
lemma readReply_spec (reply : Reply) (s : Session) : (readReply lib reply s).2.sent = s.sent ∧
      (Answered lib s.incoming → (∃ reply', (readReply lib reply s).1 = .ok reply') ∧
        (readReply lib reply s).2.readied = s.readied + 1) ∧
      (¬ Answered lib s.incoming → (readReply lib reply s).2.readied = s.readied) := by
  induction hn : s.incoming.size using Nat.strong_induction_on generalizing reply s with
  | h n ih =>
    cases hread : readBackendMessage lib s.incoming with
    | mk result incoming =>
      cases result with
      | error e =>
        rw [readReply_error hread]
        exact ⟨rfl, fun h => absurd h (not_answered_of_error hread), fun _ => rfl⟩
      | ok message =>
        by_cases hready : ∃ status, message = .readyForQuery status
        · obtain ⟨status, rfl⟩ := hready
          rw [readReply_ready hread]
          exact ⟨rfl, fun _ => ⟨⟨reply, rfl⟩, rfl⟩, fun h => absurd (.ready hread) h⟩
        · have hmessage : ∀ status, message ≠ .readyForQuery status := not_exists.mp hready
          have hsize := readBackendMessage_size lib hread
          rw [readReply_other hread hmessage, answered_iff_of_other hread hmessage]
          exact ih incoming.size (by omega) _ _ rfl

variable {writes : List Written}

lemma snd_executeSimpleInner_done {query : String} {s : Session} (h : s.writes = .done :: writes) :
    (executeSimpleInner lib query s).2 = (readReply lib .empty { s with writes, sent := s.sent ++ [query] }).2 := by
  have hwrite : writeQuery query s = (.ok (), { s with writes, sent := s.sent ++ [query] }) := by
    simp only [writeQuery, h]
    rfl
  rw [executeSimpleInner, Call.bind_of_ok hwrite]
  apply snd_bind_of_snd
  intro reply t
  cases reply.result lib <;> rfl

lemma snd_executeSimpleInner_of_not_done {query : String} {s : Session} {written : Written}
    (h : s.writes = written :: writes) (hwritten : written ≠ .done) :
    (executeSimpleInner lib query s).2 =
      { s with writes, sent := if written.sent then s.sent ++ [query] else s.sent } := by
  rw [executeSimpleInner, Call.bind_apply, writeQuery, h]
  cases written with
  | done => exact absurd rfl hwritten
  | failed message sent => rfl
  | stalled sent => rfl

lemma paired_executeSimpleInner (query : String) {s : Session} (hs : s.Paired) :
    (executeSimpleInner lib query s).2.Paired ↔ Settles lib s.writes s.incoming := by
  have hunsent : ∀ {written : Written} {writes : List Written}, s.writes = written :: writes → written ≠ .done →
      ((executeSimpleInner lib query s).2.Paired ↔ written.sent = false) := by
    intro written writes h hwritten
    rw [snd_executeSimpleInner_of_not_done h hwritten, Session.Paired, hs]
    cases written.sent <;> simp
  cases hwrites : s.writes with
  | nil =>
    have hstate : (executeSimpleInner lib query s).2 = s := by
      rw [executeSimpleInner, Call.bind_apply, writeQuery, hwrites]
    rw [hstate]
    exact ⟨fun _ => trivial, fun _ => hs⟩
  | cons written writes =>
    cases written with
    | failed message sent | stalled sent => exact hunsent hwrites nofun
    | done =>
      rw [snd_executeSimpleInner_done hwrites]
      obtain ⟨hsent, hyes, hno⟩ :=
        readReply_spec lib .empty { s with writes, sent := s.sent ++ [query] }
      rw [Session.Paired, hsent, List.length_append, List.length_singleton, ← hs]
      by_cases hanswered : Answered lib s.incoming
      · exact ⟨fun _ => hanswered, fun _ => (hyes hanswered).2⟩
      · refine ⟨fun h => ?_, fun h => absurd h hanswered⟩
        rw [hno hanswered] at h
        simp at h

lemma paired_executeSimple (query : String) {s : Session} (hs : s.Paired) :
    (executeSimple lib query s).2.Paired ↔ Settles lib s.writes s.incoming := by
  rw [← paired_executeSimpleInner query hs]
  -- a timeout changes only the status
  obtain h | h := snd_timeout s.connection.queryTimeout Session.expired
    (fun duration => .timeout s!"Query execution timed out after {lib.durationText duration}")
    (executeSimpleInner lib query) s
  · exact iff_of_eq (congrArg Session.Paired h)
  · exact (iff_of_eq (congrArg Session.Paired h)).trans Iff.rfl

lemma paired_perform (op : Op) {s : Session} (hs : s.Paired) : (perform lib op s).2.Paired ↔
      (op = .reset ∧ s.connection.transactionStatus = .idle) ∨ Settles lib s.writes s.incoming := by
  have hkeep : ∀ query, ((executeSimple lib query >>= fun _ => pure ()) s).2 = (executeSimple lib query s).2 :=
    fun query => snd_bind_of_snd (fun _ _ => rfl) s
  cases op with
  | executeSimple query =>
    rw [perform, hkeep, paired_executeSimple query hs]
    simp
  | execute query params =>
    rw [perform, execute, hkeep, paired_executeSimple _ hs]
    simp
  | ping =>
    rw [perform, ping, hkeep, paired_executeSimple _ hs]
    simp
  | reset =>
    by_cases hidle : s.connection.transactionStatus = .idle
    · have hstate : (perform lib .reset s).2 = s := by
        rw [perform, reset, get_bind]
        simp [hidle]
        rfl
      rw [hstate]
      exact ⟨fun _ => .inl ⟨rfl, hidle⟩, fun _ => hs⟩
    · have hstate : (perform lib .reset s).2 = (executeSimple lib "ROLLBACK;" s).2 := by
        rw [perform, reset, get_bind]
        simp only [ne_eq, hidle, not_false_eq_true, if_true]
        rw [snd_bind_of_snd (fun _ _ => rfl), snd_attempt]
      rw [hstate, paired_executeSimple _ hs]
      simp [hidle]

lemma paired_use {s s' : Session} {u : Use} (hs : s.Paired) (h : use lib s u = some s') :
    s'.Paired ↔ Settled lib s u := by
  rw [← snd_of_returned h]
  exact paired_perform u.op (s := s.begin u) hs

theorem use_paired (lib : Library Batch) (s : Session) (us : List Use) (hs : s.Paired) :
    (Meets (use lib) (Settled lib) s us ↔ ∀ t ∈ after (use lib) s us, t.Paired) ∧
      (Meets (use lib) (Settled lib) s us → ∀ t later, t :: later <:+ after (use lib) s us →
        t.Paired ∨ ∀ t' ∈ t :: later, t'.connection.isValid = false) := by
  have hiff : Meets (use lib) (Settled lib) s us ↔ ∀ t ∈ after (use lib) s us, t.Paired :=
    meets_iff_forall_after (fun _ _ _ hs h => paired_use hs h) hs us
  refine ⟨hiff, fun hus t later hsuffix => .inl ?_⟩
  exact hiff.mp hus t (hsuffix.mem (List.mem_cons_self ..))

end

def sampleLibrary : Library Unit :=
  ⟨fun _ => "", fun _ => "", fun _ _ => .ok (), fun _ => 0, fun _ => "30s", 0⟩

def sampleSession : Session := ⟨⟨Dict.empty, .idle, some 30⟩, [], [], [], 0⟩

def readyFrame : Arrival := .data [0x5A, 0, 0, 0, 5, 0x49]

lemma read_readyFrame : readBackendMessage sampleLibrary [readyFrame] = (.ok (.readyForQuery .idle), []) := by
  decide

lemma use_ping (status : TransactionStatus) (sent : List String) (readied : ℕ) :
    use sampleLibrary ⟨⟨Dict.empty, status, some 30⟩, [], [], sent, readied⟩ ⟨.ping, [.done], [readyFrame]⟩ =
      some ⟨⟨Dict.empty, .idle, some 30⟩, [], [], sent ++ ["SELECT 1;"], readied + 1⟩ := by
  have hread : readReply sampleLibrary .empty
      ⟨⟨Dict.empty, status, some 30⟩, [readyFrame], [], sent ++ ["SELECT 1;"], readied⟩ = (.ok .empty, _) :=
    readReply_ready (s := ⟨_, [readyFrame], _, _, _⟩) read_readyFrame
  have hresult : Reply.empty.result sampleLibrary = .ok ⟨[], [], .empty⟩ := rfl
  simp [use, Call.returned, perform, ping, executeSimple, Call.bind_apply, Call.get, Call.timeout, executeSimpleInner,
    writeQuery, Session.begin, Written.sent, Call.bind_of_ok hread, hresult]
  rfl

def pings : List Use := List.replicate 2 ⟨.ping, [.done], [readyFrame]⟩

theorem use_paired_ping :
    (after (use sampleLibrary) sampleSession pings).map (fun t => (t.sent.length, t.readied)) = [(1, 1), (2, 2)] ∧
      ∀ t ∈ after (use sampleLibrary) sampleSession pings, t.Paired := by
  constructor
  · simp only [after, pings, List.replicate, sampleSession, use_ping]
    rfl
  apply (use_paired sampleLibrary sampleSession pings rfl).1.mp
  intro s hs
  rw [sampleSession, use_ping] at hs
  cases hs
  exact ⟨.inr (.ready read_readyFrame), fun _ _ => ⟨.inr (.ready read_readyFrame), trivial⟩⟩

def timedOutSession : Session := ⟨⟨Dict.empty, .failedTransaction, some 30⟩, [], [], ["MATCH (n) RETURN n"], 0⟩

lemma use_timedOut :
    use sampleLibrary sampleSession ⟨.executeSimple "MATCH (n) RETURN n", [.done], []⟩ = some timedOutSession := by
  have hread : readReply sampleLibrary .empty
      ⟨⟨Dict.empty, .idle, some 30⟩, [], [], ["MATCH (n) RETURN n"], 0⟩ = (.error .pending, _) :=
    readReply_error (s := ⟨_, [], _, _, _⟩) rfl
  simp [use, Call.returned, perform, executeSimple, Call.bind_apply, Call.get, Call.timeout, executeSimpleInner,
    writeQuery, Session.begin, sampleSession, Written.sent, Call.bind_of_error hread, Session.expired, timedOutSession]

theorem stale_ready_revives :
    (after (use sampleLibrary) sampleSession
      [⟨.executeSimple "MATCH (n) RETURN n", [.done], []⟩, ⟨.ping, [.done], [readyFrame]⟩]).map
        (fun s => (s.connection.isValid, s.sent.length, s.readied)) = [(false, 1, 0), (true, 2, 1)] := by
  simp only [after, use_timedOut, timedOutSession, use_ping]
  rfl

end Voyager.Postgres
