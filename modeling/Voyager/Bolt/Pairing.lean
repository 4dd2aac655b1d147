import Voyager.Bolt.Connection

/-! Which response a request on a connection gets. -/

namespace Voyager.Bolt

open Lib Net
open Call (attempt bind_of_error get_bind fail bind_of_ok)

inductive Op (Params : Type) where
  | execute (query : String) (params : Params)
  | executeRawRecords (query : String) (params : Metadata)
  | beginTx (database : Option String)
  | commitTx
  | rollbackTx
  | ping
  | reset

structure Use (Params : Type) where
  op : Op Params
  writes : List Flush
  arrivals : List Incoming

def BoltResponse.isSummary : BoltResponse → Bool
  | .record _ => false
  | _ => true

namespace Session

def begin {Params : Type} (s : Session) (u : Use Params) : Session :=
  { s with writes := u.writes, incoming := s.incoming ++ u.arrivals }

def Owes (s : Session) (n : ℕ) : Prop := s.received.countP BoltResponse.isSummary + n = s.sent.length

def Trusted (s : Session) : Prop := s.connection.isValid = false ∨ s.Owes 0

end Session

def WriteSettles (owed : ℕ) (next : List Flush → Prop) : List Flush → Prop
  | .done :: writes => next writes
  | .writeFailed _ sent :: _ => owed = 0 ∧ sent = 0
  | .flushFailed _ sent :: _ => owed = 0 ∧ sent = 0
  | _ => True

def ReadSettles (next : BoltResponse → List Incoming → Prop) : List Incoming → Prop
  | .message response :: incoming => next response incoming
  | .failed _ :: _ => False
  | [] => True

def ResetSettles (owed : ℕ) (writes : List Flush) (incoming : List Incoming) : Prop :=
  WriteSettles owed (fun _ => ReadSettles (fun response _ =>
    match response with
    | .success _ => owed = 0
    | _ => True) incoming) writes

def TransactSettles (writes : List Flush) (incoming : List Incoming) : Prop :=
  WriteSettles 0 (fun writes => ReadSettles (fun response incoming =>
    match response with
    | .record _ => False
    | .failure _ => ResetSettles 0 writes incoming
    | _ => True) incoming) writes

def StreamSettles (writes : List Flush) : List Incoming → Prop
  | .message (.record _) :: incoming => StreamSettles writes incoming
  | .message (.failure _) :: incoming => ResetSettles 0 writes incoming
  | .failed _ :: _ => False
  | _ => True

def DrainSettles (writes : List Flush) : List Incoming → Prop
  | .message response :: incoming => ResetSettles (if response.isSummary then 0 else 1) writes incoming
  | .failed _ :: incoming => ResetSettles 1 writes incoming
  | [] => True

def QuerySettles (writes : List Flush) (incoming : List Incoming) : Prop :=
  WriteSettles 0 (fun writes => ReadSettles (fun response incoming =>
    match response with
    | .success _ => StreamSettles writes incoming
    | .failure _ => DrainSettles writes incoming
    | _ => False) incoming) writes

def Op.Settled {Params : Type} (s : Session) : Op Params → Prop
  | .execute _ _ => QuerySettles s.writes s.incoming
  | .executeRawRecords _ _ => QuerySettles s.writes s.incoming
  | .beginTx _ => TransactSettles s.writes s.incoming
  | .commitTx => TransactSettles s.writes s.incoming
  | .rollbackTx => TransactSettles s.writes s.incoming
  | .ping => ResetSettles 0 s.writes s.incoming
  | .reset => ResetSettles 0 s.writes s.incoming

def Settled {Params : Type} (s : Session) (u : Use Params) : Prop :=
  s.connection.isValid = true → u.op.Settled (s.begin u)

section

variable {α β : Type}

def Decides (settles : Prop) (outcome : Except (Stop NetError) α × Session) : Prop :=
  (outcome.1 = .error .pending → settles) ∧ (outcome.1 ≠ .error .pending → (outcome.2.Trusted ↔ settles))

variable {settles : Prop} {s t : Session}

lemma decides_pending (h : settles) : Decides settles ((.error .pending, s) : Except (Stop NetError) α × Session) :=
  ⟨fun _ => h, fun hne => absurd rfl hne⟩

section

variable {result : Except (Stop NetError) α} (hne : result ≠ .error .pending)

include hne

lemma decides_of_ne (h : s.Trusted ↔ settles) : Decides settles (result, s) :=
  ⟨fun hpending => absurd hpending hne, fun _ => h⟩

lemma decides_true (h : s.Trusted) : Decides True (result, s) :=
  decides_of_ne hne (iff_true_intro h)

end

section

variable {x : Call Session NetError α} (h : Decides settles (x s))

include h

lemma Decides.attempt_bind {f : Except NetError α → Call Session NetError β}
    (hf : ∀ a t, (f a t).2 = t ∧ (f a t).1 ≠ .error .pending) :
    Decides settles ((x.attempt >>= f) s) := by
  have hend : ∀ {result : Except (Stop NetError) α} {a : Except NetError α} {t : Session}, x s = (result, t) →
      result ≠ .error .pending → Decides settles (f a t) := by
    intro result a t hx hne
    rw [hx] at h
    obtain ⟨hstate, hresult⟩ := hf a t
    exact ⟨fun hpending => absurd hpending hresult, fun _ => by rw [hstate]; exact h.2 hne⟩
  rcases hx : x s with ⟨stop | a, t⟩
  · cases stop with
    | error e =>
      rw [bind_of_ok (a := .error e) (t := t) (by rw [attempt, hx])]
      exact hend hx (by simp)
    | pending =>
      rw [bind_of_error (e := .pending) (t := t) (by rw [attempt, hx])]
      rw [hx] at h
      exact decides_pending (h.1 rfl)
    | panicked =>
      rw [bind_of_error (e := .panicked) (t := t) (by rw [attempt, hx])]
      rw [hx] at h
      exact decides_of_ne (by simp) (h.2 (by simp))
  · rw [bind_of_ok (a := .ok a) (t := t) (by rw [attempt, hx])]
    exact hend hx (by simp)

lemma Decides.of_returned (ht : x.returned s = some t) : t.Trusted ↔ settles := by
  have hstate := Call.snd_of_returned ht
  rw [← hstate]
  refine h.2 fun hpending => ?_
  have hx : x s = (.error .pending, (x s).2) := Prod.ext hpending rfl
  rw [Call.returned, hx] at ht
  cases ht

lemma Decides.of_timeout {limit : Option ℕ} {e : ℕ → NetError}
    (ht : (Call.timeout limit Session.invalidate e x).returned s = some t) : t.Trusted ↔ settles := by
  obtain hreturned | ⟨t', hpending, rfl⟩ := Call.returned_timeout ht
  · exact h.of_returned hreturned
  · rw [hpending] at h
    exact ⟨fun _ => h.1 rfl, fun _ => .inl rfl⟩

end

end

section

variable {α : Type} {s : Session} {n : ℕ}

structure Session.Awaits (s : Session) (n : ℕ) : Prop where
  valid : s.connection.isValid = true
  owes : s.Owes n

lemma Session.Awaits.trusted_iff (hs : s.Awaits n) : s.Trusted ↔ n = 0 := by
  constructor
  · rintro (h | h)
    · cases hs.valid.symm.trans h
    · exact Nat.add_left_cancel (hs.owes.trans h.symm)
  · rintro rfl
    exact .inr hs.owes

lemma Session.Awaits.sent (hs : s.Awaits n) (writes : List Flush) (requests : List BoltRequest) :
    Session.Awaits { s with writes, sent := s.sent ++ requests } (n + requests.length) := by
  refine ⟨hs.valid, ?_⟩
  rw [Session.Owes, List.length_append, ← hs.owes, Nat.add_assoc]

lemma Session.Awaits.read (hs : s.Awaits (n + 1)) (incoming : List Incoming) (response : BoltResponse) :
    Session.Awaits { s with incoming, received := s.received ++ [response] }
      (if response.isSummary then n else n + 1) := by
  refine ⟨hs.valid, ?_⟩
  rw [Session.Owes, List.countP_append, List.countP_singleton, ← hs.owes]
  split
  · omega
  · omega

lemma write_decides {requests : List BoltRequest} {f : Unit → Call Session NetError α} {next : List Flush → Prop}
    (hrequests : requests ≠ []) (hs : s.Awaits n)
    (hnext : ∀ writes, Decides (next writes) (f () { s with writes, sent := s.sent ++ requests })) :
    Decides (WriteSettles n next s.writes) ((writeRequests requests >>= f) s) := by
  have hfailed : ∀ {e : NetError} {writes : List Flush} {sent : ℕ},
      Decides (n = 0 ∧ sent = 0) ((.error (.error e), { s with writes, sent := s.sent ++ requests.take sent }) :
        Except (Stop NetError) α × Session) := by
    intro e writes sent
    refine decides_of_ne nofun ?_
    rw [(hs.sent writes (requests.take sent)).trusted_iff, Nat.add_eq_zero_iff, List.length_eq_zero_iff,
      List.take_eq_nil_iff]
    simp [hrequests]
  match hwrites : s.writes with
  | [] =>
    rw [bind_of_error (e := .pending) (t := s) (by rw [writeRequests, hwrites])]
    exact decides_pending trivial
  | .done :: writes =>
    rw [bind_of_ok (by rw [writeRequests, hwrites])]
    exact hnext writes
  | .writeFailed _ _ :: _ | .flushFailed _ _ :: _ =>
    rw [bind_of_error (by rw [writeRequests, hwrites])]
    exact hfailed
  | .stalled sent :: writes =>
    rw [bind_of_error (by rw [writeRequests, hwrites])]
    exact decides_pending trivial

lemma read_decides {f : BoltResponse → Call Session NetError α} {next : BoltResponse → List Incoming → Prop}
    (hs : s.Awaits (n + 1)) (hnext : ∀ response incoming,
      Decides (next response incoming) (f response { s with incoming, received := s.received ++ [response] })) :
    Decides (ReadSettles next s.incoming) ((receiveResponse >>= f) s) := by
  match hincoming : s.incoming with
  | [] =>
    rw [bind_of_error (e := .pending) (t := s) (by rw [receiveResponse, hincoming])]
    exact decides_pending trivial
  | .message response :: incoming =>
    rw [bind_of_ok (by rw [receiveResponse, hincoming])]
    exact hnext response incoming
  | .failed e :: incoming =>
    rw [bind_of_error (by rw [receiveResponse, hincoming])]
    refine decides_of_ne nofun ?_
    have howes : Session.Awaits { s with incoming } (n + 1) := ⟨hs.valid, hs.owes⟩
    rw [howes.trusted_iff]
    exact ⟨nofun, nofun⟩

end

def OnlyNotes (f : Session → Session) : Prop :=
  ∀ s, ∃ connection, f s = { s with connection } ∧ connection.isValid = s.connection.isValid

section

variable {f : Session → Session} {s : Session} {n : ℕ}

lemma OnlyNotes.awaits (hf : OnlyNotes f) (hs : s.Awaits n) : (f s).Awaits n := by
  obtain ⟨connection, hstate, hconnection⟩ := hf s
  rw [hstate]
  exact ⟨hconnection.trans hs.valid, hs.owes⟩

lemma OnlyNotes.writes (hf : OnlyNotes f) : (f s).writes = s.writes := by
  obtain ⟨connection, hstate, -⟩ := hf s
  rw [hstate]

lemma OnlyNotes.incoming (hf : OnlyNotes f) : (f s).incoming = s.incoming := by
  obtain ⟨connection, hstate, -⟩ := hf s
  rw [hstate]

lemma onlyNotes_id : OnlyNotes id := fun _ => ⟨_, rfl, rfl⟩

lemma onlyNotes_inTransaction (b : Bool) : OnlyNotes (.inTransaction b) := fun _ => ⟨_, rfl, rfl⟩

lemma onlyNotes_committed (metadata : Metadata) :
    OnlyNotes fun s => (s.inTransaction false).noteBookmark metadata := fun _ => ⟨_, rfl, rfl⟩

end

section

variable {Params Batch : Type} (lib : Library Params Batch) {s : Session} {n : ℕ}

lemma reset_decides (hs : s.Awaits n) : Decides (ResetSettles n s.writes s.incoming) (reset lib s) := by
  refine write_decides nofun hs fun writes => read_decides (hs.sent writes _) fun response incoming => ?_
  have howes := (hs.sent writes [.reset]).read incoming response
  cases response with
  | success metadata => exact decides_of_ne nofun howes.trusted_iff
  | failure metadata | record fields | ignored metadata => exact decides_true nofun (.inl rfl)

lemma reset_bind_decides {α : Type} {f : Except NetError Unit → Call Session NetError α}
    (hs : s.Awaits n) (hf : ∀ a t, (f a t).2 = t ∧ (f a t).1 ≠ .error .pending) :
    Decides (ResetSettles n s.writes s.incoming) (((reset lib).attempt >>= f) s) :=
  (reset_decides lib hs).attempt_bind hf

variable {succeeded : Metadata → Session → Session} {name code message : String}

lemma transact_decides {request : BoltRequest} {failed : Session → Session}
    (hsucceeded : ∀ metadata, OnlyNotes (succeeded metadata)) (hfailed : OnlyNotes failed) (hs : s.Awaits 0) :
    Decides (TransactSettles s.writes s.incoming) (transact lib request name code message succeeded failed s) := by
  refine write_decides nofun hs fun writes => read_decides (hs.sent writes _) fun response incoming => ?_
  have howes := (hs.sent writes [request]).read incoming response
  cases response with
  | success metadata =>
    refine decides_true nofun (.inr ?_)
    exact ((hsucceeded metadata).awaits howes).owes
  | failure metadata =>
    have hreset := reset_bind_decides lib (α := Unit)
      (f := fun _ => fail (.protocolError (failureText metadata code message)))
      (hfailed.awaits howes) fun _ _ => ⟨rfl, nofun⟩
    rw [hfailed.writes, hfailed.incoming] at hreset
    exact hreset
  | record fields =>
    refine decides_of_ne nofun ?_
    rw [(hfailed.awaits howes).trusted_iff]
    exact ⟨nofun, nofun⟩
  | ignored metadata => exact decides_true nofun (.inr (hfailed.awaits howes).owes)

lemma drain_decides {e : NetError} {α : Type} (hs : s.Awaits 1) : Decides (DrainSettles s.writes s.incoming) ((do
      let _ ← attempt receiveResponse
      let _ ← attempt (reset lib)
      fail e : Call Session NetError α) s) := by
  have hfail : ∀ (a : Except NetError Unit) (t : Session),
      (fail e t : Except (Stop NetError) α × Session).2 = t ∧
        (fail e t : Except (Stop NetError) α × Session).1 ≠ .error .pending := by
    intro _ t
    exact ⟨rfl, by simp [fail]⟩
  rcases hincoming : s.incoming with _ | ⟨response | e', incoming⟩
  · rw [bind_of_error (e := .pending) (t := s) (by rw [attempt, receiveResponse, hincoming])]
    exact decides_pending trivial
  · rw [bind_of_ok (a := .ok response) (t := { s with incoming, received := s.received ++ [response] })
      (by rw [attempt, receiveResponse, hincoming])]
    exact reset_bind_decides lib (hs.read incoming response) hfail
  · rw [bind_of_ok (a := .error e') (t := { s with incoming })
      (by rw [attempt, receiveResponse, hincoming])]
    exact reset_bind_decides lib (s := { s with incoming }) ⟨hs.valid, hs.owes⟩ hfail

lemma startQuery_decides {α : Type} {query : String} {params extra : Metadata}
    {f : Metadata → Call Session NetError α} (hs : s.Awaits 0)
    (hf : ∀ metadata t, t.Awaits 1 → Decides (StreamSettles t.writes t.incoming) (f metadata t)) :
    Decides (QuerySettles s.writes s.incoming) ((startQuery lib query params extra code >>= f) s) := by
  rw [startQuery, Call.bind_assoc]
  refine write_decides nofun hs fun writes => ?_
  rw [Call.bind_assoc]
  refine read_decides (hs.sent writes _) fun response incoming => ?_
  have howes := (hs.sent writes [.run query params extra, .pullAll]).read incoming response
  cases response with
  | success metadata => exact hf metadata _ howes
  | failure metadata =>
    simp only [Call.bind_assoc]
    exact drain_decides lib howes
  | record fields | ignored metadata =>
    refine decides_of_ne nofun ?_
    rw [howes.trusted_iff]
    exact ⟨nofun, nofun⟩

def endRecords {α : Type} (f : List (List BoltValue) × Ending → Call Session NetError α) (s : Session) :
    Except (Stop NetError) (List (List BoltValue) × Ending) × List BoltResponse × List Incoming →
      Except (Stop NetError) α × Session
  | (.ok a, received, incoming) => f a { s with incoming, received }
  | (.error e, received, incoming) => (.error e, { s with incoming, received })

section

variable {α : Type} {f : List (List BoltValue) × Ending → Call Session NetError α}
  (hsuccess : ∀ records metadata t, t.Awaits 0 → Decides True (f (records, .success metadata) t))
  (hfailure : ∀ records metadata t, t.Awaits 0 →
    Decides (ResetSettles 0 t.writes t.incoming) (f (records, .failure metadata) t))

include hsuccess hfailure

lemma readRecords_decides (incoming : List Incoming) (records : List (List BoltValue)) {received : List BoltResponse}
    (hs : Session.Awaits { s with incoming, received } 1) :
    Decides (StreamSettles s.writes incoming) (endRecords f s (readRecords lib records received incoming)) := by
  induction incoming generalizing records received with
  | nil => exact decides_pending trivial
  | cons arrival incoming ih =>
    cases arrival with
    | failed e =>
      refine decides_of_ne nofun ?_
      have howes : Session.Awaits { s with incoming, received } 1 := ⟨hs.valid, hs.owes⟩
      rw [howes.trusted_iff]
      exact ⟨nofun, nofun⟩
    | message response =>
      have howes := hs.read incoming response
      cases response with
      | record fields => exact ih (records ++ [fields]) howes
      | success metadata => exact hsuccess records metadata _ howes
      | failure metadata => exact hfailure records metadata _ howes
      | ignored metadata => exact decides_true nofun (.inr howes.owes)

lemma receiveRecords_decides (hs : s.Awaits 1) :
    Decides (StreamSettles s.writes s.incoming) ((receiveRecords lib >>= f) s) := by
  have hread := readRecords_decides lib hsuccess hfailure s.incoming [] hs
  rw [Call.bind_apply, receiveRecords]
  generalize readRecords lib [] s.received s.incoming = r at hread
  match r with
  | (.ok _, _, _) | (.error _, _, _) => exact hread

end

lemma executeInner_decides (query : String) (params : Params) (hs : s.Awaits 0) :
    Decides (QuerySettles s.writes s.incoming) (executeInner lib query params s) := by
  rw [executeInner, get_bind, if_pos hs.valid]
  refine startQuery_decides lib hs fun runMetadata t ht => receiveRecords_decides lib ?_ ?_ ht
  · intro records metadata t ht
    dsimp only
    cases lib.buildRecordBatch (columnsOf runMetadata) records with
    | error e | ok batch => exact decides_true nofun (.inr ht.owes)
  · intro records metadata t ht
    exact reset_bind_decides lib ht fun _ _ => ⟨rfl, nofun⟩

lemma executeRawRecordsInner_decides (query : String) (params extra : Metadata) (hs : s.Awaits 0) :
    Decides (QuerySettles s.writes s.incoming) (executeRawRecordsInner lib query params extra s) := by
  refine startQuery_decides lib hs fun runMetadata t ht => receiveRecords_decides lib ?_ ?_ ht
  · intro records metadata t ht
    exact decides_true nofun (.inr ht.owes)
  · intro records metadata t ht
    exact reset_bind_decides lib ht fun _ _ => ⟨rfl, nofun⟩

def perform : Op Params → Call Session NetError Unit
  | .execute query params => do
    let _ ← execute lib query params
  | .executeRawRecords query params => do
    let _ ← executeRawRecords lib query params
  | .beginTx database => beginTx lib database
  | .commitTx => commitTx lib
  | .rollbackTx => rollbackTx lib
  | .ping => ping lib
  | .reset => reset lib

def use (s : Session) (u : Use Params) : Option Session := (perform lib u.op).returned (s.begin u)

lemma executeRawRecords_trusted {query : String} {params : Metadata} (hs : s.Awaits 0) {t : Session}
    (h : (executeRawRecordsWithOptions lib query params none none none none).returned s = some t) :
    t.Trusted ↔ QuerySettles s.writes s.incoming := by
  rw [Call.returned, executeRawRecordsWithOptions, get_bind, if_pos hs.valid] at h
  exact (executeRawRecordsInner_decides lib query params _ hs).of_timeout h

lemma perform_trusted {op : Op Params} (hs : s.Awaits 0) {t : Session}
    (h : (perform lib op).returned s = some t) : t.Trusted ↔ op.Settled s := by
  cases op with
  | execute query params =>
    exact (executeInner_decides lib query params hs).of_timeout (Call.returned_of_bind (fun _ _ => rfl) h)
  | executeRawRecords query params =>
    refine executeRawRecords_trusted lib hs
      (Call.returned_of_bind ?_ (Call.returned_of_bind (fun _ _ => rfl) h))
    rintro ⟨columns, records, summary, streamErr⟩ t
    cases streamErr <;> rfl
  | beginTx database =>
    exact (transact_decides lib (fun _ => onlyNotes_inTransaction true) onlyNotes_id hs).of_returned h
  | commitTx =>
    exact (transact_decides lib onlyNotes_committed (onlyNotes_inTransaction false) hs).of_returned h
  | rollbackTx =>
    exact (transact_decides lib (fun _ => onlyNotes_inTransaction false) (onlyNotes_inTransaction false) hs).of_returned h
  | ping =>
    rw [perform, Call.returned, ping, get_bind, if_pos hs.valid] at h
    exact (reset_decides lib hs).of_returned h
  | reset => exact (reset_decides lib hs).of_returned h

def Session.Broken (s : Session) : Prop := s.connection.isValid = false

lemma writeRequests_broken (requests : List BoltRequest) : Call.Keeps Session.Broken (writeRequests requests) := by
  intro s hs
  rw [writeRequests]
  split <;> exact hs

lemma receiveResponse_broken : Call.Keeps Session.Broken receiveResponse := by
  intro s hs
  rw [receiveResponse]
  split <;> exact hs

lemma modify_broken {f : Session → Session} (hf : OnlyNotes f) :
    Call.Keeps Session.Broken (Call.modify f : Call Session NetError Unit) := by
  intro s hs
  obtain ⟨connection, hstate, hconnection⟩ := hf s
  rw [Call.modify, hstate]
  exact hconnection.trans hs

lemma invalidate_broken : Call.Keeps Session.Broken (Call.modify .invalidate : Call Session NetError Unit) :=
  fun _ _ => rfl

lemma reset_broken : Call.Keeps Session.Broken (reset lib) := by
  refine (writeRequests_broken _).bind fun _ => receiveResponse_broken.bind fun response => ?_
  cases response with
  | success metadata => exact modify_broken (onlyNotes_inTransaction false)
  | _ => exact invalidate_broken.bind fun _ => Call.keeps_fail _

lemma transact_broken {request : BoltRequest} {failed : Session → Session}
    (hsucceeded : ∀ metadata, OnlyNotes (succeeded metadata)) (hfailed : OnlyNotes failed) :
    Call.Keeps Session.Broken (transact lib request name code message succeeded failed) := by
  refine (writeRequests_broken _).bind fun _ => receiveResponse_broken.bind fun response => ?_
  cases response with
  | success metadata => exact modify_broken (hsucceeded metadata)
  | failure metadata =>
    exact (modify_broken hfailed).bind fun _ => (reset_broken lib).attempt.bind fun _ => Call.keeps_fail _
  | _ => exact (modify_broken hfailed).bind fun _ => Call.keeps_fail _

lemma perform_broken (op : Op Params) {t : Session} (hs : s.Broken) (h : (perform lib op).returned s = some t) :
    t.Broken := by
  have hvalid : ¬ s.connection.isValid = true := by simp [show s.connection.isValid = false from hs]
  cases op with
  | execute query params =>
    have hinner : executeInner lib query params s =
        (.error (.error (.closed "Bolt connection is closed or broken")), s) := by
      rw [executeInner, get_bind, if_neg hvalid]
      rfl
    obtain h | ⟨t', hpending, -⟩ := Call.returned_timeout (Call.returned_of_bind (fun _ _ => rfl) h)
    · rw [← Call.snd_of_returned h, hinner]
      exact hs
    · cases hinner.symm.trans hpending
  | executeRawRecords query params =>
    rw [← Call.snd_of_returned h, perform, executeRawRecords, Call.bind_assoc, bind_of_error (t := s)]
    · exact hs
    · rw [executeRawRecordsWithOptions, get_bind, if_neg hvalid]
      rfl
  | beginTx database =>
    exact (transact_broken lib (fun _ => onlyNotes_inTransaction true) onlyNotes_id).of_returned hs h
  | commitTx => exact (transact_broken lib onlyNotes_committed (onlyNotes_inTransaction false)).of_returned hs h
  | rollbackTx =>
    exact (transact_broken lib (fun _ => onlyNotes_inTransaction false)
      (onlyNotes_inTransaction false)).of_returned hs h
  | ping =>
    rw [← Call.snd_of_returned h, perform, ping, get_bind, if_neg hvalid]
    exact hs
  | reset => exact (reset_broken lib).of_returned hs h

lemma use_trusted {u : Use Params} {t : Session} (hs : s.Trusted) (h : use lib s u = some t) :
    t.Trusted ↔ Settled s u := by
  cases hvalid : s.connection.isValid with
  | false =>
    have ht : t.Broken := perform_broken lib u.op (s := s.begin u) hvalid h
    exact ⟨fun _ h => absurd (hvalid.symm.trans h) nofun, fun _ => .inl ht⟩
  | true =>
    have howes : s.Owes 0 := hs.resolve_left fun h => absurd (hvalid.symm.trans h) nofun
    refine (perform_trusted lib (s := s.begin u) ⟨hvalid, howes⟩ h).trans ?_
    exact ⟨fun h _ => h, fun h => h hvalid⟩

theorem use_answered (lib : Library Params Batch) (s : Session) (us : List (Use Params)) (hs : s.Trusted) :
    Meets (use lib) Settled s us ↔ ∀ t ∈ after (use lib) s us, t.Trusted :=
  meets_iff_forall_after (fun _ _ _ hs h => use_trusted lib hs h) hs us

end

def sampleLibrary : Library Unit Unit := ⟨fun _ => "", fun _ => "30s", fun _ => [], fun _ _ => .ok (), fun _ => 0⟩

def sampleSession : Session := ⟨⟨true, false, none, none, some 30000000000⟩, [], [], [], []⟩

def answeredUses : List (Use Unit) :=
  [⟨.execute "RETURN 1" (), [.done],
      [.message (.success [("fields", .list [.string "1"])]), .message (.record [.integer 1]), .message (.success [])]⟩,
    ⟨.execute "RETURN 2" (), [.done],
      [.message (.success [("fields", .list [.string "2"])]), .message (.record [.integer 2]), .message (.success [])]⟩]

theorem use_answered_query :
    (after (use sampleLibrary) sampleSession answeredUses).map (fun t => (t.sent.length, t.connection.isValid)) =
        [(2, true), (4, true)] ∧
      ∀ t ∈ after (use sampleLibrary) sampleSession answeredUses, t.Trusted := by
  refine ⟨rfl, ?_⟩
  apply (use_answered sampleLibrary sampleSession answeredUses (.inr rfl)).mp
  iterate 2
    rintro _ ⟨⟩
    refine ⟨fun _ => trivial, ?_⟩
  trivial

def undecodedUses : List (Use Unit) :=
  [⟨.execute "MATCH (n) RETURN n" (), [.done],
      [.message (.success [("fields", .list [.string "n"])]), .failed (.protocolError "Unknown PackStream marker")]⟩,
    ⟨.execute "MATCH (m) RETURN m" (), [.done],
      [.message (.success []), .message (.success [("fields", .list [.string "m"])]), .message (.record [.integer 1]),
        .message (.success [])]⟩]

theorem undecoded_record_stays_open :
    (after (use sampleLibrary) sampleSession undecodedUses).map
        (fun s => (s.connection.isValid, s.sent.length, s.received.countP BoltResponse.isSummary, s.incoming.length)) =
      [(true, 2, 1, 0), (true, 4, 3, 2)] := by
  rfl

end Voyager.Bolt
