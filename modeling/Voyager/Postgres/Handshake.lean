import Voyager.Postgres.Auth
import Voyager.Postgres.Pairing

/-! The start of a connection, and whether the server has proved who it is. -/

namespace Voyager.Postgres

open Lib Net List Call

inductive Auth where
  | none
  | basic (username password : String) (realm : Option String)
  | bearer (token : String)

structure StartupMessage where
  protocolVersion : I32
  parameters : Dict String String

def StartupMessage.new (user : String) (database : Option String) : StartupMessage :=
  let params := Dict.empty.set "user" user
  let params := match database with
    | some db => params.set "database" db
    | none => params
  ⟨196608, (params.set "client_encoding" "UTF8").set "application_name" "voyager-net"⟩

inductive FrontendMessage where
  | startup (message : StartupMessage)
  | password (data : Bytes)
  | saslInitialResponse (mechanism : String) (data : Option Bytes)
  | saslResponse (data : Bytes)

inductive HandshakeEvent where
  | initiated
  | verified
  | accepted
deriving DecidableEq, Repr

/-- A connection that is being made. The clock has the times at which it will be read. -/
structure Handshake where
  connection : PostgresConnection
  backendPid : I32
  secretKey : I32
  scramClient : Option ScramClient
  incoming : Source
  writes : List Written
  clock : List ℕ
  sent : List FrontendMessage
  events : List HandshakeEvent

variable (event : HandshakeEvent)

namespace Handshake

def new (queryTimeout : Option ℕ) (incoming : Source) (writes : List Written) (clock : List ℕ) : Handshake :=
  ⟨⟨Dict.empty, .idle, queryTimeout⟩, 0, 0, none, incoming, writes, clock, [], []⟩

def log (s : Handshake) : Handshake := { s with events := s.events ++ [event] }

def withClient (client : ScramClient) (s : Handshake) : Handshake := { s with scramClient := some client }

def initiate (crypto : Crypto) (s : Handshake) : Handshake :=
  { s with scramClient := some (.new crypto (s.clock.headD 0)), clock := s.clock.tail }

def note (s : Handshake) : BackendMessage → Handshake
  | .parameterStatus name value =>
    { s with connection := { s.connection with serverParameters := s.connection.serverParameters.set name value } }
  | .backendKeyData processId secretKey => { s with backendPid := processId, secretKey := secretKey }
  | .readyForQuery status => { s with connection := { s.connection with transactionStatus := status } }
  | _ => s

end Handshake

def writeMessage (message : FrontendMessage) : Call Handshake NetError Unit := fun s =>
  match s.writes with
  | [] => (.error .pending, s)
  | written :: writes =>
    let s := { s with writes, sent := if written.sent then s.sent ++ [message] else s.sent }
    match written with
    | .done => (.ok (), s)
    | .failed message _ => (.error (.error (.ioError message)), s)
    | .stalled _ => (.error .pending, s)

def ofResult {α : Type} : Except NetError α → Call Handshake NetError α
  | .ok a => pure a
  | .error e => Call.fail e

structure HandshakeParams where
  crypto : Crypto
  auth : Auth
  database : Option String
  debugMechanisms : List String → String
  debugRequest : AuthenticationRequest → String
  debugMessage : BackendMessage → String

namespace HandshakeParams

variable (params : HandshakeParams)

def username : String :=
  match params.auth with
  | .basic username _ _ => username
  | _ => "postgres"

def password : String :=
  match params.auth with
  | .basic _ password _ => password
  | _ => ""

end HandshakeParams

section

variable (params : HandshakeParams)

def scramClient : Call Handshake NetError ScramClient := do
  let s ← Call.get
  ofResult (required "SCRAM client state missing" s.scramClient)

def authenticate : AuthenticationRequest → Call Handshake NetError Unit
  | .ok => Call.modify (.log .accepted)
  | .cleartextPassword => writeMessage (.password (utf8Bytes params.password ++ [0]))
  | .md5Password salt =>
    writeMessage (.password (computeMd5Password params.crypto params.username params.password salt))
  | .sasl mechanisms =>
    if mechanisms.contains "SCRAM-SHA-256" then do
      Call.modify (.initiate params.crypto)
      let client ← scramClient
      writeMessage (.saslInitialResponse "SCRAM-SHA-256" (some client.clientFirstMessage))
      Call.modify (.log .initiated)
    else
      Call.fail (.authenticationFailed
        s!"No supported SASL mechanism offered by server: {params.debugMechanisms mechanisms}")
  | .saslContinue challenge => do
    let client ← scramClient
    let (response, client) ← ofResult (client.processChallenge params.crypto challenge params.password)
    Call.modify (.withClient client)
    writeMessage (.saslResponse response)
  | .saslFinal finalData => do
    let client ← scramClient
    ofResult (client.verifyServerFinal params.crypto finalData)
    Call.modify (.log .verified)
  | other => Call.fail (.authenticationFailed s!"Unsupported authentication request: {params.debugRequest other}")

def handleMessage (message : BackendMessage) : Call Handshake NetError Bool :=
  match message with
  | .authentication request => do
    authenticate params request
    return false
  | .parameterStatus _ _ | .backendKeyData _ _ => do
    Call.modify (.note · message)
    return false
  | .readyForQuery _ => do
    Call.modify fun s => (s.note message).log .accepted
    return true
  | .errorResponse diag => Call.fail (.authenticationFailed diag.formatError)
  | .noticeResponse _ => return false
  | other =>
    Call.fail (.protocolError
      s!"Unexpected backend message during startup handshake: {params.debugMessage other}")

structure Logs {α : Type} (e : List HandshakeEvent) (x : Call Handshake NetError α) : Prop where
  offline : ∀ s, (x s).2.incoming = s.incoming
  logged : ∀ s a s', x s = (.ok a, s') → s'.events = s.events ++ e

section

variable {α β : Type} {e e' : List HandshakeEvent}

lemma Logs.bind {x : Call Handshake NetError α} {f : α → Call Handshake NetError β} (hx : Logs e x)
    (hf : ∀ a, Logs e' (f a)) : Logs (e ++ e') (x >>= f) := by
  constructor
  · intro s
    have hincoming := hx.offline s
    rw [bind_apply]
    match hresult : x s with
    | (.ok a, t) =>
      rw [hresult] at hincoming
      exact ((hf a).offline t).trans hincoming
    | (.error e, t) =>
      rw [hresult] at hincoming
      exact hincoming
  · intro s b s' h
    obtain ⟨a, t, ht, h⟩ := bind_eq_ok h
    rw [(hf a).logged t b s' h, hx.logged s a t ht, append_assoc]

lemma logs_pure (a : α) : Logs [] (pure a) := by
  refine ⟨fun _ => rfl, fun s b s' h => ?_⟩
  cases h
  exact (append_nil _).symm

lemma logs_fail (error : NetError) : Logs e (fail error : Call Handshake NetError α) := ⟨fun _ => rfl, nofun⟩

lemma logs_modify {f : Handshake → Handshake} (hincoming : ∀ s, (f s).incoming = s.incoming)
    (hevents : ∀ s, (f s).events = s.events ++ e) : Logs e (modify f) := by
  refine ⟨hincoming, fun s a s' h => ?_⟩
  cases h
  exact hevents s

lemma logs_ofResult (result : Except NetError α) : Logs [] (ofResult result) := by
  cases result with
  | ok a => exact logs_pure a
  | error error => exact logs_fail error

lemma logs_scramClient : Logs [] scramClient :=
  ⟨fun s => (logs_ofResult _).offline s, fun s => (logs_ofResult _).logged s⟩

lemma logs_writeMessage (message : FrontendMessage) : Logs [] (writeMessage message) := by
  have hstep : ∀ s, (writeMessage message s).2.incoming = s.incoming ∧
      (writeMessage message s).2.events = s.events := by
    intro s
    rw [writeMessage]
    split
    · exact ⟨rfl, rfl⟩
    · rename_i written writes hwrites
      cases written with
      | _ => exact ⟨rfl, rfl⟩
  refine ⟨fun s => (hstep s).1, fun s a s' h => ?_⟩
  have hevents := (hstep s).2
  rw [h] at hevents
  rw [append_nil]
  exact hevents

end

def AuthenticationRequest.events : AuthenticationRequest → List HandshakeEvent
  | .ok => [.accepted]
  | .sasl _ => [.initiated]
  | .saslFinal _ => [.verified]
  | _ => []

def BackendMessage.events : BackendMessage → List HandshakeEvent
  | .authentication request => request.events
  | .readyForQuery _ => [.accepted]
  | _ => []

def BackendMessage.isReady : BackendMessage → Bool
  | .readyForQuery _ => true
  | _ => false

def trace : List BackendMessage → List HandshakeEvent
  | [] => []
  | message :: rest => message.events ++ if message.isReady then [] else trace rest

lemma logs_log : Logs [event] (modify (.log event)) :=
  logs_modify (fun _ => rfl) fun _ => rfl

lemma logs_authenticate (request : AuthenticationRequest) : Logs request.events (authenticate params request) := by
  cases request with
  | ok => exact logs_log .accepted
  | cleartextPassword | md5Password salt => exact logs_writeMessage _
  | sasl mechanisms =>
    rw [authenticate]
    split_ifs
    · have hinitiate : Logs [] (modify (.initiate params.crypto)) :=
        logs_modify (fun _ => rfl) fun _ => (append_nil _).symm
      exact hinitiate.bind fun _ => logs_scramClient.bind fun client =>
        (logs_writeMessage _).bind fun _ => logs_log .initiated
    · exact logs_fail _
  | saslContinue challenge =>
    have hclient : ∀ client, Logs [] (modify (.withClient client)) :=
      fun client => logs_modify (fun _ => rfl) fun _ => (append_nil _).symm
    exact logs_scramClient.bind fun client => (logs_ofResult _).bind fun response =>
      (hclient response.2).bind fun _ => logs_writeMessage _
  | saslFinal finalData =>
    exact logs_scramClient.bind fun client => (logs_ofResult _).bind fun _ => logs_log .verified
  | _ => exact logs_fail _

lemma logs_handleMessage (message : BackendMessage) : Logs message.events (handleMessage params message) := by
  have hnote : ∀ message, ∀ s : Handshake,
      (s.note message).incoming = s.incoming ∧ (s.note message).events = s.events := by
    intro message s
    cases message with
    | _ => exact ⟨rfl, rfl⟩
  have hnoted : Logs [] (modify fun s : Handshake => s.note message) :=
    logs_modify (fun s => (hnote message s).1) fun s => by rw [(hnote message s).2, append_nil]
  cases message with
  | authentication request =>
    rw [BackendMessage.events, ← append_nil request.events]
    exact (logs_authenticate params request).bind fun _ => logs_pure _
  | parameterStatus name value | backendKeyData processId secretKey => exact hnoted.bind fun _ => logs_pure _
  | readyForQuery status =>
    have hready : Logs [.accepted] (modify fun s : Handshake => (s.note (.readyForQuery status)).log .accepted) :=
      logs_modify (fun _ => rfl) fun _ => rfl
    exact hready.bind fun _ => logs_pure _
  | noticeResponse diag => exact logs_pure _
  | _ => exact logs_fail _

variable {message : BackendMessage} {s s' : Handshake}

lemma handleMessage_done {done : Bool}
    (h : handleMessage params message s = (.ok done, s')) : done = message.isReady := by
  have hreturn : ∀ {x : Call Handshake NetError Unit} {b : Bool} {s : Handshake},
      (x >>= fun _ => pure b) s = (.ok done, s') → done = b := by
    intro x b s h
    obtain ⟨_, t, -, h⟩ := bind_eq_ok h
    cases h
    rfl
  cases message with
  | authentication request => exact hreturn h
  | parameterStatus name value => exact hreturn h
  | backendKeyData processId secretKey => exact hreturn h
  | readyForQuery status => exact hreturn h
  | noticeResponse diag =>
    cases h
    rfl
  | _ => cases h

variable {Batch : Type} (lib : Library Batch)

def awaitReady (s : Handshake) : Except (Stop NetError) Unit × Handshake :=
  match _hread : readBackendMessage lib s.incoming with
  | (.error e, incoming) => (.error e, { s with incoming })
  | (.ok message, incoming) =>
    match _hhandle : handleMessage params message { s with incoming } with
    | (.error e, s') => (.error e, s')
    | (.ok true, s') => (.ok (), s')
    | (.ok false, s') => awaitReady s'
termination_by s.incoming.size
decreasing_by
  have hsize := readBackendMessage_size lib _hread
  have hincoming := (logs_handleMessage params message).offline { s with incoming }
  rw [_hhandle] at hincoming
  simp only at hincoming
  rw [hincoming]
  omega

def handshake : Call Handshake NetError Unit := do
  writeMessage (.startup (.new params.username (some (params.database.getD "postgres"))))
  awaitReady params lib

def messages (source : Source) : List BackendMessage :=
  match _hread : readBackendMessage lib source with
  | (.error _, _) => []
  | (.ok message, source) => message :: messages source
termination_by source.size
decreasing_by
  have hsize := readBackendMessage_size lib _hread
  omega

variable {lib}

lemma messages_eq {source source' : Source} (h : readBackendMessage lib source = (.ok message, source')) :
    messages lib source = message :: messages lib source' := by
  rw [messages.eq_def]
  split
  · rename_i heq
    cases h.symm.trans heq
  · rename_i heq
    cases h.symm.trans heq
    rfl

variable {params}

variable {incoming : Source}

lemma awaitReady_error {error : Stop NetError} (h : readBackendMessage lib s.incoming = (.error error, incoming)) :
    awaitReady params lib s = (.error error, { s with incoming }) := by
  rw [awaitReady.eq_def]
  split
  · rename_i heq
    cases h.symm.trans heq
    rfl
  · rename_i heq
    cases h.symm.trans heq

section

variable (h : readBackendMessage lib s.incoming = (.ok message, incoming))

include h

lemma awaitReady_message : awaitReady params lib s =
      match handleMessage params message { s with incoming } with
      | (.error error, s') => (.error error, s')
      | (.ok true, s') => (.ok (), s')
      | (.ok false, s') => awaitReady params lib s' := by
  rw [awaitReady.eq_def]
  split
  · rename_i heq
    cases h.symm.trans heq
  · rename_i heq
    cases h.symm.trans heq
    split <;> simp_all

lemma awaitReady_next (hhandle : handleMessage params message { s with incoming } = (.ok false, s')) :
    awaitReady params lib s = awaitReady params lib s' := by
  rw [awaitReady_message h, hhandle]

lemma awaitReady_last (hhandle : handleMessage params message { s with incoming } = (.ok true, s')) :
    awaitReady params lib s = (.ok (), s') := by
  rw [awaitReady_message h, hhandle]

end

lemma events_awaitReady (h : awaitReady params lib s = (.ok (), s')) :
    s'.events = s.events ++ trace (messages lib s.incoming) := by
  induction s using awaitReady.induct params lib with
  | case1 s error incoming hread =>
    rw [awaitReady_error hread] at h
    cases h
  | case2 s message incoming hread error t hhandle =>
    rw [awaitReady_message hread, hhandle] at h
    cases h
  | case3 s message incoming hread t hhandle =>
    rw [awaitReady_message hread, hhandle] at h
    cases h
    have hevents := (logs_handleMessage params message).logged _ _ _ hhandle
    rw [messages_eq hread, trace, ← handleMessage_done params hhandle, if_pos rfl, append_nil]
    exact hevents
  | case4 s message incoming hread t hhandle ih =>
    rw [awaitReady_message hread, hhandle] at h
    have hincoming := (logs_handleMessage params message).offline { s with incoming }
    rw [hhandle] at hincoming
    rw [ih h, messages_eq hread, trace, ← handleMessage_done params hhandle, if_neg nofun,
      (logs_handleMessage params message).logged _ _ _ hhandle, hincoming, append_assoc]

def BackendMessage.accepts : BackendMessage → Bool
  | .authentication .ok | .readyForQuery _ => true
  | _ => false

def BackendMessage.isSasl : BackendMessage → Bool
  | .authentication (.sasl _) => true
  | _ => false

def BackendMessage.isSaslFinal : BackendMessage → Bool
  | .authentication (.saslFinal _) => true
  | _ => false

/-- If a SASL initial response went out, then the final message of the server was verified before anything was
accepted. -/
def Handshake.Mutual (s : Handshake) : Prop :=
  .initiated ∈ s.events → .verified ∈ s.events.takeWhile (· ≠ .accepted)

lemma BackendMessage.kinds (m : BackendMessage) : (m.events = [.accepted] ∧ m.accepts = true ∧ m.isSasl = false) ∨
      (m.events = [.initiated] ∧ m.accepts = false ∧ m.isReady = false ∧ m.isSasl = true ∧ m.isSaslFinal = false) ∨
      (m.events = [.verified] ∧ m.accepts = false ∧ m.isReady = false ∧ m.isSasl = false ∧ m.isSaslFinal = true) ∨
      (m.events = [] ∧ m.accepts = false ∧ m.isReady = false ∧ m.isSasl = false ∧ m.isSaslFinal = false) := by
  cases m with
  | authentication request =>
    cases request with
    | ok => exact .inl ⟨rfl, rfl, rfl⟩
    | sasl mechanisms => exact .inr (.inl ⟨rfl, rfl, rfl, rfl, rfl⟩)
    | saslFinal data => exact .inr (.inr (.inl ⟨rfl, rfl, rfl, rfl, rfl⟩))
    | _ => exact .inr (.inr (.inr ⟨rfl, rfl, rfl, rfl, rfl⟩))
  | readyForQuery status => exact .inl ⟨rfl, rfl, rfl⟩
  | _ => exact .inr (.inr (.inr ⟨rfl, rfl, rfl, rfl, rfl⟩))

variable (ms : List BackendMessage)

lemma initiated_mem_trace : .initiated ∈ trace ms ↔ (ms.takeWhile (!·.isReady)).any (·.isSasl) = true := by
  induction ms with
  | nil => simp [trace]
  | cons m ms ih =>
    rw [trace]
    rcases m.kinds with ⟨hevents, -, hsasl⟩ | ⟨hevents, -, hready, hsasl, -⟩ | ⟨hevents, -, hready, hsasl, -⟩ |
      ⟨hevents, -, hready, hsasl, -⟩
    · cases hready : m.isReady with
      | true => simp [hevents, hready]
      | false => simp [hevents, hready, hsasl, ih]
    all_goals simp [hevents, hready, hsasl, ih]

lemma verified_mem_trace :
    .verified ∈ (trace ms).takeWhile (· ≠ .accepted) ↔ (ms.takeWhile (!·.accepts)).any (·.isSaslFinal) = true := by
  induction ms with
  | nil => simp [trace]
  | cons m ms ih =>
    rw [trace]
    rcases m.kinds with ⟨hevents, haccepts, -⟩ | ⟨hevents, haccepts, hready, -, hfinal⟩ |
      ⟨hevents, haccepts, hready, -, hfinal⟩ | ⟨hevents, haccepts, hready, -, hfinal⟩
    · simp [hevents, haccepts]
    all_goals simp_all

theorem handshake_mutual_iff (params : HandshakeParams) (lib : Library Batch) (queryTimeout : Option ℕ)
    (incoming : Source) (writes : List Written) (clock : List ℕ) (s : Handshake)
    (h : handshake params lib (.new queryTimeout incoming writes clock) = (.ok (), s)) :
    s.Mutual ↔ (((messages lib incoming).takeWhile (!·.isReady)).any (·.isSasl) = true →
      ((messages lib incoming).takeWhile (!·.accepts)).any (·.isSaslFinal) = true) := by
  obtain ⟨_, t, hwrite, h⟩ := bind_eq_ok h
  have hstart := (logs_writeMessage _).logged _ _ _ hwrite
  have hincoming := (logs_writeMessage (.startup (.new params.username (some (params.database.getD "postgres"))))).offline
    (.new queryTimeout incoming writes clock)
  rw [hwrite] at hincoming
  have hevents : s.events = trace (messages lib incoming) := by
    rw [events_awaitReady h, hstart, hincoming]
    rfl
  rw [Handshake.Mutual, hevents, initiated_mem_trace, verified_mem_trace]

end

def sampleCrypto : Crypto :=
  ⟨id, fun _ => "", fun _ _ => Vector.replicate 32 0, fun _ => Vector.replicate 32 0, fun _ => "n",
    fun _ => .ok (List.replicate 32 0), fun _ => ""⟩

def sampleParams : HandshakeParams :=
  ⟨sampleCrypto, .basic "ada" "secret" none, none, fun _ => "", fun _ => "", fun _ => ""⟩

def saslFrame : Arrival :=
  .data [0x52, 0, 0, 0, 23, 0, 0, 0, 10, 83, 67, 82, 65, 77, 45, 83, 72, 65, 45, 50, 53, 54, 0, 0]

def continueFrame : Arrival := .data [0x52, 0, 0, 0, 18, 0, 0, 0, 11, 114, 61, 110, 44, 115, 61, 44, 105, 61, 49]

def finalFrame : Arrival := .data [0x52, 0, 0, 0, 10, 0, 0, 0, 12, 118, 61]

def okFrame : Arrival := .data [0x52, 0, 0, 0, 8, 0, 0, 0, 0]

def skippingServer : Source := [saslFrame, okFrame, readyFrame]

lemma read_skipping : readBackendMessage sampleLibrary skippingServer =
    (.ok (.authentication (.sasl ["SCRAM-SHA-256"])), [okFrame, readyFrame]) := by
  decide

lemma read_ok : readBackendMessage sampleLibrary [okFrame, readyFrame] =
    (.ok (.authentication .ok), [readyFrame]) := by
  decide

theorem unverified_server_accepted :
    ∃ s, handshake sampleParams sampleLibrary (.new none skippingServer [.done, .done] [0]) = (.ok (), s) ∧
      s.events = [.initiated, .accepted, .accepted] ∧ ¬ s.Mutual := by
  have hstart : handshake sampleParams sampleLibrary (.new none skippingServer [.done, .done] [0]) =
      awaitReady sampleParams sampleLibrary _ := rfl
  have hrun := hstart.trans ((awaitReady_next read_skipping rfl).trans
    ((awaitReady_next read_ok rfl).trans (awaitReady_last read_readyFrame rfl)))
  obtain ⟨s, hs, hevents⟩ : ∃ s, handshake sampleParams sampleLibrary (.new none skippingServer [.done, .done] [0]) =
      (.ok (), s) ∧ s.events = [.initiated, .accepted, .accepted] := ⟨_, hrun, rfl⟩
  refine ⟨s, hs, hevents, ?_⟩
  rw [Handshake.Mutual, hevents]
  decide

def provingServer : Source := [saslFrame, continueFrame, finalFrame, okFrame, readyFrame]

lemma read_sasl : readBackendMessage sampleLibrary provingServer =
    (.ok (.authentication (.sasl ["SCRAM-SHA-256"])), [continueFrame, finalFrame, okFrame, readyFrame]) := by
  decide

lemma read_continue : readBackendMessage sampleLibrary [continueFrame, finalFrame, okFrame, readyFrame] =
    (.ok (.authentication (.saslContinue [114, 61, 110, 44, 115, 61, 44, 105, 61, 49])),
      [finalFrame, okFrame, readyFrame]) := by
  decide

lemma read_final : readBackendMessage sampleLibrary [finalFrame, okFrame, readyFrame] =
    (.ok (.authentication (.saslFinal [118, 61])), [okFrame, readyFrame]) := by
  decide

theorem handshake_mutual_iff_proving :
    ∃ s, handshake sampleParams sampleLibrary (.new none provingServer [.done, .done, .done] [0]) = (.ok (), s) ∧
      .initiated ∈ s.events ∧ s.Mutual := by
  have hstart : handshake sampleParams sampleLibrary (.new none provingServer [.done, .done, .done] [0]) =
      awaitReady sampleParams sampleLibrary _ := rfl
  have hrun := hstart.trans ((awaitReady_next read_sasl rfl).trans ((awaitReady_next read_continue rfl).trans
    ((awaitReady_next read_final rfl).trans ((awaitReady_next read_ok rfl).trans (awaitReady_last read_readyFrame rfl)))))
  obtain ⟨s, hs, hevents⟩ : ∃ s, handshake sampleParams sampleLibrary
      (.new none provingServer [.done, .done, .done] [0]) = (.ok (), s) ∧ .initiated ∈ s.events := ⟨_, hrun, by decide⟩
  have hmessages : messages sampleLibrary provingServer = [.authentication (.sasl ["SCRAM-SHA-256"]),
      .authentication (.saslContinue [114, 61, 110, 44, 115, 61, 44, 105, 61, 49]),
      .authentication (.saslFinal [118, 61])] ++ messages sampleLibrary [okFrame, readyFrame] := by
    rw [messages_eq read_sasl, messages_eq read_continue, messages_eq read_final]
    rfl
  refine ⟨s, hs, hevents, (handshake_mutual_iff _ _ none provingServer _ _ s hs).mpr fun _ => ?_⟩
  rw [hmessages]
  rfl

end Voyager.Postgres
