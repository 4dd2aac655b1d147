import Voyager.Bolt.PackStream
import Voyager.Lib.Call
import Voyager.Net.Query

/-! A connection to a Bolt server and the calls on it, message by message. -/

namespace Voyager.Bolt

open Lib Net BoltValue

abbrev Metadata := List (String × BoltValue)

inductive BoltRequest where
  | hello (extra : Metadata)
  | logon (auth : Metadata)
  | logoff
  | run (query : String) (params extra : Metadata)
  | pull (extra : Metadata)
  | discard (extra : Metadata)
  | begin (extra : Metadata)
  | commit
  | rollback
  | reset
  | goodbye

def BoltRequest.pullAll : BoltRequest := .pull [("n", .integer (-1))]

inductive BoltResponse where
  | success (metadata : Metadata)
  | record (fields : List BoltValue)
  | failure (metadata : Metadata)
  | ignored (metadata : Metadata)

inductive Incoming where
  | message (response : BoltResponse)
  | failed (e : NetError)

inductive Flush where
  | done
  | writeFailed (message : String) (sent : ℕ)
  | flushFailed (message : String) (sent : ℕ)
  | stalled (sent : ℕ)

structure BoltConnection where
  isValid : Bool
  inTransaction : Bool
  lastBookmark : Option String
  lastMetadata : Option Metadata
  queryTimeout : Option ℕ

/-- A connection, what its server has for it and how its next writes end. The requests that went out and the responses
that were read are kept for the sake of the statements. -/
structure Session where
  connection : BoltConnection
  incoming : List Incoming
  writes : List Flush
  sent : List BoltRequest
  received : List BoltResponse

/-- What the model leaves open: texts, the conversion of parameters and the building of batches. -/
structure Library (Params Batch : Type) where
  debug : BoltResponse → String
  durationText : ℕ → String
  boltParams : Params → Metadata
  buildRecordBatch : List String → List (List BoltValue) → Except NetError Batch
  numRows : Batch → ℕ

variable (metadata : Metadata)

namespace Session

def invalidate (s : Session) : Session := { s with connection := { s.connection with isValid := false } }

def inTransaction (b : Bool) (s : Session) : Session :=
  { s with connection := { s.connection with inTransaction := b } }

def noteBookmark (s : Session) : Session :=
  let lastBookmark :=
    match metadata.lookup "bookmark" with
    | some (.string bm) => some bm
    | _ =>
      match metadata.lookup "bookmarks" with
      | some (.list bms) =>
        match bms.getLast? with
        | some (.string bm) => some bm
        | _ => s.connection.lastBookmark
      | _ => s.connection.lastBookmark
  { s with connection := { s.connection with lastBookmark } }

def noteMetadata (collected : Metadata) (s : Session) : Session :=
  { s with connection := { s.connection with lastMetadata := some collected } }

end Session

def extend (m more : Metadata) : Metadata := more.foldl (fun m e => PackStream.insert m e.1 e.2) m

def text (key default : String) : String := ((metadata.lookup key).bind asStr).getD default

def failureText (code message : String) : String :=
  text metadata "code" code ++ ": " ++ text metadata "message" message

def columnsOf : List String :=
  (((metadata.lookup "fields").bind asList).map fun l => l.filterMap asStr).getD []

def count (stats : Metadata) (key : String) : UInt64 :=
  match stats.lookup key with
  | some (.integer n) => ⟨n⟩
  | _ => 0

def parseSummaryMetrics : QuerySummary :=
  let summary : QuerySummary :=
    match metadata.lookup "stats" with
    | some (.map stats) => {
        nodesCreated := count stats "nodes-created"
        nodesDeleted := count stats "nodes-deleted"
        relationshipsCreated := count stats "relationships-created"
        relationshipsDeleted := count stats "relationships-deleted"
        propertiesSet := count stats "properties-set"
        labelsAdded := count stats "labels-added"
        labelsRemoved := count stats "labels-removed"
        indexesAdded := count stats "indexes-added"
        constraintsAdded := count stats "constraints-added"
        executionTimeMs := 0 }
    | _ => .empty
  match (metadata.lookup "t_last").or (metadata.lookup "t_first") with
  | some (.integer t) => { summary with executionTimeMs := ⟨t⟩ }
  | _ => summary

def writeRequests (requests : List BoltRequest) : Call Session NetError Unit := fun s =>
  match s.writes with
  | [] => (.error .pending, s)
  | .done :: writes => (.ok (), { s with writes, sent := s.sent ++ requests })
  | .writeFailed message sent :: writes =>
    (.error (.error (.connectionFailed s!"Failed to write chunk frame: {message}")),
      { s with writes, sent := s.sent ++ requests.take sent })
  | .flushFailed message sent :: writes =>
    (.error (.error (.connectionFailed s!"Failed to flush socket: {message}")),
      { s with writes, sent := s.sent ++ requests.take sent })
  | .stalled sent :: writes => (.error .pending, { s with writes, sent := s.sent ++ requests.take sent })

def sendRequest (request : BoltRequest) : Call Session NetError Unit := writeRequests [request]

def receiveResponse : Call Session NetError BoltResponse := fun s =>
  match s.incoming with
  | [] => (.error .pending, s)
  | .message response :: incoming => (.ok response, { s with incoming, received := s.received ++ [response] })
  | .failed e :: incoming => (.error (.error e), { s with incoming })

section

variable {Params Batch : Type} (lib : Library Params Batch)

def reset : Call Session NetError Unit := do
  sendRequest .reset
  match ← receiveResponse with
  | .success _ => Call.modify (.inTransaction false)
  | .failure metadata =>
    Call.modify .invalidate
    Call.fail (.protocolError ("RESET failed: " ++ text metadata "message" "Reset failed"))
  | other =>
    Call.modify .invalidate
    Call.fail (.protocolError s!"Unexpected RESET response: {lib.debug other}")

def ping : Call Session NetError Unit := do
  let s ← Call.get
  if s.connection.isValid then reset lib else Call.fail (.closed "Connection is closed")

def transact (request : BoltRequest) (name code message : String) (succeeded : Metadata → Session → Session)
    (failed : Session → Session) : Call Session NetError Unit := do
  sendRequest request
  match ← receiveResponse with
  | .success metadata => Call.modify (succeeded metadata)
  | .failure metadata =>
    Call.modify failed
    let _ ← Call.attempt (reset lib)
    Call.fail (.protocolError (failureText metadata code message))
  | other =>
    Call.modify failed
    Call.fail (.protocolError s!"Unexpected {name} response: {lib.debug other}")

variable (database : Option String)

def options (txMeta : Option Metadata) (timeout : Option I64) (bookmarks : Option (List String)) : Metadata :=
  (database.map fun db => ("db", BoltValue.string db)).toList ++
    (txMeta.map fun entries => ("tx_metadata", BoltValue.map entries)).toList ++
    (timeout.map fun ms => ("tx_timeout", BoltValue.integer ms)).toList ++
    (bookmarks.map fun bms => ("bookmarks", BoltValue.list (bms.map .string))).toList

def beginTxWithOptions (txMeta : Option Metadata) (timeoutMs : Option I64)
    (bookmarks : Option (List String)) : Call Session NetError Unit :=
  transact lib (.begin (options database txMeta timeoutMs bookmarks)) "BEGIN"
    "Neo.ClientError.Transaction.InvalidBookmark" "Begin transaction failed" (fun _ => .inTransaction true) id

def beginTx : Call Session NetError Unit :=
  beginTxWithOptions lib database none none none

def commitTx : Call Session NetError Unit :=
  transact lib .commit "COMMIT" "Neo.ClientError.Transaction.TransactionHookFailed" "Commit transaction failed"
    (fun metadata s => (s.inTransaction false).noteBookmark metadata) (.inTransaction false)

def rollbackTx : Call Session NetError Unit :=
  transact lib .rollback "ROLLBACK" "Neo.ClientError.Transaction.TransactionHookFailed" "Rollback transaction failed"
    (fun _ => .inTransaction false) (.inTransaction false)

variable (query : String)

def startQuery (params extra : Metadata) (code : String) : Call Session NetError Metadata := do
  writeRequests [.run query params extra, .pullAll]
  match ← receiveResponse with
  | .success metadata => return metadata
  | .failure metadata =>
    let _ ← Call.attempt receiveResponse
    let _ ← Call.attempt (reset lib)
    Call.fail (.protocolError (failureText metadata code "Query failed"))
  | other => Call.fail (.protocolError s!"Unexpected RUN response: {lib.debug other}")

inductive Ending where
  | success (metadata : Metadata)
  | failure (metadata : Metadata)

def readRecords (records : List (List BoltValue)) (received : List BoltResponse) :
    List Incoming → Except (Stop NetError) (List (List BoltValue) × Ending) × List BoltResponse × List Incoming
  | [] => (.error .pending, received, [])
  | .failed e :: incoming => (.error (.error e), received, incoming)
  | .message response :: incoming =>
    match response with
    | .record fields => readRecords (records ++ [fields]) (received ++ [response]) incoming
    | .success metadata => (.ok (records, .success metadata), received ++ [response], incoming)
    | .failure metadata => (.ok (records, .failure metadata), received ++ [response], incoming)
    | .ignored _ =>
      (.error (.error (.protocolError s!"Unexpected stream response: {lib.debug response}")), received ++ [response],
        incoming)

def receiveRecords : Call Session NetError (List (List BoltValue) × Ending) := fun s =>
  let (result, received, incoming) := readRecords lib [] s.received s.incoming
  (result, { s with incoming, received })

abbrev RawRecords := List String × List (List BoltValue) × QuerySummary × Option (String × String)

def executeRawRecordsInner (params extra : Metadata) : Call Session NetError RawRecords := do
  let runMetadata ← startQuery lib query params extra "Neo.ClientError.Statement.SyntaxError"
  let (records, ending) ← receiveRecords lib
  match ending with
  | .success metadata =>
    Call.modify (.noteBookmark metadata)
    Call.modify (.noteMetadata (extend (extend [] runMetadata) metadata))
    return (columnsOf runMetadata, records, parseSummaryMetrics metadata, none)
  | .failure metadata =>
    let _ ← Call.attempt (reset lib)
    return (columnsOf runMetadata, records, .empty,
      some (text metadata "code" "StreamError", text metadata "message" "Stream record failed"))

def millis (duration : ℕ) : I64 := BitVec.ofNat 64 (duration / 1000000)

def executeRawRecordsWithOptions (params : Metadata) (database : Option String)
    (txMeta : Option Metadata) (timeoutMs : Option I64) (bookmarks : Option (List String)) :
    Call Session NetError RawRecords := do
  let s ← Call.get
  if s.connection.isValid then
    -- a timeout that is not positive counts as none
    let (timeout, effectiveTimeout) :=
      match timeoutMs.filter fun timeout => 0 < timeout.toInt with
      | some timeout => (some timeout, some (timeout.toNat * 1000000))
      | none => (s.connection.queryTimeout.map millis, s.connection.queryTimeout)
    Call.timeout effectiveTimeout Session.invalidate
      (fun duration => .timeout s!"Query execution timed out after {lib.durationText duration}")
      (executeRawRecordsInner lib query params (options database txMeta timeout bookmarks))
  else Call.fail (.closed "Bolt connection is closed or broken")

def executeRawRecords (params : Metadata) :
    Call Session NetError (List String × List (List BoltValue) × QuerySummary) := do
  let (columns, records, summary, streamErr) ← executeRawRecordsWithOptions lib query params none none none none
  match streamErr with
  | some (code, msg) => Call.fail (.protocolError s!"{code}: {msg}")
  | none => return (columns, records, summary)

def executeInner (params : Params) : Call Session NetError (QueryResult Batch) := do
  let s ← Call.get
  if s.connection.isValid then
    let extra := options none none (s.connection.queryTimeout.map millis) none
    let runMetadata ← startQuery lib query (lib.boltParams params) extra "QueryError"
    let (records, ending) ← receiveRecords lib
    match ending with
    | .failure metadata =>
      let _ ← Call.attempt (reset lib)
      Call.fail (.protocolError (failureText metadata "StreamError" "Stream record failed"))
    | .success metadata =>
      let columns := columnsOf runMetadata
      match lib.buildRecordBatch columns records with
      | .error e => Call.fail e
      | .ok batch =>
        let batches := if lib.numRows batch > 0 ∨ columns ≠ [] then [batch] else []
        return ⟨columns, batches, parseSummaryMetrics metadata⟩
  else Call.fail (.closed "Bolt connection is closed or broken")

def execute (params : Params) : Call Session NetError (QueryResult Batch) := do
  let s ← Call.get
  Call.timeout s.connection.queryTimeout Session.invalidate
    (fun duration => .timeout s!"Query execution timed out after {lib.durationText duration}")
    (executeInner lib query params)

end

end Voyager.Bolt
