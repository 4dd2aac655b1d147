import Voyager.Lib.ByteStream
import Voyager.Lib.Dict
import Voyager.Net.Query
import Voyager.Postgres.Format
import Voyager.Postgres.Message

namespace Voyager.Postgres

open Lib Net

def maxPgMessageSize : ℕ := 128 * 1024 * 1024

/-- What the model leaves open: functions of other crates and texts of values that they print. -/
structure Library (Batch : Type) where
  utf8Error : Bytes → String
  fromUtf8Lossy : Bytes → String
  rowsToRecordBatch : List String → List (List (Option String)) → Except NetError Batch
  numRows : Batch → ℕ
  durationText : ℕ → String
  elapsedMs : ℕ

structure PostgresConnection where
  serverParameters : Dict String String
  transactionStatus : TransactionStatus
  queryTimeout : Option ℕ

variable (c : PostgresConnection)

namespace PostgresConnection

def isValid : Bool := c.transactionStatus ≠ .failedTransaction

def isInTransaction : Bool := c.transactionStatus = .inTransaction

end PostgresConnection

/-- A connection, what its socket has for it and how its next writes end. The queries that went out and the number of
`ReadyForQuery` messages that were read are kept for the sake of the statements. -/
structure Session where
  connection : PostgresConnection
  incoming : Source
  writes : List Written
  sent : List String
  readied : ℕ

section

variable {Batch : Type} (lib : Library Batch)

def decodeMessage (msgType : UInt8) (payload : Bytes) : Except (Stop NetError) BackendMessage :=
  match (BackendMessage.decode lib.utf8Error msgType payload).1 with
  | .ok (message, _) => .ok message
  | .error (.error e) => .error (.error e)
  | .error _ => .error .panicked

def readBackendMessage : Call Source NetError BackendMessage := do
  let msgType ← Source.readExact 1 .ioError (.closed "PostgreSQL connection closed unexpectedly by remote host")
  let header ← Source.readExact 4 .ioError (.ioError "early eof")
  let length := (BitVec.ofNat 32 (ofBytes header)).toInt
  if length < 4 then Call.fail (.protocolError s!"Invalid PostgreSQL message length: {length}")
  else
    let payloadLen := (length - 4).toNat
    if payloadLen > maxPgMessageSize then
      Call.fail (.protocolError
        s!"PostgreSQL message size {payloadLen} exceeds maximum allowed limit of {maxPgMessageSize} bytes")
    else
      let payload ← Source.readExact payloadLen .ioError (.ioError "early eof")
      fun source => (decodeMessage lib (msgType.headD 0) payload, source)

lemma readBackendMessage_size {source source' : Source} {message : BackendMessage}
    (h : readBackendMessage lib source = (.ok message, source')) : source'.size + 5 ≤ source.size := by
  obtain ⟨msgType, source₁, htype, h⟩ := Call.bind_eq_ok h
  obtain ⟨header, source₂, hheader, h⟩ := Call.bind_eq_ok h
  have htype := Source.readExact_size htype
  have hheader := Source.readExact_size hheader
  simp only at h
  split_ifs at h
  · cases h
  · cases h
  · obtain ⟨payload, source₃, hpayload, h⟩ := Call.bind_eq_ok h
    have hpayload := Source.readExact_size hpayload
    obtain ⟨-, rfl⟩ := Prod.mk.injEq .. ▸ h
    omega

end

def isWhite (c : Char) : Bool :=
  (9 ≤ c.toNat && c.toNat ≤ 13) || (0x2000 ≤ c.toNat && c.toNat ≤ 0x200A) ||
    [0x20, 0x85, 0xA0, 0x1680, 0x2028, 0x2029, 0x202F, 0x205F, 0x3000].contains c.toNat

def splitWhitespace (s : String) : List String :=
  ((s.toList.splitOnP isWhite).filter (· ≠ [])).map String.ofList

def parseU64 (s : String) : Option UInt64 := (parseUnsigned (2 ^ 64) s).map UInt64.ofNat

def parseCommandTag (tag : String) (summary : QuerySummary) : QuerySummary :=
  match splitWhitespace tag with
  | "INSERT" :: parts =>
    match parts[1]?.bind parseU64 with
    | some c => { summary with nodesCreated := summary.nodesCreated + c }
    | none => summary
  | "DELETE" :: parts =>
    match parts[0]?.bind parseU64 with
    | some c => { summary with nodesDeleted := summary.nodesDeleted + c }
    | none => summary
  | "UPDATE" :: parts =>
    match parts[0]?.bind parseU64 with
    | some c => { summary with propertiesSet := summary.propertiesSet + c }
    | none => summary
  | _ => summary

structure Reply where
  columns : List String
  rows : List (List (Option String))
  summary : QuerySummary
  queryError : Option NetError

def Reply.empty : Reply := ⟨[], [], .empty, none⟩

section

variable {Batch : Type} (lib : Library Batch)

def Reply.add (reply : Reply) : BackendMessage → Reply
  | .rowDescription fields => { reply with columns := fields.map FieldDescription.name }
  | .dataRow vals => { reply with rows := reply.rows ++ [vals.map fun val => val.map lib.fromUtf8Lossy] }
  | .commandComplete tag => { reply with summary := parseCommandTag tag reply.summary }
  | .errorResponse diag => { reply with queryError := some (.protocolError diag.formatError) }
  | _ => reply

def PostgresConnection.note : BackendMessage → PostgresConnection
  | .parameterStatus name value => { c with serverParameters := c.serverParameters.set name value }
  | _ => c

variable (query : String)

def writeQuery : Call Session NetError Unit := fun s =>
  match s.writes with
  | [] => (.error .pending, s)
  | written :: writes =>
    let s := { s with writes, sent := if written.sent then s.sent ++ [query] else s.sent }
    match written with
    | .done => (.ok (), s)
    | .failed message _ => (.error (.error (.ioError message)), s)
    | .stalled _ => (.error .pending, s)

def readReply (reply : Reply) (s : Session) : Except (Stop NetError) Reply × Session :=
  match _hread : readBackendMessage lib s.incoming with
  | (.error e, incoming) => (.error e, { s with incoming })
  | (.ok (.readyForQuery status), incoming) =>
    (.ok reply, { s with
      incoming, readied := s.readied + 1, connection := { s.connection with transactionStatus := status } })
  | (.ok message, incoming) =>
    readReply (reply.add lib message) { s with incoming, connection := s.connection.note message }
termination_by s.incoming.size
decreasing_by
  have := readBackendMessage_size lib _hread
  omega

def Reply.result (reply : Reply) : Except NetError (QueryResult Batch) := do
  if let some err := reply.queryError then throw err
  let summary := { reply.summary with executionTimeMs := UInt64.ofNat lib.elapsedMs }
  let batch ← lib.rowsToRecordBatch reply.columns reply.rows
  let batches := if lib.numRows batch > 0 ∨ reply.columns ≠ [] then [batch] else []
  return ⟨reply.columns, batches, summary⟩

def executeSimpleInner : Call Session NetError (QueryResult Batch) := do
  writeQuery query
  let reply ← readReply lib .empty
  match reply.result lib with
  | .ok result => return result
  | .error e => Call.fail e

def Session.expired (s : Session) : Session :=
  { s with connection := { s.connection with transactionStatus := .failedTransaction } }

def executeSimple : Call Session NetError (QueryResult Batch) := do
  let s ← Call.get
  Call.timeout s.connection.queryTimeout Session.expired
    (fun duration => .timeout s!"Query execution timed out after {lib.durationText duration}")
    (executeSimpleInner lib query)

def execute (params : Params) : Call Session NetError (QueryResult Batch) :=
  executeSimple lib (formatPostgresQuery query params)

def ping : Call Session NetError Unit := do
  let _ ← executeSimple lib "SELECT 1;"

def reset : Call Session NetError Unit := do
  let s ← Call.get
  if s.connection.transactionStatus ≠ .idle then
    let _ ← Call.attempt (executeSimple lib "ROLLBACK;")

end

end Voyager.Postgres
