import Voyager.Lib.ByteStream
import Voyager.Redis.Resp

namespace Voyager.Redis

open Lib Net

def maxRespFrameSize : ℕ := 128 * 1024 * 1024

structure Buffer where
  bytes : Bytes
  taken : Bytes

namespace Buffer

variable (b : Buffer)

def advance (n : ℕ) : Buffer := ⟨b.bytes.drop n, b.taken ++ b.bytes.take n⟩

def clear : Buffer := ⟨[], b.taken ++ b.bytes⟩

def extend (more : Bytes) : Buffer := ⟨b.bytes ++ more, b.taken⟩

end Buffer

structure RedisConnection where
  buffer : Buffer
  inTransaction : Bool
  isValid : Bool
  queryTimeout : Option ℕ

/-- A connection, what its socket has for it and how its next writes end. The commands that went out and the replies
that were returned for them are kept for the sake of the statements. -/
structure Session where
  connection : RedisConnection
  incoming : Source
  writes : List Written
  sent : List (List String)
  received : List RespValue

/-- What the model leaves open: texts, and what is made of a query and of its reply. -/
structure Library (Params Result : Type) where
  std : Std
  debug : RespValue → String
  durationText : ℕ → String
  formatCypherWithParams : String → Params → String
  falkorParse : RespValue → Except NetError Result

section

variable (std : Std)

def readFailed (e : String) : NetError := .connectionFailed s!"Failed to read RESP frame from socket: {e}"

def bufferExceeded : NetError := .protocolError s!"RESP buffer exceeded maximum limit of {maxRespFrameSize} bytes"

def endOfStream (buffer : Buffer) : NetError :=
  if buffer.bytes = [] then .connectionFailed "Connection closed by server while waiting for RESP reply"
  else .protocolError "Unexpected EOF in incomplete RESP frame"

def look (buffer : Buffer) : Option (Except (Stop NetError) RespValue × Buffer) :=
  match if buffer.bytes = [] then .ok none else RespValue.parse std buffer.bytes with
  | .error e => some (.error (.error e), buffer)
  | .ok (some (val, consumed)) => some (.ok val, buffer.advance consumed)
  | .ok none => if buffer.bytes.length > maxRespFrameSize then some (.error (.error bufferExceeded), buffer) else none

def readRespValue (buffer : Buffer) : Source → Except (Stop NetError) RespValue × Buffer × Source
  | [] =>
    match look std buffer with
    | some (result, buffer) => (result, buffer, [])
    | none => (.error .pending, buffer, [])
  | arrival :: source =>
    match look std buffer with
    | some (result, buffer) => (result, buffer, arrival :: source)
    | none =>
      match arrival with
      | .failed message => (.error (.error (readFailed message)), buffer, source)
      | .data [] => (.error (.error (endOfStream buffer)), buffer, source)
      | .data (b :: bytes) => readRespValue (buffer.extend (b :: bytes)) source

end

section

variable {Params Result : Type} (lib : Library Params Result)

def writeCommand (args : List String) : Call Session NetError Unit := fun s =>
  match s.writes with
  | [] => (.error .pending, s)
  | written :: writes =>
    let s := { s with writes, sent := if written.sent then s.sent ++ [args] else s.sent }
    match written with
    | .done => (.ok (), s)
    | .failed message _ =>
      (.error (.error (.connectionFailed s!"Failed to write RESP command to socket: {message}")), s)
    | .stalled _ => (.error .pending, s)

def readReply : Call Session NetError RespValue := fun s =>
  match readRespValue lib.std s.connection.buffer s.incoming with
  | (.ok val, buffer, incoming) =>
    (.ok val, { s with incoming, connection := { s.connection with buffer }, received := s.received ++ [val] })
  | (.error e, buffer, incoming) => (.error e, { s with incoming, connection := { s.connection with buffer } })

def executeRawInner (args : List String) : Call Session NetError RespValue := do
  writeCommand args
  readReply lib

variable (s : Session)

def Session.expired : Session := { s with connection := { s.connection with isValid := false } }

def executeRaw (args : List String) : Call Session NetError RespValue := do
  let s ← Call.get
  Call.timeout s.connection.queryTimeout Session.expired
    (fun duration => .timeout s!"Redis command timed out after {lib.durationText duration}") (executeRawInner lib args)

def graphQuery (graph query : String) (params : Params) : Call Session NetError Result := do
  let resp ← executeRaw lib ["GRAPH.QUERY", graph, lib.formatCypherWithParams query params]
  match lib.falkorParse resp with
  | .ok result => return result
  | .error e => Call.fail e

def ping : Call Session NetError Unit := do
  let resp ← executeRaw lib ["PING"]
  match resp with
  | .simpleString "PONG" => return
  | .bulkString (some [80, 79, 78, 71]) => return
  | .error err => Call.fail (.executionError s!"PING failed: {err}")
  | other => Call.fail (.protocolError s!"Unexpected PING response: {lib.debug other}")

def Session.leaveTransaction : Session :=
  { s with connection := { s.connection with inTransaction := false } }

def Session.clearBuffer : Session :=
  { s with connection := { s.connection with buffer := s.connection.buffer.clear } }

def reset : Call Session NetError Unit := do
  let s ← Call.get
  if s.connection.inTransaction then
    let _ ← Call.attempt (executeRaw lib ["DISCARD"])
    Call.modify Session.leaveTransaction
  Call.modify Session.clearBuffer

end

end Voyager.Redis
