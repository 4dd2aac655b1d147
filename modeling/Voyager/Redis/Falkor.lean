import Voyager.Builder.Labels
import Voyager.Net.Query
import Voyager.Redis.Resp

namespace Voyager.Redis

open Net

/-- What the model leaves open: texts of bytes and numbers, and the tables of Unicode. -/
structure Texts where
  std : Std
  unicode : Unicode
  lossy : Bytes → String
  f64Text : BitVec 64 → String
  debug : RespValue → String
  roundF64 : BitVec 64 → UInt64

section

variable (texts : Texts)

mutual

def RespValue.toStringLossy : RespValue → String
  | .simpleString s => s
  | .error e => "ERROR: " ++ e
  | .integer i => toString i
  | .bulkString (some bytes) => texts.lossy bytes
  | .bulkString none | .null => "null"
  | .double f => texts.f64Text f
  | .boolean b => toString b
  | .bigNumber n => n
  | .array (some items) => "[" ++ ", ".intercalate (stringsLossy items) ++ "]"
  | .array none => "null"
  | .map pairs => "\x7b" ++ ", ".intercalate (pairsLossy pairs) ++ "\x7d"
  | .set items => "\x7b" ++ ", ".intercalate (stringsLossy items) ++ "\x7d"
  | other => texts.debug other

def stringsLossy : List RespValue → List String
  | [] => []
  | item :: items => item.toStringLossy :: stringsLossy items

def pairsLossy : List (RespValue × RespValue) → List String
  | [] => []
  | (k, v) :: pairs => (k.toStringLossy ++ ": " ++ v.toStringLossy) :: pairsLossy pairs

end

structure FalkorStatistics where
  nodesCreated : UInt64 := 0
  nodesDeleted : UInt64 := 0
  relationshipsCreated : UInt64 := 0
  relationshipsDeleted : UInt64 := 0
  propertiesSet : UInt64 := 0
  labelsAdded : UInt64 := 0
  labelsRemoved : UInt64 := 0
  indicesCreated : UInt64 := 0
  indicesDeleted : UInt64 := 0
  cachedExecution : Bool := false
  internalExecutionTimeMs : BitVec 64 := 0
  rawStats : List String := []

namespace FalkorStatistics

def count (val : String) : UInt64 :=
  match parseUsize val with
  | .ok n => .ofNat n
  | .error _ => 0

def firstWord (val : String) : Option String :=
  match (val.toList.dropWhile texts.unicode.isWhitespace).takeWhile (!texts.unicode.isWhitespace ·) with
  | [] => none
  | word => some (.ofList word)

def splitOnce (c : Char) (line : String) : Option (String × String) :=
  match line.toList.dropWhile (· ≠ c) with
  | [] => none
  | _ :: val => some (.ofList (line.toList.takeWhile (· ≠ c)), .ofList val)

variable (stats : FalkorStatistics)

def set (key val : String) : FalkorStatistics :=
  match key with
  | "Nodes created" => { stats with nodesCreated := count val }
  | "Nodes deleted" => { stats with nodesDeleted := count val }
  | "Relationships created" => { stats with relationshipsCreated := count val }
  | "Relationships deleted" => { stats with relationshipsDeleted := count val }
  | "Properties set" => { stats with propertiesSet := count val }
  | "Labels added" => { stats with labelsAdded := count val }
  | "Labels removed" => { stats with labelsRemoved := count val }
  | "Indices created" | "Indexes added" => { stats with indicesCreated := count val }
  | "Indices deleted" | "Indexes removed" => { stats with indicesDeleted := count val }
  | "Cached execution" => { stats with cachedExecution := val = "1" ∨ val = "true" }
  | "Query internal execution time" =>
    match firstWord texts val with
    | some number => { stats with internalExecutionTimeMs := (texts.std.parseF64 number).toOption.getD 0 }
    | none => stats
  | _ => stats

def readLine (item : RespValue) : FalkorStatistics :=
  let line := item.toStringLossy texts
  let stats := { stats with rawStats := stats.rawStats ++ [line] }
  match splitOnce ':' line with
  | some (key, val) => stats.set texts (texts.unicode.trim key) (texts.unicode.trim val)
  | none => stats

def parse (statsArray : List RespValue) : FalkorStatistics := statsArray.foldl (readLine texts) {}

def toQuerySummary : QuerySummary where
  nodesCreated := stats.nodesCreated
  nodesDeleted := stats.nodesDeleted
  relationshipsCreated := stats.relationshipsCreated
  relationshipsDeleted := stats.relationshipsDeleted
  propertiesSet := stats.propertiesSet
  labelsAdded := stats.labelsAdded
  labelsRemoved := stats.labelsRemoved
  indexesAdded := stats.indicesCreated
  constraintsAdded := 0
  executionTimeMs := texts.roundF64 stats.internalExecutionTimeMs

end FalkorStatistics

structure FalkorQueryResult where
  columns : List String
  rows : List (List RespValue)
  statistics : FalkorStatistics

namespace FalkorQueryResult

def parseColumns : RespValue → List String
  | .array (some cols) => stringsLossy texts cols
  | _ => []

def parseRows : RespValue → List (List RespValue)
  | .array (some rawRows) => rawRows.filterMap fun
    | .array (some cells) => some cells
    | _ => none
  | _ => []

def parseStatistics : RespValue → FalkorStatistics
  | .array (some statsArray) => .parse texts statsArray
  | _ => {}

def parse : RespValue → Except NetError FalkorQueryResult
  | .array (some [header, rows, stats]) =>
    .ok ⟨parseColumns texts header, parseRows rows, parseStatistics texts stats⟩
  | .array (some [stats]) => .ok ⟨[], [], parseStatistics texts stats⟩
  | .array (some items) =>
    .error (.protocolError
      s!"Unexpected FalkorDB query response array length: {items.length} (expected 1 or 3)")
  | .error err => .error (.executionError s!"FalkorDB query error: {err}")
  | other => .error (.protocolError s!"Expected RESP array from FalkorDB query, got {texts.debug other}")

end FalkorQueryResult

def RespValue.isResult : RespValue → Bool
  | .array (some [_, _, _]) | .array (some [_]) => true
  | _ => false

lemma FalkorQueryResult.parse_isOk_iff (reply : RespValue) :
    (parse texts reply).isOk = true ↔ reply.isResult = true := by
  unfold parse RespValue.isResult
  split <;> split <;> simp_all [Except.isOk, Except.toBool]

end

end Voyager.Redis
