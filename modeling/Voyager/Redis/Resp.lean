import Voyager.Lib.Incremental
import Voyager.Lib.Utf8
import Voyager.Net.Error

namespace Voyager.Redis

open Lib Net

abbrev Bytes := List UInt8

def maxRespDepth : ℕ := 128

def maxRespCollectionLen : ℕ := 1000000

inductive RespValue where
  | simpleString (s : String)
  | error (e : String)
  | integer (i : ℤ)
  | bulkString (bytes : Option Bytes)
  | array (items : Option (List RespValue))
  | null
  | double (f : BitVec 64)
  | boolean (b : Bool)
  | blobError (bytes : Bytes)
  | verbatimString (format text : Bytes)
  | bigNumber (num : String)
  | map (pairs : List (RespValue × RespValue))
  | set (items : List RespValue)
  | push (items : List RespValue)

def RespValue.isPush : RespValue → Bool
  | .push _ => true
  | _ => false

/-- What the model leaves open of the standard library: the texts of errors and the parser of floating point numbers,
which it represents by their bits. -/
structure Std where
  utf8Error : Bytes → String
  parseF64 : String → Except String (BitVec 64)

def findCrlf : Bytes → Option ℕ
  | a :: b :: rest => if a = 13 ∧ b = 10 then some 0 else (findCrlf (b :: rest)).map (· + 1)
  | _ => none

def parseLine (src : Bytes) : Option (Bytes × ℕ) := (findCrlf src).map fun i => (src.take i, i + 2)

def invalidDigit : String := "invalid digit found in string"

def parseDigits (bound : ℕ) (overflow : String) : ℕ → List Char → Except String ℕ
  | n, [] => .ok n
  | n, c :: cs =>
    if c.isDigit then
      let n := n * 10 + (c.toNat - 48)
      if n ≤ bound then parseDigits bound overflow n cs else .error overflow
    else .error invalidDigit

def parseUnsigned (bound : ℕ) (overflow : String) (digits : List Char) : Except String ℕ :=
  if digits = [] then .error invalidDigit else parseDigits bound overflow 0 digits

def tooSmall : String := "number too small to fit in target type"

def tooLarge : String := "number too large to fit in target type"

def parseI64 (s : String) : Except String ℤ :=
  match s.toList with
  | [] => .error "cannot parse integer from empty string"
  | '-' :: digits => (parseUnsigned (2 ^ 63) tooSmall digits).map fun n => -(n : ℤ)
  | '+' :: digits => (parseUnsigned (2 ^ 63 - 1) tooLarge digits).map fun n => (n : ℤ)
  | digits => (parseUnsigned (2 ^ 63 - 1) tooLarge digits).map fun n => (n : ℤ)

def parseUsize (s : String) : Except String ℕ :=
  match s.toList with
  | [] => .error "cannot parse integer from empty string"
  | '+' :: digits => parseUnsigned (2 ^ 64 - 1) tooLarge digits
  | digits => parseUnsigned (2 ^ 64 - 1) tooLarge digits

def afterLine {α : Type} (f : Bytes → ℕ → Incremental NetError α) : Incremental NetError α := fun rest =>
  match parseLine rest with
  | none => .ok none
  | some (line, consumed) => f line consumed rest

/-- The bytes of a payload with its line end. Positions are machine words; where they wrap around no slice is long
enough for the payload, and the checks of its end fail one way or the other. -/
def parsePayload (missing incomplete : String) (payloadStart len : ℕ) : Incremental NetError Bytes := fun rest =>
  let payloadEnd := payloadStart + len
  let totalConsumed := payloadEnd + 2
  if totalConsumed < 2 ^ 64 then
    if rest.length < totalConsumed then .ok none
    else if rest[payloadEnd]? ≠ some 13 ∨ rest[payloadEnd + 1]? ≠ some 10 then .error (.protocolError missing)
    else .ok (some ((rest.drop payloadStart).take len, totalConsumed))
  else
    let payloadEnd := payloadEnd % 2 ^ 64
    if rest.length < (payloadEnd + 2) % 2 ^ 64 then .ok none
    else if rest[payloadEnd]? ≠ some 13 ∨ rest[(payloadEnd + 1) % 2 ^ 64]? ≠ some 10 then
      .error (.protocolError missing)
    else .error (.protocolError incomplete)

def parseItems (item : Incremental NetError RespValue) (rest : Bytes) :
    ℕ → ℕ → List RespValue → Except NetError (Option (List RespValue × ℕ))
  | 0, offset, items => .ok (some (items, offset))
  | n + 1, offset, items =>
    if rest.length < offset then .ok none
    else
      match item (rest.drop offset) with
      | .error e => .error e
      | .ok none => .ok none
      | .ok (some (v, consumed)) => parseItems item rest n (offset + consumed) (items ++ [v])

def parsePairs (item : Incremental NetError RespValue) (rest : Bytes) :
    ℕ → ℕ → List (RespValue × RespValue) → Except NetError (Option (List (RespValue × RespValue) × ℕ))
  | 0, offset, pairs => .ok (some (pairs, offset))
  | n + 1, offset, pairs =>
    match parseItems item rest 2 offset [] with
    | .error e => .error e
    | .ok (some ([key, value], offset)) => parsePairs item rest n offset (pairs ++ [(key, value)])
    | .ok _ => .ok none

def checkValue {α β : Type} (f : α → Except NetError β) (result : Except NetError (Option (α × ℕ))) :
    Except NetError (Option (β × ℕ)) := do
  match ← result with
  | none => return none
  | some (a, consumed) =>
    let b ← f a
    return some (b, consumed)

def mapValue {α β : Type} (f : α → β) (result : Except NetError (Option (α × ℕ))) : Except NetError (Option (β × ℕ)) :=
  checkValue (fun a => .ok (f a)) result

section

variable (std : Std)

def utf8 (what : String) (line : Bytes) : Except NetError String :=
  match String.fromUTF8? ⟨line.toArray⟩ with
  | some s => .ok s
  | none => .error (.protocolError s!"Invalid {what}: {std.utf8Error line}")

def number {α : Type} (what : String) (parse : String → Except String α) (s : String) : Except NetError α :=
  match parse s with
  | .ok n => .ok n
  | .error e => .error (.protocolError s!"Malformed {what} '{s}': {e}")

def parseLength {α : Type} (what : String) (parse : String → Except String α) (line : Bytes) : Except NetError α := do
  let s ← utf8 std (what ++ " length") line
  number (what ++ " length") parse s

def parseText (what : String) (f : String → Except NetError RespValue) : Incremental NetError RespValue :=
  afterLine fun line consumed _ => do
    let s ← utf8 std what line
    let v ← f s
    return some (v, consumed)

def parseDouble (s : String) : Except NetError RespValue :=
  if s = "inf" ∨ s = "+inf" then .ok (.double 0x7FF0000000000000)
  else if s = "-inf" then .ok (.double 0xFFF0000000000000)
  else if s = "nan" then .ok (.double 0x7FF8000000000000)
  else (number "RESP3 double" std.parseF64 s).map .double

def parseBulkString : Incremental NetError RespValue :=
  afterLine fun lenLine hdrConsumed rest => do
    let len ← parseLength std "bulk string" parseI64 lenLine
    if len < -1 then throw (.protocolError s!"Negative bulk string length: {len}")
    else if len = -1 then return some (.bulkString none, hdrConsumed)
    else
      mapValue (fun bytes => .bulkString (some bytes)) (parsePayload "Bulk string payload missing trailing CRLF"
        "Incomplete bulk string payload" hdrConsumed len.toNat rest)

def parseBlobError : Incremental NetError RespValue :=
  afterLine fun lenLine hdrConsumed rest => do
    let len ← parseLength std "blob error" parseUsize lenLine
    mapValue .blobError (parsePayload "Blob error payload missing trailing CRLF" "Incomplete blob error payload"
      hdrConsumed len rest)

def parseVerbatimString : Incremental NetError RespValue :=
  afterLine fun lenLine hdrConsumed rest => do
    let len ← parseLength std "verbatim" parseUsize lenLine
    if len < 4 then
      throw (.protocolError "Verbatim string length must be at least 4 bytes (format + ':')")
    else
      checkValue (fun raw =>
          if raw[3]? ≠ some 58 then .error (.protocolError "Verbatim string missing ':' after 3-byte format")
          else .ok (.verbatimString (raw.take 3) (raw.drop 4)))
        (parsePayload "Verbatim string payload missing trailing CRLF" "Incomplete verbatim string payload"
          hdrConsumed len rest)

section

-- the parser of a nested value
variable (item : Incremental NetError RespValue)

def parseArray : Incremental NetError RespValue :=
  afterLine fun lenLine hdrConsumed rest => do
    let len ← parseLength std "array" parseI64 lenLine
    if len < -1 then throw (.protocolError s!"Negative array length: {len}")
    else if len = -1 then return some (.array none, hdrConsumed)
    else if len.toNat > maxRespCollectionLen then
      throw (.protocolError
        s!"Array length {len.toNat} exceeds maximum permitted collection size of {maxRespCollectionLen}")
    else mapValue (fun items => .array (some items)) (parseItems item rest len.toNat hdrConsumed [])

def parseCollection (what name : String) (make : List RespValue → RespValue) : Incremental NetError RespValue :=
  afterLine fun lenLine hdrConsumed rest => do
    let numItems ← parseLength std what parseUsize lenLine
    if numItems > maxRespCollectionLen then
      throw (.protocolError
        s!"{name} length {numItems} exceeds maximum permitted collection size of {maxRespCollectionLen}")
    else mapValue make (parseItems item rest numItems hdrConsumed [])

def parseMap : Incremental NetError RespValue :=
  afterLine fun lenLine hdrConsumed rest => do
    let numPairs ← parseLength std "map" parseUsize lenLine
    if numPairs > maxRespCollectionLen then
      throw (.protocolError
        s!"Map length {numPairs} exceeds maximum permitted collection size of {maxRespCollectionLen}")
    else mapValue .map (parsePairs item rest numPairs hdrConsumed [])

end

def parseNull : Incremental NetError RespValue := fun rest =>
  if rest.length < 2 then .ok none
  else if rest.take 2 = [13, 10] then .ok (some (.null, 2))
  else .error (.protocolError "Malformed RESP3 Null: expected CRLF after '_'")

def parseBoolean : Incremental NetError RespValue := fun rest =>
  if rest.length < 3 then .ok none
  else if (rest.drop 1).take 2 = [13, 10] then
    match rest.head? with
    | some 116 => .ok (some (.boolean true, 3))
    | some 102 => .ok (some (.boolean false, 3))
    | some other => .error (.protocolError s!"Invalid RESP3 boolean character: '{asChar other}'")
    | none => .ok none
  else .error (.protocolError "Malformed RESP3 boolean missing CRLF")

def parseBody (item : Incremental NetError RespValue) (typeMarker : UInt8) : Incremental NetError RespValue :=
  match typeMarker with
  | 0x2B => parseText std "UTF-8 simple string" fun s => .ok (.simpleString s)
  | 0x2D => parseText std "UTF-8 error string" fun s => .ok (.error s)
  | 0x3A => parseText std "UTF-8 integer string" fun s => (number "RESP integer" parseI64 s).map .integer
  | 0x24 => parseBulkString std
  | 0x2A => parseArray std item
  | 0x5F => parseNull
  | 0x2C => parseText std "double string" (parseDouble std)
  | 0x23 => parseBoolean
  | 0x21 => parseBlobError std
  | 0x3D => parseVerbatimString std
  | 0x28 => parseText std "big number string" fun s => .ok (.bigNumber s)
  | 0x25 => parseMap std item
  | 0x7E => parseCollection std item "set" "Set" .set
  | 0x3E => parseCollection std item "push" "Push" .push
  | other => fun _ =>
    .error (.protocolError s!"Unrecognized RESP protocol type marker: '{asChar other}' (0x{hexByte other})")

def parseRespSlice : ℕ → Incremental NetError RespValue
  | 0, _ => .error (.protocolError s!"RESP structure exceeded maximum nesting depth of {maxRespDepth}")
  | _ + 1, [] => .ok none
  | levels + 1, typeMarker :: rest =>
    match parseBody std (parseRespSlice levels) typeMarker rest with
    | .error e => .error e
    | .ok none => .ok none
    | .ok (some (v, consumed)) => .ok (some (v, consumed + 1))

def RespValue.parse : Incremental NetError RespValue := parseRespSlice std (maxRespDepth + 1)

def RespValue.parseBuffer (src : Bytes) : Except NetError (Option RespValue) × Bytes :=
  match RespValue.parse std src with
  | .error e => (.error e, src)
  | .ok (some (val, consumed)) => (.ok (some val), src.drop consumed)
  | .ok none => (.ok none, src)

end

end Voyager.Redis
