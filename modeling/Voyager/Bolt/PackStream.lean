import Voyager.Bolt.Value
import Voyager.Lib.BigEndian
import Voyager.Lib.Decoder
import Voyager.Lib.Utf8
import Voyager.Net.Error

namespace Voyager.Bolt

open Lib Net

abbrev Bytes := List UInt8

def maxPackStreamDepth : ℕ := 64

namespace PackStream

def encodeInteger (val : I64) : Bytes :=
  if -16 ≤ val.toInt ∧ val.toInt ≤ 127 then toBytes 1 (val.setWidth 8).toNat
  else if -2 ^ 7 ≤ val.toInt ∧ val.toInt < 2 ^ 7 then 0xC8 :: toBytes 1 (val.setWidth 8).toNat
  else if -2 ^ 15 ≤ val.toInt ∧ val.toInt < 2 ^ 15 then 0xC9 :: toBytes 2 (val.setWidth 16).toNat
  else if -2 ^ 31 ≤ val.toInt ∧ val.toInt < 2 ^ 31 then 0xCA :: toBytes 4 (val.setWidth 32).toNat
  else 0xCB :: toBytes 8 val.toNat

def encodeBytes (bytes : Bytes) : Bytes :=
  let len := bytes.length
  (if len ≤ 255 then 0xCC :: toBytes 1 len
    else if len ≤ 65535 then 0xCD :: toBytes 2 len
    else 0xCE :: toBytes 4 len) ++ bytes

def encodeLength (tiny sized : UInt8) (len : ℕ) : Bytes :=
  if len ≤ 15 then [tiny ||| UInt8.ofNat len]
  else if len ≤ 255 then sized :: toBytes 1 len
  else if len ≤ 65535 then (sized + 1) :: toBytes 2 len
  else (sized + 2) :: toBytes 4 len

def encodeString (s : String) : Bytes := encodeLength 0x80 0xD0 s.utf8ByteSize ++ utf8Bytes s

def encodeList (items : List Bytes) : Bytes := encodeLength 0x90 0xD4 items.length ++ items.flatten

def encodeMap (entries : List (String × Bytes)) : Bytes :=
  encodeLength 0xA0 0xD8 entries.length ++ entries.flatMap fun e => encodeString e.1 ++ e.2

def encodeStructure (tag : UInt8) (fields : List Bytes) : Bytes :=
  let len := fields.length
  (if len ≤ 15 then [0xB0 ||| UInt8.ofNat len]
    else if len ≤ 255 then 0xDC :: toBytes 1 len
    else 0xDD :: toBytes 2 len) ++ tag :: fields.flatten

def encodeFloat (f : F64) : Bytes := 0xC1 :: toBytes 8 f.toNat

def encodeNode (n : BoltNode Bytes) : Bytes :=
  encodeStructure 0x4E ([encodeInteger n.id, encodeList (n.labels.map encodeString), encodeMap n.properties] ++
    (n.elementId.map encodeString).toList)

def encodeRelationship (r : BoltRelationship Bytes) : Bytes :=
  encodeStructure 0x52 ([encodeInteger r.id, encodeInteger r.startNodeId, encodeInteger r.endNodeId,
    encodeString r.relType, encodeMap r.properties] ++
      match r.elementId with
      | some elemId => [encodeString elemId, encodeString (r.startElementId.getD ""),
          encodeString (r.endElementId.getD "")]
      | none => [])

def encodeUnboundRelationship (r : BoltUnboundRelationship Bytes) : Bytes :=
  encodeStructure 0x72 ([encodeInteger r.id, encodeString r.relType, encodeMap r.properties] ++
    (r.elementId.map encodeString).toList)

def encodePath (p : BoltPath Bytes) : Bytes :=
  encodeStructure 0x50 [encodeList (p.nodes.map encodeNode),
    encodeList (p.relationships.map encodeUnboundRelationship), encodeList (p.sequence.map encodeInteger)]

def encodePoint2D (p : BoltPoint2D) : Bytes :=
  encodeStructure 0x58 [encodeInteger p.srid, encodeFloat p.x, encodeFloat p.y]

def encodePoint3D (p : BoltPoint3D) : Bytes :=
  encodeStructure 0x59 [encodeInteger p.srid, encodeFloat p.x, encodeFloat p.y, encodeFloat p.z]

def encodeDate (d : BoltDate) : Bytes := encodeStructure 0x44 [encodeInteger d.days]

def encodeTime (t : BoltTime) : Bytes :=
  encodeStructure 0x54 [encodeInteger t.nanoseconds, encodeInteger t.tzOffsetSeconds]

def encodeLocalTime (t : BoltLocalTime) : Bytes := encodeStructure 0x74 [encodeInteger t.nanoseconds]

def encodeDateTime (t : BoltDateTime) : Bytes :=
  encodeStructure 0x49 [encodeInteger t.seconds, encodeInteger t.nanoseconds, encodeInteger t.tzOffsetSeconds]

def encodeLocalDateTime (t : BoltLocalDateTime) : Bytes :=
  encodeStructure 0x64 [encodeInteger t.seconds, encodeInteger t.nanoseconds]

def encodeDateTimeZoneId (t : BoltDateTimeZoneId) : Bytes :=
  encodeStructure 0x4A [encodeInteger t.seconds, encodeInteger t.nanoseconds, encodeString t.zoneId]

def encodeDuration (d : BoltDuration) : Bytes :=
  encodeStructure 0x45 [encodeInteger d.months, encodeInteger d.days, encodeInteger d.seconds,
    encodeInteger d.nanoseconds]

def encode (v : BoltValue) : Bytes :=
  match v with
  | .null => [0xC0]
  | .boolean false => [0xC2]
  | .boolean true => [0xC3]
  | .integer i => encodeInteger i
  | .float f => encodeFloat f
  | .bytes bytes => encodeBytes bytes
  | .string s => encodeString s
  | .list items => encodeList (items.map fun u => encode u)
  | .map entries => encodeMap (entries.map fun e => (e.1, encode e.2))
  | .struct tag fields => encodeStructure tag (fields.map fun u => encode u)
  | .node n => encodeNode { n with properties := n.properties.map fun e => (e.1, encode e.2) }
  | .relationship r => encodeRelationship { r with properties := r.properties.map fun e => (e.1, encode e.2) }
  | .path p => encodePath { p with
      nodes := p.nodes.map fun n => { n with properties := n.properties.map fun e => (e.1, encode e.2) }
      relationships := p.relationships.map fun r =>
        { r with properties := r.properties.map fun e => (e.1, encode e.2) } }
  | .point2D p => encodePoint2D p
  | .point3D p => encodePoint3D p
  | .date d => encodeDate d
  | .time t => encodeTime t
  | .localTime t => encodeLocalTime t
  | .dateTime t => encodeDateTime t
  | .localDateTime t => encodeLocalDateTime t
  | .dateTimeZoneId t => encodeDateTimeZoneId t
  | .duration d => encodeDuration d
termination_by sizeOf v
decreasing_by
  all_goals apply BoltValue.sizeOf_lt_of_mem_children
  all_goals simp only [BoltValue.children, List.mem_append, List.mem_flatMap, List.mem_map]
  all_goals grind

end PackStream

inductive DecodeError where
  | tooDeep
  | eofValue
  | incomplete (what : String)
  | unknownMarker (marker : UInt8)
  | eofString (len : ℕ)
  | invalidUtf8 (bytes : Bytes)
  | eofBytes (len : ℕ)
  | listLength (len remaining : ℕ)
  | mapSize (size remaining : ℕ)
  | mapKey (key : BoltValue)
  | eofTag
  | fieldCount (count remaining : ℕ)

def f64OfInt (i : I64) : F64 :=
  let n := i.toInt.natAbs
  if n = 0 then 0
  else
    let e := Nat.log2 n
    let shift := e - 52
    let q := n / 2 ^ shift
    let rest := 2 * (n % 2 ^ shift)
    let significand := if e ≤ 52 then n * 2 ^ (52 - e)
      else if 2 ^ shift < rest ∨ (rest = 2 ^ shift ∧ q % 2 = 1) then q + 1 else q
    BitVec.ofNat 64 ((if i.toInt < 0 then 2 ^ 63 else 0) + (e + 1023) * 2 ^ 52 + (significand - 2 ^ 52))

namespace BoltValue

def asStr : BoltValue → Option String
  | .string s => some s
  | _ => none

def asI64 : BoltValue → Option I64
  | .integer i => some i
  | _ => none

def asMap : BoltValue → Option (List (String × BoltValue))
  | .map m => some m
  | _ => none

def asList : BoltValue → Option (List BoltValue)
  | .list l => some l
  | _ => none

def asNode : BoltValue → Option (BoltNode BoltValue)
  | .node n => some n
  | _ => none

def asCoordinate : BoltValue → Option F64
  | .float f => some f
  | .integer i => some (f64OfInt i)
  | _ => none

end BoltValue

namespace PackStream

open Decoder BoltValue

def insert (m : List (String × BoltValue)) (key : String) (value : BoltValue) : List (String × BoltValue) :=
  if m.any (fun e => e.1 = key) then m.map fun e => if e.1 = key then (key, value) else e else m ++ [(key, value)]

section

variable (fields : List BoltValue)

def decodeNodeStructure : BoltValue :=
  if fields.length < 3 then .struct 0x4E fields
  else
    match fields[0]?.bind asI64 with
    | some id => .node {
        id
        labels := ((fields[1]?.bind asList).getD []).filterMap asStr
        properties := (fields[2]?.bind asMap).getD []
        elementId := if 4 ≤ fields.length then fields[3]?.bind asStr else none }
    | none => .struct 0x4E fields

def decodeRelationshipStructure : BoltValue :=
  if fields.length < 5 then .struct 0x52 fields
  else
    match fields[0]?.bind asI64 with
    | some id => .relationship {
        id
        startNodeId := (fields[1]?.bind asI64).getD 0
        endNodeId := (fields[2]?.bind asI64).getD 0
        relType := (fields[3]?.bind asStr).getD ""
        properties := (fields[4]?.bind asMap).getD []
        elementId := if 8 ≤ fields.length then fields[5]?.bind asStr else none
        startElementId := if 8 ≤ fields.length then fields[6]?.bind asStr else none
        endElementId := if 8 ≤ fields.length then fields[7]?.bind asStr else none }
    | none => .struct 0x52 fields

def unboundRelationship : BoltValue → Option (BoltUnboundRelationship BoltValue)
  | .struct tag fields =>
    if tag = 0x72 ∧ 3 ≤ fields.length then some {
      id := (fields[0]?.bind asI64).getD 0
      relType := (fields[1]?.bind asStr).getD ""
      properties := (fields[2]?.bind asMap).getD []
      elementId := fields[3]?.bind asStr }
    else none
  | _ => none

def decodePathStructure : BoltValue :=
  if fields.length < 3 then .struct 0x50 fields
  else .path {
    nodes := ((fields[0]?.bind asList).getD []).filterMap asNode
    relationships := ((fields[1]?.bind asList).getD []).filterMap unboundRelationship
    sequence := ((fields[2]?.bind asList).getD []).filterMap asI64 }

def decodePoint2DStructure : BoltValue :=
  if fields.length < 3 then .struct 0x58 fields
  else
    match fields[0]?.bind asI64, fields[1]?.bind asCoordinate, fields[2]?.bind asCoordinate with
    | some srid, some x, some y => .point2D ⟨srid, x, y⟩
    | _, _, _ => .struct 0x58 fields

def decodePoint3DStructure : BoltValue :=
  if fields.length < 4 then .struct 0x59 fields
  else
    match fields[0]?.bind asI64, fields[1]?.bind asCoordinate, fields[2]?.bind asCoordinate,
      fields[3]?.bind asCoordinate with
    | some srid, some x, some y, some z => .point3D ⟨srid, x, y, z⟩
    | _, _, _, _ => .struct 0x59 fields

def decodeDateStructure : BoltValue :=
  match fields[0]?.bind asI64 with
  | some days => .date ⟨days⟩
  | none => .struct 0x44 fields

def decodeTimeStructure : BoltValue :=
  match fields[0]?.bind asI64, fields[1]?.bind asI64 with
  | some nanoseconds, some tz => .time ⟨nanoseconds, tz⟩
  | _, _ => .struct 0x54 fields

def decodeLocalTimeStructure : BoltValue :=
  match fields[0]?.bind asI64 with
  | some nanoseconds => .localTime ⟨nanoseconds⟩
  | none => .struct 0x74 fields

def decodeDateTimeStructure (tag : UInt8) : BoltValue :=
  match fields[0]?.bind asI64, fields[1]?.bind asI64, fields[2]?.bind asI64 with
  | some seconds, some nanoseconds, some tz => .dateTime ⟨seconds, nanoseconds, tz⟩
  | _, _, _ => .struct tag fields

def decodeLocalDateTimeStructure : BoltValue :=
  match fields[0]?.bind asI64, fields[1]?.bind asI64 with
  | some seconds, some nanoseconds => .localDateTime ⟨seconds, nanoseconds⟩
  | _, _ => .struct 0x64 fields

def decodeDateTimeZoneIdStructure (tag : UInt8) : BoltValue :=
  match fields[0]?.bind asI64, fields[1]?.bind asI64, fields[2]?.bind asStr with
  | some seconds, some nanoseconds, some zoneId => .dateTimeZoneId ⟨seconds, nanoseconds, zoneId⟩
  | _, _, _ => .struct tag fields

def decodeDurationStructure : BoltValue :=
  match fields[0]?.bind asI64, fields[1]?.bind asI64, fields[2]?.bind asI64, fields[3]?.bind asI64 with
  | some months, some days, some seconds, some nanoseconds => .duration ⟨months, days, seconds, nanoseconds⟩
  | _, _, _, _ => .struct 0x45 fields

def decodeStructure (tag : UInt8) : BoltValue :=
  match tag with
  | 0x4E => decodeNodeStructure fields
  | 0x52 => decodeRelationshipStructure fields
  | 0x50 => decodePathStructure fields
  | 0x58 => decodePoint2DStructure fields
  | 0x59 => decodePoint3DStructure fields
  | 0x44 => decodeDateStructure fields
  | 0x54 => decodeTimeStructure fields
  | 0x74 => decodeLocalTimeStructure fields
  | 0x49 | 0x46 => decodeDateTimeStructure fields tag
  | 0x64 => decodeLocalDateTimeStructure fields
  | 0x4A | 0x66 | 0x69 => decodeDateTimeZoneIdStructure fields tag
  | 0x45 => decodeDurationStructure fields
  | _ => .struct tag fields

end

def specialTags : List UInt8 :=
  [0x4E, 0x52, 0x50, 0x58, 0x59, 0x44, 0x54, 0x74, 0x49, 0x46, 0x64, 0x4A, 0x66, 0x69, 0x45]

abbrev Dec := Decoder DecodeError

def decodeStringPayload (len : ℕ) : Dec BoltValue := do
  need len fun _ => .eofString len
  let bytes ← splitTo len
  match String.fromUTF8? ⟨bytes.toArray⟩ with
  | some s => return .string s
  | none => fail (.invalidUtf8 bytes)

def decodeBytesPayload (len : ℕ) : Dec BoltValue := do
  need len fun _ => .eofBytes len
  let bytes ← splitTo len
  return .bytes bytes

section

-- the decoder of a nested value
variable (item : Dec BoltValue)

def decodeListPayload (len : ℕ) : Dec BoltValue := do
  need len fun remaining => .listLength len remaining
  reserve (min len 1024)
  let list ← times len item
  return .list list

def decodeEntries : ℕ → List (String × BoltValue) → Dec (List (String × BoltValue))
  | 0, m => pure m
  | n + 1, m => do
    let key ← item
    match key with
    | .string key =>
      let value ← item
      decodeEntries n (insert m key value)
    | other => fail (.mapKey other)

def decodeMapPayload (size : ℕ) : Dec BoltValue := do
  need (size * 2) fun remaining => .mapSize size remaining
  reserve (min size 1024)
  let m ← decodeEntries item size []
  return .map m

def decodeStructurePayload (numFields : ℕ) : Dec BoltValue := do
  need 1 fun _ => .eofTag
  let tag ← getU8
  need numFields fun remaining => .fieldCount numFields remaining
  reserve (min numFields 1024)
  let fields ← times numFields item
  return decodeStructure fields tag

end

def decodeInteger (width : ℕ) (what : String) : Dec BoltValue := do
  need width fun _ => .incomplete what
  let bytes ← splitTo width
  return .integer ((BitVec.ofNat (8 * width) (ofBytes bytes)).signExtend 64)

def decodeFloat : Dec BoltValue := do
  need 8 fun _ => .incomplete "Float64"
  let bytes ← splitTo 8
  return .float (BitVec.ofNat 64 (ofBytes bytes))

def decodeSized (width : ℕ) (what : String) (payload : ℕ → Dec BoltValue) : Dec BoltValue := do
  need width fun _ => .incomplete what
  let bytes ← splitTo width
  payload (ofBytes bytes)

def decodeMarker (item : Dec BoltValue) (marker : UInt8) : Dec BoltValue :=
  if marker ≤ 0x7F then pure (.integer (BitVec.ofNat 64 marker.toNat))
  else if 0xF0 ≤ marker then pure (.integer ((BitVec.ofNat 8 marker.toNat).signExtend 64))
  else if 0x80 ≤ marker ∧ marker ≤ 0x8F then decodeStringPayload (marker &&& 0x0F).toNat
  else if 0x90 ≤ marker ∧ marker ≤ 0x9F then decodeListPayload item (marker &&& 0x0F).toNat
  else if 0xA0 ≤ marker ∧ marker ≤ 0xAF then decodeMapPayload item (marker &&& 0x0F).toNat
  else if 0xB0 ≤ marker ∧ marker ≤ 0xBF then decodeStructurePayload item (marker &&& 0x0F).toNat
  else
    match marker with
    | 0xC0 => pure .null
    | 0xC1 => decodeFloat
    | 0xC2 => pure (.boolean false)
    | 0xC3 => pure (.boolean true)
    | 0xC8 => decodeInteger 1 "Int8"
    | 0xC9 => decodeInteger 2 "Int16"
    | 0xCA => decodeInteger 4 "Int32"
    | 0xCB => decodeInteger 8 "Int64"
    | 0xCC => decodeSized 1 "Bytes8 length" decodeBytesPayload
    | 0xCD => decodeSized 2 "Bytes16 length" decodeBytesPayload
    | 0xCE => decodeSized 4 "Bytes32 length" decodeBytesPayload
    | 0xD0 => decodeSized 1 "String8 length" decodeStringPayload
    | 0xD1 => decodeSized 2 "String16 length" decodeStringPayload
    | 0xD2 => decodeSized 4 "String32 length" decodeStringPayload
    | 0xD4 => decodeSized 1 "List8 length" (decodeListPayload item)
    | 0xD5 => decodeSized 2 "List16 length" (decodeListPayload item)
    | 0xD6 => decodeSized 4 "List32 length" (decodeListPayload item)
    | 0xD8 => decodeSized 1 "Map8 length" (decodeMapPayload item)
    | 0xD9 => decodeSized 2 "Map16 length" (decodeMapPayload item)
    | 0xDA => decodeSized 4 "Map32 length" (decodeMapPayload item)
    | 0xDC => decodeSized 1 "Struct8 length" (decodeStructurePayload item)
    | 0xDD => decodeSized 2 "Struct16 length" (decodeStructurePayload item)
    | unknown => fail (.unknownMarker unknown)

/-- The fuel bounds the recursion of the model only; the program stops at the limit for the depth. -/
def decodeWithDepth : ℕ → ℕ → Dec BoltValue
  | 0, _ => exhausted
  | fuel + 1, depth => do
    enter depth
    if depth > maxPackStreamDepth then fail .tooDeep
    else
      need 1 fun _ => .eofValue
      let marker ← getU8
      decodeMarker (decodeWithDepth fuel (depth + 1)) marker

def decode : Dec BoltValue := decodeWithDepth (maxPackStreamDepth + 2) 0

end PackStream

end Voyager.Bolt
