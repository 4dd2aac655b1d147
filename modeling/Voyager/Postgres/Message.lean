import Voyager.Lib.BigEndian
import Voyager.Lib.Decoder
import Voyager.Lib.Utf8
import Voyager.Net.Error

namespace Voyager.Postgres

open Lib Net Decoder

abbrev Bytes := List UInt8

abbrev I16 := BitVec 16

abbrev I32 := BitVec 32

def parseUnsigned (bound : ℕ) (s : String) : Option ℕ :=
  let digits := if s.toList.head? = some '+' then s.toList.tail else s.toList
  if digits ≠ [] ∧ digits.all Char.isDigit then
    let n := digits.foldl (fun n c => n * 10 + (c.toNat - 48)) 0
    if n < bound then some n else none
  else none

inductive TransactionStatus where
  | idle
  | inTransaction
  | failedTransaction
deriving DecidableEq, Repr

variable (b : UInt8)

def TransactionStatus.fromByte : Except NetError TransactionStatus :=
  match b with
  | 0x49 => .ok .idle
  | 0x54 => .ok .inTransaction
  | 0x45 => .ok .failedTransaction
  | other => .error (.protocolError s!"Unknown transaction status byte: {asChar other}")

inductive AuthenticationRequest where
  | ok
  | kerberosV5
  | cleartextPassword
  | md5Password (salt : Bytes)
  | scmCredential
  | gss
  | gssContinue (data : Bytes)
  | sspi
  | sasl (mechanisms : List String)
  | saslContinue (data : Bytes)
  | saslFinal (data : Bytes)
deriving DecidableEq, Repr

structure FieldDescription where
  name : String
  tableOid : I32
  columnAttrNum : I16
  typeOid : I32
  typeSize : I16
  typeModifier : I32
  formatCode : I16
deriving DecidableEq, Repr

structure PgDiagnostic where
  severity : String
  code : String
  message : String
  detail : Option String
  hint : Option String
  position : Option String
  file : Option String
  line : Option String
  routine : Option String
deriving DecidableEq, Repr

namespace PgDiagnostic

def default : PgDiagnostic := ⟨"", "", "", none, none, none, none, none, none⟩

def formatError (d : PgDiagnostic) : String :=
  s!"{d.severity}: {d.message} (SQLSTATE {d.code})" ++
    (match d.detail with
      | some detail => s!"\nDetail: {detail}"
      | none => "") ++
    match d.hint with
      | some hint => s!"\nHint: {hint}"
      | none => ""

def set (d : PgDiagnostic) (fieldType : UInt8) (val : String) : PgDiagnostic :=
  match fieldType with
  | 0x53 | 0x56 => { d with severity := val }
  | 0x43 => { d with code := val }
  | 0x4D => { d with message := val }
  | 0x44 => { d with detail := some val }
  | 0x48 => { d with hint := some val }
  | 0x50 => { d with position := some val }
  | 0x46 => { d with file := some val }
  | 0x4C => { d with line := some val }
  | 0x52 => { d with routine := some val }
  | _ => d

end PgDiagnostic

inductive BackendMessage where
  | authentication (request : AuthenticationRequest)
  | backendKeyData (processId secretKey : I32)
  | parameterStatus (name value : String)
  | readyForQuery (status : TransactionStatus)
  | rowDescription (fields : List FieldDescription)
  | dataRow (values : List (Option Bytes))
  | commandComplete (tag : String)
  | errorResponse (diagnostic : PgDiagnostic)
  | noticeResponse (diagnostic : PgDiagnostic)
  | parseComplete
  | bindComplete
  | closeComplete
  | noData
  | emptyQueryResponse
  | notificationResponse (processId : I32) (channel payload : String)
  | copyInResponse
  | copyOutResponse
  | copyData (data : Bytes)
  | copyDone
deriving DecidableEq, Repr

abbrev Dec := Decoder NetError

def truncated (text : String) : ℕ → NetError := fun _ => .protocolError text

def getI16 : Dec I16 := do
  let bytes ← splitTo 2
  return BitVec.ofNat 16 (ofBytes bytes)

def getI32 : Dec I32 := do
  let bytes ← splitTo 4
  return BitVec.ofNat 32 (ofBytes bytes)

def asUsize (count : I16) : ℕ := (count.signExtend 64).toNat

def ofExcept {α : Type} : Except NetError α → Dec α
  | .ok a => pure a
  | .error e => fail e

section

-- how an invalid string is described
variable (utf8Error : Bytes → String)

def readCString : Dec String := do
  let buf ← remaining
  match buf.findIdx? (· = 0) with
  | some pos =>
    let strBytes ← splitTo pos
    let _ ← splitTo 1
    match String.fromUTF8? ⟨strBytes.toArray⟩ with
    | some s => return s
    | none => fail (.protocolError s!"Invalid UTF-8 string: {utf8Error strBytes}")
  | none => fail (.protocolError "Null terminator not found in string")

def decodeDiagnosticFields : ℕ → PgDiagnostic → Dec PgDiagnostic
  | 0, diag => return diag
  | n + 1, diag => do
    let buf ← remaining
    if buf = [] then return diag
    else
      let fieldType ← getU8
      if fieldType = 0 then return diag
      else
        let val ← readCString utf8Error
        decodeDiagnosticFields n (diag.set fieldType val)

def decodeDiagnostic : Dec PgDiagnostic := do
  let buf ← remaining
  decodeDiagnosticFields utf8Error buf.length .default

def decodeMechanisms : ℕ → List String → Dec (List String)
  | 0, mechanisms => return mechanisms
  | n + 1, mechanisms => do
    let buf ← remaining
    if buf = [] then return mechanisms
    else
      let mech ← readCString utf8Error
      if mech = "" then return mechanisms else decodeMechanisms n (mechanisms ++ [mech])

def decodeAuthentication : Dec AuthenticationRequest := do
  need 4 (truncated "Authentication message too short")
  let authType ← getI32
  match authType with
  | 0 => return .ok
  | 2 => return .kerberosV5
  | 3 => return .cleartextPassword
  | 5 =>
    need 4 (truncated "MD5 salt truncated")
    let salt ← splitTo 4
    return .md5Password salt
  | 6 => return .scmCredential
  | 7 => return .gss
  | 8 => return .gssContinue (← remaining)
  | 9 => return .sspi
  | 10 =>
    let buf ← remaining
    return .sasl (← decodeMechanisms utf8Error buf.length [])
  | 11 => return .saslContinue (← remaining)
  | 12 => return .saslFinal (← remaining)
  | other => fail (.authenticationFailed s!"Unsupported PostgreSQL authentication method type: {other.toInt}")

def decodeField : Dec FieldDescription := do
  let name ← readCString utf8Error
  need 18 (truncated "RowDescription field metadata truncated")
  let tableOid ← getI32
  let columnAttrNum ← getI16
  let typeOid ← getI32
  let typeSize ← getI16
  let typeModifier ← getI32
  let formatCode ← getI16
  return { name, tableOid, columnAttrNum, typeOid, typeSize, typeModifier, formatCode }

def decodeColumn : Dec (Option Bytes) := do
  need 4 (truncated "DataRow column length truncated")
  let colLen ← getI32
  if colLen.toInt = -1 then return none
  else if 0 ≤ colLen.toInt then
    need colLen.toNat (truncated "DataRow column payload truncated")
    let valBytes ← splitTo colLen.toNat
    return some valBytes
  else fail (.protocolError s!"Invalid column length: {colLen.toInt}")

def fieldDescriptionSize : ℕ := 48

def columnSize : ℕ := 32

def BackendMessage.decode (msgType : UInt8) : Dec BackendMessage :=
  match msgType with
  | 0x52 => .authentication <$> decodeAuthentication utf8Error
  | 0x4B => do
    need 8 (truncated "BackendKeyData truncated")
    let processId ← getI32
    let secretKey ← getI32
    return .backendKeyData processId secretKey
  | 0x53 => do
    let name ← readCString utf8Error
    let value ← readCString utf8Error
    return .parameterStatus name value
  | 0x5A => do
    need 1 (truncated "ReadyForQuery truncated")
    let statusByte ← getU8
    .readyForQuery <$> ofExcept (TransactionStatus.fromByte statusByte)
  | 0x54 => do
    need 2 (truncated "RowDescription truncated")
    let fieldCount ← getI16
    allocate fieldDescriptionSize (asUsize fieldCount)
    .rowDescription <$> times (asUsize fieldCount) (decodeField utf8Error)
  | 0x44 => do
    need 2 (truncated "DataRow truncated")
    let fieldCount ← getI16
    allocate columnSize (asUsize fieldCount)
    .dataRow <$> times (asUsize fieldCount) decodeColumn
  | 0x43 => .commandComplete <$> readCString utf8Error
  | 0x45 => .errorResponse <$> decodeDiagnostic utf8Error
  | 0x4E => .noticeResponse <$> decodeDiagnostic utf8Error
  | 0x31 => return .parseComplete
  | 0x32 => return .bindComplete
  | 0x33 => return .closeComplete
  | 0x6E => return .noData
  | 0x49 => return .emptyQueryResponse
  | 0x41 => do
    need 4 (truncated "NotificationResponse truncated")
    let processId ← getI32
    let channel ← readCString utf8Error
    let payload ← readCString utf8Error
    return .notificationResponse processId channel payload
  | 0x47 => return .copyInResponse
  | 0x48 => return .copyOutResponse
  | 0x64 => .copyData <$> remaining
  | 0x63 => return .copyDone
  | other => fail (.protocolError s!"Unknown backend message type: '{asChar other}' (0x{hexByte other})")

end

end Voyager.Postgres
