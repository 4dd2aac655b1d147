import Voyager.Lib.Utf8
import Voyager.Postgres.Message

/-! The passwords of PostgreSQL and the client of SCRAM-SHA-256. -/

namespace Voyager.Postgres

open Lib Net

abbrev Digest := Vector UInt8 32

structure Crypto where
  md5 : Bytes → Bytes
  hex : Bytes → String
  hmacSha256 : Bytes → Bytes → Digest
  sha256Digest : Bytes → Digest
  base64Encode : Bytes → String
  base64Decode : String → Except String Bytes
  utf8Error : Bytes → String

def Digest.xor (a b : Digest) : Digest := Vector.zipWith (· ^^^ ·) a b

def parts (s : String) : List String := (s.toList.splitOn ',').map String.ofList

def stripKey (key : Char) (part : String) : Option String :=
  match part.toList with
  | c :: '=' :: rest => if c = key then some (String.ofList rest) else none
  | _ => none

def parseU32 (s : String) : Option ℕ := parseUnsigned (2 ^ 32) s

structure Challenge where
  serverNonce : Option String
  saltB64 : Option String
  iterations : Option ℕ

def Challenge.add (c : Challenge) (part : String) : Challenge :=
  match stripKey 'r' part, stripKey 's' part, stripKey 'i' part with
  | some rest, _, _ => { c with serverNonce := some rest }
  | none, some rest, _ => { c with saltB64 := some rest }
  | none, none, some rest => { c with iterations := parseU32 rest }
  | none, none, none => c

structure ScramClient where
  clientNonce : String
  clientFirstMessageBare : String
  serverSignature : Option Digest
deriving DecidableEq

section

variable (crypto : Crypto)

def computeMd5Password (user password : String) (salt : Bytes) : Bytes :=
  let innerHex := crypto.hex (crypto.md5 (utf8Bytes password ++ utf8Bytes user))
  let outerHex := crypto.hex (crypto.md5 (utf8Bytes innerHex ++ salt))
  utf8Bytes ("md5" ++ outerHex) ++ [0]

def pbkdf2Rounds (password : Bytes) : ℕ → Digest → Digest → Digest
  | 0, _, result => result
  | n + 1, u, result =>
    let u := crypto.hmacSha256 password u.toList
    pbkdf2Rounds password n u (result.xor u)

def pbkdf2Sha256 (password salt : Bytes) (iterations : ℕ) : Digest :=
  let u := crypto.hmacSha256 password (salt ++ [0, 0, 0, 1])
  pbkdf2Rounds crypto password (iterations - 1) u u

def generateClientNonce (nanos : ℕ) : String :=
  let randSeed : UInt64 := UInt64.ofNat (nanos ^^^ 0x5deece66d)
  crypto.base64Encode <| (List.range 18).map fun i =>
    ((randSeed + UInt64.ofNat (i * 31337)) >>> UInt64.ofNat (i % 8 * 8)).toUInt8

def utf8Text (what : String) (bytes : Bytes) : Except NetError String :=
  match String.fromUTF8? ⟨bytes.toArray⟩ with
  | some s => .ok s
  | none => .error (.authenticationFailed s!"Invalid UTF-8 in SCRAM {what}: {crypto.utf8Error bytes}")

def base64Bytes (what s : String) : Except NetError Bytes :=
  match crypto.base64Decode s with
  | .ok bytes => .ok bytes
  | .error e => .error (.authenticationFailed s!"Invalid base64 {what}: {e}")

def required {α : Type} (message : String) : Option α → Except NetError α
  | some a => .ok a
  | none => .error (.authenticationFailed message)

namespace ScramClient

def new (nanos : ℕ) : ScramClient :=
  let clientNonce := generateClientNonce crypto nanos
  ⟨clientNonce, s!"n=,r={clientNonce}", none⟩

variable (client : ScramClient)

def clientFirstMessage : Bytes := utf8Bytes s!"n,,{client.clientFirstMessageBare}"

def processChallenge (challenge : Bytes) (password : String) : Except NetError (Bytes × ScramClient) := do
  let serverFirstMessage ← utf8Text crypto "server challenge" challenge
  let params := (parts serverFirstMessage).foldl Challenge.add ⟨none, none, none⟩
  let combinedNonce ← required "Missing 'r' nonce parameter in SCRAM challenge" params.serverNonce
  let saltStr ← required "Missing 's' salt parameter in SCRAM challenge" params.saltB64
  let iters ← required "Missing 'i' iterations parameter in SCRAM challenge" params.iterations
  if ¬ client.clientNonce.toList <+: combinedNonce.toList then
    throw (.authenticationFailed "Server nonce does not match client nonce in SCRAM exchange")
  else
    let salt ← base64Bytes crypto "salt in SCRAM challenge" saltStr
    let saltedPassword := pbkdf2Sha256 crypto (utf8Bytes password) salt iters
    let clientKey := crypto.hmacSha256 saltedPassword.toList (utf8Bytes "Client Key")
    let storedKey := crypto.sha256Digest clientKey.toList
    let clientFinalMessageWithoutProof := s!"c=biws,r={combinedNonce}"
    let authMessage :=
      s!"{client.clientFirstMessageBare},{serverFirstMessage},{clientFinalMessageWithoutProof}"
    let clientSignature := crypto.hmacSha256 storedKey.toList (utf8Bytes authMessage)
    let clientProof := clientKey.xor clientSignature
    let serverKey := crypto.hmacSha256 saltedPassword.toList (utf8Bytes "Server Key")
    let serverSig := crypto.hmacSha256 serverKey.toList (utf8Bytes authMessage)
    let clientFinal := s!"{clientFinalMessageWithoutProof},p={crypto.base64Encode clientProof.toList}"
    return (utf8Bytes clientFinal, { client with serverSignature := some serverSig })

def verifyServerFinal (finalData : Bytes) : Except NetError Unit := do
  let expectedSig ← required "SCRAM state error: Server signature not calculated" client.serverSignature
  let finalStr ← utf8Text crypto "server final message" finalData
  let serverSigB64 := (parts finalStr).foldl (fun found part => (stripKey 'v' part).or found) none
  let sigStr ← required "Missing 'v' server signature in SCRAM final message" serverSigB64
  let sigBytes ← base64Bytes crypto "signature in SCRAM final" sigStr
  if sigBytes ≠ expectedSig.toList then
    throw (.authenticationFailed "SCRAM server signature verification mismatch")

end ScramClient

end

end Voyager.Postgres
