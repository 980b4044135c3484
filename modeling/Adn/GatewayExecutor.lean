import Adn.Lib.Framing
import Adn.Lib.Hex
import Adn.Lib.Js
import Adn.Lib.Utf8
/-!
# The gateway executor

The process that holds the gateway's key. It answers requests, one JSON document a
line, on any number of connections; a request carries a capability token. What is
thrown out of a connection's data handler ends the process.
-/

open Lib

namespace Adn

structure GatewayIdentity where
  privateKeyBytes : List UInt8
  publicKeyHex : Str
  agentId : Str
  did : Str
  gatewayKeyId : Str

/-- The executor as it was started, and what it runs on. -/
structure Gateway where
  identity : GatewayIdentity
  expectedToken : List UInt8
  /-- `loadCapabilityToken` takes no other. -/
  token_length : expectedToken.length = 32
  /-- `JSON.parse`, `none` where it throws -/
  parse : Str → Option Js
  sha256 : List UInt8 → List UInt8
  /-- `ed25519.sign(message, key)` -/
  sign : List UInt8 → List UInt8 → List UInt8
  isoFromMs : ℤ → Str
  /-- The readings of the clock, in milliseconds. -/
  clock : ℕ → ℤ

namespace Gateway

/-! ## Texts -/

mutual

/-- `canonicalJson(obj)`; a template writes `undefined` for what has no JSON. -/
def canonicalJson : Js → Str
  | .undefined => "undefined"
  | .null => "null"
  | .bool b => if b then "true" else "false"
  | .num x => Js.numberJson x
  | .str s => Text.quoteUnicode s
  | .arr xs => openBracket :: joinComma (canonicalList xs) ++ [closeBracket]
  | .obj fs => openBrace :: joinComma ((Js.sortProps (canonicalProps fs)).map Js.propText) ++ [closeBrace]

/-- `join` writes nothing for what has no JSON. -/
def canonicalList : List Js → List Str
  | [] => []
  | .undefined :: xs => [] :: canonicalList xs
  | x :: xs => canonicalJson x :: canonicalList xs

def canonicalProps : Props → List (Str × Str)
  | [] => []
  | (k, v) :: fs => (k, canonicalJson v) :: canonicalProps fs

end

/-- `Buffer.from(s, "hex")`: what follows the last whole byte is dropped. -/
def bufferFromHex : Str → List UInt8
  | u :: v :: s =>
    match Hex.digitValue u, Hex.digitValue v with
    | some hi, some lo => (hi * 0x10 + lo).toUInt8 :: bufferFromHex s
    | _, _ => []
  | _ => []

/-! ## Identity -/

/-- `keyFingerprint(pubKeyHex)` -/
def keyFingerprint (sha256 : List UInt8 → List UInt8) (pubKeyHex : Str) : Str :=
  (Hex.hexLower (sha256 (Text.utf8 (Str.ofString "terminal3" ++ [0x00]) ++ bufferFromHex pubKeyHex))).take 12

/-- `s.replace(/^0x/i, "")` -/
def without0x : Str → Str
  | 0x30 :: 0x78 :: s | 0x30 :: 0x58 :: s => s
  | s => s

/-- `loadGatewayIdentity()` -/
def loadGatewayIdentity (sha256 getPublicKey : List UInt8 → List UInt8) (privateKeyHex gatewayKeyId : Option Str) :
    Except Str GatewayIdentity :=
  let raw := Js.trim (privateKeyHex.getD [])
  if raw = [] then .error "ADN_GATEWAY_PRIVATE_KEY_HEX is required"
  else
    let privHex := without0x raw
    if privHex.length ≠ 64 ∨ privHex.any fun u => (Hex.digitValue u).isNone then
      .error "ADN_GATEWAY_PRIVATE_KEY_HEX must be 32 bytes (64 hex chars)"
    else
      let privateKeyBytes := bufferFromHex privHex
      let publicKeyHex := Hex.hexLower (getPublicKey privateKeyBytes)
      let agentId := keyFingerprint sha256 publicKeyHex
      let did := Str.ofString "did:key:ed25519:" ++ agentId
      let named := Js.trim (gatewayKeyId.getD [])
      .ok ⟨privateKeyBytes, publicKeyHex, agentId, did,
        if named = [] then Str.ofString "gateway-" ++ publicKeyHex.take 12 else named⟩

/-! ## Lines -/

/-- `JSON.stringify(o) + "\n"` -/
def jsonLine (o : Props) : Str := (Js.stringify (.obj o)).getD [] ++ [0x0A]

/-- `chunk.toString("utf8")` -/
def chunkText (chunk : List UInt8) : Str := Utf8.units (Utf8.decode chunk)

variable (g : Gateway)

def sha256hex (s : Str) : Str := Hex.hexLower (g.sha256 (Text.utf8 s))

/-- `isTokenValid(provided, expectedToken)` -/
def isTokenValid : Js → Bool
  | .str provided => bufferFromHex provided = g.expectedToken
  | _ => false

/-! ## Signing -/

/-- `signAction(identity, action, nonce, data)`: the message it signs, and the proof. The readings of the clock are those
of `isoNow` and `Date.now`. -/
def signAction (action : Str) (nonce : Js) (data : Option Props) (issued expires : ℤ) : List UInt8 × Props :=
  let dataHash := data.map fun d => g.sha256hex (canonicalJson (.obj d))
  let payload : Props := Props.ofList [("agent_id", .str g.identity.agentId), ("did", .str g.identity.did),
      ("public_key_hex", .str g.identity.publicKeyHex), ("action", .str action), ("nonce", nonce),
      ("issued_at", .str (g.isoFromMs issued)), ("expires_at", .str (g.isoFromMs (expires + 300 * 1000))),
      ("audience", .str "t3n-adn-v1")] ++
    match dataHash with
    | some h => Props.ofList [("data_hash", .str h)]
    | none => []
  let payloadHash := g.sha256hex (canonicalJson (.obj payload))
  let message := Text.utf8 payloadHash
  (message, payload ++ Props.ofList [("payload_hash", .str payloadHash),
    ("signature_hex", .str (Hex.hexLower (g.sign message g.identity.privateKeyBytes)))])

def teeAuthorizationRequestHash (toAgentId action parameters : Js) : Str :=
  g.sha256hex (canonicalJson (.obj (Props.ofList [("to_agent_id", toAgentId), ("action", action),
    ("parameters", parameters)])))

/-- `buildSignedReceipt`: the message that is signed, and the receipt. It reads the clock three times. -/
def buildSignedReceipt (teeResult action parameters : Js) (now : ℕ → ℤ) : Except Str (List UInt8 × Props) := do
  let delegationId ← teeResult.read "delegation_id"
  let toAgentId ← teeResult.read "routed_to"
  if delegationId.falsy || toAgentId.falsy then throw (Str.ofString "TEE authorization requires delegation_id and routed_to")
  if g.identity.gatewayKeyId = [] then throw (Str.ofString "TEE authorization requires gateway_key_id")
  let authorizationExpiresAt ← teeResult.read "authorization_expires_at"
  if authorizationExpiresAt.falsy then throw (Str.ofString "TEE authorization requires authorization_expires_at")
  let authorizedAt := g.isoFromMs (now 0)
  let body := Props.ofList [
    ("v", .str "adn.tee_authorization/1"),
    ("delegation_id", delegationId),
    ("tee_delegation_id", delegationId),
    ("status", ← teeResult.read "status"),
    ("to_agent_id", toAgentId),
    ("action", action),
    ("request_hash", .str (g.teeAuthorizationRequestHash toAgentId action parameters)),
    ("credential_fingerprint", ← teeResult.read "credential_fingerprint"),
    ("credential_enforced", ← teeResult.read "credential_enforced"),
    ("build_config_id", ← teeResult.read "build_config_id"),
    ("tee_result_digest", .str (g.sha256hex (canonicalJson teeResult))),
    ("gateway_key_id", .str g.identity.gatewayKeyId),
    ("authorization_expires_at", authorizationExpiresAt),
    ("authorized_at", .str authorizedAt)]
  let (message, proof) := g.signAction "TEE_AUTHORIZATION" delegationId (some body) (now 1) (now 2)
  return (message, body ++ Props.ofList [("gateway_public_key_hex", proof.get "public_key_hex"),
    ("gateway_proof", .obj proof)])

/-- `handleRequest`: the messages it signs, and the response. -/
def handleRequest (req : Js) (now : ℕ → ℤ) : Except Str (List (List UInt8) × Props) := do
  let id ← req.read "id"
  let method ← req.read "method"
  if method.isText "health" then
    return ([], Props.ofList [("id", id), ("status", .str "ok"),
      ("hasKey", .bool (g.identity.publicKeyHex.length = 64))])
  else if method.isText "get_public_key" then
    return ([], Props.ofList [("id", id), ("publicKeyHex", .str g.identity.publicKeyHex),
      ("agentId", .str g.identity.agentId), ("did", .str g.identity.did),
      ("gatewayKeyId", .str g.identity.gatewayKeyId)])
  else if method.isText "sign_receipt" then
    let teeResult ← req.read "teeResult"
    let action ← req.read "action"
    let parameters := (← req.read "parameters").orElse (.obj [])
    let (message, receipt) ← g.buildSignedReceipt teeResult action parameters now
    return ([message], Props.ofList [("id", id), ("receipt", .obj receipt)])
  else return ([], Props.ofList [("id", id), ("error", .str "unknown_method")])

/-! ## The data handler -/

/-- What the data handler does. -/
inductive Act where
  /-- `handleRequest(identity, req)` -/
  | dispatches (req : Js)
  | signs (message : List UInt8)
  | writes (text : Str)
  /-- `socket.end()` -/
  | ends
  /-- An error leaves the handler. -/
  | throws (message : Str)

/-- A document that was read: what is done with it, and whether the loop ends there. -/
def onRequest (req : Js) (now : ℕ → ℤ) : Except Str (List Act × Bool) := do
  let token ← req.read "token"
  if !g.isTokenValid token then
    let id ← req.read "id"
    return ([.writes (jsonLine (Props.ofList [("id", id), ("error", .str "unauthorized")])), .ends], true)
  else
    match g.handleRequest req now with
    | .ok (signed, resp) => return (.dispatches req :: signed.map .signs ++ [.writes (jsonLine resp)], false)
    | .error message =>
      let id ← req.read "id"
      return ([.dispatches req, .writes (jsonLine (Props.ofList [("id", id), ("error", .str message)]))], false)

/-- One line. -/
def onLine (line : Str) (now : ℕ → ℤ) : List Act × Bool :=
  let line := Js.trim line
  if line = [] then ([], false)
  else
    match g.parse line with
    | none => ([.writes (jsonLine (Props.ofList [("error", .str "invalid_json")]))], false)
    | some req =>
      match g.onRequest req now with
      | .ok r => r
      | .error message => ([.throws message], true)

/-- A line of a connection, and what was done with it. -/
structure Entry where
  conn : ℕ
  line : Str
  acts : List Act

def Entry.threw (e : Entry) : Bool := e.acts.any fun
  | .throws _ => true
  | _ => false

def logLine (conn : ℕ) : Framing.OnLine (List Entry) UInt16 := fun log line =>
  let r := g.onLine line fun i => g.clock (3 * log.length + i)
  (log ++ [⟨conn, line, r.1⟩], r.2)

structure Connection where
  buf : Str
  socketDone : Bool

/-- The process: its connections, and the lines it has handled. -/
structure Process where
  conns : ℕ → Connection
  log : List Entry

def started : Process := ⟨fun _ => ⟨[], false⟩, []⟩

/-- The process has ended with an error. -/
def Process.crashed (x : Process) : Bool := x.log.any Entry.threw

/-- `socket.on("data")` -/
def onData (x : Process) (conn : ℕ) (chunk : List UInt8) : Process :=
  if x.crashed || (x.conns conn).socketDone then x
  else
    let r := Framing.drain 0x0A (g.logLine conn) x.log ((x.conns conn).buf ++ chunkText chunk)
    { conns := fun c => if c = conn then ⟨r.buf, r.stopped⟩ else x.conns c, log := r.state }

/-- Chunks, each with the connection it comes on. -/
def run (chunks : List (ℕ × List UInt8)) : Process := chunks.foldl (fun x c => g.onData x c.1 c.2) started

end Gateway

end Adn
