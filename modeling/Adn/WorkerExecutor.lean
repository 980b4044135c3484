import Adn.Lib.Js
import Adn.Lib.JsonReader
import Adn.Lib.TrialFraming
import Adn.Lib.Utf8
import Adn.ReplayLedger
/-!
# The worker executor

The process that owns the keys of the workers. It reads requests, each one JSON object, from
its connections, and tells where a request ends by trying to parse what it has received. What
is raised while it handles a connection closes the connection.
-/

open Lib

namespace Adn

structure WorkerSession where
  priv : List UInt8
  did : Str
  agentId : Str
  publicKeyHex : Str

/-- The executor as it was started, and what it runs on. -/
structure WorkerExecutor where
  /-- `WORKER_CAPABILITY_TOKEN`, which the bridge sets to the hexadecimal digits of 32 bytes. -/
  token : List UInt8
  token_length : token.length = 32
  python : JsonReader.Interpreter
  /-- The keys that `Ed25519PrivateKey.generate()` gives, one after the other. -/
  generate : ℕ → List UInt8
  publicBytes : List UInt8 → List UInt8
  /-- `sign key message` -/
  sign : List UInt8 → List UInt8 → List UInt8
  /-- `secrets.token_hex(n)`, the `i`-th time -/
  tokenHex : ℕ → ℕ → Str

/-- `_sessions`, and how many sessions have been made. -/
structure ExecutorState where
  sessions : List (Str × WorkerSession)
  created : ℕ

namespace ExecutorState

/-- The session, where `sid in _sessions`. -/
def find (s : ExecutorState) (sid : Json) : Except PyErr (Option WorkerSession) :=
  if hashable sid then .ok ((s.sessions.find? fun f => sid.pyEq (.str f.1)).map (·.2)) else .error .typeError

/-- `_sessions[sid] = {...}` -/
def insert (s : ExecutorState) (sid : Str) (session : WorkerSession) : ExecutorState :=
  ⟨(sid, session) :: s.sessions.filter (·.1 ≠ sid), s.created + 1⟩

/-- `_sessions.pop(sid, None)`, which does not hash its key where there is no session. -/
def pop (s : ExecutorState) (sid : Json) : Except PyErr ExecutorState :=
  if s.sessions.isEmpty || hashable sid then .ok { s with sessions := s.sessions.filter fun f => !sid.pyEq (.str f.1) }
  else .error .typeError

end ExecutorState

namespace WorkerExecutor

/-! ## Texts and bytes -/

/-- `bytes.decode()`: bytes that are no UTF-8 raise. -/
def decodeText (bs : List UInt8) : Option Str :=
  if Utf8.encode (Utf8.decode bs) = bs then some (Utf8.units (Utf8.decode bs)) else none

/-- `str.encode()`: a lone surrogate raises. -/
def encodeText (s : Str) : Except PyErr (List UInt8) := if encodable s then .ok (Text.utf8 s) else .error .unicodeError

/-- `", ".join(texts)` -/
def joinSpaced : List Str → Str
  | [] => []
  | [t] => t
  | t :: ts => t ++ comma :: 0x20 :: joinSpaced ts

mutual

/-- `json.dumps(v)` -/
def jsonDumps : Json → Str
  | .null => "null"
  | .bool b => if b then "true" else "false"
  | .int n => Numerals.intText n
  | .float x => Json.floatDumps x
  | .str s => Text.quoteAscii s
  | .arr xs => openBracket :: joinSpaced (jsonDumpsList xs) ++ [closeBracket]
  | .obj fs => openBrace :: joinSpaced (jsonDumpsFields fs) ++ [closeBrace]

def jsonDumpsList : List Json → List Str
  | [] => []
  | x :: xs => jsonDumps x :: jsonDumpsList xs

def jsonDumpsFields : Dict → List Str
  | [] => []
  | (k, v) :: fs => (Text.quoteAscii k ++ colon :: 0x20 :: jsonDumps v) :: jsonDumpsFields fs

end

/-- `json.dumps(result).encode() + b"\n"` -/
def answerLine (result : Dict) : List UInt8 := Text.utf8 (jsonDumps (.obj result)) ++ [0x0A]

/-! ## Requests -/

variable (e : WorkerExecutor)

def capabilityToken : Str := Hex.hexLower e.token

/-- `_auth(data)`; `compare_digest` takes bytes. -/
def auth (data : Dict) : Except PyErr Bool :=
  match data.getD "token" (.str []) with
  | .str token => do return (← encodeText token) = Text.utf8 e.capabilityToken
  | _ => .error .typeError

def unknownSession : Dict := Dict.ofList [("error", .str "unknown_session")]

def createSession (s : ExecutorState) : Dict × ExecutorState :=
  let priv := e.generate s.created
  let pubHex := Hex.hexLower (e.publicBytes priv)
  let sid := e.tokenHex 16 s.created
  let agentId := Str.ofString "worker-" ++ e.tokenHex 8 s.created
  let did := Str.ofString "did:key:z" ++ pubHex.take 32
  (Dict.ofList [("session_id", .str sid), ("agentId", .str agentId), ("did", .str did), ("publicKeyHex", .str pubHex)],
    s.insert sid ⟨priv, did, agentId, pubHex⟩)

def signResult (s : ExecutorState) (data : Dict) : Except PyErr Dict := do
  let sid := data.getD "session_id" (.str [])
  match ← s.find sid with
  | none => return unknownSession
  | some session =>
    let payloadBytes ← match data.getD "payload" (.str []) with
      | .str payload => encodeText payload
      | payload => .ok (Text.utf8 payload.dumps)
    return Dict.ofList [("signature", .str (Hex.hexLower (e.sign session.priv payloadBytes))), ("session_id", sid)]

def getPublicKey (s : ExecutorState) (data : Dict) : Except PyErr Dict := do
  match ← s.find (data.getD "session_id" (.str [])) with
  | none => return unknownSession
  | some session => return Dict.ofList [("publicKeyHex", .str session.publicKeyHex), ("did", .str session.did),
      ("agentId", .str session.agentId)]

/-- `handle_rpc(data)` -/
def handleRpc (s : ExecutorState) (data : Json) : Except PyErr (Dict × ExecutorState) := do
  let data ← asDict data
  if !(← e.auth data) then return (Dict.ofList [("error", .str "unauthorized")], s)
  let method := data.get "method"
  if method.pyEq (.str "create_session") then return e.createSession s
  else if method.pyEq (.str "sign_result") then return (← e.signResult s data, s)
  else if method.pyEq (.str "get_public_key") then return (← getPublicKey s data, s)
  else if method.pyEq (.str "close_session") then
    let sid := data.getD "session_id" (.str [])
    return (Dict.ofList [("closed", sid)], ← s.pop sid)
  else return (Dict.ofList [("error", .str "unknown_method")], s)

/-! ## Connections -/

/-- What becomes of the text that was received: `_handle_client` goes on only where `json.loads` raises `JSONDecodeError`. -/
def tryText (s : ExecutorState) (text : Str) : TrialFraming.Attempt ExecutorState (List UInt8) :=
  match JsonReader.loads e.python text with
  | .error .decode => .waits
  | .error _ => .fails
  | .ok data =>
    match e.handleRpc s data with
    | .ok (result, s) => .handles s (answerLine result)
    | .error _ => .fails

/-- What becomes of the buffer after a chunk. -/
def tryBuffer (s : ExecutorState) (buf : List UInt8) : TrialFraming.Attempt ExecutorState (List UInt8) :=
  match decodeText buf with
  | some text => e.tryText s text
  | none => .fails

/-- What `conn.recv(4096)` gives before the stream has ended. -/
structure Chunk where
  bytes : List UInt8
  nonempty : bytes ≠ []
  atMost : bytes.length ≤ 4096

/-- A connection: its buffer, what was sent on it, and whether it was closed by an exception. -/
abbrev Connection := TrialFraming.Reader UInt8 ExecutorState (List UInt8)

/-- `_handle_client`, as far as the chunks go. -/
def handleClient (s : ExecutorState) (chunks : List Chunk) : Connection :=
  TrialFraming.Reader.feedAll e.tryBuffer ⟨s, [], [], false⟩ (chunks.map Chunk.bytes)

end WorkerExecutor

/-! ## The client -/

/-- The calls of `WorkerExecutorClient`, with a text to sign. -/
inductive WorkerRequest where
  | createSession
  | signResult (sessionId payload : Str)
  | getPublicKey (sessionId : Str)
  | closeSession (sessionId : Str)

namespace WorkerRequest

def method : WorkerRequest → String
  | createSession => "create_session"
  | signResult _ _ => "sign_result"
  | getPublicKey _ => "get_public_key"
  | closeSession _ => "close_session"

def params : WorkerRequest → List (String × Str)
  | createSession => []
  | signResult sessionId payload => [("session_id", sessionId), ("payload", payload)]
  | getPublicKey sessionId => [("session_id", sessionId)]
  | closeSession sessionId => [("session_id", sessionId)]

/-- `{ token: this.token, method, ...params }` -/
def fields (token : Str) (r : WorkerRequest) : List (Str × Str) :=
  (("token", token) :: ("method", Str.ofString r.method) :: r.params).map fun f => (Str.ofString f.1, f.2)

/-- `conn.write(JSON.stringify({ token: this.token, method, ...params }))` -/
def bytes (token : Str) (r : WorkerRequest) : List UInt8 :=
  Text.utf8 ((Js.stringify (.obj ((r.fields token).map fun f => (f.1, .str f.2)))).getD [])

/-- The request as `handle_rpc` is to get it. -/
def document (token : Str) (r : WorkerRequest) : Json := .obj ((r.fields token).map fun f => (f.1, .str f.2))

end WorkerRequest

end Adn
