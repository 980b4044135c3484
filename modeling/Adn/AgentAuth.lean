import Adn.RuntimeSecurity
/-!
# Signed action requests

An envelope binds an agent identity, an action, a nonce and an audience, and
through `data_hash` a payload. `verifyActionRequest_live` says exactly which
envelopes are accepted when `T3_MOCK` is off: those that are `Current` for the
action and `SignedBy` the key they name.
-/

open Lib

namespace Adn

def audience : Str := "t3n-adn-v1"
def proofTtlSeconds : ℚ := 300
def mockAgentId : Str := "mock-agent-001"
def mockPublicKeyHex : Str := Str.ofString "aabbcc" ++ List.replicate 58 0x30

/-- `_is_mock` -/
def isMock (env : Env) : Bool := lower (env.t3Mock.getD "false") = Str.ofString "true"

/-- `a or b` of two strings -/
def orStr (a b : Str) : Str := if a = [] then b else a

def getConfiguredDid (env : Env) : Str := orStr (strip env.did) (strip env.t3nDid)

def getT3nApiKey (env : Env) : Str := orStr (strip env.t3nApiKey) (strip env.terminal3ApiKey)

/-! ## Signing -/

/-- A private key with the identity it signs as. -/
structure Signer where
  privateKey : List UInt8
  publicKeyHex : Str
  agentId : Str
  did : Str
deriving DecidableEq

/-- `_load_private_key` -/
def loadPrivateKey (p : Platform) (env : Env) : Except PyErr Signer :=
  let raw := getT3nApiKey env
  if raw = [] then .error (.valueError "T3N_API_KEY not set")
  else
    let raw := removePrefix0x raw
    if raw.length ≠ 64 then .error (.valueError "T3N_API_KEY must be 32 bytes (64 hex chars) after 0x")
    else
      match Hex.fromHex raw with
      | none => .error (.valueError "non-hexadecimal number found in fromhex() arg")
      | some key =>
        if key.length ≠ 32 then .error (.valueError "An Ed25519 private key is 32 bytes long")
        else
          let pub := p.publicKey key
          .ok ⟨key, Hex.hexLower pub, p.fingerprint pub, getConfiguredDid env⟩

/-- The fields that are signed. -/
def envelopePayload (agentId did publicKeyHex : Str) (action nonce : Json) (issuedAt expiresAt : Str)
    (dataHash : Option Str) : Dict :=
  Dict.ofList [("agent_id", .str agentId), ("did", .str did), ("public_key_hex", .str publicKeyHex), ("action", action),
    ("nonce", nonce), ("issued_at", .str issuedAt), ("expires_at", .str expiresAt), ("audience", .str audience)] ++
    match dataHash with
    | some h => Dict.ofList [("data_hash", .str h)]
    | none => []

/-- `sign_action_request`, with the key it is given or the one of the environment. -/
def signActionRequest (p : Platform) (env : Env) (now : ℚ) (signer : Option Signer) (action nonce : Json)
    (data : Option Json) : Except PyErr Dict := do
  let issuedAt := p.isoformat now
  let expiresAt := p.isoformat (now + proofTtlSeconds)
  let dataHash := data.map p.hashJson
  if isMock env then
    let payload := envelopePayload mockAgentId (orStr (getConfiguredDid env) "did:t3n:mock-agent") mockPublicKeyHex
      action nonce issuedAt expiresAt dataHash
    return payload ++ Dict.ofList [("payload_hash", .str (p.hashJson (.obj payload))),
      ("signature_hex", .str (Str.ofString "deadbeef" ++ List.replicate 120 0x30))]
  else
    let s ← match signer with
      | some s => pure s
      | none => loadPrivateKey p env
    let payload := envelopePayload s.agentId s.did s.publicKeyHex action nonce issuedAt expiresAt dataHash
    let payloadHash := p.hashJson (.obj payload)
    return payload ++ Dict.ofList [("payload_hash", .str payloadHash),
      ("signature_hex", .str (Hex.hexLower (p.sign s.privateKey (Text.utf8 payloadHash))))]

/-! ## Verifying -/

def requiredFields : List Str :=
  ["agent_id", "did", "public_key_hex", "action", "nonce", "issued_at", "expires_at", "audience", "signature_hex",
    "payload_hash"]

/-- `_PAYLOAD_KEYS` -/
def payloadKeys (proof : Dict) : List Str :=
  let keys : List Str := ["agent_id", "did", "public_key_hex", "action", "nonce", "issued_at", "expires_at", "audience"]
  if proof.has "data_hash" then keys ++ [Str.ofString "data_hash"] else keys

def payloadFields (proof : Dict) : Dict := (payloadKeys proof).map fun k => (k, proof.get k)

/-- The hash that is signed. -/
def payloadHash (p : Platform) (proof : Dict) : Str := p.hashJson (.obj (payloadFields proof))

def identityInvalid : Bool × Str := (false, "IDENTITY_INVALID")

/-- The last step of `verify_action_request`: any exception there is a rejection. -/
def verifySignature (p : Platform) (key : List UInt8) (proof : Dict) : Bool × Str :=
  match proof.get "signature_hex" with
  | .str s =>
    match Hex.fromHex s with
    | some sig =>
      if sig.length ≠ 64 then identityInvalid
      else if p.verify key (Text.utf8 (payloadHash p proof)) sig then (true, [])
      else identityInvalid
    | none => identityInvalid
  | _ => identityInvalid

/-- The checks `T3_MOCK` skips. -/
def verifyKey (p : Platform) (proof : Dict) : Except PyErr (Bool × Str) :=
  match proof.get "public_key_hex" with
  | .str pub =>
    match Hex.fromHex pub with
    | none => .ok identityInvalid
    | some key =>
      if key.length ≠ 32 then .ok identityInvalid
      else if !(proof.get "agent_id").pyEq (.str (p.fingerprint key)) then .ok identityInvalid
      else .ok (verifySignature p key proof)
  | _ => .error .typeError

/-- `datetime.fromisoformat(v)`, `None` where the text is not a timestamp. -/
def parseTime (p : Platform) (v : Json) : Except PyErr (Option DateTime) :=
  match v with
  | .str t => .ok (p.fromisoformat t)
  | _ => .error .typeError

/-- `verify_action_request` -/
def verifyActionRequest (p : Platform) (env : Env) (now : ℚ) (proof : Dict) (expectedAction : Str) :
    Except PyErr (Bool × Str) :=
  if requiredFields.any fun f => !proof.has f then .ok (false, "IDENTITY_MISSING")
  else if !(proof.get "action").pyEq (.str expectedAction) then .ok identityInvalid
  else if !(proof.get "audience").pyEq (.str audience) then .ok identityInvalid
  else
    match parseTime p (proof.get "expires_at") with
    | .error e => .error e
    | .ok none => .ok identityInvalid
    | .ok (some expires) =>
      if expires.timestamp < now then .ok (false, "PROOF_EXPIRED")
      else if !(proof.get "payload_hash").pyEq (.str (payloadHash p proof)) then .ok identityInvalid
      else if isMock env then .ok (true, [])
      else verifyKey p proof

/-- A timestamp that is not past. -/
def Unexpired (p : Platform) (now : ℚ) (v : Json) : Prop :=
  ∃ t d, v = Json.str t ∧ p.fromisoformat t = some d ∧ now ≤ d.timestamp

/-- The checks made in every mode. -/
structure Current (p : Platform) (now : ℚ) (proof : Dict) (action : Str) : Prop where
  fields : ∀ f ∈ requiredFields, proof.has f = true
  action : proof.get "action" = .str action
  audience : proof.get "audience" = .str audience
  unexpired : Unexpired p now (proof.get "expires_at")
  payloadHash : proof.get "payload_hash" = .str (payloadHash p proof)

/-- The envelope names the key, by its fingerprint too, and carries its signature. -/
structure SignedBy (p : Platform) (proof : Dict) (key : List UInt8) : Prop where
  publicKey : ∃ pub, proof.get "public_key_hex" = Json.str pub ∧ Hex.fromHex pub = some key
  length : key.length = 32
  agentId : proof.get "agent_id" = .str (p.fingerprint key)
  signature : ∃ s sig, proof.get "signature_hex" = Json.str s ∧ Hex.fromHex s = some sig ∧ sig.length = 64 ∧
    p.verify key (Text.utf8 (Adn.payloadHash p proof)) sig = true

/-- A check that rejects was not met by an accepted envelope. -/
theorem reject_ok {c : Prop} [Decidable c] {m e : Str} {x : Except PyErr (Bool × Str)} :
    (if c then .ok (false, m) else x) = .ok (true, e) ↔ ¬c ∧ x = .ok (true, e) := by
  split <;> simp_all

theorem verifySignature_ok {p : Platform} {key : List UInt8} {proof : Dict} {err : Str} :
    verifySignature p key proof = (true, err) ↔ err = [] ∧
      ∃ s sig, proof.get "signature_hex" = Json.str s ∧ Hex.fromHex s = some sig ∧ sig.length = 64 ∧
        p.verify key (Text.utf8 (payloadHash p proof)) sig = true := by
  unfold verifySignature identityInvalid
  constructor
  · intro h
    split at h
    · rename_i s hs
      split at h
      · rename_i sig hsig
        split_ifs at h with hl hv
        · cases h
        · cases h
          exact ⟨rfl, s, sig, hs, hsig, not_not.1 hl, hv⟩
        · cases h
      · cases h
    · cases h
  · rintro ⟨rfl, s, sig, hs, hsig, hl, hv⟩
    simp only [hs, hsig, hl, hv, ne_eq, not_true_eq_false, if_false, if_true]

theorem verifyKey_ok {p : Platform} {proof : Dict} {err : Str} :
    verifyKey p proof = .ok (true, err) ↔ err = [] ∧ ∃ key, SignedBy p proof key := by
  unfold verifyKey
  constructor
  · intro h
    split at h
    · rename_i pub hpub
      split at h
      · cases h
      · rename_i key hkey
        rw [identityInvalid, reject_ok, reject_ok] at h
        obtain ⟨hl, ha, hs⟩ := h
        obtain ⟨he, hs⟩ := verifySignature_ok.1 (Except.ok.inj hs)
        exact ⟨he, key, ⟨pub, hpub, hkey⟩, not_not.1 hl, Json.pyEq_str.1 (by simpa using ha), hs⟩
    · cases h
  · rintro ⟨he, key, ⟨pub, hpub, hkey⟩, hl, ha, hs⟩
    simp only [hpub, hkey, hl, ha, ne_eq, not_true_eq_false, if_false, Json.pyEq_str.2, Bool.not_true,
      Bool.false_eq_true]
    rw [verifySignature_ok.2 ⟨he, hs⟩]

theorem parseTime_some {p : Platform} {v : Json} {d : DateTime} :
    parseTime p v = .ok (some d) ↔ ∃ t, v = .str t ∧ p.fromisoformat t = some d := by
  cases v <;> simp [parseTime]

/-- The envelopes accepted in any mode. -/
theorem verifyActionRequest_ok {p : Platform} {env : Env} {now : ℚ} {proof : Dict} {action err : Str} :
    verifyActionRequest p env now proof action = .ok (true, err) ↔ Current p now proof action ∧
      ((isMock env = true ∧ err = []) ∨ (isMock env = false ∧ verifyKey p proof = .ok (true, err))) := by
  unfold verifyActionRequest identityInvalid
  rw [reject_ok, reject_ok, reject_ok]
  constructor
  · rintro ⟨hf, ha, hu, h⟩
    cases hpt : parseTime p (proof.get "expires_at") with
    | error e => rw [hpt] at h; cases h
    | ok d? =>
      cases d? with
      | none => rw [hpt] at h; cases h
      | some d =>
        simp only [hpt, reject_ok] at h
        obtain ⟨he, hp, h⟩ := h
        obtain ⟨t, ht, hd⟩ := parseTime_some.1 hpt
        refine ⟨⟨by simpa using hf, Json.pyEq_str.1 (by simpa using ha), Json.pyEq_str.1 (by simpa using hu),
          ⟨t, d, ht, hd, not_lt.1 he⟩, Json.pyEq_str.1 (by simpa using hp)⟩, ?_⟩
        split at h
        · cases h
          exact .inl ⟨‹_›, rfl⟩
        · exact .inr ⟨by simpa using ‹¬isMock env = true›, h⟩
  · rintro ⟨⟨hf, ha, hu, ⟨t, d, ht, hd, hn⟩, hp⟩, hm⟩
    refine ⟨by simpa using hf, by simp [ha, Json.pyEq_str.2], by simp [hu, Json.pyEq_str.2], ?_⟩
    simp only [parseTime_some.2 ⟨t, ht, hd⟩, reject_ok, not_lt.2 hn, hp, Json.pyEq_str.2, Bool.not_true,
      Bool.false_eq_true, not_false_eq_true, true_and]
    rcases hm with ⟨hm, rfl⟩ | ⟨hm, hk⟩
    · rw [if_pos hm]
    · rw [if_neg (by simp [hm]), hk]

/-- With `T3_MOCK` off, exactly the current envelopes signed by the key they
name are accepted. -/
theorem verifyActionRequest_live {p : Platform} {env : Env} (hm : isMock env = false) {now : ℚ} {proof : Dict}
    {action err : Str} :
    verifyActionRequest p env now proof action = .ok (true, err) ↔
      err = [] ∧ Current p now proof action ∧ ∃ key, SignedBy p proof key := by
  rw [verifyActionRequest_ok, verifyKey_ok, hm]
  simp only [Bool.false_eq_true, false_and, false_or, true_and]
  tauto

/-! ## What is signed verifies -/

/-- What the program relies on of a signer and its Ed25519 key. -/
structure KeyPair (p : Platform) (s : Signer) : Prop where
  publicKeyHex : s.publicKeyHex = Hex.hexLower (p.publicKey s.privateKey)
  agentId : s.agentId = p.fingerprint (p.publicKey s.privateKey)
  publicKey_length : (p.publicKey s.privateKey).length = 32
  sign_length : ∀ m, (p.sign s.privateKey m).length = 64
  verify_sign : ∀ m, p.verify (p.publicKey s.privateKey) m (p.sign s.privateKey m) = true

/-- What a signer signs. -/
def Signer.payload (p : Platform) (s : Signer) (now : ℚ) (action nonce : Json) (data : Option Json) : Dict :=
  envelopePayload s.agentId s.did s.publicKeyHex action nonce (p.isoformat now) (p.isoformat (now + proofTtlSeconds))
    (data.map p.hashJson)

/-- The envelope a signer makes. -/
def Signer.envelope (p : Platform) (s : Signer) (now : ℚ) (action nonce : Json) (data : Option Json) : Dict :=
  let payloadHash := p.hashJson (.obj (s.payload p now action nonce data))
  s.payload p now action nonce data ++ Dict.ofList [("payload_hash", .str payloadHash),
    ("signature_hex", .str (Hex.hexLower (p.sign s.privateKey (Text.utf8 payloadHash))))]

theorem signActionRequest_some {p : Platform} {env : Env} (hm : isMock env = false) (now : ℚ) (s : Signer)
    (action nonce : Json) (data : Option Json) :
    signActionRequest p env now (some s) action nonce data = .ok (s.envelope p now action nonce data) := by
  simp [signActionRequest, hm, Signer.envelope, Signer.payload, pure, Except.pure, bind, Except.bind]

variable {p : Platform} {env : Env} {s : Signer} {now : ℚ} {action nonce : Json} {data : Option Json} {extra : Dict}

theorem Signer.get?_payload (k : String) : (s.payload p now action nonce data).get? k =
    (Dict.get? (Dict.ofList [("agent_id", .str s.agentId), ("did", .str s.did), ("public_key_hex", .str s.publicKeyHex),
      ("action", action), ("nonce", nonce), ("issued_at", .str (p.isoformat now)),
      ("expires_at", .str (p.isoformat (now + proofTtlSeconds))), ("audience", .str audience)]) k).or
    (if "data_hash" = k then data.map fun v => .str (p.hashJson v) else none) := by
  cases data <;> simp [payload, envelopePayload, Dict.get?_append]

theorem Signer.get?_envelope (k : String) : (s.envelope p now action nonce data).get? k =
    ((s.payload p now action nonce data).get? k).or
      (if "payload_hash" = k then some (.str (p.hashJson (.obj (s.payload p now action nonce data))))
      else if "signature_hex" = k then some (.str (Hex.hexLower (p.sign s.privateKey
        (Text.utf8 (p.hashJson (.obj (s.payload p now action nonce data)))))))
      else none) := by
  rw [envelope, Dict.get?_append]
  simp only [Dict.get?_ofList_cons, Dict.get?_ofList_nil]

/-- Fields added beside the signed ones do not change what is hashed. -/
theorem payloadFields_envelope (hx : extra.has "data_hash" = false) :
    payloadFields (s.envelope p now action nonce data ++ extra) = s.payload p now action nonce data := by
  rw [Dict.has, Option.isSome_eq_false_iff, Option.isNone_iff_eq_none] at hx
  cases data with
  | none =>
    simp [payloadFields, payloadKeys, Dict.has, Dict.get, Dict.getD, Dict.get?_append, Signer.get?_envelope, Signer.get?_payload, hx]
    rfl
  | some v =>
    simp [payloadFields, payloadKeys, Dict.has, Dict.get, Dict.getD, Dict.get?_append, Signer.get?_envelope, Signer.get?_payload]
    rfl

/-- What a signer signs is current until it expires. -/
theorem current_envelope {action : Str} {t : ℚ} {d : DateTime}
    (hd : p.fromisoformat (p.isoformat (t + proofTtlSeconds)) = some d) (hn : now ≤ d.timestamp)
    (hx : extra.has "data_hash" = false) : Current p now (s.envelope p t (.str action) nonce data ++ extra) action where
  fields := by simp [requiredFields, Dict.has, Dict.get?_append, Signer.get?_envelope, Signer.get?_payload]
  action := by simp [Dict.get, Dict.getD, Dict.get?_append, Signer.get?_envelope, Signer.get?_payload]
  audience := by simp [Dict.get, Dict.getD, Dict.get?_append, Signer.get?_envelope, Signer.get?_payload]
  unexpired := ⟨_, d, by simp [Dict.get, Dict.getD, Dict.get?_append, Signer.get?_envelope, Signer.get?_payload], hd, hn⟩
  payloadHash := by
    rw [Adn.payloadHash, payloadFields_envelope hx]
    simp [Dict.get, Dict.getD, Dict.get?_append, Signer.get?_envelope, Signer.get?_payload]

/-- The signature of a key pair's envelope is its own. -/
theorem signedBy_envelope (hs : KeyPair p s) (hx : extra.has "data_hash" = false) :
    SignedBy p (s.envelope p now action nonce data ++ extra) (p.publicKey s.privateKey) where
  publicKey := by
    refine ⟨s.publicKeyHex, ?_, ?_⟩
    · simp [Dict.get, Dict.getD, Dict.get?_append, Signer.get?_envelope, Signer.get?_payload]
    · rw [hs.publicKeyHex, Hex.fromHex_hexLower]
  length := hs.publicKey_length
  agentId := by simp [Dict.get, Dict.getD, Dict.get?_append, Signer.get?_envelope, Signer.get?_payload, hs.agentId]
  signature := by
    have hp : payloadHash p (s.envelope p now action nonce data ++ extra) =
        p.hashJson (.obj (s.payload p now action nonce data)) := by rw [payloadHash, payloadFields_envelope hx]
    refine ⟨_, p.sign s.privateKey (Text.utf8 (p.hashJson (.obj (s.payload p now action nonce data)))), ?_,
      Hex.fromHex_hexLower _, hs.sign_length _, by rw [hp]; exact hs.verify_sign _⟩
    simp [Dict.get, Dict.getD, Dict.get?_append, Signer.get?_envelope, Signer.get?_payload]

/-- What a signer signs is accepted until it expires, the signature itself being
checked only while `T3_MOCK` is off. -/
theorem verifyActionRequest_envelope (hs : isMock env = false → KeyPair p s) {action : Str} {t : ℚ} {d : DateTime}
    (hd : p.fromisoformat (p.isoformat (t + proofTtlSeconds)) = some d) (hn : now ≤ d.timestamp)
    (hx : extra.has "data_hash" = false) :
    verifyActionRequest p env now (s.envelope p t (.str action) nonce data ++ extra) action = .ok (true, []) := by
  have hcur : Current p now (s.envelope p t (.str action) nonce data ++ extra) action := current_envelope hd hn hx
  cases hm : isMock env with
  | true => exact verifyActionRequest_ok.2 ⟨hcur, .inl ⟨hm, rfl⟩⟩
  | false => exact (verifyActionRequest_live hm).2 ⟨rfl, hcur, _, signedBy_envelope (hs hm) hx⟩

end Adn
