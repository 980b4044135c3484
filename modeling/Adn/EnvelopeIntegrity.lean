import Adn.Sample
import Adn.ExecutionGate
/-!
# What a signature fixes

A signature is over the hash of the fields that are there, `data_hash` among
them or not. The canonical text of a document has one reading, so that one
message fixes both which fields were hashed and their values: two envelopes
accepted with one key and one signature agree in every signed field
(`signed_envelopes`).
-/

open Lib

namespace Adn

/-! ## Two envelopes -/

/-- The fields that are always signed. -/
def signedFields : List Str :=
  ["agent_id", "did", "public_key_hex", "action", "nonce", "issued_at", "expires_at", "audience"]

/-- The key and the signature are the same bytes, whatever their hexadecimal looks like. -/
structure SameSignature (proof proof' : Dict) (key sig : List UInt8) : Prop where
  publicKey : ∃ pub, proof.get "public_key_hex" = Json.str pub ∧ Hex.fromHex pub = some key
  publicKey' : ∃ pub, proof'.get "public_key_hex" = Json.str pub ∧ Hex.fromHex pub = some key
  signature : ∃ s, proof.get "signature_hex" = Json.str s ∧ Hex.fromHex s = some sig
  signature' : ∃ s, proof'.get "signature_hex" = Json.str s ∧ Hex.fromHex s = some sig

/-- A signature of an honest key verifies for one message only. -/
def OneMessage (p : Platform) (key sig : List UInt8) : Prop :=
  ∀ m m', p.verify key m sig = true → p.verify key m' sig = true → m = m'

/-- Two envelopes agree in every signed field, up to the order of an object's keys. -/
structure SameSigned (proof proof' : Dict) : Prop where
  fields : ∀ k ∈ signedFields, Json.Same (proof.get k) (proof'.get k)
  payloadHash : proof.get "payload_hash" = proof'.get "payload_hash"
  dataHash : proof.has "data_hash" = proof'.has "data_hash" ∧ Json.Same (proof.get "data_hash") (proof'.get "data_hash")

section
variable {p : Platform} {env : Env} {now now' : ℚ} {proof proof' : Dict} {action action' err err' : Str}
  {key sig : List UInt8}

theorem payloadKeys_eq (proof : Dict) :
    payloadKeys proof = signedFields ++ if proof.has "data_hash" then [Str.ofString "data_hash"] else [] := by
  unfold payloadKeys
  split
  · rfl
  · rw [List.append_nil]
    rfl

theorem mem_payloadFields {k : Str} {v : Json} : (k, v) ∈ payloadFields proof ↔ k ∈ payloadKeys proof ∧ v = proof.get k := by
  rw [payloadFields, List.mem_map]
  constructor
  · rintro ⟨k', hk, heq⟩
    obtain ⟨rfl, rfl⟩ := Prod.mk.inj heq
    exact ⟨hk, rfl⟩
  · rintro ⟨hk, rfl⟩
    exact ⟨k, hk, rfl⟩

/-- A field that is hashed in one envelope is hashed in the other, with the same value. -/
theorem same_field (h : Json.Same (.obj (payloadFields proof)) (.obj (payloadFields proof'))) {k : Str}
    (hk : k ∈ payloadKeys proof) : k ∈ payloadKeys proof' ∧ Json.Same (proof.get k) (proof'.get k) := by
  obtain ⟨w, hw, hs⟩ := h.field (mem_payloadFields.2 ⟨hk, rfl⟩)
  obtain ⟨hk', rfl⟩ := mem_payloadFields.1 hw
  exact ⟨hk', hs⟩

theorem get_of_absent {k : Str} (h : proof.has k = false) : proof.get k = .null := by
  rw [Dict.has, Option.isSome_eq_false_iff, Option.isNone_iff_eq_none] at h
  rw [Dict.get, Dict.getD, h]
  rfl

theorem has_of_mem (h : Str.ofString "data_hash" ∈ payloadKeys proof) : proof.has "data_hash" = true := by
  rw [payloadKeys_eq] at h
  cases hd : proof.has "data_hash" with
  | true => rfl
  | false =>
    simp [hd, signedFields] at h

theorem mem_of_has (h : proof.has "data_hash" = true) : Str.ofString "data_hash" ∈ payloadKeys proof := by
  rw [payloadKeys_eq, if_pos h]
  simp

/-- What is hashed cannot be confused: neither the values nor which fields are there. -/
theorem sameSigned_of_same (h : Json.Same (.obj (payloadFields proof)) (.obj (payloadFields proof')))
    (hp : proof.get "payload_hash" = proof'.get "payload_hash") : SameSigned proof proof' where
  fields k hk := by
    refine (same_field h ?_).2
    rw [payloadKeys_eq]
    exact List.mem_append_left _ hk
  payloadHash := hp
  dataHash := by
    cases hd : proof.has "data_hash" with
    | true =>
      obtain ⟨hmem, hs⟩ := same_field h (mem_of_has hd)
      exact ⟨(has_of_mem hmem).symm, hs⟩
    | false =>
      cases hd' : proof'.has "data_hash" with
      | true =>
        have hmem := (same_field (Eq.symm h) (mem_of_has hd')).1
        rw [has_of_mem hmem] at hd
        cases hd
      | false =>
        rw [get_of_absent hd, get_of_absent hd']
        exact ⟨rfl, .refl _⟩

/-- The message of an accepted envelope is the hash of its fields. -/
theorem accepted_message (hm : isMock env = false) (h : verifyActionRequest p env now proof action = .ok (true, err))
    (hk : ∃ pub, proof.get "public_key_hex" = Json.str pub ∧ Hex.fromHex pub = some key)
    (hs : ∃ s, proof.get "signature_hex" = Json.str s ∧ Hex.fromHex s = some sig) :
    p.verify key (Text.utf8 (payloadHash p proof)) sig = true ∧ proof.get "payload_hash" = .str (payloadHash p proof) := by
  obtain ⟨-, hcur, key', hsigned⟩ := (verifyActionRequest_live hm).1 h
  obtain ⟨pub, hpub, hkey⟩ := hk
  obtain ⟨pub', hpub', hkey'⟩ := hsigned.publicKey
  obtain ⟨s, hsig, hhex⟩ := hs
  obtain ⟨s', sig', hsig', hhex', -, hv⟩ := hsigned.signature
  obtain rfl := Json.str.inj (hpub.symm.trans hpub')
  obtain rfl := Option.some.inj (hkey.symm.trans hkey')
  obtain rfl := Json.str.inj (hsig.symm.trans hsig')
  obtain rfl := Option.some.inj (hhex.symm.trans hhex')
  exact ⟨hv, hcur.payloadHash⟩

theorem accepted_same (hm : isMock env = false) (hc : Function.Injective p.sha256)
    (h : verifyActionRequest p env now proof action = .ok (true, err))
    (h' : verifyActionRequest p env now' proof' action' = .ok (true, err')) (hs : SameSignature proof proof' key sig)
    (hone : OneMessage p key sig) : SameSigned proof proof' := by
  obtain ⟨hv, hp⟩ := accepted_message hm h hs.publicKey hs.signature
  obtain ⟨hv', hp'⟩ := accepted_message hm h' hs.publicKey' hs.signature'
  have hmessage := hone _ _ hv hv'
  have hhash : payloadHash p proof = payloadHash p proof' :=
    Text.utf8_eq_ascii (Hex.plain_hexLower _).ascii hmessage
  exact sameSigned_of_same (p.hashJson_inj hc hhash) (by rw [hp, hp', hhash])

/-! ## What the program signs -/

/-- The identity an envelope is signed with: the one given, or the one of the environment. -/
def identityOf (p : Platform) (env : Env) : Option Signer → Except PyErr Signer
  | some s => .ok s
  | none => loadPrivateKey p env

/-- `isoformat` writes what `fromisoformat` reads. -/
def ReadsBack (p : Platform) (t : ℚ) : Prop := ∃ d, p.fromisoformat (p.isoformat t) = some d ∧ d.timestamp = t

theorem signed_accepted (hm : isMock env = false) {signer : Option Signer} {s : Signer}
    (hid : identityOf p env signer = .ok s) (hs : KeyPair p s) (hr : ReadsBack p (now + proofTtlSeconds))
    (hn : now' ≤ now + proofTtlSeconds) (nonce : Json) (data : Option Json) :
    ∃ envelope, signActionRequest p env now signer (.str action) nonce data = .ok envelope ∧
      verifyActionRequest p env now' envelope action = .ok (true, []) := by
  refine ⟨s.envelope p now (.str action) nonce data, ?_, ?_⟩
  · rw [← signActionRequest_some hm]
    cases signer with
    | some s' =>
      obtain rfl := Except.ok.inj hid
      rfl
    | none =>
      have hload : loadPrivateKey p env = .ok s := hid
      simp only [signActionRequest, hm, hload]
      rfl
  · obtain ⟨d, hd, ht⟩ := hr
    have h : verifyActionRequest p env now' (s.envelope p now (.str action) nonce data ++ []) action = .ok (true, []) :=
      verifyActionRequest_envelope (fun _ => hs) hd (ht ▸ hn) rfl
    rwa [List.append_nil] at h

/-- With `T3_MOCK` off, two envelopes that are accepted with one key and one signature agree in every signed field, and
what an identity signs is accepted until it expires. -/
theorem signed_envelopes (p : Platform) (env : Env) (hm : isMock env = false) :
    (∀ proof proof' now now' action action' err err' key sig, Function.Injective p.sha256 →
      verifyActionRequest p env now proof action = .ok (true, err) →
      verifyActionRequest p env now' proof' action' = .ok (true, err') →
      SameSignature proof proof' key sig → OneMessage p key sig → SameSigned proof proof') ∧
    ∀ signer s action nonce data now now', identityOf p env signer = .ok s → KeyPair p s →
      ReadsBack p (now + proofTtlSeconds) → now' ≤ now + proofTtlSeconds →
      ∃ envelope, signActionRequest p env now signer (.str action) nonce data = .ok envelope ∧
        verifyActionRequest p env now' envelope action = .ok (true, []) := by
  constructor
  · intro proof proof' now now' action action' err err' key sig hc h h' hs hone
    exact accepted_same hm hc h h' hs hone
  · intro signer s action nonce data now now' hid hs hr hn
    exact signed_accepted hm hid hs hr hn nonce data

end

/-! ### One message -/

namespace Sample

/-- What the fifth signer signs, once. -/
def onlyMessage : List UInt8 :=
  Text.utf8 (platform.hashJson (.obj ((signerOf 5).payload platform 0 (.str "PING") (.str "n") none)))

/-- A platform on which a signature is for that message only. -/
def frugal : Platform :=
  { platform with verify := fun key m sig => decide (sig = signature key m) && decide (m = onlyMessage) }

def pingEnvelope (extra : Dict) : Dict := (signerOf 5).envelope frugal 0 (.str "PING") (.str "n") none ++ extra

/-- It is accepted with any field beside the signed ones. -/
theorem pingEnvelope_accepted {extra : Dict} (hx : extra.has "data_hash" = false) :
    verifyActionRequest frugal liveEnv 1 (pingEnvelope extra) "PING" = .ok (true, []) := by
  have hcur : Current frugal 1 (pingEnvelope extra) "PING" := current_envelope expires_late one_unexpired hx
  have hsigned : SignedBy platform ((signerOf 5).envelope platform 0 (.str "PING") (.str "n") none ++ extra) _ :=
    signedBy_envelope (keyPair 5) hx
  have hp : payloadHash frugal (pingEnvelope extra) =
      frugal.hashJson (.obj ((signerOf 5).payload frugal 0 (.str "PING") (.str "n") none)) := by
    rw [payloadHash, pingEnvelope, payloadFields_envelope hx]
  refine (verifyActionRequest_live rfl).2 ⟨rfl, hcur, _, hsigned.publicKey, hsigned.length, hsigned.agentId, ?_⟩
  obtain ⟨s, sig, hs, hhex, hl, hv⟩ := hsigned.signature
  refine ⟨s, sig, hs, hhex, hl, ?_⟩
  rw [hp]
  rw [payloadHash, payloadFields_envelope hx] at hv
  have hsig : sig = signature (signerOf 5).privateKey onlyMessage := of_decide_eq_true hv
  simp only [frugal, Bool.and_eq_true, decide_eq_true_eq]
  exact ⟨hsig, rfl⟩

theorem pingEnvelope_key (extra : Dict) :
    (pingEnvelope extra).get "public_key_hex" = .str (signerOf 5).publicKeyHex ∧
      (pingEnvelope extra).get "signature_hex" = .str (Hex.hexLower (frugal.sign (signerOf 5).privateKey onlyMessage)) := by
  constructor
  · simp [pingEnvelope, Dict.get, Dict.getD, Dict.get?_append, Signer.get?_envelope, Signer.get?_payload]
  · simp [pingEnvelope, Dict.get, Dict.getD, Dict.get?_append, Signer.get?_envelope, Signer.get?_payload]
    rfl

theorem pingEnvelope_same_signature (extra extra' : Dict) : ∃ sig, SameSignature (pingEnvelope extra) (pingEnvelope extra')
    (signerOf 5).privateKey sig ∧ OneMessage frugal (signerOf 5).privateKey sig := by
  refine ⟨frugal.sign (signerOf 5).privateKey onlyMessage, ?_, ?_⟩
  · obtain ⟨hkey, hsig⟩ := pingEnvelope_key extra
    obtain ⟨hkey', hsig'⟩ := pingEnvelope_key extra'
    exact ⟨⟨_, hkey, Hex.fromHex_hexLower _⟩, ⟨_, hkey', Hex.fromHex_hexLower _⟩, ⟨_, hsig, Hex.fromHex_hexLower _⟩,
      ⟨_, hsig', Hex.fromHex_hexLower _⟩⟩
  · intro m m' h h'
    simp only [frugal, Bool.and_eq_true, decide_eq_true_eq] at h h'
    rw [h.2, h'.2]

/-- The envelope and the same one with a note beside it agree in what is signed. -/
theorem noted_envelope_same : SameSigned (pingEnvelope []) (pingEnvelope (Dict.ofList [("note", .null)])) ∧
    ∃ envelope, signActionRequest platform liveEnv 0 (some (signerOf 5)) (.str "PING") .null (some (.obj [])) = .ok envelope ∧
      verifyActionRequest platform liveEnv 1 envelope "PING" = .ok (true, []) := by
  obtain ⟨sig, hs, hone⟩ := pingEnvelope_same_signature [] (Dict.ofList [("note", .null)])
  refine ⟨(signed_envelopes frugal liveEnv rfl).1 _ _ 1 1 _ _ _ _ _ sig sha256_injective
    (pingEnvelope_accepted rfl) (pingEnvelope_accepted rfl) hs hone, ?_⟩
  refine (signed_envelopes platform liveEnv rfl).2 _ _ _ _ _ 0 1 rfl (keyPair 5) ⟨_, expires_late, ?_⟩ ?_
  · norm_num [DateTime.timestamp, proofTtlSeconds]
  · norm_num [proofTtlSeconds]

end Sample

end Adn
