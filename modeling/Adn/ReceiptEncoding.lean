import Adn.GatewayText
import Adn.Sample
/-!
# Receipts in two languages

The executor signs what `canonicalJson` writes, and Python hashes what `_canonical`
writes of the receipt that arrives. `receipt_agrees_iff`: the hashes are the same,
and the receipt is accepted, exactly when both languages write its fields and the
parameters alike.
-/

open Lib

namespace Adn.Gateway

/-! ## The identity -/

theorem bufferFromHex_hexLower (bs : List UInt8) : bufferFromHex (Hex.hexLower bs) = bs := by
  induction bs with
  | nil => rfl
  | cons b bs ih =>
    have hb := b.toNat_lt
    have hvalue : b.toNat / 16 * 0x10 + b.toNat % 16 = b.toNat := by omega
    rw [Hex.hexLower, List.flatMap_cons, ← Hex.hexLower]
    simp only [List.cons_append, List.nil_append, bufferFromHex, Hex.digitValue_hexDigit (show b.toNat / 16 < 16 by omega),
      Hex.digitValue_hexDigit (show b.toNat % 16 < 16 by omega), ih, hvalue]
    simp

/-- An identity is the one of its private key. -/
theorem loadGatewayIdentity_ok {sha256 getPublicKey : List UInt8 → List UInt8} {privateKeyHex gatewayKeyId : Option Str}
    {identity : GatewayIdentity} (h : loadGatewayIdentity sha256 getPublicKey privateKeyHex gatewayKeyId = .ok identity) :
    identity.publicKeyHex = Hex.hexLower (getPublicKey identity.privateKeyBytes) ∧
      identity.agentId = keyFingerprint sha256 identity.publicKeyHex ∧
      identity.did = Str.ofString "did:key:ed25519:" ++ identity.agentId := by
  unfold loadGatewayIdentity at h
  simp only at h
  split_ifs at h
  · obtain rfl := Except.ok.inj h
    exact ⟨rfl, rfl, rfl⟩
  · obtain rfl := Except.ok.inj h
    exact ⟨rfl, rfl, rfl⟩

theorem plain_keyFingerprint (sha256 : List UInt8 → List UInt8) (s : Str) : Text.Plain (keyFingerprint sha256 s) :=
  fun u hu => Hex.plain_hexLower _ u (List.mem_of_mem_take hu)

/-! ## What is signed -/

/-- The fields of a TEE result that its receipt repeats. -/
def copiedFields : List Str :=
  ["delegation_id", "routed_to", "status", "credential_fingerprint", "credential_enforced", "build_config_id",
    "authorization_expires_at"]

section
variable (g : Gateway) (teeResult : Props) (action : Str) (parameters : Js) (now : ℕ → ℤ)

/-- The body of a receipt. -/
def bodyOf : Props := Props.ofList [
  ("v", .str "adn.tee_authorization/1"),
  ("delegation_id", teeResult.get "delegation_id"),
  ("tee_delegation_id", teeResult.get "delegation_id"),
  ("status", teeResult.get "status"),
  ("to_agent_id", teeResult.get "routed_to"),
  ("action", .str action),
  ("request_hash", .str (g.teeAuthorizationRequestHash (teeResult.get "routed_to") (.str action) parameters)),
  ("credential_fingerprint", teeResult.get "credential_fingerprint"),
  ("credential_enforced", teeResult.get "credential_enforced"),
  ("build_config_id", teeResult.get "build_config_id"),
  ("tee_result_digest", .str (g.sha256hex (canonicalJson (.obj teeResult)))),
  ("gateway_key_id", .str g.identity.gatewayKeyId),
  ("authorization_expires_at", teeResult.get "authorization_expires_at"),
  ("authorized_at", .str (g.isoFromMs (now 0)))]

/-- What a receipt's proof signs. -/
def payloadOf : Props := Props.ofList [
  ("agent_id", .str g.identity.agentId),
  ("did", .str g.identity.did),
  ("public_key_hex", .str g.identity.publicKeyHex),
  ("action", .str "TEE_AUTHORIZATION"),
  ("nonce", teeResult.get "delegation_id"),
  ("issued_at", .str (g.isoFromMs (now 1))),
  ("expires_at", .str (g.isoFromMs (now 2 + 300 * 1000))),
  ("audience", .str "t3n-adn-v1"),
  ("data_hash", .str (g.sha256hex (canonicalJson (.obj (g.bodyOf teeResult action parameters now)))))]

def payloadHashOf : Str := g.sha256hex (canonicalJson (.obj (g.payloadOf teeResult action parameters now)))

def proofOf : Props := g.payloadOf teeResult action parameters now ++ Props.ofList [
  ("payload_hash", .str (g.payloadHashOf teeResult action parameters now)),
  ("signature_hex", .str (Hex.hexLower
    (g.sign (Text.utf8 (g.payloadHashOf teeResult action parameters now)) g.identity.privateKeyBytes)))]

def receiptOf : Props := g.bodyOf teeResult action parameters now ++ Props.ofList [
  ("gateway_public_key_hex", .str g.identity.publicKeyHex),
  ("gateway_proof", .obj (g.proofOf teeResult action parameters now))]

end

section
variable {g : Gateway} {teeResult : Props} {action : Str} {parameters : Js} {now : ℕ → ℤ} {message : List UInt8}
  {receipt : Props}

theorem signAction_proof : (g.signAction "TEE_AUTHORIZATION" (teeResult.get "delegation_id")
    (some (g.bodyOf teeResult action parameters now)) (now 1) (now 2)).2 = g.proofOf teeResult action parameters now := by
  simp only [signAction, proofOf, payloadHashOf, payloadOf, Props.ofList, Option.map_some, List.map_cons, List.map_nil,
    List.cons_append, List.nil_append]

/-- A receipt is signed for a delegation and a target that are named, with an expiry and a key id. -/
theorem buildSignedReceipt_ok : (∃ message, g.buildSignedReceipt (.obj teeResult) (.str action) parameters now =
      .ok (message, receipt)) ↔
    (((teeResult.get "delegation_id").falsy = false ∧ (teeResult.get "routed_to").falsy = false) ∧
      g.identity.gatewayKeyId ≠ [] ∧ (teeResult.get "authorization_expires_at").falsy = false) ∧
    receipt = g.receiptOf teeResult action parameters now := by
  have hkey : (g.proofOf teeResult action parameters now).get "public_key_hex" = .str g.identity.publicKeyHex := by
    simp [proofOf, payloadOf, Props.get, Props.get?_append]
  have hreceipt : g.receiptOf teeResult action parameters now = g.bodyOf teeResult action parameters now ++
      Props.ofList [("gateway_public_key_hex", (g.proofOf teeResult action parameters now).get "public_key_hex"),
        ("gateway_proof", .obj (g.proofOf teeResult action parameters now))] := by
    rw [hkey, receiptOf]
  rw [hreceipt, ← signAction_proof]
  unfold buildSignedReceipt
  simp only [Js.read, bind, Except.bind, pure, Except.pure]
  constructor
  · rintro ⟨message, h⟩
    split_ifs at h with hnamed hid hexpires
    obtain ⟨-, rfl⟩ := Prod.mk.inj (Except.ok.inj h)
    exact ⟨⟨by simpa using hnamed, hid, by simpa using hexpires⟩, rfl⟩
  · rintro ⟨⟨⟨hid, hto⟩, hgateway, hexpires⟩, rfl⟩
    simp only [hid, hto, hgateway, hexpires, Bool.or_self, Bool.false_eq_true, if_false]
    exact ⟨_, rfl⟩

theorem bodyOf_names : (g.bodyOf teeResult action parameters now).map (·.1) = receiptKeys := by
  simp only [bodyOf, Props.ofList, List.map_cons, List.map_nil, receiptKeys]

theorem payloadOf_names : (g.payloadOf teeResult action parameters now).map (·.1) =
    ["agent_id", "did", "public_key_hex", "action", "nonce", "issued_at", "expires_at", "audience", "data_hash"].map
      Str.ofString := by
  simp only [payloadOf, Props.ofList, List.map_cons, List.map_nil]

theorem receiptOf_nodup : ((g.receiptOf teeResult action parameters now).map (·.1)).Nodup := by
  rw [receiptOf, List.map_append, bodyOf_names]
  simp [receiptKeys, Props.ofList]

theorem proofOf_nodup : ((g.proofOf teeResult action parameters now).map (·.1)).Nodup := by
  rw [proofOf, List.map_append, payloadOf_names]
  simp [Props.ofList]

end

/-! ## What is written alike -/

/-- A field of a TEE result is read back, or missing. -/
theorem read_field {tv : Json} {teeResult : Props} (h : Parsed tv (.obj teeResult)) (k : Str) :
    Read (teeResult.get k).loaded (teeResult.get k) := by
  rw [Props.get]
  cases hg : teeResult.get? k with
  | none => exact .scalar .missing
  | some v =>
    cases h with
    | obj hk _ hp ho =>
      obtain ⟨v', -, hv⟩ := Parsed.zip_right hk hp (k, v) (ho.mem_iff.2 (Props.mem_of_get? hg))
      exact hv.read_loaded

/-- What a receipt repeats, and the parameters it is for, are written alike. -/
structure WrittenAlike (g : Gateway) (teeResult : Props) (action : Str) (ps : Dict) (parameters : Js) : Prop where
  fields : ∀ k ∈ copiedFields, Alike (teeResult.get k).loaded (teeResult.get k)
  action : Text.Portable action
  gatewayKeyId : Text.Portable g.identity.gatewayKeyId
  parameters : Alike (.obj ps) parameters

section
variable {g : Gateway} {teeResult : Props} {action : Str} {parameters : Js} {now : ℕ → ℤ}

theorem body_alike_iff (hiso : ∀ ms, Text.Portable (g.isoFromMs ms)) :
    (∀ f ∈ g.bodyOf teeResult action parameters now, Alike f.2.loaded f.2) ↔
      (∀ k ∈ copiedFields, Alike (teeResult.get k).loaded (teeResult.get k)) ∧ Text.Portable action ∧
        Text.Portable g.identity.gatewayKeyId := by
  have hhash : ∀ s, Text.Portable (g.sha256hex s) := fun s => (Hex.plain_hexLower _).portable
  have hversion : Text.Portable "adn.tee_authorization/1" := (Text.plain_ofString (by decide)).portable
  simp only [bodyOf, Props.ofList, List.map_cons, List.map_nil, List.forall_mem_cons, List.not_mem_nil, Js.loaded,
    alike_str_iff, copiedFields, teeAuthorizationRequestHash, hhash, hversion, hiso, IsEmpty.forall_iff, implies_true,
    and_true, true_and]
  constructor
  · rintro ⟨hid, -, hstatus, hto, haction, hfingerprint, henforced, hbuild, hkey, hexpires⟩
    exact ⟨⟨hid, hto, hstatus, hfingerprint, henforced, hbuild, hexpires⟩, haction, hkey⟩
  · rintro ⟨⟨hid, hto, hstatus, hfingerprint, henforced, hbuild, hexpires⟩, haction, hkey⟩
    exact ⟨hid, hid, hstatus, hto, haction, hfingerprint, henforced, hbuild, hkey, hexpires⟩

theorem payload_alike_iff (hiso : ∀ ms, Text.Portable (g.isoFromMs ms)) (hagent : Text.Portable g.identity.agentId)
    (hdid : Text.Portable g.identity.did) (hkey : Text.Portable g.identity.publicKeyHex) :
    (∀ f ∈ g.payloadOf teeResult action parameters now, Alike f.2.loaded f.2) ↔
      Alike (teeResult.get "delegation_id").loaded (teeResult.get "delegation_id") := by
  have hhash : ∀ s, Text.Portable (g.sha256hex s) := fun s => (Hex.plain_hexLower _).portable
  have haction : Text.Portable "TEE_AUTHORIZATION" := (Text.plain_ofString (by decide)).portable
  have haudience : Text.Portable "t3n-adn-v1" := (Text.plain_ofString (by decide)).portable
  simp only [payloadOf, Props.ofList, List.map_cons, List.map_nil, List.forall_mem_cons, List.not_mem_nil, Js.loaded,
    alike_str_iff, hhash, haction, haudience, hiso, hagent, hdid, hkey, IsEmpty.forall_iff, implies_true,
    and_true, true_and]

end

/-! ## What Python recomputes -/

/-- The hashes of a receipt, with its proof, are those that Python computes of what it has read. -/
structure HashesAgree (p : Platform) (receipt proof : Dict) (parameters : Json) : Prop where
  present : receipt.get "gateway_proof" = .obj proof
  dataHash : proof.get "data_hash" = .str (p.hashJson (.obj (receiptBody receipt)))
  payloadHash : proof.get "payload_hash" = .str (Adn.payloadHash p proof)
  requestHash : receipt.get "request_hash" = .str (Adn.teeAuthorizationRequestHash p (receipt.get "to_agent_id")
    (receipt.get "action") parameters)

section
variable (g : Gateway) (teeResult : Props) (action : Str) (parameters : Js) (now : ℕ → ℤ)

/-- A field of the receipt in Python. -/
theorem get_receipt (k : Str) : (Js.loadedProps (g.receiptOf teeResult action parameters now)).get k =
    ((g.receiptOf teeResult action parameters now).get k).loaded := Js.get_loadedProps receiptOf_nodup k

theorem get_proof (k : Str) : (Js.loadedProps (g.proofOf teeResult action parameters now)).get k =
    ((g.proofOf teeResult action parameters now).get k).loaded := Js.get_loadedProps proofOf_nodup k

theorem receipt_proof : (Js.loadedProps (g.receiptOf teeResult action parameters now)).get "gateway_proof" =
    .obj (Js.loadedProps (g.proofOf teeResult action parameters now)) := by
  rw [get_receipt]
  simp [receiptOf, bodyOf, Props.get, Props.get?_append, Js.loaded]

theorem receipt_requestHash : (Js.loadedProps (g.receiptOf teeResult action parameters now)).get "request_hash" =
    .str (g.teeAuthorizationRequestHash (teeResult.get "routed_to") (.str action) parameters) := by
  rw [get_receipt]
  simp [receiptOf, bodyOf, Props.get, Props.get?_append, Js.loaded]

theorem receipt_toAgentId : (Js.loadedProps (g.receiptOf teeResult action parameters now)).get "to_agent_id" =
    (teeResult.get "routed_to").loaded := by
  rw [get_receipt]
  simp [receiptOf, bodyOf, Props.get, Props.get?_append]

theorem receipt_action : (Js.loadedProps (g.receiptOf teeResult action parameters now)).get "action" = .str action := by
  rw [get_receipt]
  simp [receiptOf, bodyOf, Props.get, Props.get?_append, Js.loaded]

theorem proof_dataHash : (Js.loadedProps (g.proofOf teeResult action parameters now)).get "data_hash" =
    .str (g.sha256hex (canonicalJson (.obj (g.bodyOf teeResult action parameters now)))) := by
  rw [get_proof]
  simp [proofOf, payloadOf, Props.get, Props.get?_append, Js.loaded]

theorem proof_payloadHash : (Js.loadedProps (g.proofOf teeResult action parameters now)).get "payload_hash" =
    .str (g.payloadHashOf teeResult action parameters now) := by
  rw [get_proof]
  simp [proofOf, payloadOf, Props.get, Props.get?_append, Js.loaded]

theorem payloadKeys_proof : payloadKeys (Js.loadedProps (g.proofOf teeResult action parameters now)) =
    (g.payloadOf teeResult action parameters now).map (·.1) := by
  have hhas : (Js.loadedProps (g.proofOf teeResult action parameters now)).has "data_hash" = true := by
    rw [Dict.has, Dict.get?_of_get (g.proof_dataHash teeResult action parameters now) (by simp)]
    rfl
  rw [payloadKeys, if_pos hhas, payloadOf_names]
  rfl

end

section
variable {g : Gateway} {p : Platform} {tv : Json} {teeResult : Props} {action : Str} {ps : Dict} {parameters : Js}
  {now : ℕ → ℤ} (hsha : g.sha256 = p.sha256) (hc : Function.Injective p.sha256)
include hsha hc

theorem dataHash_agrees_iff (hiso : ∀ ms, Text.Portable (g.isoFromMs ms)) (htee : Parsed tv (.obj teeResult)) :
    (Js.loadedProps (g.proofOf teeResult action parameters now)).get "data_hash" =
      .str (p.hashJson (.obj (receiptBody (Js.loadedProps (g.receiptOf teeResult action parameters now))))) ↔
    (∀ k ∈ copiedFields, Alike (teeResult.get k).loaded (teeResult.get k)) ∧ Text.Portable action ∧
      Text.Portable g.identity.gatewayKeyId := by
  have hnames : ∀ f ∈ g.bodyOf teeResult action parameters now, Text.Portable f.1 := by
    have hkeys : ∀ k ∈ receiptKeys, Text.Portable k := by decide +kernel
    intro f hf
    have hmem := List.mem_map_of_mem (f := (·.1)) hf
    rw [bodyOf_names] at hmem
    exact hkeys f.1 hmem
  have hread : ∀ f ∈ g.bodyOf teeResult action parameters now, Read f.2.loaded f.2 := by
    have hstr : ∀ s, Read (Js.loaded (.str s)) (.str s) := fun s => .str trivial
    simp only [bodyOf, Props.ofList, List.map_cons, List.map_nil, List.forall_mem_cons, List.not_mem_nil,
      IsEmpty.forall_iff, implies_true, and_true, hstr, read_field htee]
  rw [proof_dataHash, Json.str.injEq, receiptBody, ← body_alike_iff hiso]
  rw [← bodyOf_names]
  exact hash_loaded_iff hsha hc receiptOf_nodup hnames hread

theorem payloadHash_agrees_iff (hiso : ∀ ms, Text.Portable (g.isoFromMs ms)) (hagent : Text.Portable g.identity.agentId)
    (hdid : Text.Portable g.identity.did) (hkey : Text.Portable g.identity.publicKeyHex)
    (htee : Parsed tv (.obj teeResult)) :
    (Js.loadedProps (g.proofOf teeResult action parameters now)).get "payload_hash" =
      .str (payloadHash p (Js.loadedProps (g.proofOf teeResult action parameters now))) ↔
    Alike (teeResult.get "delegation_id").loaded (teeResult.get "delegation_id") := by
  have hnames : ∀ f ∈ g.payloadOf teeResult action parameters now, Text.Portable f.1 := by
    intro f hf
    have hmem := List.mem_map_of_mem (f := (·.1)) hf
    rw [payloadOf_names] at hmem
    have hkeys : ∀ k ∈ ["agent_id", "did", "public_key_hex", "action", "nonce", "issued_at", "expires_at", "audience",
      "data_hash"].map Str.ofString, Text.Portable k := by decide +kernel
    exact hkeys f.1 hmem
  have hread : ∀ f ∈ g.payloadOf teeResult action parameters now, Read f.2.loaded f.2 := by
    have hstr : ∀ s, Read (Js.loaded (.str s)) (.str s) := fun s => .str trivial
    simp only [payloadOf, Props.ofList, List.map_cons, List.map_nil, List.forall_mem_cons, List.not_mem_nil,
      IsEmpty.forall_iff, implies_true, and_true, hstr, read_field htee]
  rw [proof_payloadHash, Json.str.injEq, payloadHash, payloadFields, payloadKeys_proof,
    ← payload_alike_iff hiso hagent hdid hkey]
  exact hash_loaded_iff hsha hc proofOf_nodup hnames hread

theorem requestHash_agrees_iff (htee : Parsed tv (.obj teeResult)) (hparameters : Parsed (.obj ps) parameters) :
    (Js.loadedProps (g.receiptOf teeResult action parameters now)).get "request_hash" =
      .str (Adn.teeAuthorizationRequestHash p (teeResult.get "routed_to").loaded (.str action) (.obj ps)) ↔
    Alike (teeResult.get "routed_to").loaded (teeResult.get "routed_to") ∧ Text.Portable action ∧
      Alike (.obj ps) parameters := by
  let qs : List (Str × Json × Js) := [
    ("to_agent_id", (teeResult.get "routed_to").loaded, teeResult.get "routed_to"), ("action", .str action, .str action),
    ("parameters", .obj ps, parameters)]
  have hnames : (qs.map (·.1)).Nodup := by simp [qs]
  have hportable : ∀ q ∈ qs, Text.Portable q.1 := by
    simp only [qs, List.forall_mem_cons, List.not_mem_nil, IsEmpty.forall_iff, implies_true, and_true]
    exact ⟨(Text.plain_ofString (by decide)).portable, (Text.plain_ofString (by decide)).portable,
      (Text.plain_ofString (by decide)).portable⟩
  have hread : ∀ q ∈ qs, Read q.2.1 q.2.2 := by
    simp only [qs, List.forall_mem_cons, List.not_mem_nil, IsEmpty.forall_iff, implies_true, and_true]
    exact ⟨read_field htee _, .str trivial, hparameters.read⟩
  have hiff := hash_obj_iff hsha hc hnames hportable hread
  simp only [qs, List.map_cons, List.map_nil, List.forall_mem_cons, List.not_mem_nil, IsEmpty.forall_iff, implies_true,
    and_true, alike_str_iff] at hiff
  rw [receipt_requestHash, Json.str.injEq, ← hiff, Adn.teeAuthorizationRequestHash, orEmpty_obj]
  rfl

end

/-! ## Agreement -/

/-- The identity of a private key is written alike. -/
theorem identity_portable {g : Gateway} {getPublicKey : List UInt8 → List UInt8} {privateKeyHex gatewayKeyId : Option Str}
    (h : loadGatewayIdentity g.sha256 getPublicKey privateKeyHex gatewayKeyId = .ok g.identity) :
    Text.Portable g.identity.agentId ∧ Text.Portable g.identity.did ∧ Text.Portable g.identity.publicKeyHex := by
  obtain ⟨hkey, hagent, hdid⟩ := loadGatewayIdentity_ok h
  have hplain : Text.Plain g.identity.agentId := hagent ▸ plain_keyFingerprint _ _
  have hscheme : Text.Plain "did:key:ed25519:" := Text.plain_ofString (by decide)
  rw [hdid, hkey]
  exact ⟨hplain.portable, (Text.Plain.append.2 ⟨hscheme, hplain⟩).portable, (Hex.plain_hexLower _).portable⟩

section
variable {g : Gateway} {p : Platform} {tv : Json} {teeResult : Props} {action : Str} {ps : Dict} {parameters : Js}
  {now : ℕ → ℤ} {getPublicKey : List UInt8 → List UInt8} {privateKeyHex gatewayKeyId : Option Str}
  (hsha : g.sha256 = p.sha256) (hc : Function.Injective p.sha256) (hiso : ∀ ms, Text.Portable (g.isoFromMs ms))
  (hidentity : loadGatewayIdentity g.sha256 getPublicKey privateKeyHex gatewayKeyId = .ok g.identity)
  (htee : Parsed tv (.obj teeResult)) (hparameters : Parsed (.obj ps) parameters)
include hsha hc hiso hidentity htee hparameters

/-- The three hashes are those that Python recomputes exactly if everything is written alike. -/
theorem hashesAgree_iff : HashesAgree p (Js.loadedProps (g.receiptOf teeResult action parameters now))
    (Js.loadedProps (g.proofOf teeResult action parameters now)) (.obj ps) ↔
      WrittenAlike g teeResult action ps parameters := by
  obtain ⟨hagent, hdid, hkey⟩ := identity_portable hidentity
  constructor
  · intro h
    obtain ⟨hfields, haction, hgateway⟩ := (dataHash_agrees_iff hsha hc hiso htee).1 h.dataHash
    have hrequest := h.requestHash
    rw [receipt_toAgentId, receipt_action] at hrequest
    exact ⟨hfields, haction, hgateway, ((requestHash_agrees_iff hsha hc htee hparameters).1 hrequest).2.2⟩
  · intro h
    have hid := h.fields "delegation_id" (by simp [copiedFields])
    have hto := h.fields "routed_to" (by simp [copiedFields])
    refine ⟨receipt_proof .., (dataHash_agrees_iff hsha hc hiso htee).2 ⟨h.fields, h.action, h.gatewayKeyId⟩,
      (payloadHash_agrees_iff hsha hc hiso hagent hdid hkey htee).2 hid, ?_⟩
    rw [receipt_toAgentId, receipt_action]
    exact (requestHash_agrees_iff hsha hc htee hparameters).2 ⟨hto, h.action, h.parameters⟩

end

/-! ## Acceptance -/

/-- What is relied on of the gateway's Ed25519 key. -/
structure SignsFor (g : Gateway) (p : Platform) (publicKey : List UInt8) : Prop where
  length : publicKey.length = 32
  sign_length : ∀ m, (g.sign m g.identity.privateKeyBytes).length = 64
  verify_sign : ∀ m, p.verify publicKey m (g.sign m g.identity.privateKeyBytes) = true

/-- The expected values are those of the receipt, which are in time; the hash of the parameters apart. -/
structure Matches (g : Gateway) (p : Platform) (now : ℚ) (receipt : Dict) (ps : Dict) (x : ExpectedReceipt) : Prop where
  authorizes : Authorizes p now receipt { x with parameters := .null }
  toAgentId : x.toAgentId = receipt.get "to_agent_id"
  action : x.action = receipt.get "action"
  parameters : x.parameters = .obj ps
  gatewayPubkeyHex : x.gatewayPubkeyHex = g.identity.publicKeyHex

theorem keyFingerprint_eq {g : Gateway} {p : Platform} (hsha : g.sha256 = p.sha256) (key : List UInt8) :
    keyFingerprint g.sha256 (Hex.hexLower key) = p.fingerprint key := by
  have hprefix : Text.utf8 (Str.ofString "terminal3" ++ [0x00]) =
    [0x74, 0x65, 0x72, 0x6D, 0x69, 0x6E, 0x61, 0x6C, 0x33, 0x00] := by decide +kernel
  rw [keyFingerprint, bufferFromHex_hexLower, hprefix, hsha, Platform.fingerprint]

section
variable {g : Gateway} {p : Platform} {teeResult : Props} {action : Str} {ps : Dict} {parameters : Js} {now : ℕ → ℤ}
  {x : ExpectedReceipt}

theorem Matches.authorizes_iff {time : ℚ} {receipt : Dict} (h : Matches g p time receipt ps x) :
    Authorizes p time receipt x ↔ receipt.get "request_hash" = .str (Adn.teeAuthorizationRequestHash p
      (receipt.get "to_agent_id") (receipt.get "action") (.obj ps)) := by
  rw [← h.toAgentId, ← h.action, ← h.parameters]
  constructor
  · intro ha
    exact ha.requestHash (h.parameters ▸ nofun)
  · intro hrequest
    exact { h.authorizes with requestHash := fun _ => hrequest }

variable {publicKey : List UInt8}

/-- The proof of a receipt names its key and is signed by it, where the signed hash is the one recomputed. -/
theorem signedBy_proof (hsha : g.sha256 = p.sha256) (hs : SignsFor g p publicKey)
    (hkey : g.identity.publicKeyHex = Hex.hexLower publicKey)
    (hagent : g.identity.agentId = keyFingerprint g.sha256 g.identity.publicKeyHex)
    (hhash : payloadHash p (Js.loadedProps (g.proofOf teeResult action parameters now)) =
      g.payloadHashOf teeResult action parameters now) :
    SignedBy p (Js.loadedProps (g.proofOf teeResult action parameters now)) publicKey where
  publicKey := by
    refine ⟨_, ?_, Hex.fromHex_hexLower publicKey⟩
    rw [get_proof, ← hkey]
    simp [proofOf, payloadOf, Props.get, Props.get?_append, Js.loaded]
  length := hs.length
  agentId := by
    rw [get_proof, ← keyFingerprint_eq hsha, ← hkey, ← hagent]
    simp [proofOf, payloadOf, Props.get, Props.get?_append, Js.loaded]
  signature := by
    refine ⟨_, g.sign (Text.utf8 (g.payloadHashOf teeResult action parameters now)) g.identity.privateKeyBytes, ?_,
      Hex.fromHex_hexLower _, hs.sign_length _, hhash ▸ hs.verify_sign _⟩
    rw [get_proof]
    simp [proofOf, payloadOf, Props.get, Props.get?_append, Js.loaded]

/-- The proof of a receipt is current until it expires, where the signed hash is the one recomputed. -/
theorem current_proof {time : ℚ} (hunexpired : Unexpired p time (.str (g.isoFromMs (now 2 + 300 * 1000))))
    (hid : teeResult.get "delegation_id" ≠ .undefined)
    (hhash : (Js.loadedProps (g.proofOf teeResult action parameters now)).get "payload_hash" =
      .str (payloadHash p (Js.loadedProps (g.proofOf teeResult action parameters now)))) :
    Current p time (Js.loadedProps (g.proofOf teeResult action parameters now)) receiptAction where
  fields := by
    have hfields : ∀ k ∈ requiredFields, ∃ v, (k, v) ∈ g.proofOf teeResult action parameters now ∧ v ≠ .undefined := by
      simp [requiredFields, proofOf, payloadOf, Props.ofList, hid]
    intro k hk
    obtain ⟨v, hmem, hv⟩ := hfields k hk
    exact Js.has_loadedProps hmem hv
  action := by
    rw [get_proof]
    simp [proofOf, payloadOf, Props.get, Props.get?_append, Js.loaded, receiptAction]
  audience := by
    rw [get_proof]
    simp [proofOf, payloadOf, Props.get, Props.get?_append, Js.loaded, audience]
  unexpired := by
    rw [get_proof]
    simpa [proofOf, payloadOf, Props.get, Props.get?_append, Js.loaded] using hunexpired
  payloadHash := hhash

end

section
variable {g : Gateway} {p : Platform} {tv : Json} {teeResult : Props} {action : Str} {ps : Dict} {parameters : Js}
  {now : ℕ → ℤ} {getPublicKey : List UInt8 → List UInt8} {privateKeyHex gatewayKeyId : Option Str}
  (hsha : g.sha256 = p.sha256) (hc : Function.Injective p.sha256) (hiso : ∀ ms, Text.Portable (g.isoFromMs ms))
  (hidentity : loadGatewayIdentity g.sha256 getPublicKey privateKeyHex gatewayKeyId = .ok g.identity)
  (hs : SignsFor g p (getPublicKey g.identity.privateKeyBytes))
  (htee : Parsed tv (.obj teeResult)) (hparameters : Parsed (.obj ps) parameters)
include hsha hc hiso hidentity hs htee hparameters

/-- With matching expected values and in time, a receipt is accepted exactly if everything is written alike. -/
theorem accepted_iff {env : Env} {time time' : ℚ} {x : ExpectedReceipt}
    (hx : Matches g p time (Js.loadedProps (g.receiptOf teeResult action parameters now)) ps x)
    (hunexpired : Unexpired p time' (.str (g.isoFromMs (now 2 + 300 * 1000)))) :
    (∃ r, verifyTeeAuthorizationReceipt p env time time' (Js.loaded (.obj (g.receiptOf teeResult action parameters now))) x =
      .ok r) ↔ WrittenAlike g teeResult action ps parameters := by
  have hagree : HashesAgree p (Js.loadedProps (g.receiptOf teeResult action parameters now))
      (Js.loadedProps (g.proofOf teeResult action parameters now)) (.obj ps) ↔ WrittenAlike g teeResult action ps parameters :=
    hashesAgree_iff hsha hc hiso hidentity htee hparameters
  rw [← hagree]
  simp only [verifyTeeAuthorizationReceipt_ok, Js.loaded, Json.obj.injEq, exists_eq_left', hx.authorizes_iff]
  constructor
  · rintro ⟨_, rfl, hrequest, proof, hproven⟩
    obtain rfl := Json.obj.inj ((receipt_proof ..).symm.trans hproven.present)
    obtain ⟨err, hverified⟩ := hproven.verified
    exact ⟨hproven.present, hproven.dataHash, (verifyActionRequest_ok.1 hverified).1.payloadHash, hrequest⟩
  · intro h
    obtain ⟨hkey, hagent, -⟩ := loadGatewayIdentity_ok hidentity
    have hid : teeResult.get "delegation_id" ≠ .undefined := by
      intro hmissing
      have halike := (hagree.1 h).fields "delegation_id" (by simp [copiedFields])
      rw [hmissing] at halike
      exact not_alike_undefined _ halike
    have hhash : payloadHash p (Js.loadedProps (g.proofOf teeResult action parameters now)) =
        g.payloadHashOf teeResult action parameters now :=
      Json.str.inj (h.payloadHash.symm.trans (proof_payloadHash ..))
    refine ⟨_, rfl, h.requestHash, _, h.present, ?_, ?_, ?_, h.dataHash⟩
    · rw [get_receipt, hx.gatewayPubkeyHex]
      simp [receiptOf, bodyOf, Props.get, Props.get?_append, Js.loaded]
    · rw [get_proof, hx.gatewayPubkeyHex]
      simp [proofOf, payloadOf, Props.get, Props.get?_append, Js.loaded]
    · have hcurrent : Current p time' (Js.loadedProps (g.proofOf teeResult action parameters now)) receiptAction :=
        current_proof hunexpired hid h.payloadHash
      have hsigned := signedBy_proof hsha hs hkey hagent hhash
      cases hm : isMock env with
      | true => exact ⟨[], verifyActionRequest_ok.2 ⟨hcurrent, .inl ⟨hm, rfl⟩⟩⟩
      | false => exact ⟨[], (verifyActionRequest_live hm).2 ⟨rfl, hcurrent, _, hsigned⟩⟩

/-- Of a signed receipt, the hashes are those that Python recomputes, and it is accepted with matching expected values
and in time, exactly if everything in it is written alike; and so is the text of every document. -/
theorem receipt_agrees_iff {message : List UInt8} {receipt : Props}
    (h : g.buildSignedReceipt (.obj teeResult) (.str action) parameters now = .ok (message, receipt)) :
    ((∃ proof, HashesAgree p (Js.loadedProps receipt) proof (.obj ps)) ↔
      WrittenAlike g teeResult action ps parameters) ∧
    (∀ env time time' x, Matches g p time (Js.loadedProps receipt) ps x →
      Unexpired p time' (.str (g.isoFromMs (now 2 + 300 * 1000))) →
      ((∃ r, verifyTeeAuthorizationReceipt p env time time' (Js.loaded (.obj receipt)) x = .ok r) ↔
        WrittenAlike g teeResult action ps parameters)) ∧
    ∀ v w, Parsed v w → (canonicalJson w = canonical v ↔ Alike v w) := by
  obtain ⟨-, rfl⟩ := buildSignedReceipt_ok.1 ⟨message, h⟩
  have hagree : HashesAgree p (Js.loadedProps (g.receiptOf teeResult action parameters now))
      (Js.loadedProps (g.proofOf teeResult action parameters now)) (.obj ps) ↔ WrittenAlike g teeResult action ps parameters :=
    hashesAgree_iff hsha hc hiso hidentity htee hparameters
  refine ⟨⟨?_, fun halike => ⟨_, hagree.2 halike⟩⟩, ?_, fun v w hv => canonical_agrees_iff hv.read⟩
  · rintro ⟨proof, hproof⟩
    obtain rfl := Json.obj.inj ((receipt_proof ..).symm.trans hproof.present)
    exact hagree.1 hproof
  · intro env time time' x hx hunexpired
    exact accepted_iff hsha hc hiso hidentity hs htee hparameters hx hunexpired

end

end Adn.Gateway

/-! ### Receipts for a number and for an accented letter -/

namespace Adn.Sample

open Adn.Gateway

/-- A private key in hexadecimal. -/
def signingKeyHex : Str := Hex.hexLower (List.replicate 32 9)

def signingIdentity : GatewayIdentity where
  privateKeyBytes := bufferFromHex signingKeyHex
  publicKeyHex := Hex.hexLower (bufferFromHex signingKeyHex)
  agentId := keyFingerprint platform.sha256 (Hex.hexLower (bufferFromHex signingKeyHex))
  did := Str.ofString "did:key:ed25519:" ++ keyFingerprint platform.sha256 (Hex.hexLower (bufferFromHex signingKeyHex))
  gatewayKeyId := "gateway-1"

def signingGateway : Gateway where
  identity := signingIdentity
  expectedToken := List.replicate 32 0
  token_length := List.length_replicate
  parse _ := none
  sha256 := platform.sha256
  sign message key := signature key message
  isoFromMs _ := lateText
  clock _ := 0

theorem signingIdentity_loaded : loadGatewayIdentity signingGateway.sha256 (fun key => key) (some signingKeyHex)
    (some "gateway-1") = .ok signingGateway.identity := by
  have htrim : Js.trim ((some signingKeyHex).getD []) = signingKeyHex := by decide +kernel
  have hnamed : Js.trim ((some (Str.ofString "gateway-1")).getD []) = Str.ofString "gateway-1" := by decide +kernel
  have hplain : without0x signingKeyHex = signingKeyHex := by decide +kernel
  have hvalid : ¬(signingKeyHex.length ≠ 64 ∨ (signingKeyHex.any fun u => (Hex.digitValue u).isNone) = true) := by
    decide +kernel
  unfold loadGatewayIdentity
  simp only [htrim, hnamed, hplain]
  rw [if_neg (by decide +kernel), if_neg hvalid, if_neg (by decide +kernel)]
  rfl

theorem signingGateway_signs : SignsFor signingGateway platform signingGateway.identity.privateKeyBytes where
  length := by decide +kernel
  sign_length m := by
    simp only [signingGateway, signature, List.length_take, List.length_append, List.length_replicate]
    omega
  verify_sign m := decide_eq_true rfl

theorem lateText_portable : ∀ ms, Text.Portable (signingGateway.isoFromMs ms) := fun _ => by
  exact (Text.plain_ofString (by decide)).portable

/-- What the TEE answers, in JavaScript. -/
def routedResult : Props := Props.ofList [("delegation_id", .str "d"), ("routed_to", .str "worker"),
  ("status", .str "ROUTED"), ("credential_fingerprint", .str "c"), ("credential_enforced", .bool true),
  ("build_config_id", .str "b"), ("authorization_expires_at", .str lateText)]

theorem routedResult_parsed : Parsed (Js.loaded (.obj routedResult)) (.obj routedResult) := by
  refine .obj rfl (by simp [Js.loadedProps, routedResult, Props.ofList, Js.loaded]) ?_ (.refl _)
  simp only [routedResult, Props.ofList, List.map_cons, List.map_nil, Js.loadedProps, Js.loaded, List.zip_cons_cons,
    List.zip_nil_right, List.forall_mem_cons, List.not_mem_nil, IsEmpty.forall_iff, implies_true, and_true]
  exact ⟨.str _, .str _, .str _, .str _, .bool _, .str _, .str _⟩

/-- An object of one field is parsed as one. -/
theorem parsed_singleton {k : Str} {v : Json} {w : Js} (h : Parsed v w) : Parsed (.obj [(k, v)]) (.obj [(k, w)]) :=
  .obj rfl (List.nodup_singleton k) (by simpa using h) (.refl _)

theorem alike_singleton_iff {k : Str} {v : Json} {w : Js} :
    Alike (.obj [(k, v)]) (.obj [(k, w)]) ↔ Text.Portable k ∧ Alike v w := by
  have hiff := @alike_obj_iff [(k, v, w)] (List.nodup_singleton k)
  simpa using hiff

theorem routed_signed (parameters : Js) : ∃ message, signingGateway.buildSignedReceipt (.obj routedResult) (.str "PING")
    parameters (fun _ => 0) = .ok (message, signingGateway.receiptOf routedResult "PING" parameters fun _ => 0) := by
  rw [buildSignedReceipt_ok]
  refine ⟨⟨⟨?_, ?_⟩, ?_, ?_⟩, rfl⟩ <;> simp [routedResult, Props.get, Js.falsy, lateText, signingGateway, signingIdentity]

theorem routed_alike {ps : Dict} {parameters : Js} (h : Alike (.obj ps) parameters) :
    WrittenAlike signingGateway routedResult "PING" ps parameters where
  fields := by
    have hlate : Text.Portable lateText := lateText_portable 0
    have hbool : Alike (.bool true) (.bool true) := .scalar (.bool true)
    simp only [copiedFields, List.forall_mem_cons, List.not_mem_nil, IsEmpty.forall_iff, implies_true, and_true]
    simp [routedResult, Props.get, Js.loaded, alike_str_iff, hlate, hbool]
    exact ⟨(Text.plain_ofString (by decide)).portable, (Text.plain_ofString (by decide)).portable,
      (Text.plain_ofString (by decide)).portable, (Text.plain_ofString (by decide)).portable,
      (Text.plain_ofString (by decide)).portable⟩
  action := (Text.plain_ofString (by decide)).portable
  gatewayKeyId := (Text.plain_ofString (by decide)).portable
  parameters := h

/-- What the executor asks for when it has signed a receipt of that answer. -/
def routedExpected (ps : Dict) : ExpectedReceipt :=
  ⟨signingIdentity.publicKeyHex, "gateway-1", .str "d", .str "worker", .str "PING", .obj ps, "b"⟩

theorem routed_authorizes (ps : Dict) (parameters : Js) : Authorizes platform 1
    (Js.loadedProps (signingGateway.receiptOf routedResult "PING" parameters fun _ => 0))
    { routedExpected ps with parameters := .null } := by
  have hl : lateText ≠ [] := by simp [lateText]
  have hkey : signingGateway.identity.gatewayKeyId = "gateway-1" := rfl
  have hdigest : ∀ s, signingGateway.sha256hex s ≠ [] := fun s => by
    simp [Gateway.sha256hex, signingGateway, platform, Hex.hexLower]
  constructor
  case gatewayKeyId_ne => simp [routedExpected]
  case buildConfigId_ne => simp [routedExpected]
  case requestHash => exact fun h => absurd rfl h
  case unexpired =>
    rw [get_receipt]
    refine ⟨lateText, ⟨300, some 0⟩, ?_, rfl, one_unexpired⟩
    simp [Gateway.receiptOf, Gateway.bodyOf, Props.get, Props.get?_append, Js.loaded, routedResult]
  all_goals
    rw [get_receipt]
    simp [Gateway.receiptOf, Gateway.bodyOf, Props.get, Props.get?_append, Js.loaded, routedResult, routedExpected,
      receiptVersion, Json.pyEq_str, Json.truthy, hl, hkey, hdigest]

theorem routed_matches (ps : Dict) (parameters : Js) : Matches signingGateway platform 1
    (Js.loadedProps (signingGateway.receiptOf routedResult "PING" parameters fun _ => 0)) ps (routedExpected ps) where
  authorizes := routed_authorizes ps parameters
  toAgentId := by
    rw [receipt_toAgentId]
    simp [routedResult, Props.get, Js.loaded, routedExpected]
  action := by
    rw [receipt_action]
    rfl
  parameters := rfl
  gatewayPubkeyHex := rfl

/-- The proof of the receipt is in time until then. -/
theorem routed_unexpired : Unexpired platform 1 (.str (signingGateway.isoFromMs (0 + 300 * 1000))) :=
  ⟨lateText, ⟨300, some 0⟩, rfl, rfl, one_unexpired⟩

/-- The receipt for a small number is accepted. -/
theorem numbered_receipt_accepted : ∃ message receipt, signingGateway.buildSignedReceipt (.obj routedResult) (.str "PING")
    (.obj [("id", .num (.finite 7))]) (fun _ => 0) = .ok (message, receipt) ∧
    (∃ proof, HashesAgree platform (Js.loadedProps receipt) proof (.obj [("id", .int 7)])) ∧
    ∃ r, verifyTeeAuthorizationReceipt platform env 1 1 (Js.loaded (.obj receipt)) (routedExpected [("id", .int 7)]) =
      .ok r := by
  have hparsed : Parsed (.obj [("id", .int 7)]) (.obj [("id", .num (.finite 7))]) :=
    parsed_singleton (.int (.exact (by decide)))
  have halike : Alike (.obj [("id", .int 7)]) (.obj [("id", .num (.finite 7))]) :=
    alike_singleton_iff.2 ⟨(Text.plain_ofString (by decide)).portable, .scalar (.whole (by decide))⟩
  obtain ⟨message, hsigned⟩ := routed_signed (.obj [("id", .num (.finite 7))])
  obtain ⟨hhashes, haccepted, -⟩ := receipt_agrees_iff rfl sha256_injective lateText_portable signingIdentity_loaded
    signingGateway_signs routedResult_parsed hparsed hsigned
  exact ⟨message, _, hsigned, hhashes.2 (routed_alike halike),
    (haccepted env 1 1 _ (routed_matches _ _) routed_unexpired).2 (routed_alike halike)⟩

/-- The receipt for an accented letter is refused, though all that is expected of it is what it says. -/
theorem accented_receipt_refused : ∃ message receipt, signingGateway.buildSignedReceipt (.obj routedResult) (.str "PING")
    (.obj [("k", .str "é")]) (fun _ => 0) = .ok (message, receipt) ∧
    Parsed (.obj [("k", .str "é")]) (.obj [("k", .str "é")]) ∧
    canonicalJson (.obj [("k", .str "é")]) ≠ canonical (.obj [("k", .str "é")]) ∧
    (¬∃ proof, HashesAgree platform (Js.loadedProps receipt) proof (.obj [("k", .str "é")])) ∧
    Matches signingGateway platform 1 (Js.loadedProps receipt) [("k", .str "é")] (routedExpected [("k", .str "é")]) ∧
    ¬∃ r, verifyTeeAuthorizationReceipt platform env 1 1 (Js.loaded (.obj receipt))
      (routedExpected [("k", .str "é")]) = .ok r := by
  have hparsed : Parsed (.obj [("k", .str "é")]) (.obj [("k", .str "é")]) := parsed_singleton (.str _)
  have halike : ¬Alike (.obj [("k", .str "é")]) (.obj [("k", .str "é")]) := by
    intro h
    exact absurd (alike_str_iff.1 (alike_singleton_iff.1 h).2) (by decide +kernel)
  obtain ⟨message, hsigned⟩ := routed_signed (.obj [("k", .str "é")])
  have htext : canonicalJson (.obj [("k", .str "é")]) ≠ canonical (.obj [("k", .str "é")]) :=
    fun h => halike ((canonical_agrees_iff hparsed.read).1 h)
  refine ⟨message, _, hsigned, hparsed, htext, ?_, routed_matches _ _, ?_⟩
  · rintro ⟨proof, h⟩
    obtain rfl := Json.obj.inj ((receipt_proof ..).symm.trans h.present)
    exact halike ((hashesAgree_iff rfl sha256_injective lateText_portable signingIdentity_loaded routedResult_parsed
      hparsed).1 h).parameters
  · intro h
    exact halike ((accepted_iff rfl sha256_injective lateText_portable signingIdentity_loaded signingGateway_signs
      routedResult_parsed hparsed (routed_matches _ _) routed_unexpired).1 h).parameters

end Adn.Sample
