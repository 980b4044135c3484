import Adn.LedgerRuns
import Adn.TeeAuthorization
import Adn.Lib.JsonReader
/-!
# A small platform

The platform at which the conditional theorems are applied and refuted: a hash
without collisions, a signature scheme that accepts what it signed, and two
timestamps. A gateway there issues one receipt.
-/

open Lib

namespace Adn.Sample

/-- 64 bytes that depend on the key and the message. -/
def signature (key message : List UInt8) : List UInt8 := (key ++ message ++ List.replicate 64 0).take 64

def earlyText : Str := "1970-01-01T00:00:00+00:00"
def lateText : Str := "1970-01-01T00:05:00+00:00"

def platform : Platform where
  sha256 bs := 0 :: bs
  hmacSha256 key message := key ++ message
  publicKey key := key
  sign := signature
  verify key message sig := sig = signature key message
  fromisoformat t := if t = earlyText then some ⟨0, some 0⟩ else if t = lateText then some ⟨300, some 0⟩ else none
  isoformat t := if t = 0 then earlyText else lateText
  reprJson _ := []
  errorText _ := []
  realText _ := []

def env : Env := ⟨none, some "test", [], [], [], []⟩

theorem interpreter_depth : 0 < 1000 := by decide

/-- An interpreter for documents whose only float is zero. -/
def interpreter : JsonReader.Interpreter where
  float _ := .finite 0
  maxDigits := some 4300
  depth := 1000
  depth_pos := interpreter_depth

/-- The signer whose private key is 32 times the byte `b`. -/
def signerOf (b : UInt8) : Signer :=
  let key := List.replicate 32 b
  ⟨key, Hex.hexLower key, platform.fingerprint key, "did"⟩

theorem keyPair (b : UInt8) : KeyPair platform (signerOf b) where
  publicKeyHex := rfl
  agentId := rfl
  publicKey_length := List.length_replicate
  sign_length m := by
    simp only [platform, signature, List.length_take, List.length_append, List.length_replicate]
    omega
  verify_sign m := decide_eq_true rfl

/-- What is signed at time 0 expires at time 300. -/
theorem expires_late : platform.fromisoformat (platform.isoformat (0 + proofTtlSeconds)) = some ⟨300, some 0⟩ := by
  decide +kernel

theorem one_unexpired : (1 : ℚ) ≤ DateTime.timestamp ⟨300, some 0⟩ := by
  norm_num [DateTime.timestamp]

def gateway : Signer := signerOf 9

theorem gateway_key_ne : gateway.publicKeyHex ≠ [] := by
  simp [gateway, signerOf, Hex.hexLower, List.replicate]

/-- The values of a receipt for a `PING` of the worker. -/
def receiptValues : Dict :=
  Dict.ofList [("v", .str receiptVersion), ("delegation_id", .str "d"), ("tee_delegation_id", .str "d"),
    ("status", .str "ROUTED"), ("to_agent_id", .str "worker"), ("action", .str "PING"),
    ("request_hash", .str (teeAuthorizationRequestHash platform (.str "worker") (.str "PING") (.obj []))),
    ("credential_fingerprint", .str "c"), ("credential_enforced", .bool true), ("build_config_id", .str "b"),
    ("tee_result_digest", .str "t"), ("gateway_key_id", .str "g"), ("authorization_expires_at", .str lateText),
    ("authorized_at", .str earlyText)]

def receipt : Dict := gateway.receipt platform 0 (.str "n") receiptValues.get

def expectedReceipt : ExpectedReceipt :=
  ⟨gateway.publicKeyHex, "g", .str "d", .str "worker", .str "PING", .obj [], "b"⟩

/-- The values of a receipt for a `PING` of any agent, with any parameters. -/
def receiptValuesFor (toAgentId : Str) (parameters : Json) : Dict :=
  Dict.ofList [("v", .str receiptVersion), ("delegation_id", .str "d"), ("tee_delegation_id", .str "d"),
    ("status", .str "ROUTED"), ("to_agent_id", .str toAgentId), ("action", .str "PING"),
    ("request_hash", .str (teeAuthorizationRequestHash platform (.str toAgentId) (.str "PING") parameters)),
    ("credential_fingerprint", .str "c"), ("credential_enforced", .bool true), ("build_config_id", .str "b"),
    ("tee_result_digest", .str "t"), ("gateway_key_id", .str "g"), ("authorization_expires_at", .str lateText),
    ("authorized_at", .str earlyText)]

def receiptFor (toAgentId : Str) (parameters : Json) : Dict :=
  gateway.receipt platform 0 (.str "n") (receiptValuesFor toAgentId parameters).get

/-- What a verifier expects of it that has some parameters in mind, or none. -/
def expectedReceiptFor (toAgentId : Str) (parameters : Json) : ExpectedReceipt :=
  ⟨gateway.publicKeyHex, "g", .str "d", .str toAgentId, .str "PING", parameters, "b"⟩

theorem receiptFor_authorizes {toAgentId : Str} {parameters parameters' : Json} (h : parameters' ≠ .null →
      teeAuthorizationRequestHash platform (.str toAgentId) (.str "PING") parameters' =
        teeAuthorizationRequestHash platform (.str toAgentId) (.str "PING") parameters) :
    Authorizes platform 1 (receiptFor toAgentId parameters) (expectedReceiptFor toAgentId parameters') := by
  have hget : ∀ k ∈ receiptKeys, (receiptFor toAgentId parameters).get k =
      ((receiptValuesFor toAgentId parameters).get? k).getD .null := fun k hk => Signer.get_receipt hk
  have hl : lateText ≠ [] := by decide +kernel
  constructor
  case gatewayKeyId_ne => simp [expectedReceiptFor]
  case buildConfigId_ne => simp [expectedReceiptFor]
  case unexpired =>
    rw [hget _ (by simp [receiptKeys])]
    exact ⟨lateText, ⟨300, some 0⟩, by simp [receiptValuesFor], rfl, one_unexpired⟩
  case requestHash =>
    intro hp
    rw [hget _ (by simp [receiptKeys]), expectedReceiptFor, h hp]
    simp [receiptValuesFor]
  all_goals
    rw [hget _ (by simp [receiptKeys])]
    simp [receiptValuesFor, expectedReceiptFor, Json.pyEq_str, Json.truthy, hl]

theorem receipt_authorizes : Authorizes platform 1 receipt expectedReceipt :=
  receiptFor_authorizes  fun _ => rfl

/-- A begin on key `k`, without an integrity key. -/
def beginArgs : BeginArgs := ⟨"k", .finite 1000, "worker", .str "d", "f", none⟩

theorem sha256_injective : Function.Injective platform.sha256 := List.cons_injective

end Adn.Sample
