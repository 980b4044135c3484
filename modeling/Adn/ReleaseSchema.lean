import Adn.Lib.Numerals
/-!
# The schema of a release manifest

What the two validators read of `schemas/adn-release-proof-v1.schema.json`. They
differ in what a digit is, so that a pattern is tested with one.
-/

open Lib

namespace Adn

/-- A pattern of the schema. -/
inductive Pattern where
  /-- `^\d+\.\d+\.\d+$` -/
  | version
  /-- `^[0-9a-f]{n}$` -/
  | hex (n : ℕ)
deriving DecidableEq

def Pattern.text : Pattern → Str
  | .version => "^\\d+\\.\\d+\\.\\d+$"
  | .hex n => Str.ofString "^[0-9a-f]\x7b" ++ Numerals.natText n ++ Str.ofString "\x7d$"

/-- `[0-9a-f]` -/
def isLowerHexDigit (c : ℕ) : Bool := (0x30 ≤ c && c ≤ 0x39) || (0x61 ≤ c && c ≤ 0x66)

/-- The whole text, by its characters, is of the pattern. -/
def Pattern.test (isDigit : ℕ → Bool) : Pattern → List ℕ → Bool
  | .version, s =>
    match s.splitOn 0x2E with
    | [a, b, c] => [a, b, c].all fun part => part ≠ [] && part.all isDigit
    | _ => false
  | .hex n, s => s.length = n && s.all isLowerHexDigit

inductive FieldType where
  | string
  | integer
deriving DecidableEq

/-- The rule of one property. -/
structure Rule where
  type : FieldType
  const : Option Str := none
  enum : Option (List Str) := none
  minLength : ℕ := 0
  minimum : Option ℤ := none
  pattern : Option Pattern := none

structure Schema where
  required : List Str
  properties : List (Str × Rule)

namespace Schema

def rule? (s : Schema) (key : Str) : Option Rule := s.properties.lookup key

/-- `adn-release-proof-v1` -/
def releaseProof : Schema where
  required := ["schema_version", "contract_tail", "contract_version", "build_commit", "rustc_version", "trusted_issuer",
    "tenant_did", "build_config_id", "local_wasm_sha256", "registration_status", "registered_at", "remote_contract_id",
    "raw_registration_response_digest", "raw_registration_response_path", "first_invocation_digest",
    "first_invocation_path", "t3n_evidence_digest", "t3n_evidence_path", "operator_public_key", "manifest_digest"]
  properties := [
    ("schema_version", { type := .string, const := some "adn-release-proof-v1" }),
    ("contract_tail", { type := .string }),
    ("contract_version", { type := .string, pattern := some .version }),
    ("build_commit", { type := .string, pattern := some (.hex 40) }),
    ("rustc_version", { type := .string }),
    ("trusted_issuer", { type := .string }),
    ("tenant_did", { type := .string }),
    ("build_config_id", { type := .string }),
    ("local_wasm_sha256", { type := .string, pattern := some (.hex 64) }),
    ("registration_status", { type := .string, enum := some ["registered", "pending", "failed"] }),
    ("registered_at", { type := .string }),
    ("remote_contract_id", { type := .integer }),
    ("raw_registration_response_digest", { type := .string, pattern := some (.hex 64) }),
    ("raw_registration_response_path", { type := .string }),
    ("first_invocation_digest", { type := .string, pattern := some (.hex 64) }),
    ("first_invocation_path", { type := .string }),
    ("t3n_evidence_digest", { type := .string, pattern := some (.hex 64) }),
    ("t3n_evidence_path", { type := .string }),
    ("operator_public_key", { type := .string }),
    ("manifest_digest", { type := .string, pattern := some (.hex 64) })]

end Schema

end Adn
