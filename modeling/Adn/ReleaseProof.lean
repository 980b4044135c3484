import Adn.Lib.Hex
import Adn.Lib.Js
import Adn.ReleaseSchema
import Adn.RuntimeConfig
/-!
# Release proofs, as the bridge makes them

Canonical JSON with its errors, the manifest's schema, and the operator's signature.
-/

open Lib

namespace Adn

/-! ## Canonical JSON -/

namespace ReleaseProof

/-- `Array.from(key, (char) => char.codePointAt(0) ?? 0)` -/
def keyPoints (key : Str) : List ℕ := (Js.arrayFrom key).map fun char => (Js.codePointAtZero char).getD 0

/-- The loop of `compareJsonKeys`: the first difference that is not zero. -/
def firstDelta : List ℕ → List ℕ → Option ℤ
  | l :: ls, r :: rs =>
    let delta := (l : ℤ) - r
    if delta ≠ 0 then some delta else firstDelta ls rs
  | _, _ => none

/-- `compareJsonKeys(left, right)` -/
def compareJsonKeys (left right : Str) : ℤ :=
  let leftPoints := keyPoints left
  let rightPoints := keyPoints right
  (firstDelta leftPoints rightPoints).getD (leftPoints.length - rightPoints.length)

-- two UTF-16 units against one: `<` of JavaScript has these the other way round
example : compareJsonKeys "ｱ" "😀" < 0 := by decide

/-- Where `sort` leaves an entry before another. -/
def entryLe {α : Type} (f g : Str × α) : Prop := compareJsonKeys f.1 g.1 ≤ 0

instance {α : Type} : DecidableRel (entryLe (α := α)) := fun f g => inferInstanceAs (Decidable (compareJsonKeys f.1 g.1 ≤ 0))

/-- `entries.sort(([left], [right]) => compareJsonKeys(left, right))` -/
def sortEntries {α : Type} (fs : List (Str × α)) : List (Str × α) := fs.insertionSort entryLe

/-- An entry's text, where its value has one. -/
def entryText (f : Str × Except Str Str) : Except Str Str := f.2.map fun text => Js.propText (f.1, text)

mutual

/-- `canonicalJson(value)` -/
def canonicalJson : Js → Except Str Str
  | .undefined => .error "canonical JSON cannot encode undefined"
  | .null => .ok "null"
  | .bool b => .ok (if b then "true" else "false")
  | .num x =>
    match x with
    | .posInf | .negInf | .nan => .error "canonical JSON cannot encode non-finite numbers"
    | x => .ok (Js.numberJson x)
  | .str s => .ok (Text.quoteUnicode s)
  | .arr xs => (canonicalList xs).map fun ts => openBracket :: joinComma ts ++ [closeBracket]
  | .obj fs => ((sortEntries (canonicalProps fs)).mapM entryText).map fun ts => openBrace :: joinComma ts ++ [closeBrace]

def canonicalList : List Js → Except Str (List Str)
  | [] => .ok []
  | x :: xs => do return (← canonicalJson x) :: (← canonicalList xs)

/-- A property that is `undefined` is left out. -/
def canonicalProps : Props → List (Str × Except Str Str)
  | [] => []
  | (_, .undefined) :: fs => canonicalProps fs
  | (k, v) :: fs => (k, canonicalJson v) :: canonicalProps fs

end

/-! ## The schema -/

def schemaError (text : Str) : Str := Str.ofString "release manifest schema " ++ text

/-- A required field that is not there. -/
def isMissing (v : Js) : Bool := v.isNullish || v.isText []

def asciiDigit (c : ℕ) : Bool := 0x30 ≤ c && c ≤ 0x39

/-- `requireString(value, label)` -/
def requireString (value : Js) (label : Str) : Except Str Str :=
  match value with
  | .str s => if s = [] then .error (schemaError (label ++ Str.ofString " must be a non-empty string")) else .ok s
  | _ => .error (schemaError (label ++ Str.ofString " must be a non-empty string"))

/-- `Number.isInteger(value)`, and the number. -/
def integer? : Js → Option ℚ
  | .num (.finite q) => if q.den = 1 then some q else none
  | .num .negZero => some 0
  | _ => none

/-- `xs.join(", ")` -/
def joined : List Str → Str
  | [] => []
  | [t] => t
  | t :: ts => t ++ Str.ofString ", " ++ joined ts

/-- One field against its rule. -/
def checkRule (key : Str) (value : Js) (rule : Rule) : Except Str Unit := do
  match rule.const with
  | some c => if !value.isText c then throw (schemaError (key ++ Str.ofString " must equal " ++ c))
  | none => pure ()
  match rule.enum with
  | some cs =>
    if !cs.any value.isText then throw (schemaError (key ++ Str.ofString " must be one of " ++ joined cs))
  | none => pure ()
  match rule.type with
  | .string =>
    let s ← requireString value key
    if s.length < rule.minLength then
      throw (schemaError (key ++ Str.ofString " is shorter than " ++ Numerals.natText rule.minLength))
    match rule.pattern with
    | some p => if !p.test asciiDigit (Text.codeUnits s) then throw (schemaError (key ++ Str.ofString " does not match " ++ p.text))
    | none => pure ()
  | .integer =>
    match integer? value with
    | none => throw (schemaError (key ++ Str.ofString " must be an integer"))
    | some n =>
      match rule.minimum with
      | some m => if n < m then throw (schemaError (key ++ Str.ofString " must be >= " ++ Numerals.intText m))
      | none => pure ()

/-- One entry of the manifest. -/
def checkEntry (schema : Schema) (key : Str) (value : Js) : Except Str Unit :=
  match schema.rule? key, value with
  | none, _ => .ok ()
  | some _, .undefined => .ok ()
  | some rule, value => checkRule key value rule

/-- `validateReleaseManifestAgainstSchema`, with the schema that is read. -/
def validateAgainst (schema : Schema) (manifest : Props) : Except Str Unit :=
  match schema.required.find? fun key => isMissing (manifest.get key) with
  | some key => .error (schemaError (Str.ofString "missing required field: " ++ key))
  | none =>
    match manifest.find? fun f => (schema.rule? f.1).isNone with
    | some f => .error (schemaError (Str.ofString "additional property not allowed: " ++ f.1))
    | none => manifest.forM fun f => checkEntry schema f.1 f.2

def validateReleaseManifestAgainstSchema (manifest : Props) : Except Str Unit :=
  validateAgainst .releaseProof manifest

/-- A manifest that lacks a required field is refused. -/
theorem validate_missing {schema : Schema} {manifest : Props} {key : Str} (hk : key ∈ schema.required)
    (hm : isMissing (manifest.get key) = true) : ∃ message, validateAgainst schema manifest = .error message := by
  obtain ⟨first, hf⟩ := Option.isSome_iff_exists.mp
    (List.find?_isSome.mpr ⟨key, hk, hm⟩ : (schema.required.find? fun k => isMissing (manifest.get k)).isSome = true)
  exact ⟨_, by rw [validateAgainst, hf]⟩

/-! ## The operator's key -/

/-- SHA-256 and Ed25519. -/
structure Keys where
  sha256 : List UInt8 → List UInt8
  /-- The public key of a seed. -/
  publicKey : List UInt8 → List UInt8
  /-- `sign(null, message, key)`, by the key's seed -/
  sign : List UInt8 → List UInt8 → List UInt8

namespace Keys

variable (k : Keys)

def sha256Hex (s : Str) : Str := Hex.hexLower (k.sha256 (Text.utf8 s))

def digestCanonicalJson (v : Js) : Except Str Str := (canonicalJson v).map k.sha256Hex

/-- `privateKeyFromSeedHex`: the seed -/
def privateKeyFromSeedHex (seedHex : Str) : Except Str (List UInt8) :=
  match isLowerHex 64 seedHex, Hex.fromHex seedHex with
  | true, some seed => .ok seed
  | _, _ => .error "ADN_RELEASE_OPERATOR_PRIVATE_KEY_HEX must be a 32-byte Ed25519 seed hex string"

def deriveEd25519PublicKeyHexFromSeed (seedHex : Str) : Except Str Str :=
  (privateKeyFromSeedHex seedHex).map fun seed => Hex.hexLower (k.publicKey seed)

def signReleaseManifestWithSeed (manifestBody : Props) (seedHex : Str) : Except Str Props := do
  let normalizedSeed := lower (withoutHexPrefix (Js.trim seedHex))
  let seed ← privateKeyFromSeedHex normalizedSeed
  let signedBody := Text.utf8 (← canonicalJson (.obj manifestBody))
  return Props.ofList [("algorithm", .str "ed25519"),
    ("public_key_hex", .str (← k.deriveEd25519PublicKeyHexFromSeed normalizedSeed)),
    ("signature_hex", .str (Hex.hexLower (k.sign signedBody seed)))]

end Keys

end ReleaseProof

end Adn
