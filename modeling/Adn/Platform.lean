import Adn.Lib.JsonText
import Adn.Lib.Hex
import Mathlib.Order.WithBot
/-!
# What the Python program runs on

Exceptions, clocks, number comparisons and the libraries the program calls.
The cryptographic primitives and the parsing of ISO timestamps are parameters
(`Platform`): theorems hold for every choice, and name what they assume of it.
Process configuration is passed as `Env`. A clock reading is an argument of the
function that makes it.
-/

open Lib

namespace Adn

/-! ## Exceptions -/

/-- An exception, as far as `except` clauses and messages tell them apart. The
texts of the errors Python itself raises are `Platform.errorText`. -/
inductive PyErr where
  | runtimeError (message : Str)
  | valueError (message : Str)
  | typeError
  | attributeError
  | overflowError
  | unicodeError
  | sqliteError
  | handlerError (message : Str)
deriving DecidableEq

theorem bind_ok {ε α β : Type} {x : Except ε α} {f : α → Except ε β} {b : β} :
    (x >>= f) = .ok b ↔ ∃ a, x = .ok a ∧ f a = .ok b := by
  cases x with
  | error e => simp [bind, Except.bind]
  | ok a => simp [bind, Except.bind]

theorem pure_ok {ε α : Type} {a b : α} : (pure a : Except ε α) = .ok b ↔ a = b := by
  simp [pure, Except.pure]

theorem ok_bind {ε α β : Type} (a : α) (f : α → Except ε β) : (Except.ok a >>= f) = f a := rfl

theorem error_bind {ε α β : Type} (e : ε) (f : α → Except ε β) : (Except.error e >>= f) = .error e := rfl

/-- `if not ok: raise RuntimeError(message)` -/
def require (ok : Bool) (message : Str) : Except PyErr Unit :=
  if ok then .ok () else .error (.runtimeError message)

theorem require_ok {ok : Bool} {message : Str} {u : Unit} : require ok message = .ok u ↔ ok = true := by
  unfold require
  split <;> simp_all

theorem require_error {ok : Bool} {message : Str} {e : PyErr} (h : require ok message = .error e) :
    e = .runtimeError message := by
  unfold require at h
  split at h <;> cases h
  rfl

/-! ## Time -/

/-- A parsed timestamp: wall clock seconds since the epoch, and the UTC offset
where it has one. -/
structure DateTime where
  wall : ℚ
  utcoffset : Option ℚ
deriving DecidableEq

/-- The instant, a timestamp without an offset being UTC. -/
def DateTime.timestamp (d : DateTime) : ℚ := d.wall - d.utcoffset.getD 0

/-! ## Libraries and configuration -/

structure Platform where
  sha256 : List UInt8 → List UInt8
  /-- `hmac.new(key, message, sha256).digest()` -/
  hmacSha256 : List UInt8 → List UInt8 → List UInt8
  /-- Ed25519: `from_private_bytes(key).public_key()` -/
  publicKey : List UInt8 → List UInt8
  sign : List UInt8 → List UInt8 → List UInt8
  /-- `verify key message signature` -/
  verify : List UInt8 → List UInt8 → List UInt8 → Bool
  /-- `datetime.fromisoformat`; `none` stands for its `ValueError`. -/
  fromisoformat : Str → Option DateTime
  /-- `datetime.fromtimestamp(t, utc).isoformat()` -/
  isoformat : ℚ → Str
  /-- `str(v)` of a value other than a string -/
  reprJson : Json → Str
  errorText : PyErr → Str
  /-- How SQLite writes a float into a `TEXT` column. -/
  realText : PyFloat → Str

/-- Environment variables. -/
structure Env where
  t3Mock : Option Str
  runtimeMode : Option Str
  did : Str
  t3nDid : Str
  t3nApiKey : Str
  terminal3ApiKey : Str
deriving DecidableEq

/-- `str(v)` -/
def Platform.str (p : Platform) : Json → Str
  | .str s => s
  | v => p.reprJson v

/-- `str(e)` -/
def Platform.errStr (p : Platform) : PyErr → Str
  | .runtimeError m => m
  | .valueError m => m
  | .handlerError m => m
  | e => p.errorText e

/-! ## Strings -/

/-- `str.isspace` of one character -/
def isSpace (u : UInt16) : Bool :=
  (0x09 ≤ u.toNat && u.toNat ≤ 0x0D) || (0x1C ≤ u.toNat && u.toNat ≤ 0x20) || u = 0x85 || u = 0xA0 || u = 0x1680 ||
    (0x2000 ≤ u.toNat && u.toNat ≤ 0x200A) || u = 0x2028 || u = 0x2029 || u = 0x202F || u = 0x205F || u = 0x3000

/-- `str.strip` -/
def strip (s : Str) : Str := (s.dropWhile isSpace).rdropWhile isSpace

/-- `str.lower` on ASCII letters. Lower-casing other characters never yields one
of the words the program compares with. -/
def lower (s : Str) : Str := s.map fun u => if 0x41 ≤ u.toNat && u.toNat ≤ 0x5A then u + 0x20 else u

/-! ## Numbers -/

/-- A time that a float can hold: a number, or one of the infinities. -/
abbrev Time := WithBot (WithTop ℚ)

def Time.ofRat (q : ℚ) : Time := ((q : WithTop ℚ) : Time)

instance : Coe ℚ Time := ⟨Time.ofRat⟩

/-- The time a float is; `NaN` is none. -/
def time? : PyFloat → Option Time
  | .finite q => some q
  | .negZero => some (0 : ℚ)
  | .posInf => some ((⊤ : WithTop ℚ) : Time)
  | .negInf => some ⊥
  | .nan => none

/-- The float a time is. -/
def Time.toFloat : Time → PyFloat
  | ⊥ => .negInf
  | some ⊤ => .posInf
  | some (some q) => .finite q

/-- `now > v`; comparisons with `NaN` are false. -/
def isPast (now : ℚ) (v : Json) : Except PyErr Bool :=
  match v.number? with
  | none => .error .typeError
  | some x =>
    match time? x with
    | none => .ok false
    | some t => .ok (t < (now : Time))

theorem isPast_int (now : ℚ) (n : ℤ) : isPast now (.int n) = .ok (decide ((n : ℚ) < now)) := by
  simp [isPast, Json.number?, time?, Time.ofRat]

/-- `v + seconds` -/
def addSeconds (v : Json) (seconds : ℤ) : Except PyErr Json :=
  match v with
  | .bool b => .ok (.int ((if b then 1 else 0) + seconds))
  | .int n => .ok (.int (n + seconds))
  | .float (.finite q) => .ok (.float (.finite (q + seconds)))
  | .float .negZero => .ok (.float (.finite seconds))
  | .float x => .ok (.float x)
  | _ => .error .typeError

/-- From here on an `int` does not fit a float. -/
def floatLimit : ℕ := 2 ^ 1024 - 2 ^ 970

/-- `float(v)` of a number -/
def toFloat (v : Json) : Except PyErr PyFloat :=
  match v with
  | .float x => .ok x
  | .int n => if n.natAbs < floatLimit then .ok (.finite n) else .error .overflowError
  | .bool b => .ok (.finite (if b then 1 else 0))
  | _ => .error .typeError

/-- `min(a, b)` -/
def pyMin (a b : PyFloat) : PyFloat :=
  match time? a, time? b with
  | some s, some t => if t < s then b else a
  | _, _ => a

/-! ## JSON values -/

/-- `hash(v)` does not raise. -/
def hashable : Json → Bool
  | .arr _ => false
  | .obj _ => false
  | _ => true

/-- `v.get` exists. -/
def asDict : Json → Except PyErr Dict
  | .obj fs => .ok fs
  | _ => .error .attributeError

theorem asDict_ok {v : Json} {d : Dict} : asDict v = .ok d ↔ v = .obj d := by
  cases v <;> simp [asDict]

/-- `v or {}` -/
def orEmpty (v : Json) : Json := v.orElse (.obj [])

@[simp]
theorem orEmpty_obj (fs : Dict) : orEmpty (.obj fs) = .obj fs := by
  cases fs <;> rfl

/-! ## Hashes -/

/-- `_canonical` -/
def canonical (v : Json) : Str := v.dumps

/-- `_sha256` -/
def Platform.sha256Hex (p : Platform) (s : Str) : Str := Hex.hexLower (p.sha256 (Text.utf8 s))

/-- The hash of a document, as the program computes it everywhere. -/
def Platform.hashJson (p : Platform) (v : Json) : Str := p.sha256Hex (canonical v)

theorem Platform.hashJson_congr (p : Platform) {v w : Json} (h : Json.Same v w) : p.hashJson v = p.hashJson w := by
  rw [hashJson, hashJson, canonical, canonical, Json.dumps_congr h]

/-- If SHA-256 has no collision, the hash of a document determines it. -/
theorem Platform.hashJson_inj (p : Platform) (hc : Function.Injective p.sha256) {v w : Json}
    (h : p.hashJson v = p.hashJson w) : Json.Same v w :=
  Json.utf8_dumps_inj (hc (Hex.hexLower_inj h))

theorem Platform.hashJson_ne (p : Platform) (hn : ∀ bs, p.sha256 bs ≠ []) (v : Json) : p.hashJson v ≠ [] :=
  Hex.hexLower_ne (hn _)

/-- `sha256("terminal3\x00" + key)[:12]` -/
def Platform.fingerprint (p : Platform) (key : List UInt8) : Str :=
  (Hex.hexLower (p.sha256 ([0x74, 0x65, 0x72, 0x6D, 0x69, 0x6E, 0x61, 0x6C, 0x33, 0x00] ++ key))).take 12

/-- `key_fingerprint`; `none` stands for the `ValueError` of a key that is not hexadecimal. -/
def Platform.keyFingerprint (p : Platform) (rawKeyHex : Str) : Option Str :=
  (Hex.fromHex rawKeyHex).map p.fingerprint

end Adn
