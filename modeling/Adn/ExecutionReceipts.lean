import Adn.Sample
import Adn.Lib.JsonWriting
/-!
# Execution receipts

`build_receipt` seals a decision with the hash of its other fields, `save_receipt` writes it
unless a secret shows in the text, and `verify_receipt` recomputes the hash.

- `saved_receipt_iff`: of all the files there can be, one that verifies and carries a receipt's
  hash is that receipt, up to the order of keys; and a saved one does.
- `saved_without_secrets`: no string of a saved receipt has one of the patterns in it.
-/

open Lib Lib.JsonReader

namespace Adn

/-! ## Building, saving, verifying -/

/-- `build_receipt`; `uuidHex` is `uuid.uuid4().hex` -/
def receiptContent (uuidHex : Str) (decision : Dict) : Dict := Dict.ofList [
  ("receipt_id", .str (Str.ofString "effv3-receipt-" ++ uuidHex.take 12)),
  ("decision", decision.get "decision"),
  ("ts", decision.get "ts"),
  ("action", decision.get "action"),
  ("agent_fingerprint", decision.get "agent_fingerprint"),
  ("denial_code", decision.get "denial_code"),
  ("nonce_hash", decision.get "nonce_hash"),
  ("proof_hash", decision.get "proof_hash"),
  ("policy_version", decision.get "policy_version"),
  ("spec_version", .str "1.0"),
  ("raw_secret_included", .bool false),
  ("authority", .str "UNTRUSTED_ADVISORY")]

def buildReceipt (p : Platform) (uuidHex : Str) (decision : Dict) : Dict :=
  (receiptContent uuidHex decision).set "receipt_hash" (.str (p.hashJson (.obj (receiptContent uuidHex decision))))

def secretPatterns : List Str :=
  ["TERMINAL3_API_KEY", "T3N_API_KEY", "ILMUCHAT_API_KEY", "sk-", "sk-or-", "0xdd99"].map Str.ofString

/-- `env_key[:8]` -/
def keyPrefix (key : Str) : Str := ((Text.codePoints key).take 8).flatMap Str.ofCodePoint

/-- `_scan_for_secrets` -/
def scanForSecrets (env : Env) (data : Str) : Bool :=
  secretPatterns.any (fun pattern => decide (pattern <:+: data)) ||
    [env.t3nApiKey, env.terminal3ApiKey].any fun key =>
      decide (8 < (Text.codePoints key).length) && decide (keyPrefix key <:+: data)

inductive SaveError where
  | keyError
  /-- `SECRET_EXPOSURE_DETECTED: save aborted` -/
  | secretExposure
deriving DecidableEq

/-- `save_receipt`: the file's name and what is written to it -/
def saveReceipt (p : Platform) (env : Env) (receipt : Dict) : Except SaveError (Str × Str) :=
  match receipt.get? "receipt_id" with
  | none => .error .keyError
  | some id =>
    let serialized := write Text.quoteAscii (indented 2) 0 (.obj receipt)
    if scanForSecrets env serialized then .error .secretExposure else .ok (p.str id ++ Str.ofString ".json", serialized)

/-- The fields that are hashed. -/
def unsealed (receipt : Dict) : Dict := receipt.filter (·.1 ≠ Str.ofString "receipt_hash")

/-- `verify_receipt`: the verdict, and the receipt as it leaves it -/
def verifyReceipt (p : Platform) (receipt : Dict) : Bool × Dict :=
  match receipt.get? "receipt_hash" with
  | none => (false, receipt)
  | some storedHash => (storedHash.pyEq (.str (p.hashJson (.obj (unsealed receipt)))), receipt.set "receipt_hash" storedHash)

/-! ## Objects up to the order of their keys -/

section
variable {fs gs : Dict}

/-- The fields with sorted values. -/
def sortedValues (fs : Dict) : Dict := fs.map fun f => (f.1, f.2.normalize)

theorem same_obj_iff (hg : (gs.map (·.1)).Nodup) :
    Json.Same (.obj fs) (.obj gs) ↔ (sortedValues fs).Perm (sortedValues gs) := by
  have hnames : ∀ hs : Dict, (sortedValues hs).map (·.1) = hs.map (·.1) := by
    intro hs
    rw [sortedValues, List.map_map]
    rfl
  have hsort : ∀ hs : Dict, Json.normalize (.obj hs) = .obj (sortFields (sortedValues hs)) := by
    intro hs
    rw [Json.normalize_obj, sortedValues, sortFields_map]
  rw [Json.Same, hsort, hsort, Json.obj.injEq]
  constructor
  · intro h
    have hperm : (sortFields (sortedValues gs)).Perm (sortedValues gs) := List.perm_insertionSort fieldLe _
    rw [← h] at hperm
    exact (List.perm_insertionSort fieldLe _).symm.trans hperm
  · intro h
    exact sortFields_perm h (by rwa [hnames])

theorem filter_other {k : Str} (h : k ∉ fs.map (·.1)) : fs.filter (·.1 ≠ k) = fs := by
  rw [List.filter_eq_self]
  intro f hf
  refine decide_eq_true ?_
  rintro rfl
  exact h (List.mem_map_of_mem hf)

/-- A field can be taken out to the end. -/
theorem perm_filter_field (hf : (fs.map (·.1)).Nodup) {k : Str} {v : Json} (h : fs.get? k = some v) :
    fs.Perm (fs.filter (·.1 ≠ k) ++ [(k, v)]) := by
  induction fs with
  | nil => cases h
  | cons f fs ih =>
    obtain ⟨j, w⟩ := f
    rw [List.map_cons, List.nodup_cons] at hf
    rw [Dict.get?_cons] at h
    by_cases hj : j = k
    · subst hj
      rw [if_pos rfl] at h
      obtain rfl := Option.some.inj h
      rw [List.filter_cons_of_neg (by simp), filter_other hf.1]
      exact @List.perm_append_comm _ [(j, w)] fs
    · rw [if_neg hj] at h
      rw [List.filter_cons_of_pos (by simpa using hj), List.cons_append]
      exact (ih hf.2 h).cons _

theorem nodup_filter (hf : (fs.map (·.1)).Nodup) (q : Str × Json → Bool) : ((fs.filter q).map (·.1)).Nodup :=
  (List.filter_sublist.map _).nodup hf

theorem sortedValues_filter (k : Str) : sortedValues (fs.filter (·.1 ≠ k)) = (sortedValues fs).filter (·.1 ≠ k) := by
  rw [sortedValues, sortedValues, List.filter_map]
  rfl

/-- Two objects with one value under a key are the same if the rest is. -/
theorem same_of_filter (hf : (fs.map (·.1)).Nodup) (hg : (gs.map (·.1)).Nodup) {k : Str} {v : Json}
    (hfk : fs.get? k = some v) (hgk : gs.get? k = some v)
    (h : Json.Same (.obj (fs.filter (·.1 ≠ k))) (.obj (gs.filter (·.1 ≠ k)))) : Json.Same (.obj fs) (.obj gs) := by
  rw [same_obj_iff (nodup_filter hg _)] at h
  rw [same_obj_iff hg]
  have hmap : ∀ {hs : Dict}, (hs.map (·.1)).Nodup → hs.get? k = some v →
      (sortedValues hs).Perm (sortedValues (hs.filter (·.1 ≠ k)) ++ [(k, v.normalize)]) := by
    intro hs hn hk
    have hperm := (perm_filter_field hn hk).map fun f : Str × Json => (f.1, f.2.normalize)
    rwa [List.map_append] at hperm
  exact (hmap hf hfk).trans ((h.append_right _).trans (hmap hg hgk).symm)

theorem same_filter (hg : (gs.map (·.1)).Nodup) (k : Str) (h : Json.Same (.obj fs) (.obj gs)) :
    Json.Same (.obj (fs.filter (·.1 ≠ k))) (.obj (gs.filter (·.1 ≠ k))) := by
  rw [same_obj_iff hg] at h
  rw [same_obj_iff (nodup_filter hg _), sortedValues_filter, sortedValues_filter]
  exact h.filter _

end

/-! ## What verifies -/

section
variable {p : Platform} {receipt : Dict}

theorem verifyReceipt_iff : (verifyReceipt p receipt).1 = true ↔
    receipt.get? "receipt_hash" = some (.str (p.hashJson (.obj (unsealed receipt)))) := by
  unfold verifyReceipt
  cases receipt.get? "receipt_hash" with
  | none => simp
  | some storedHash => simp [Json.pyEq_str]

theorem names_receiptContent (uuidHex : Str) (decision : Dict) : (receiptContent uuidHex decision).map (·.1) =
    (["receipt_id", "decision", "ts", "action", "agent_fingerprint", "denial_code", "nonce_hash", "proof_hash",
      "policy_version", "spec_version", "raw_secret_included", "authority"] : List String).map Str.ofString := by
  simp only [receiptContent, Dict.ofList, List.map_cons, List.map_nil]

theorem nodup_buildReceipt (uuidHex : Str) (decision : Dict) : ((buildReceipt p uuidHex decision).map (·.1)).Nodup := by
  refine set_names ?_ _ _
  rw [names_receiptContent]
  decide +kernel

/-- The hash covers all that the receipt says. -/
theorem unsealed_buildReceipt (uuidHex : Str) (decision : Dict) :
    unsealed (buildReceipt p uuidHex decision) = receiptContent uuidHex decision := by
  have hno : Str.ofString "receipt_hash" ∉ (receiptContent uuidHex decision).map (·.1) := by
    rw [names_receiptContent]
    decide +kernel
  rw [buildReceipt, set_new hno, unsealed, List.filter_append, filter_other hno]
  simp

theorem hash_buildReceipt (uuidHex : Str) (decision : Dict) : (buildReceipt p uuidHex decision).get? "receipt_hash" =
    some (.str (p.hashJson (.obj (receiptContent uuidHex decision)))) := Dict.get?_set_self _ _ _

theorem buildReceipt_verifies (uuidHex : Str) (decision : Dict) : (verifyReceipt p (buildReceipt p uuidHex decision)).1 = true := by
  rw [verifyReceipt_iff, unsealed_buildReceipt]
  exact hash_buildReceipt uuidHex decision

/-- What verifies under the hash of another receipt that verifies is that receipt. -/
theorem same_of_hash (hc : Function.Injective p.sha256) {r r' : Dict} (hr : (r.map (·.1)).Nodup) (hr' : (r'.map (·.1)).Nodup)
    (h : (verifyReceipt p r).1 = true) (h' : (verifyReceipt p r').1 = true)
    (hhash : r'.get? "receipt_hash" = r.get? "receipt_hash") : Json.Same (.obj r') (.obj r) := by
  rw [verifyReceipt_iff] at h h'
  rw [h, h', Option.some.injEq, Json.str.injEq] at hhash
  exact same_of_filter hr' hr (h'.trans (by rw [hhash])) h (p.hashJson_inj hc hhash)

/-- The order of keys does not count. -/
theorem verifies_of_same {r r' : Dict} (hr : (r.map (·.1)).Nodup)
    (h : (verifyReceipt p r).1 = true) (hsame : Json.Same (.obj r') (.obj r)) :
    (verifyReceipt p r').1 = true ∧ r'.get? "receipt_hash" = r.get? "receipt_hash" := by
  rw [verifyReceipt_iff] at h ⊢
  have hget := Json.Same.get hsame "receipt_hash"
  rw [Dict.get_of_get? h] at hget
  have htext : r'.get "receipt_hash" = .str (p.hashJson (.obj (unsealed r))) := by
    cases hv : r'.get "receipt_hash" with
    | str s => rw [hv] at hget; exact hget
    | arr xs => rw [hv, Json.Same, Json.normalize_arr] at hget; cases hget
    | obj fs => rw [hv, Json.Same, Json.normalize_obj] at hget; cases hget
    | _ => rw [hv] at hget; cases hget
  have hstored := Dict.get?_of_get htext (by simp)
  have hbody := p.hashJson_congr (same_filter hr (Str.ofString "receipt_hash") hsame)
  exact ⟨hstored.trans (by rw [unsealed, unsealed, hbody]), hstored.trans h.symm⟩

/-! ## Files -/

theorem saveReceipt_ok {env : Env} {name text : Str} (h : saveReceipt p env receipt = .ok (name, text)) :
    text = write Text.quoteAscii (indented 2) 0 (.obj receipt) ∧ scanForSecrets env text = false := by
  unfold saveReceipt at h
  cases hid : receipt.get? "receipt_id" with
  | none =>
    rw [hid] at h
    cases h
  | some id =>
    rw [hid] at h
    dsimp only at h
    split_ifs at h with hscan
    cases h
    exact ⟨rfl, Bool.eq_false_iff.2 hscan⟩

theorem readable_buildReceipt {i : Interpreter} {uuidHex : Str} {decision : Dict}
    (h : ∀ k, Readable i (i.depth - 1) (decision.get k)) : Readable i i.depth (.obj (buildReceipt p uuidHex decision)) := by
  obtain ⟨depth, hdepth⟩ := Nat.exists_eq_add_one_of_ne_zero (Nat.pos_iff_ne_zero.1 i.depth_pos)
  have hcontent : ∀ f ∈ receiptContent uuidHex decision, Readable i (i.depth - 1) f.2 := by
    simp only [receiptContent, Dict.ofList, List.map_cons, List.map_nil, List.forall_mem_cons, h, Readable.str,
      Readable.bool, true_and]
    simp
  have hset : ∀ f ∈ buildReceipt p uuidHex decision, Readable i (i.depth - 1) f.2 := by
    intro f hf
    rcases List.mem_append.1 hf with hf | hf
    · exact hcontent f (List.mem_of_mem_filter hf)
    · rw [List.mem_singleton.1 hf]
      exact .str _
  rw [hdepth] at hset ⊢
  exact .obj (nodup_buildReceipt uuidHex decision) hset

/-- A receipt that was saved is read back as it was, and of all the texts that files can have, those that verify and carry
its hash hold the receipt, up to the order of keys. -/
theorem saved_receipt_iff (hc : Function.Injective p.sha256) {i : Interpreter} {env : Env} {uuidHex name text : Str}
    {decision : Dict} (hread : ∀ k, Readable i (i.depth - 1) (decision.get k))
    (hsave : saveReceipt p env (buildReceipt p uuidHex decision) = .ok (name, text)) :
    loads i text = .ok (.obj (buildReceipt p uuidHex decision)) ∧
      ∀ text' receipt', loads i text' = .ok (.obj receipt') →
        ((verifyReceipt p receipt').1 = true ∧
            Dict.get? receipt' "receipt_hash" = (buildReceipt p uuidHex decision).get? "receipt_hash" ↔
          Json.Same (.obj receipt') (.obj (buildReceipt p uuidHex decision))) := by
  have hbuilt := buildReceipt_verifies (p := p) uuidHex decision
  have hnames := nodup_buildReceipt (p := p) uuidHex decision
  refine ⟨?_, ?_⟩
  · rw [(saveReceipt_ok hsave).1]
    exact loads_write quotes_ascii _ (readable_buildReceipt hread)
  · intro text' receipt' hloads
    obtain ⟨hnames', -⟩ := (loads_distinct hloads).fields
    constructor
    · rintro ⟨hverify, hhash⟩
      exact same_of_hash hc hnames hnames' hbuilt hverify hhash
    · exact verifies_of_same hnames hbuilt

end

/-! ## Secrets -/

/-- A string is somewhere in a document: a value, or a key. -/
inductive Occurs (s : Str) : Json → Prop where
  | str : Occurs s (.str s)
  | arr {xs : List Json} {x : Json} (hx : x ∈ xs) (h : Occurs s x) : Occurs s (.arr xs)
  | key {fs : Dict} {f : Str × Json} (hf : f ∈ fs) (hs : f.1 = s) : Occurs s (.obj fs)
  | obj {fs : Dict} {f : Str × Json} (hf : f ∈ fs) (h : Occurs s f.2) : Occurs s (.obj fs)

/-- Characters that `json.dumps` writes as they are. -/
def Verbatim (s : Str) : Prop := ∀ u ∈ s, Text.isPrintable u = true ∧ u ≠ Text.quotationMark ∧ u ≠ Text.backslash

instance (s : Str) : Decidable (Verbatim s) := List.decidableBAll _ s

section
variable {s pattern : Str}

theorem escapeUnit_verbatim {u : UInt16} (h : Text.isPrintable u = true ∧ u ≠ Text.quotationMark ∧ u ≠ Text.backslash) :
    Text.escapeUnit Text.isPrintable u = [u] := by
  have hshort : Text.shortEscape? u = none := by
    obtain ⟨hp, hq, hb⟩ := h
    have hlow : 0x20 ≤ u.toNat := by
      rw [Text.isPrintable, Bool.and_eq_true] at hp
      exact of_decide_eq_true hp.1
    have hcontrol : ∀ v : UInt16, v.toNat < 0x20 → u ≠ v := by
      rintro v hv rfl
      omega
    rw [Text.shortEscape?, if_neg (hcontrol _ (by decide)), if_neg (hcontrol _ (by decide)), if_neg (hcontrol _ (by decide)),
      if_neg (hcontrol _ (by decide)), if_neg (hcontrol _ (by decide)), if_neg (by exact hq), if_neg (by exact hb)]
  rw [Text.escapeUnit, hshort]
  exact if_pos h.1

theorem asciiBody_verbatim (h : Verbatim s) : Text.asciiBody s = s := by
  induction s with
  | nil => rfl
  | cons u s ih =>
    obtain ⟨hu, hs⟩ := List.forall_mem_cons.1 h
    rw [Text.asciiBody, List.flatMap_cons, escapeUnit_verbatim hu, ← Text.asciiBody, ih hs]
    rfl

/-- A pattern that is in a string is in the literal of the string. -/
theorem infix_asciiBody (hp : Verbatim pattern) (h : pattern <:+: s) : pattern <:+: Text.asciiBody s := by
  obtain ⟨a, b, rfl⟩ := h
  refine ⟨Text.asciiBody a, Text.asciiBody b, ?_⟩
  rw [Text.asciiBody, Text.asciiBody, Text.asciiBody, List.flatMap_append, List.flatMap_append]
  congr 2
  exact (asciiBody_verbatim hp).symm

theorem infix_quoteAscii (s : Str) : Text.asciiBody s <:+: Text.quoteAscii s := ⟨[Text.quotationMark], [Text.quotationMark], rfl⟩

theorem infix_joinComma {t : Str} {ts : List Str} (h : t ∈ ts) : t <:+: joinComma ts := by
  induction ts with
  | nil => cases h
  | cons t' ts ih =>
    rw [joinComma_cons]
    rcases List.mem_cons.1 h with rfl | h
    · exact List.infix_append' [] _ _
    · have hne : ts ≠ [] := List.ne_nil_of_mem h
      rw [if_neg hne]
      exact (ih h).trans ⟨t' ++ [comma], [], by simp⟩

theorem infix_container (l : Layout) (n : ℕ) {t : Str} {ts : List Str} (h : t ∈ ts) (opened closed : UInt16) :
    t <:+: opened :: (joinComma (laidOut l n ts) ++ [closed]) := by
  rw [← around_items (l.opening n) (l.between n) (l.closing n) ts] at h
  obtain ⟨q, hq, rfl⟩ := List.mem_map.1 h
  have hitem : q.2.1 <:+: q.1 ++ (q.2.1 ++ q.2.2) := ⟨q.1, q.2.2, List.append_assoc _ _ _⟩
  have hmem : q.1 ++ (q.2.1 ++ q.2.2) ∈ laidOut l n ts := List.mem_map_of_mem (f := fun q : Str × Str × Str => q.1 ++ (q.2.1 ++ q.2.2)) hq
  exact (hitem.trans (infix_joinComma hmem)).trans ⟨[opened], [closed], by simp⟩

theorem infix_field (l : Layout) (n : ℕ) {fs : Dict} {f : Str × Json} (hf : f ∈ fs) :
    Text.quoteAscii f.1 ++ colon :: (l.colonGap ++ write Text.quoteAscii l (n + 1) f.2) <:+:
      write Text.quoteAscii l n (.obj fs) := by
  rw [write]
  apply infix_container
  rw [writeFields_eq]
  exact List.mem_map_of_mem (f := fun f : Str × Json => Text.quoteAscii f.1 ++ colon :: (l.colonGap ++ _)) hf

/-- The literal of every string of a document is in its text. -/
theorem infix_write {v : Json} (h : Occurs s v) (l : Layout) (n : ℕ) : Text.asciiBody s <:+: write Text.quoteAscii l n v := by
  induction h generalizing n with
  | str => exact infix_quoteAscii s
  | arr hx _ ih =>
    rw [write, writeList_eq]
    exact (ih (n + 1)).trans (infix_container l n (List.mem_map_of_mem hx) _ _)
  | @key fs f hf hs =>
    subst hs
    have hkey : Text.quoteAscii f.1 <:+: Text.quoteAscii f.1 ++ colon :: (l.colonGap ++ write Text.quoteAscii l (n + 1) f.2) :=
      ⟨[], _, rfl⟩
    exact ((infix_quoteAscii f.1).trans hkey).trans (infix_field l n hf)
  | @obj fs f hf _ ih =>
    have hvalue : write Text.quoteAscii l (n + 1) f.2 <:+:
        Text.quoteAscii f.1 ++ colon :: (l.colonGap ++ write Text.quoteAscii l (n + 1) f.2) :=
      ⟨Text.quoteAscii f.1 ++ colon :: l.colonGap, [], by simp⟩
    exact ((ih (n + 1)).trans hvalue).trans (infix_field l n hf)

end

theorem verbatim_secretPatterns : ∀ pattern ∈ secretPatterns, Verbatim pattern := by decide +kernel

/-- No string of a saved receipt has a pattern in it, nor the start of a key that is set and is written as it is. -/
theorem saved_without_secrets {p : Platform} {env : Env} {receipt : Dict} {name text : Str}
    (h : saveReceipt p env receipt = .ok (name, text)) :
    ∀ s, Occurs s (.obj receipt) → (∀ pattern ∈ secretPatterns, ¬pattern <:+: s) ∧
      ∀ key ∈ [env.t3nApiKey, env.terminal3ApiKey], 8 < (Text.codePoints key).length → Verbatim (keyPrefix key) →
        ¬keyPrefix key <:+: s := by
  obtain ⟨rfl, hscan⟩ := saveReceipt_ok h
  rw [scanForSecrets, Bool.or_eq_false_iff, List.any_eq_false, List.any_eq_false] at hscan
  intro s hs
  have hwritten := infix_write hs (indented 2) 0
  refine ⟨?_, ?_⟩
  · intro pattern hp hinfix
    apply hscan.1 pattern hp
    exact decide_eq_true ((infix_asciiBody (verbatim_secretPatterns pattern hp) hinfix).trans hwritten)
  · intro key hkey hlength hverbatim hinfix
    apply hscan.2 key hkey
    rw [Bool.and_eq_true]
    exact ⟨decide_eq_true hlength, decide_eq_true ((infix_asciiBody hverbatim hinfix).trans hwritten)⟩

/-! ### The receipt of one decision -/

namespace Sample

def allowed : Dict := Dict.ofList [("decision", .str "ALLOW"), ("action", .str "PROCESS_DATA"),
  ("agent_fingerprint", .str "w1"), ("ts", .float (.finite 0)), ("nonce_hash", .str "0a1b"), ("proof_hash", .str ""),
  ("policy_version", .str "1.0"), ("denial_code", .null)]

theorem allowed_readable (k : Str) : Readable interpreter (interpreter.depth - 1) (Dict.get allowed k) := by
  have hfields : ∀ f ∈ allowed, Readable interpreter (interpreter.depth - 1) f.2 := by
    have hzero : interpreter.ReadsBack (.finite 0) := ⟨by rw [Numerals.Sci.ofRat_zero]; rfl, rfl⟩
    simp only [allowed, Dict.ofList, List.map_cons, List.map_nil, List.forall_mem_cons, Readable.str, Readable.null,
      Readable.float hzero, true_and]
    simp
  cases hget : Dict.get? allowed k with
  | none =>
    rw [Dict.get, Dict.getD, hget]
    exact .null
  | some v =>
    rw [Dict.get_of_get? hget]
    exact hfields _ (Dict.mem_of_get? hget)

def allowedReceipt : Dict := buildReceipt platform "0123456789abcdef" allowed

theorem allowed_scan : scanForSecrets env (write Text.quoteAscii (indented 2) 0 (.obj allowedReceipt)) = false := by
  decide +kernel

theorem allowed_saved : saveReceipt platform env allowedReceipt = .ok ("effv3-receipt-0123456789ab.json",
    write Text.quoteAscii (indented 2) 0 (.obj allowedReceipt)) := by
  have hid : allowedReceipt.get? "receipt_id" = some (.str "effv3-receipt-0123456789ab") := by
    rw [allowedReceipt, buildReceipt, Dict.get?_set_ne _ _ (by decide +kernel), receiptContent, Dict.get?_ofList_cons, if_pos rfl]
    rfl
  rw [saveReceipt, hid]
  dsimp only
  rw [if_neg (by rw [allowed_scan]; exact Bool.false_ne_true)]
  rfl

/-- The file holds the receipt, and no other file verifies under its hash. -/
theorem allowed_saved_iff : loads interpreter (write Text.quoteAscii (indented 2) 0 (.obj allowedReceipt)) =
      .ok (.obj allowedReceipt) ∧
    ∀ text' receipt', loads interpreter text' = .ok (.obj receipt') →
      ((verifyReceipt platform receipt').1 = true ∧
          Dict.get? receipt' "receipt_hash" = allowedReceipt.get? "receipt_hash" ↔
        Json.Same (.obj receipt') (.obj allowedReceipt)) :=
  saved_receipt_iff sha256_injective allowed_readable allowed_saved

theorem action_occurs : Occurs (Str.ofString "PROCESS_DATA") (.obj allowedReceipt) := by
  have haction : allowedReceipt.get? "action" = some (.str "PROCESS_DATA") := by
    rw [allowedReceipt, buildReceipt, Dict.get?_set_ne _ _ (by decide +kernel)]
    simp only [receiptContent, Dict.get?_ofList_cons, String.reduceEq, if_true, if_false]
    rfl
  exact .obj (Dict.mem_of_get? haction) .str

theorem allowed_without_secrets : Occurs (Str.ofString "PROCESS_DATA") (.obj allowedReceipt) ∧
    (∀ pattern ∈ secretPatterns, ¬pattern <:+: Str.ofString "PROCESS_DATA") ∧
      ∀ key ∈ [env.t3nApiKey, env.terminal3ApiKey], 8 < (Text.codePoints key).length → Verbatim (keyPrefix key) →
        ¬keyPrefix key <:+: Str.ofString "PROCESS_DATA" :=
  ⟨action_occurs, saved_without_secrets allowed_saved _ action_occurs⟩

end Sample

end Adn
