import Adn.ContractExports
import Adn.Lib.Floats
/-!
# Sealed bids

`submit_bid` hashes the fields of a bid, writes the hash in hexadecimal without
leading zeros and cuts its first twelve digits for the receipt. A hash below
`2 ^ 44` has fewer, and the cut panics (`submitBid_sealed_iff`).
-/

open Lib Lib.Serde

namespace Adn.Contract

open Numerals

/-! ## The export -/

/-- `format!("{x}")`, which writes no exponent. -/
def displayFloat : PyFloat → Str
  | .finite q =>
    match Sci.ofRat q with
    | some s => (fixed [] (q < 0) s).text false
    | none => intText q.num ++ 0x2F :: natText q.den
  | .negZero => "-0"
  | .posInf => "inf"
  | .negInf => "-inf"
  | .nan => "NaN"

structure SubmitBidInput where
  bidderDid : Str
  itemId : Str
  amount : Finite64
  nonce : Str

section
variable (rt : Runtime)

def SubmitBidInput.decode : Decoder SubmitBidInput := fun v => do
  let fs ← fields ["bidder_did", "item_id", "amount", "nonce"] v
  return {
    bidderDid := ← fs.get "bidder_did" string
    itemId := ← fs.get "item_id" string
    amount := ← fs.get "amount" (f64 rt.rnd)
    nonce := ← fs.get "nonce" string }

/-- The 64 bits that a bid is sealed with. -/
def bidHash (b : SubmitBidInput) : UInt64 := simpleHash (colons [b.bidderDid, displayFloat b.amount.val, b.nonce])

def submitBidOutput (b : SubmitBidInput) (bidSeal receipt : Str) : Dict :=
  Dict.ofList [("bid_hash", .str bidSeal), ("item_id", .str b.itemId), ("sealed_in_tee", .bool true), ("receipt", .str receipt)]

def submitBid (req : GenericInput) : Outcome (List UInt8) := do
  let bytes ← req.bytes "submit-bid"
  let b ← parseInput rt (SubmitBidInput.decode rt) bytes "submit-bid"
  let bidSeal := hexText (bidHash b)
  let digits ← Outcome.sliceText bidSeal 0 12
  encode rt (submitBidOutput b bidSeal (Str.ofString "bid-receipt-" ++ digits))

end

/-! ## Hexadecimal numbers -/

theorem ascii_hexText (n : UInt64) : Text.IsAscii (hexText n) := by
  have hdigit : ∀ d < 16, (Text.hexDigit d).toNat < 0x80 := by decide
  unfold hexText
  split
  · intro u hu
    rcases List.mem_singleton.1 hu with rfl
    decide
  · intro u hu
    obtain ⟨d, hd, rfl⟩ := List.mem_map.1 hu
    exact hdigit d (Nat.digits_lt_base (by decide) (List.mem_reverse.1 hd))

/-- A number has more than `k` digits from `16 ^ k` on. -/
theorem lt_length_hexText {n : UInt64} {k : ℕ} (hk : 0 < k) : k < (hexText n).length ↔ 16 ^ k ≤ n.toNat := by
  unfold hexText
  split
  · rename_i hn
    subst hn
    have hpos : 0 < 16 ^ k := by positivity
    refine iff_of_false ?_ ?_
    · change ¬k < 1
      omega
    · change ¬16 ^ k ≤ 0
      omega
  · rw [List.length_map, List.length_reverse, Nat.lt_digits_length_iff (by decide)]

/-! ## What is returned -/

section
variable {rt : Runtime}

/-- A bid is cut where its hash has twelve digits, and panics otherwise. -/
theorem submitBid_eq {bytes : List UInt8} {profile context : Option (List UInt8)} {b : SubmitBidInput}
    (h : fromSlice rt (SubmitBidInput.decode rt) bytes = .ok b) :
    submitBid rt ⟨some bytes, profile, context⟩ = if 2 ^ 44 ≤ (bidHash b).toNat then
      encode rt (submitBidOutput b (hexText (bidHash b)) (Str.ofString "bid-receipt-" ++ (hexText (bidHash b)).take 12))
    else .panic := by
  have hlen : 12 ≤ (hexText (bidHash b)).length ↔ 2 ^ 44 ≤ (bidHash b).toNat := by
    have := lt_length_hexText (n := bidHash b) (k := 11) (by decide)
    omega
  have hparse : parseInput rt (SubmitBidInput.decode rt) bytes "submit-bid" = .ok b := parseInput_eq_ok.2 h
  change (parseInput rt (SubmitBidInput.decode rt) bytes "submit-bid" >>= _) = _
  rw [hparse]
  change (Outcome.sliceText (hexText (bidHash b)) 0 12 >>= _) = _
  rw [Outcome.sliceText_ascii (ascii_hexText _)]
  by_cases hb : 2 ^ 44 ≤ (bidHash b).toNat
  · rw [if_pos (hlen.2 hb), if_pos hb]
    rfl
  · rw [if_neg fun hl => hb (hlen.1 hl), if_neg hb]
    rfl

/-- What a bid is answered with. -/
def sealedBid (rt : Runtime) (b : SubmitBidInput) : List UInt8 :=
  toVec rt.floatText (.obj (submitBidOutput b (hexText (bidHash b))
    (Str.ofString "bid-receipt-" ++ (hexText (bidHash b)).take 12)))

/-- A bid is sealed exactly if its hash is not below `2 ^ 44`; otherwise the export traps. -/
theorem submitBid_sealed_iff {bytes : List UInt8} (profile context : Option (List UInt8)) {b : SubmitBidInput}
    (h : fromSlice rt (SubmitBidInput.decode rt) bytes = .ok b) :
    submitBid rt ⟨some bytes, profile, context⟩ = .ok (sealedBid rt b) ↔ 2 ^ 44 ≤ (bidHash b).toNat := by
  rw [submitBid_eq h]
  by_cases hb : 2 ^ 44 ≤ (bidHash b).toNat
  · rw [if_pos hb]
    exact iff_of_true rfl hb
  · rw [if_neg hb]
    exact iff_of_false nofun hb

end

/-! ### A bid with a short hash -/

namespace Sample

/-- A bid of one, with this nonce. -/
def bidDocument (nonce : Str) : Json := .obj (Dict.ofList [("bidder_did", .str "w"), ("item_id", .str "i"),
  ("amount", .int 1), ("nonce", .str nonce)])

def bidBytes (nonce : Str) : List UInt8 := toVec (fun _ => []) (bidDocument nonce)

/-- A runtime that reads this bid. -/
def bidRuntime (nonce : Str) : Runtime :=
  { runtime with parse := fun bytes => if bytes = bidBytes nonce then some (bidDocument nonce) else none }

theorem one_isFinite : (PyFloat.finite 1).isFinite = true := rfl

def bidOf (nonce : Str) : SubmitBidInput := ⟨"w", "i", ⟨.finite 1, one_isFinite⟩, nonce⟩

theorem bid_decoded {nonce : Str} (h : nonce = Str.ofString "ijllv" ∨ nonce = Str.ofString "n") :
    SubmitBidInput.decode (bidRuntime nonce) (bidDocument nonce) = .ok (bidOf nonce) := by
  rcases h with rfl | rfl
  · rfl
  · rfl

theorem bid_parsed {nonce : Str} (h : nonce = Str.ofString "ijllv" ∨ nonce = Str.ofString "n") :
    fromSlice (bidRuntime nonce) (SubmitBidInput.decode (bidRuntime nonce)) (bidBytes nonce) = .ok (bidOf nonce) := by
  have hp : (bidRuntime nonce).parse (bidBytes nonce) = some (bidDocument nonce) := by simp [bidRuntime]
  rw [fromSlice, hp]
  exact bid_decoded h

/-- The hash of `w:1:ijllv` has ten digits: the bid traps. -/
theorem short_hash_traps : submitBid (bidRuntime "ijllv") ⟨some (bidBytes "ijllv"), none, none⟩ = .panic := by
  rw [submitBid_eq (bid_parsed (.inl rfl)), if_neg (by decide +kernel)]

/-- The hash of `w:1:n` has twelve digits at least. -/
theorem bid_sealed : submitBid (bidRuntime "n") ⟨some (bidBytes "n"), none, none⟩ =
    .ok (sealedBid (bidRuntime "n") (bidOf "n")) :=
  (submitBid_sealed_iff none none (bid_parsed (.inr rfl))).2 (by decide +kernel)

end Sample

end Adn.Contract
