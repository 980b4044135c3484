import Adn.ContractAcceptance
import Adn.ReleasePublished
/-!
# A delegation id names one call

The id hashes `vc_id`, `nonce` and `request_hash` one after another, without a mark
between them, and the request hash hashes a JSON text of the target and the action.
The checks fix the lengths of the parts, and the text is read back from its quotes,
so that as long as no hash collides the id determines all four values.
-/

open Lib Lib.Serde

namespace Adn.Contract

open Release (IsString isString_cons isString_quoteUnicode utf8_inj)

/-! ## The hashed text -/

section
variable {rt : Runtime}

/-- What the hashed text is made of. -/
theorem callText_eq (toAgentId action : Str) :
    Serde.text rt.floatText (.obj (Dict.ofList [("to_agent_id", .str toAgentId), ("action", .str action)])) =
      openBrace :: Text.quoteUnicode "to_agent_id" ++ colon :: Text.quoteUnicode toAgentId ++
        comma :: Text.quoteUnicode "action" ++ colon :: Text.quoteUnicode action ++ [closeBrace] := by
  simp [Serde.text, textFields, joinComma, Dict.ofList]

theorem isString_callText (toAgentId action : Str) :
    IsString (Serde.text rt.floatText (.obj (Dict.ofList [("to_agent_id", .str toAgentId), ("action", .str action)]))) := by
  rw [callText_eq]
  simp only [List.append_assoc, List.cons_append]
  refine isString_cons (by decide) ((isString_quoteUnicode _).append (isString_cons (by decide) ?_))
  refine (isString_quoteUnicode _).append (isString_cons (by decide) ((isString_quoteUnicode _).append ?_))
  refine isString_cons (by decide) ((isString_quoteUnicode _).append (isString_cons (by decide) ?_))
  exact Release.isString_ofString ""

/-- The hashed bytes determine the target and the action. -/
theorem canonicalRequest_inj {toAgentId action toAgentId' action' : Str}
    (h : canonicalRequest rt toAgentId action = canonicalRequest rt toAgentId' action') :
    toAgentId = toAgentId' ∧ action = action' := by
  have htext := utf8_inj (isString_callText toAgentId action) (isString_callText toAgentId' action') h
  rw [callText_eq, callText_eq] at htext
  simp only [List.cons_append, List.append_assoc, List.cons.injEq, true_and, List.append_cancel_left_eq] at htext
  obtain ⟨rfl, hrest⟩ := Text.quoteUnicode_cancel htext
  simp only [List.cons.injEq, List.append_cancel_left_eq, true_and] at hrest
  exact ⟨rfl, (Text.quoteUnicode_cancel hrest).1⟩

/-! ## The id -/

/-- The two calls are one: the same credential, nonce, target and action. -/
structure SameCall (x y : Parts) : Prop where
  vcId : x.vcId = y.vcId
  nonce : x.nonce = y.nonce
  toAgentId : x.input.toAgentId = y.input.toAgentId
  action : x.input.action = y.input.action

/-- What the id hashes. -/
def Parts.idMaterial (x : Parts) : List UInt8 := x.vcId ++ x.nonce ++ x.requestHash

def Parts.canonicalRequest (rt : Runtime) (x : Parts) : List UInt8 :=
  Contract.canonicalRequest rt x.input.toAgentId x.input.action

/-- `h` has no collision here. -/
def Distinguishes {β : Type} (h : List UInt8 → β) (a b : List UInt8) : Prop := h a = h b → a = b

/-- The parts of the id's material are told apart by the lengths that were checked. -/
theorem sameCall_of_material {cfg cfg' : DelegationConfig} {x y : Parts} {signer signer' : List UInt8}
    (hx : Authorized rt cfg x signer) (hy : Authorized rt cfg' y signer')
    (hreq : Distinguishes rt.sha256 (x.canonicalRequest rt) (y.canonicalRequest rt))
    (h : x.idMaterial = y.idMaterial) : SameCall x y := by
  unfold Parts.idMaterial at h
  obtain ⟨hid, hhash⟩ := List.append_inj h (by
    rw [List.length_append, List.length_append, hx.vcId_length, hy.vcId_length, hx.nonce_length, hy.nonce_length])
  obtain ⟨hvc, hnonce⟩ := List.append_inj hid (by rw [hx.vcId_length, hy.vcId_length])
  rw [hx.requestHash, hy.requestHash] at hhash
  obtain ⟨hto, haction⟩ := canonicalRequest_inj (hreq (Subtype.ext hhash))
  exact ⟨hvc, hnonce, hto, haction⟩

/-- Of two accepted calls, under any configurations, the delegation ids are the same only if
the calls are; so are the preimages that the agents sign. -/
theorem delegation_id_determines_call {build build' : ProcessEnv} {bytes bytes' : List UInt8} {cfg cfg' : DelegationConfig}
    {out out' : DelegateTaskOutput} {x y : Parts} (h : verifyDelegateTask rt build bytes cfg = .ok out)
    (h' : verifyDelegateTask rt build' bytes' cfg' = .ok out') (hx : Decodes rt bytes x) (hy : Decodes rt bytes' y)
    (hreq : Distinguishes rt.sha256 (x.canonicalRequest rt) (y.canonicalRequest rt)) :
    (Distinguishes (fun bs => (rt.sha256 bs).val.take 16) x.idMaterial y.idMaterial →
      out.delegationId = out'.delegationId → SameCall x y) ∧
    (buildPreimage x.vcId x.nonce x.requestHash = buildPreimage y.vcId y.nonce y.requestHash → SameCall x y) := by
  obtain ⟨x', signer, _, hx', -, ha, -, -, rfl⟩ := verifyDelegateTask_ok.1 h
  obtain ⟨y', signer', _, hy', -, ha', -, -, rfl⟩ := verifyDelegateTask_ok.1 h'
  obtain rfl := hx.unique hx'
  obtain rfl := hy.unique hy'
  constructor
  · intro hid heq
    have hdigest := Hex.hexLower_inj (List.append_cancel_left heq)
    exact sameCall_of_material ha ha' hreq (hid hdigest)
  · intro heq
    unfold buildPreimage at heq
    rw [List.append_assoc, List.append_assoc, List.append_assoc, List.append_assoc] at heq
    refine sameCall_of_material ha ha' hreq ?_
    rw [Parts.idMaterial, Parts.idMaterial, List.append_assoc, List.append_assoc]
    exact List.append_cancel_left heq

end

/-! ### One call at two times -/

namespace Sample

theorem call_output (nowSecs : UInt64) (hb : 100 ≤ nowSecs.toNat) (ha : nowSecs.toNat ≤ 300)
    (hclock : nowSecs.toNat + 120 < 2 ^ 64) :
    verifyDelegateTask callRuntime (fun _ => none) callBytes (configAt nowSecs) =
      .ok (callParts.output callRuntime (fun _ => none) issuer []) := by
  have hcall := call_authorized hb ha
  exact verifyDelegateTask_ok.2 ⟨callParts, issuer, [], call_decodes, call_decodes.filled rfl hcall, hcall,
    hcall.window.within_skew hclock, rfl, rfl⟩

/-- The same call is accepted twice, with one id. -/
theorem call_twice : ∃ out out', verifyDelegateTask callRuntime (fun _ => none) callBytes (configAt 150) = .ok out ∧
    verifyDelegateTask callRuntime (fun _ => none) callBytes (configAt 250) = .ok out' ∧
    out.delegationId = out'.delegationId ∧ SameCall callParts callParts := by
  have hfirst := call_output 150 (by decide) (by decide) (by decide)
  have hsecond := call_output 250 (by decide) (by decide) (by decide)
  have hboth := delegation_id_determines_call hfirst hsecond call_decodes call_decodes fun _ => rfl
  exact ⟨_, _, hfirst, hsecond, rfl, hboth.1 (fun _ => rfl) rfl⟩

end Sample

end Adn.Contract
