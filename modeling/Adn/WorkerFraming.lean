import Adn.ReleasePublished
import Adn.WorkerExecutor
/-!
# Where a request ends

The worker executor answers every request of a stream exactly if each ends with a chunk, no
chunk boundary is inside a character, and every text that is to be signed can be encoded
(`answered_iff`).
-/

open Lib

namespace Adn

open Release (IsString isString_ofString isString_cons isString_quoteUnicode utf8_ofString)

/-! ## The text of a request -/

section
variable (token : Str) (r : WorkerRequest)

theorem stringify_flat (fs : List (Str × Str)) :
    Js.stringify (.obj (fs.map fun f => (f.1, .str f.2))) = some (JsonReader.flatText fs) := by
  have hprops : Js.stringifyProps (fs.map fun f => (f.1, .str f.2)) = fs.map fun f => (f.1, Text.quoteUnicode f.2) := by
    induction fs with
    | nil => rfl
    | cons f fs ih =>
      rw [List.map_cons, Js.stringifyProps, Js.stringify, ih]
      rfl
  rw [Js.stringify, hprops, List.map_map]
  rfl

theorem isString_joinComma {ts : List Str} (h : ∀ t ∈ ts, IsString t) : IsString (joinComma ts) := by
  induction ts with
  | nil => exact isString_ofString ""
  | cons t ts ih =>
    obtain ⟨ht, hts⟩ := List.forall_mem_cons.1 h
    cases ts with
    | nil => exact ht
    | cons t' ts =>
      rw [joinComma_cons_cons]
      exact ht.append (isString_cons (by decide) (ih hts))

/-- What is written has no lone surrogates, whatever the strings have. -/
theorem isString_flatText (fs : List (Str × Str)) : IsString (JsonReader.flatText fs) := by
  rw [JsonReader.flatText, List.cons_append]
  apply isString_cons (by decide)
  apply IsString.append
  · apply isString_joinComma
    intro t ht
    obtain ⟨f, -, rfl⟩ := List.mem_map.1 ht
    exact (isString_quoteUnicode _).append (isString_cons (by decide) (isString_quoteUnicode _))
  · exact isString_cons (by decide) (isString_ofString "")

/-- The characters of a request. -/
theorem request_chars : ∃ cs : List Char, Utf8.units cs = JsonReader.flatText (r.fields token) ∧
    r.bytes token = Utf8.encode cs := by
  obtain ⟨t, ht⟩ := isString_flatText (r.fields token)
  refine ⟨t.toList, ht.symm, ?_⟩
  rw [WorkerRequest.bytes, stringify_flat, Option.getD_some, ht, utf8_ofString]

theorem fields_nodup : ((r.fields token).map (·.1)).Nodup := by
  cases r <;> simp [WorkerRequest.fields, WorkerRequest.params]

end

/-! ## The answer to a request -/

namespace ExecutorState

/-- `sid in _sessions` -/
def has (s : ExecutorState) (sid : Str) : Bool := s.sessions.any (·.1 = sid)

end ExecutorState

namespace WorkerExecutor

variable (e : WorkerExecutor)

/-- What `handle_rpc` makes of the sessions. -/
def after (s : ExecutorState) : WorkerRequest → ExecutorState
  | .createSession => (e.createSession s).2
  | .closeSession sid => { s with sessions := s.sessions.filter (·.1 ≠ sid) }
  | _ => s

/-- There is a text to sign only if a session is there to sign it, and the text has no lone surrogates then. -/
def Signable (s : ExecutorState) : WorkerRequest → Prop
  | .signResult sid payload => s.has sid = true → encodable payload = true
  | _ => True

/-- Every text that is signed has no lone surrogates. -/
def AllSignable : ExecutorState → List WorkerRequest → Prop
  | _, [] => True
  | s, r :: rs => Signable s r ∧ AllSignable (e.after s r) rs

/-- The answer that `handle_rpc` gives, where it returns. -/
def handle (s : ExecutorState) (r : WorkerRequest) : Option (ExecutorState × List UInt8) :=
  match e.handleRpc s (r.document e.capabilityToken) with
  | .ok (result, s) => some (s, answerLine result)
  | .error _ => none

theorem encodable_hexLower (bs : List UInt8) : encodable (Hex.hexLower bs) = true :=
  encodable_ascii (Hex.plain_hexLower bs).ascii

theorem auth_valid {data : Dict} (h : data.get? "token" = some (.str e.capabilityToken)) : e.auth data = .ok true := by
  rw [auth, Dict.getD, h, Option.getD_some]
  dsimp only
  rw [encodeText, capabilityToken, if_pos (encodable_hexLower _)]
  simp [bind, Except.bind, pure, Except.pure]

/-- A request with the token is handled by its method. -/
theorem handleRpc_valid {s : ExecutorState} {data : Dict} {method : String}
    (htoken : data.get? "token" = some (.str e.capabilityToken)) (hmethod : data.get? "method" = some (.str method)) :
    e.handleRpc s (.obj data) =
      if method = "create_session" then .ok (e.createSession s)
      else if method = "sign_result" then (e.signResult s data).map (·, s)
      else if method = "get_public_key" then (getPublicKey s data).map (·, s)
      else if method = "close_session" then
        (s.pop (data.getD "session_id" (.str []))).map (Dict.ofList [("closed", data.getD "session_id" (.str []))], ·)
      else .ok (Dict.ofList [("error", .str "unknown_method")], s) := by
  have hget : data.get "method" = .str method := Dict.get_of_get? hmethod
  have hauth := e.auth_valid htoken
  simp only [handleRpc, asDict, hauth, hget, Json.pyEq_str, Json.str.injEq, Text.ofString_inj, bind, Except.bind, pure,
    Except.pure, Bool.not_true, Bool.false_eq_true, if_false]
  split_ifs
  · rfl
  · cases e.signResult s data <;> rfl
  · cases getPublicKey s data <;> rfl
  · cases s.pop (data.getD "session_id" (.str [])) <;> rfl
  · rfl

theorem find_text (s : ExecutorState) (sid : Str) :
    s.find (.str sid) = .ok ((s.sessions.find? fun f => f.1 = sid).map (·.2)) := by
  have hpred : (fun f : Str × WorkerSession => (Json.str sid).pyEq (.str f.1)) = fun f => decide (f.1 = sid) := by
    funext f
    rw [Bool.eq_iff_iff, Json.pyEq_str, decide_eq_true_iff, Json.str.injEq, eq_comm]
  rw [ExecutorState.find, hpred]
  rfl

theorem find_isSome (s : ExecutorState) (sid : Str) :
    ((s.sessions.find? fun f => f.1 = sid).map (·.2)).isSome = s.has sid := by
  rw [Option.isSome_map, List.isSome_find?]
  rfl

theorem pop_text (s : ExecutorState) (sid : Str) :
    s.pop (.str sid) = .ok { s with sessions := s.sessions.filter (·.1 ≠ sid) } := by
  have hpred : (fun f : Str × WorkerSession => !(Json.str sid).pyEq (.str f.1)) = fun f => decide (f.1 ≠ sid) := by
    funext f
    rw [Bool.eq_iff_iff, Bool.not_eq_true', ← Bool.not_eq_true, Json.pyEq_str, decide_eq_true_iff, Json.str.injEq, eq_comm]
  have hhash : hashable (.str sid) = true := rfl
  rw [ExecutorState.pop, hpred, hhash, Bool.or_true, if_pos rfl]

/-- What `handle_rpc` reads of a request. -/
theorem request_reads (token : Str) (r : WorkerRequest) : ∃ data : Dict, r.document token = .obj data ∧
    data.get? "token" = some (.str token) ∧ data.get? "method" = some (.str r.method) ∧
    ∀ k v, (k, v) ∈ r.params → data.getD (Str.ofString k) (.str []) = .str v := by
  refine ⟨Dict.ofList (("token", .str token) :: ("method", .str (Str.ofString r.method)) ::
    r.params.map fun f => (f.1, .str f.2)), ?_, ?_, ?_, ?_⟩
  · simp [WorkerRequest.document, WorkerRequest.fields, Dict.ofList]
  · simp
  · simp
  · intro k v hkv
    cases r <;> simp only [WorkerRequest.params, List.mem_cons, List.not_mem_nil, or_false, Prod.mk.injEq] at hkv
    · rcases hkv with ⟨rfl, rfl⟩ | ⟨rfl, rfl⟩ <;> simp [Dict.getD, WorkerRequest.params]
    · obtain ⟨rfl, rfl⟩ := hkv
      simp [Dict.getD, WorkerRequest.params]
    · obtain ⟨rfl, rfl⟩ := hkv
      simp [Dict.getD, WorkerRequest.params]

theorem signResult_text {s : ExecutorState} {data : Dict} {sid payload : Str}
    (hsid : data.getD "session_id" (.str []) = .str sid) (hpayload : data.getD "payload" (.str []) = .str payload) :
    (s.has sid = true → encodable payload = true) ∧ (∃ result, e.signResult s data = .ok result) ∨
      ¬(s.has sid = true → encodable payload = true) ∧ e.signResult s data = .error .unicodeError := by
  have hhas := find_isSome s sid
  rw [signResult, hsid, hpayload, find_text, ← hhas]
  cases (s.sessions.find? fun f => f.1 = sid).map (·.2) with
  | none =>
    refine .inl ⟨?_, _, rfl⟩
    intro h
    cases h
  | some session =>
    dsimp only [bind, Except.bind]
    rw [encodeText]
    by_cases hencodable : encodable payload = true
    · rw [if_pos hencodable]
      exact .inl ⟨fun _ => hencodable, _, rfl⟩
    · rw [if_neg hencodable]
      exact .inr ⟨fun h => hencodable (h rfl), rfl⟩

theorem getPublicKey_text {s : ExecutorState} {data : Dict} {sid : Str}
    (hsid : data.getD "session_id" (.str []) = .str sid) : ∃ result, getPublicKey s data = .ok result := by
  rw [getPublicKey, hsid, find_text]
  cases (s.sessions.find? fun f => f.1 = sid).map (·.2) with
  | none => exact ⟨_, rfl⟩
  | some session => exact ⟨_, rfl⟩

/-- A request is answered, or it asks for a signature of a text that cannot be encoded. -/
theorem handle_request (s : ExecutorState) (r : WorkerRequest) :
    (Signable s r ∧ ∃ b, e.handle s r = some (e.after s r, b)) ∨ (¬Signable s r ∧ e.handle s r = none) := by
  obtain ⟨data, hdocument, htoken, hmethod, hparams⟩ := request_reads e.capabilityToken r
  have hvalid := e.handleRpc_valid (s := s) htoken hmethod
  rw [handle, hdocument]
  cases r with
  | createSession =>
    have hcall : e.handleRpc s (.obj data) = .ok (e.createSession s) := hvalid
    rw [hcall]
    exact .inl ⟨trivial, _, rfl⟩
  | signResult sid payload =>
    have hcall : e.handleRpc s (.obj data) = (e.signResult s data).map (·, s) := hvalid
    have hsid := hparams "session_id" sid (by simp [WorkerRequest.params])
    have hpayload := hparams "payload" payload (by simp [WorkerRequest.params])
    rw [hcall, Signable]
    rcases e.signResult_text hsid hpayload with ⟨hsignable, result, hsign⟩ | ⟨hsignable, hsign⟩
    · rw [hsign]
      exact .inl ⟨hsignable, _, rfl⟩
    · rw [hsign]
      exact .inr ⟨hsignable, rfl⟩
  | getPublicKey sid =>
    have hcall : e.handleRpc s (.obj data) = (getPublicKey s data).map (·, s) := hvalid
    obtain ⟨result, hget⟩ := getPublicKey_text (s := s) (hparams "session_id" sid (by simp [WorkerRequest.params]))
    rw [hcall, hget]
    exact .inl ⟨trivial, _, rfl⟩
  | closeSession sid =>
    have hcall : e.handleRpc s (.obj data) =
        (s.pop (data.getD "session_id" (.str []))).map (Dict.ofList [("closed", data.getD "session_id" (.str []))], ·) :=
      hvalid
    rw [hcall, hparams "session_id" sid (by simp [WorkerRequest.params]), pop_text]
    exact .inl ⟨trivial, _, rfl⟩

theorem answers_isSome (s : ExecutorState) (rs : List WorkerRequest) :
    (TrialFraming.answers e.handle s rs).isSome = true ↔ e.AllSignable s rs := by
  induction rs generalizing s with
  | nil => exact ⟨fun _ => trivial, fun _ => rfl⟩
  | cons r rs ih =>
    rw [TrialFraming.answers, AllSignable]
    rcases e.handle_request s r with ⟨hsignable, b, hhandle⟩ | ⟨hsignable, hhandle⟩
    · rw [hhandle]
      dsimp only
      rw [Option.isSome_map, ih, and_iff_right hsignable]
    · rw [hhandle]
      constructor
      · intro h
        cases h
      · intro h
        exact absurd h.1 hsignable

/-! ## Where a request ends -/

theorem decodeText_encode (cs : List Char) : decodeText (Utf8.encode cs) = some (Utf8.units cs) := by
  rw [decodeText, Utf8.decode_encode, if_pos rfl]

theorem tryBuffer_cut {s : ExecutorState} {buf : List UInt8} (h : ¬Utf8.Aligned buf) : e.tryBuffer s buf = .fails := by
  have hnone : decodeText buf = none := if_neg h
  rw [tryBuffer, hnone]

theorem tryBuffer_encode (s : ExecutorState) (cs : List Char) : e.tryBuffer s (Utf8.encode cs) = e.tryText s (Utf8.units cs) := by
  rw [tryBuffer, decodeText_encode]

theorem tryBuffer_waits {s : ExecutorState} {cs : List Char} (h : JsonReader.loads e.python (Utf8.units cs) = .error .decode) :
    e.tryBuffer s (Utf8.encode cs) = .waits := by
  rw [tryBuffer_encode, tryText, h]

/-- The first character of a request. -/
theorem request_head (token : Str) {r : WorkerRequest} {cs : List Char}
    (h : Utf8.units cs = JsonReader.flatText (r.fields token)) :
    ∃ c cs', cs = c :: cs' ∧ (Str.ofCodePoint c.toNat).head? = some openBrace := by
  cases cs with
  | nil => cases h
  | cons c cs =>
    obtain ⟨u, s, hunits, hu⟩ := Utf8.units_cons c cs
    rw [h, JsonReader.flatText_eq] at hunits
    obtain ⟨rfl, -⟩ := List.cons.inj hunits
    exact ⟨c, cs, rfl, hu⟩

/-- Trying to parse tells where a request ends, if nothing follows it. -/
theorem separable : TrialFraming.Separable e.tryBuffer (WorkerRequest.bytes e.capabilityToken) e.handle Utf8.Aligned where
  nonempty r := by
    obtain ⟨cs, hunits, hbytes⟩ := request_chars e.capabilityToken r
    obtain ⟨c, cs', rfl, -⟩ := request_head e.capabilityToken hunits
    rw [hbytes]
    intro h
    cases Utf8.encode_eq_nil h
  whole_nil := by rw [Utf8.Aligned, Utf8.decode_nil]; rfl
  whole_enc r := by
    obtain ⟨cs, -, hbytes⟩ := request_chars e.capabilityToken r
    rw [hbytes]
    exact Utf8.aligned_encode cs
  whole_append hp := Utf8.aligned_append hp
  part := by
    intro s r p q h hq
    obtain ⟨cs, hunits, hbytes⟩ := request_chars e.capabilityToken r
    by_cases hp : Utf8.Aligned p
    · left
      refine ⟨?_, hp⟩
      have hq' : Utf8.Aligned q := (Utf8.aligned_append hp).1 (h ▸ hbytes ▸ Utf8.aligned_encode cs)
      obtain ⟨ps, rfl⟩ := Utf8.aligned_iff.1 hp
      obtain ⟨qs, rfl⟩ := Utf8.aligned_iff.1 hq'
      rw [hbytes, ← Utf8.encode_append] at h
      obtain rfl := Utf8.encode_inj h
      rw [Utf8.units_append] at hunits
      apply e.tryBuffer_waits
      apply JsonReader.loads_part e.python hunits
      intro hnil
      exact hq (by rw [Utf8.units_eq_nil hnil]; rfl)
    · exact .inr ⟨e.tryBuffer_cut hp, hp⟩
  complete s r := by
    obtain ⟨cs, hunits, hbytes⟩ := request_chars e.capabilityToken r
    have hloads := JsonReader.loads_flat e.python (fields_nodup e.capabilityToken r)
    rw [hbytes, tryBuffer_encode, hunits, tryText, hloads, handle]
    dsimp only [WorkerRequest.document, JsonReader.flatDict]
    cases e.handleRpc s (.obj ((r.fields e.capabilityToken).map fun f => (f.1, .str f.2))) <;> rfl
  followed := by
    intro s r p q rs h hp
    by_cases hwhole : Utf8.Aligned p
    · left
      obtain ⟨cs, hunits, hbytes⟩ := request_chars e.capabilityToken r
      obtain ⟨ps, rfl⟩ := Utf8.aligned_iff.1 hwhole
      have hhead : ∃ c ps', ps = c :: ps' ∧ (Str.ofCodePoint c.toNat).head? = some openBrace := by
        cases rs with
        | nil => exact absurd (List.append_eq_nil_iff.1 h).1 hp
        | cons r' rs =>
          obtain ⟨cs', hunits', hbytes'⟩ := request_chars e.capabilityToken r'
          obtain ⟨c, cs', rfl, hc⟩ := request_head e.capabilityToken hunits'
          have hdecode := congrArg Utf8.decode h
          rw [TrialFraming.stream_cons, hbytes', Utf8.decode_encode_append, Utf8.decode_encode_append] at hdecode
          cases ps with
          | nil => exact absurd rfl hp
          | cons d ps =>
            obtain ⟨rfl, -⟩ := List.cons.inj hdecode
            exact ⟨d, ps, rfl, hc⟩
      obtain ⟨c, ps, rfl, hc⟩ := hhead
      obtain ⟨u, t, ht, hu⟩ := Utf8.units_cons c ps
      obtain rfl : u = openBrace := Option.some.inj (hu.symm.trans hc)
      rw [hbytes, ← Utf8.encode_append]
      apply e.tryBuffer_waits
      rw [Utf8.units_append, hunits, ht]
      exact JsonReader.loads_followed e.python (fields_nodup e.capabilityToken r) rfl t
    · right
      obtain ⟨cs, -, hbytes⟩ := request_chars e.capabilityToken r
      apply e.tryBuffer_cut
      rw [hbytes, Utf8.aligned_append (Utf8.aligned_encode cs)]
      exact hwhole

/-- The executor answers all requests, in order, as `handle_rpc` does, and keeps the connection. -/
def Answered (s : ExecutorState) (rs : List WorkerRequest) (chunks : List Chunk) : Prop :=
  (e.handleClient s chunks).failed = false ∧ TrialFraming.answers e.handle s rs = some (e.handleClient s chunks).sent

/-- Every request ends where a chunk ends. -/
def EndWithChunks (rs : List WorkerRequest) (chunks : List Chunk) : Prop :=
  TrialFraming.Grouped (WorkerRequest.bytes e.capabilityToken) rs (chunks.map Chunk.bytes)

/-- The requests, cut into chunks, are all answered exactly if each of them ends with a chunk, no chunk ends inside a
character, and every text that is to be signed can be encoded. -/
theorem answered_iff (s : ExecutorState) {rs : List WorkerRequest} {chunks : List Chunk}
    (h : (chunks.map Chunk.bytes).flatten = rs.flatMap (WorkerRequest.bytes e.capabilityToken)) :
    e.Answered s rs chunks ↔
      e.EndWithChunks rs chunks ∧ (∀ chunk ∈ chunks, Utf8.Aligned chunk.bytes) ∧ e.AllSignable s rs := by
  have hne : ∀ bs ∈ chunks.map Chunk.bytes, bs ≠ [] := by
    intro bs hbs
    obtain ⟨chunk, -, rfl⟩ := List.mem_map.1 hbs
    exact chunk.nonempty
  have hstream : (chunks.map Chunk.bytes).flatten = TrialFraming.stream (WorkerRequest.bytes e.capabilityToken) rs := h
  have hiff := TrialFraming.answersAll_iff e.separable (s := s) hne hstream
  rw [answers_isSome, List.forall_mem_map] at hiff
  exact hiff

end WorkerExecutor

/-! ### Two requests in one chunk -/

namespace Sample

open WorkerExecutor

theorem workerToken_length : (List.replicate 32 (0 : UInt8)).length = 32 := List.length_replicate

/-- An executor with a token of zeros. -/
def workerExecutor : WorkerExecutor where
  token := List.replicate 32 0
  token_length := workerToken_length
  python := ⟨fun _ => .nan, some 4300, 1000, by decide⟩
  generate _ := []
  publicBytes key := key
  sign _ message := message
  tokenHex _ _ := []

/-- A request for a session. -/
def createBytes : List UInt8 := WorkerRequest.bytes workerExecutor.capabilityToken .createSession

theorem createBytes_length : createBytes.length = 102 := by
  rw [createBytes, WorkerRequest.bytes, stringify_flat]
  decide

theorem createBytes_ne : createBytes ≠ [] := workerExecutor.separable.nonempty .createSession

def once : Chunk := ⟨createBytes, createBytes_ne, by rw [createBytes_length]; decide⟩

def twice : Chunk where
  bytes := createBytes ++ createBytes
  nonempty := List.append_ne_nil_of_left_ne_nil createBytes_ne _
  atMost := by
    rw [List.length_append, createBytes_length]
    decide

/-- A connection that nothing was received on. -/
def idle : Connection := ⟨⟨[], 0⟩, [], [], false⟩

/-- One request in one chunk is answered. -/
theorem one_request_answered : workerExecutor.Answered ⟨[], 0⟩ [.createSession] [once] := by
  apply (workerExecutor.answered_iff ⟨[], 0⟩ rfl).2
  refine ⟨⟨[[createBytes]], rfl, ?_⟩, ?_, trivial, trivial⟩
  · exact congrArg (fun bs => [bs]) (List.append_nil createBytes)
  · intro chunk hchunk
    rw [List.mem_singleton.1 hchunk]
    exact workerExecutor.separable.whole_enc .createSession

theorem merged_requests_unanswered : ¬∀ (e : WorkerExecutor) (s : ExecutorState) (rs : List WorkerRequest) (chunks : List Chunk),
    (chunks.map Chunk.bytes).flatten = rs.flatMap (WorkerRequest.bytes e.capabilityToken) → e.Answered s rs chunks := by
  intro h
  have hbytes : ([twice].map Chunk.bytes).flatten =
      [WorkerRequest.createSession, .createSession].flatMap (WorkerRequest.bytes workerExecutor.capabilityToken) := by
    rw [List.map_singleton, List.flatten_singleton, List.flatMap_cons, List.flatMap_singleton]
    rfl
  obtain ⟨hgoing, hanswers⟩ := h workerExecutor ⟨[], 0⟩ _ _ hbytes
  have hlength := TrialFraming.answers_length hanswers
  have hstream : createBytes ++ [] =
      TrialFraming.stream (WorkerRequest.bytes workerExecutor.capabilityToken) [.createSession] := rfl
  -- the first request is no document of its own any more
  rcases workerExecutor.separable.followed (s := idle.state) (m := .createSession) hstream createBytes_ne with
    hwaits | hfails
  · have hfeed : workerExecutor.handleClient ⟨[], 0⟩ [twice] = { idle with buf := twice.bytes } :=
      TrialFraming.feed_waits (r := idle) rfl hwaits
    rw [hfeed] at hlength
    cases hlength
  · have hfeed : workerExecutor.handleClient ⟨[], 0⟩ [twice] = { idle with buf := twice.bytes, failed := true } :=
      TrialFraming.feed_fails (r := idle) rfl hfails
    rw [hfeed] at hgoing
    cases hgoing

end Sample

end Adn
