import Adn.GatewayClient
import Adn.GatewaySurvival
/-!
# How a stream is cut

Both ends of the socket read each chunk as UTF-8 by itself. They do the same
whatever the cuts exactly if no cut falls inside a character (`chunking_iff`).
-/

open Lib Framing

namespace Adn.Gateway

/-! ## Texts out of chunks -/

theorem units_flatten (texts : List (List Char)) : Utf8.units texts.flatten = (texts.map Utf8.units).flatten := by
  induction texts with
  | nil => rfl
  | cons t ts ih => rw [List.flatten_cons, Utf8.units_append, ih, List.map_cons, List.flatten_cons]

theorem chunkText_flatten (chunks : List (List UInt8)) :
    (chunks.map chunkText).flatten = Utf8.units (chunks.map Utf8.decode).flatten := by
  rw [units_flatten, List.map_map]
  rfl

/-- U+FFFD, as a code unit. -/
def lostUnit : UInt16 := 0xFFFD

theorem count_ofCodePoint (c : Char) : (Str.ofCodePoint c.toNat).count lostUnit = Utf8.lost [c] := by
  have hv : c.toNat < 0xD800 ∨ (0xDFFF < c.toNat ∧ c.toNat < 0x110000) := c.valid
  by_cases hc : c = Utf8.replacement
  · subst hc
    decide
  · have hn : c.toNat ≠ 0xFFFD := fun h => hc (Char.toNat_inj.mp h)
    have hl : Utf8.lost [c] = 0 := List.count_eq_zero.mpr (by simpa using Ne.symm hc)
    rw [hl, List.count_eq_zero]
    have hne : ∀ n, n < 0x10000 → n ≠ 0xFFFD → lostUnit ≠ n.toUInt16 := by
      intro n hlt hn h
      have := congrArg UInt16.toNat h
      rw [Text.toNat_toUInt16 hlt] at this
      exact hn this.symm
    unfold Str.ofCodePoint
    split
    · rename_i hlt
      simpa using hne _ hlt hn
    · simp only [List.mem_cons, List.not_mem_nil, or_false, not_or]
      exact ⟨hne _ (by omega) (by omega), hne _ (by omega) (by omega)⟩

theorem count_units (cs : List Char) : (Utf8.units cs).count lostUnit = Utf8.lost cs := by
  induction cs with
  | nil => rfl
  | cons c cs ih =>
    rw [← List.singleton_append, Utf8.units_append, List.count_append, Utf8.lost_append, ih, ← count_ofCodePoint]
    simp [Utf8.units]

theorem count_dropWhile {p : UInt16 → Bool} (hp : p lostUnit = false) (s : Str) :
    (s.dropWhile p).count lostUnit = s.count lostUnit := by
  induction s with
  | nil => rfl
  | cons u s ih =>
    by_cases hu : p u = true
    · have hne : u ≠ lostUnit := by
        rintro rfl
        rw [hp] at hu
        cases hu
      rw [List.dropWhile_cons_of_pos hu, ih, List.count_cons_of_ne hne]
    · rw [List.dropWhile_cons_of_neg hu]

/-- U+FFFD is no white space. -/
theorem count_trim (s : Str) : (Js.trim s).count lostUnit = s.count lostUnit := by
  have hp : Js.isWhiteSpace lostUnit = false := by decide
  rw [Js.trim, List.rdropWhile, List.count_reverse, count_dropWhile hp, List.count_reverse, count_dropWhile hp]

/-! ## One connection -/

/-- Chunks of one connection. -/
def onOne (chunks : List (List UInt8)) : List (ℕ × List UInt8) := chunks.map fun c => (0, c)

variable (g : Gateway)

/-- With one connection, the process is a reader of its lines. -/
theorem run_onOne (chunks : List (List UInt8)) :
    let r := Reader.feedAll 0x0A (g.logLine 0) ⟨[], [], false⟩ (chunks.map chunkText)
    (g.run (onOne chunks)).log = r.state ∧ (g.run (onOne chunks)).conns 0 = ⟨r.buf, r.stopped⟩ := by
  induction chunks using List.reverseRecOn with
  | nil => exact ⟨rfl, rfl⟩
  | append_singleton chunks c ih =>
    obtain ⟨hlog, hconn⟩ := ih
    have hlines := (feedAll_lines 0x0A (g.logLine 0) [] (chunks.map chunkText)).1
    have hsnoc : onOne (chunks ++ [c]) = onOne chunks ++ [(0, c)] := List.map_append
    rw [hsnoc, run_snoc, List.map_append, List.map_singleton, feedAll_snoc]
    generalize Reader.feedAll 0x0A (g.logLine 0) ⟨[], [], false⟩ (chunks.map chunkText) = r at hlog hconn hlines ⊢
    -- a process that has ended has stopped its reader
    have hcrash : (g.run (onOne chunks)).crashed = true → r.stopped = true := by
      intro hc
      obtain ⟨es, hes, hmap, -⟩ := g.runLines_log 0 [] (lines 0x0A (chunks.map chunkText).flatten)
      rw [hes] at hlines
      obtain ⟨hstate, hstop⟩ := Prod.mk.inj hlines
      obtain ⟨e, he, hn⟩ := (g.crashed_iff (g.run_inv (onOne chunks)).handled (g.run (onOne chunks)).conns).mp hc
      rw [hlog, hstate] at he
      rw [hstop, List.any_eq_true]
      refine ⟨e.line, (upTo_subset g.stops _) (hmap ▸ List.mem_map_of_mem he), ?_⟩
      rw [stops, hn, Bool.or_true]
    have hd : ((g.run (onOne chunks)).conns 0).socketDone = r.stopped := by rw [hconn]
    cases hs : r.stopped with
    | true =>
      rw [g.onData_unread c (.inr (hd.trans hs)), feed_stopped 0x0A hs]
      exact ⟨hlog, hconn⟩
    | false =>
      have hc : (g.run (onOne chunks)).crashed = false := Bool.eq_false_iff.mpr fun hc => by rw [hcrash hc] at hs; cases hs
      rw [g.onData_going c hc (hd.trans hs), feed_going 0x0A hs, hconn, hlog]
      exact ⟨rfl, rfl⟩

/-- What the executor does for the chunks of a connection. -/
def answers (chunks : List (List UInt8)) : List Act := (g.run (onOne chunks)).log.flatMap (·.acts)

theorem answers_lines (chunks : List (List UInt8)) : g.answers chunks =
    ((runLines (g.logLine 0) [] (lines 0x0A (chunks.map chunkText).flatten)).1).flatMap (·.acts) := by
  rw [answers, (g.run_onOne chunks).1, ← (feedAll_lines 0x0A (g.logLine 0) [] (chunks.map chunkText)).1]

/-- Both ends of the socket do the same for two ways of cutting: the executor, whatever it was started with, and the
client, whatever requests wait. -/
structure SameBehaviour (chunks chunks' : List (List UInt8)) : Prop where
  executor : ∀ g : Gateway, g.answers chunks = g.answers chunks'
  client : ∀ parse pending, (GatewayClient.receive parse pending chunks).state =
    (GatewayClient.receive parse pending chunks').state

theorem same_of_text {chunks chunks' : List (List UInt8)}
    (h : (chunks.map chunkText).flatten = (chunks'.map chunkText).flatten) : SameBehaviour chunks chunks' where
  executor g := by rw [answers_lines, answers_lines, h]
  client parse pending := by rw [GatewayClient.receive_lines, GatewayClient.receive_lines, h]

theorem text_of_aligned {chunks : List (List UInt8)} {text : List Char} (h : chunks.flatten = Utf8.encode text)
    (ha : ∀ chunk ∈ chunks, Utf8.Aligned chunk) : (chunks.map chunkText).flatten = Utf8.units text := by
  rw [chunkText_flatten, (Utf8.decode_chunks_iff h).mpr ha]

/-! ## An executor that tells lines apart -/

/-- It takes any line for a request that carries the token, and the line. -/
def probe : Gateway where
  identity := ⟨[], [], [], [], []⟩
  expectedToken := List.replicate 32 0
  token_length := Sample.zeros_length
  parse s := some (.obj [(Str.ofString "token", .str (List.replicate 64 0x30)), (Str.ofString "line", .str s)])
  sha256 := id
  sign message _ := message
  isoFromMs _ := []
  clock _ := 0

/-- The line of a request that `probe` dispatches. -/
def probedLine : Act → Option Str
  | .dispatches (.obj [_, (_, .str s)]) => some s
  | _ => none

theorem probe_request {line : Str} (h : isBlank line = false) : probe.request line = some (.obj
    [(Str.ofString "token", .str (List.replicate 64 0x30)), (Str.ofString "line", .str (Js.trim line))]) :=
  if_neg (of_decide_eq_false h)

theorem probe_token (line : Str) : probe.carriesToken (.obj
    [(Str.ofString "token", .str (List.replicate 64 0x30)), (Str.ofString "line", .str line)]) = true := by
  have ht : bufferFromHex (List.replicate 64 0x30) = List.replicate 32 0 := by decide
  simp only [carriesToken, Js.read, Props.get, Props.get?_cons, if_true, Option.getD_some, isTokenValid, ht]
  rfl

theorem probe_handled {line : Str} {r : List Act × Bool} (h : probe.Handled line r) :
    (r.1.filterMap probedLine).flatten = Js.trim line ∧ r.2 = false := by
  cases h with
  | blank h => exact ⟨(of_decide_eq_true h).symm, rfl⟩
  | invalid hb hr => rw [probe_request hb] at hr; cases hr
  | null req hr hn =>
    rw [probe_request (probe.not_blank hr)] at hr
    cases hr
    cases hn
  | unauthorized req hr hn ht =>
    rw [probe_request (probe.not_blank hr)] at hr
    cases hr
    rw [probe_token] at ht
    cases ht
  | dispatched req hr hn ht signed resp =>
    rw [probe_request (probe.not_blank hr)] at hr
    cases hr
    have hs : (signed.map Act.signs).filterMap probedLine = [] := by
      rw [List.filterMap_map]
      exact List.filterMap_eq_nil_iff.mpr fun _ _ => rfl
    refine ⟨?_, rfl⟩
    simp [probedLine, hs]

theorem probe_answers (chunks : List (List UInt8)) : ((probe.answers chunks).filterMap probedLine).flatten =
    (lines 0x0A (chunks.map chunkText).flatten).flatMap Js.trim := by
  rw [answers_lines]
  obtain ⟨es, hes, hmap, hall⟩ := probe.runLines_log 0 [] (lines 0x0A (chunks.map chunkText).flatten)
  have hstops : ∀ l, probe.stops l = false := by
    intro l
    rw [← (probe.onLine_handled l fun _ => 0).stops_eq]
    exact (probe_handled (probe.onLine_handled l fun _ => 0)).2
  rw [upTo_eq_self probe.stops (List.any_eq_false.mpr fun l _ => by rw [hstops l]; exact Bool.false_ne_true)] at hmap
  rw [hes, ← hmap, List.nil_append]
  clear hes hmap
  induction es with
  | nil => rfl
  | cons e es ih =>
    obtain ⟨b, hb⟩ := (hall e List.mem_cons_self).2
    rw [List.flatMap_cons, List.filterMap_append, List.flatten_append, (probe_handled hb).1,
      ih fun e he => hall e (List.mem_cons_of_mem _ he), List.map_cons, List.flatMap_cons]

/-- What was lost of a text that ends a line can be counted in its lines. -/
theorem count_trimmed {s : Str} (h : rest 0x0A s = []) : ((lines 0x0A s).flatMap Js.trim).count lostUnit = s.count lostUnit := by
  have hl := count_lines 0x0A (a := lostUnit) (by decide) s
  rw [h, List.count_nil, Nat.add_zero] at hl
  rw [← hl]
  induction lines 0x0A s with
  | nil => rfl
  | cons l ls ih => rw [List.flatMap_cons, List.count_append, ih, count_trim, List.flatten_cons, List.count_append]

/-! ## Streams -/

/-- The text of a stream of messages, each with its newline. -/
def stream (messages : List (List Char)) : List Char := messages.flatMap (· ++ ['\n'])

theorem stream_newline {messages : List (List Char)} (h : messages ≠ []) : ∃ text, stream messages = text ++ ['\n'] := by
  obtain ⟨init, last, rfl⟩ := (List.eq_nil_or_concat messages).resolve_left h
  refine ⟨stream init ++ last, ?_⟩
  rw [List.concat_eq_append, stream, List.flatMap_append, List.flatMap_singleton, ← stream, List.append_assoc]

theorem rest_newline (cs : List Char) : rest 0x0A (Utf8.units (cs ++ ['\n'])) = [] := by
  rw [Utf8.units_append]
  exact rest_snoc 0x0A (Utf8.units cs)

/-- `probe` does the same only if no character is cut. -/
theorem aligned_of_same {messages : List (List Char)} {chunks : List (List UInt8)}
    (h : chunks.flatten = Utf8.encode (stream messages)) (hs : SameBehaviour chunks [Utf8.encode (stream messages)]) :
    ∀ chunk ∈ chunks, Utf8.Aligned chunk := by
  by_cases hm : messages = []
  · subst hm
    intro chunk hc
    rw [List.flatten_eq_nil_iff.mp h chunk hc]
    exact Utf8.aligned_encode []
  · obtain ⟨text, ht⟩ := stream_newline hm
    rw [ht] at h hs
    have hbytes : chunks.flatten = Utf8.encode text ++ [0x0A] := by
      rw [h, Utf8.encode_append]
      rfl
    obtain ⟨cs, hcs⟩ := Utf8.chunks_newline hbytes
    -- the same lines, white space apart, and so as often U+FFFD
    have hlines := congrArg (fun acts => (acts.filterMap probedLine).flatten.count lostUnit) (hs.executor probe)
    simp only [probe_answers, chunkText_flatten chunks, hcs, List.map_singleton, List.flatten_singleton,
      chunkText_encode, count_trimmed (rest_newline _), count_units] at hlines
    refine (Utf8.lost_chunks (q := []) (fun b hb => nomatch hb) h).2 ?_
    rw [hcs, hlines]

theorem aligned_of_ascii {chunks : List (List UInt8)} {text : List Char} (h : chunks.flatten = Utf8.encode text)
    (ha : ∀ c ∈ text, c.toNat < 0x80) : ∀ chunk ∈ chunks, Utf8.Aligned chunk := by
  induction chunks generalizing text with
  | nil => exact fun _ hc => nomatch hc
  | cons c cs ih =>
    rw [List.flatten_cons] at h
    rcases Utf8.cut_encode h with ⟨t1, t2, rfl, rfl, hr⟩ | ⟨t1, x, t2, p, q, rfl, rfl, hr, hq, hne, -⟩
    · intro chunk hc
      rcases List.mem_cons.mp hc with rfl | hc
      · exact Utf8.aligned_encode t1
      · exact ih hr (fun c hc => ha c (List.mem_append_right t1 hc)) chunk hc
    · -- a cut character has a byte that is not ASCII
      exfalso
      obtain ⟨b, hb⟩ := List.exists_mem_of_ne_nil q hne
      have hmem : b ∈ Utf8.encode (t1 ++ x :: t2) := by
        rw [← h, hr]
        exact List.mem_append_right _ (List.mem_append_left _ hb)
      obtain ⟨c, hc, hbc⟩ := List.mem_flatMap.mp hmem
      have hlt := ha c hc
      rw [Text.utf8CodePoint, if_pos hlt, List.mem_singleton] at hbc
      have := (hq b hb).1
      rw [hbc, Utf8.toNat_toUInt8 (by omega)] at this
      omega

theorem ascii_of_same {messages : List (List Char)}
    (h : ∀ chunks : List (List UInt8), chunks.flatten = Utf8.encode (stream messages) → ∀ chunk ∈ chunks, Utf8.Aligned chunk) :
    ∀ c ∈ stream messages, c.toNat < 0x80 := by
  intro c hc
  obtain ⟨t1, t2, ht⟩ := List.append_of_mem hc
  obtain ⟨b, rest, hb, -, hshort⟩ := Utf8.utf8CodePoint_shape c
  by_contra hn
  -- cut after the character's first byte
  have hflat : [Utf8.encode t1 ++ [b], rest ++ Utf8.encode t2].flatten = Utf8.encode (stream messages) := by
    rw [ht, Utf8.encode_append, Utf8.encode_cons, hb]
    simp
  have ha := h _ hflat _ List.mem_cons_self
  have hrest : 0 < rest.length := by
    have hlen := congrArg List.length hb
    rw [Text.utf8CodePoint, if_neg hn] at hlen
    split_ifs at hlen <;> simp at hlen <;> omega
  rw [Utf8.Aligned, Utf8.decode_encode_append, Utf8.encode_append, Utf8.decode_cons, hshort [] hrest,
    Utf8.encode_cons] at ha
  have := congrArg List.length (List.append_cancel_left ha)
  rw [List.length_append, Utf8.length_replacement, List.length_singleton] at this
  omega

/-- A way of cutting agrees with those that cut no character exactly if it cuts none; any two agree exactly if the stream
is ASCII. -/
theorem chunking_iff (messages : List (List Char)) :
    (∀ chunks : List (List UInt8), chunks.flatten = Utf8.encode (stream messages) →
      ((∀ chunks' : List (List UInt8), chunks'.flatten = Utf8.encode (stream messages) →
          (∀ chunk ∈ chunks', Utf8.Aligned chunk) → SameBehaviour chunks chunks') ↔
        ∀ chunk ∈ chunks, Utf8.Aligned chunk)) ∧
    ((∀ chunks chunks' : List (List UInt8), chunks.flatten = Utf8.encode (stream messages) →
        chunks'.flatten = Utf8.encode (stream messages) → SameBehaviour chunks chunks') ↔
      ∀ c ∈ stream messages, c.toNat < 0x80) := by
  have hwhole : [Utf8.encode (stream messages)].flatten = Utf8.encode (stream messages) := List.flatten_singleton
  constructor
  · intro chunks h
    constructor
    · intro hs
      refine aligned_of_same h (hs _ hwhole ?_)
      intro chunk hc
      rw [List.mem_singleton.mp hc]
      exact Utf8.aligned_encode _
    · intro ha chunks' h' ha'
      exact same_of_text ((text_of_aligned h ha).trans (text_of_aligned h' ha').symm)
  · constructor
    · intro hs
      exact ascii_of_same fun chunks h => aligned_of_same h (hs chunks _ h hwhole)
    · intro ha chunks chunks' h h'
      exact same_of_text ((text_of_aligned h (aligned_of_ascii h ha)).trans
        (text_of_aligned h' (aligned_of_ascii h' ha)).symm)

end Adn.Gateway

namespace Adn.Sample

open Adn.Gateway

/-- A health request with an id. -/
def healthMessage (id : List Char) : List Char :=
  "\x7b\"token\":\"".toList ++ List.replicate 64 '0' ++ "\",\"method\":\"health\",\"id\":\"".toList ++ id ++
    "\"\x7d".toList

def healthRequest (id : List Char) : Js := .obj (Props.ofList [("token", .str (List.replicate 64 0x30)),
  ("method", .str "health"), ("id", .str (Utf8.units id))])

/-- An executor that reads health requests of two ids. -/
def healthGateway : Gateway where
  identity := ⟨List.replicate 32 0, "00", "agent", "did:key:ed25519:agent", "gateway-1"⟩
  expectedToken := List.replicate 32 0
  token_length := zeros_length
  parse s :=
    if s = Utf8.units (healthMessage ['é']) then some (healthRequest ['é'])
    else if s = Utf8.units (healthMessage ['\uFFFD', '\uFFFD']) then some (healthRequest ['\uFFFD', '\uFFFD'])
    else none
  sha256 := id
  sign message _ := message
  isoFromMs _ := "2026-01-01T00:00:00.000+00:00"
  clock _ := 0

/-- The bytes of the message, cut inside its one `é`. -/
def cutMessage : List (List UInt8) :=
  [Utf8.encode ("\x7b\"token\":\"".toList ++ List.replicate 64 '0' ++ "\",\"method\":\"health\",\"id\":\"".toList) ++
    [0xC3], 0xA9 :: Utf8.encode "\"\x7d\n".toList]

/-- One line, for chunks that read as one. -/
theorem answers_line (g : Gateway) {chunks : List (List UInt8)} {line : Str}
    (h : lines 0x0A (chunks.map chunkText).flatten = [line]) :
    g.answers chunks = (g.onLine line fun i => g.clock i).1 := by
  rw [answers_lines, h]
  simp only [runLines, logLine, List.length_nil, Nat.mul_zero, Nat.zero_add, List.nil_append]
  split <;> exact List.append_nil _

theorem whole_line : lines 0x0A ([Utf8.encode (stream [healthMessage ['é']])].map chunkText).flatten =
    [Utf8.units (healthMessage ['é'])] := by
  rw [List.map_singleton, List.flatten_singleton, chunkText_encode]
  decide +kernel

theorem cut_line : lines 0x0A (cutMessage.map chunkText).flatten =
    [Utf8.units (healthMessage ['\uFFFD', '\uFFFD'])] := by
  have h1 : Utf8.decode [0xC3] = ['\uFFFD'] := by
    have hf : Utf8.first (0xC3 : UInt8).toNat [] = ('\uFFFD', []) := by decide
    rw [Utf8.decode_cons, hf, Utf8.decode_nil]
  rw [cutMessage, chunkText_flatten, List.map_cons, List.map_singleton, Utf8.decode_encode_append, h1,
    Utf8.decode_tail ⟨by decide, by decide⟩, Utf8.decode_encode]
  decide +kernel

theorem cut_differs : healthGateway.answers cutMessage ≠
    healthGateway.answers [Utf8.encode (stream [healthMessage ['é']])] := by
  intro h
  rw [answers_line _ cut_line, answers_line _ whole_line] at h
  have ht : Js.trim (Utf8.units (healthMessage ['é'])) = Utf8.units (healthMessage ['é']) := by decide +kernel
  have hr : healthGateway.request (Utf8.units (healthMessage ['é'])) = some (healthRequest ['é']) := by
    rw [request, ht, if_neg (by decide)]
    simp only [healthGateway, if_true]
  have hk : healthGateway.carriesToken (healthRequest ['é']) = true := by decide +kernel
  have hm := healthGateway.dispatches_of_token hr hk fun i => healthGateway.clock i
  rw [← h] at hm
  -- the line with the cut character is another request
  have hh := healthGateway.onLine_handled (Utf8.units (healthMessage ['\uFFFD', '\uFFFD'])) fun i => healthGateway.clock i
  generalize healthGateway.onLine (Utf8.units (healthMessage ['\uFFFD', '\uFFFD'])) _ = r at hh hm
  obtain ⟨acts, b⟩ := r
  have hcut := (hh.dispatches hm).1
  have htc : Js.trim (Utf8.units (healthMessage ['\uFFFD', '\uFFFD'])) =
      Utf8.units (healthMessage ['\uFFFD', '\uFFFD']) := by decide +kernel
  have hne : Utf8.units (healthMessage ['\uFFFD', '\uFFFD']) ≠ Utf8.units (healthMessage ['é']) := by decide +kernel
  rw [request, htc, if_neg (by decide)] at hcut
  simp only [healthGateway, if_neg hne, if_true, healthRequest, Props.ofList, List.map_cons, Option.some.injEq,
    Js.obj.injEq, List.cons.injEq, Prod.mk.injEq, true_and, Js.str.injEq, and_true, List.map_nil] at hcut
  exact absurd hcut (by decide)

/-- A request whose one `é` comes in two chunks is dispatched with another id. -/
theorem cut_request_changed : cutMessage.flatten = Utf8.encode (stream [healthMessage ['é']]) ∧
    [Utf8.encode (stream [healthMessage ['é']])].flatten = Utf8.encode (stream [healthMessage ['é']]) ∧
    ¬SameBehaviour cutMessage [Utf8.encode (stream [healthMessage ['é']])] :=
  ⟨by decide +kernel, List.flatten_singleton, fun h => cut_differs (h.executor healthGateway)⟩

end Adn.Sample
