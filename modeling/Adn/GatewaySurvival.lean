import Adn.GatewayExecutor
/-!
# What the executor survives

`Handled` lists what can happen to one line. A run of chunks, on any connections
and cut anywhere, handles the lines of each connection in order, up to the first
that does not carry the token (`run_inv`); a line that reads `null` ends the process
(`survives_iff`).
-/

open Lib Framing

namespace Adn.Gateway

variable (g : Gateway)

/-! ## One line -/

/-- The document on a line. -/
def request (line : Str) : Option Js := if Js.trim line = [] then none else g.parse (Js.trim line)

def carriesToken (req : Js) : Bool :=
  match req.read "token" with
  | .ok token => g.isTokenValid token
  | .error _ => false

def isBlank (line : Str) : Bool := Js.trim line = []

/-- The line reads `null`. -/
def isNull (line : Str) : Bool :=
  match g.request line with
  | some req => req.isNullish
  | none => false

/-- The line is a document, and carries no valid token. -/
def unauthorized (line : Str) : Bool :=
  match g.request line with
  | some req => !req.isNullish && !g.carriesToken req
  | none => false

/-- The line ends the data handler's loop. -/
def stops (line : Str) : Bool := g.unauthorized line || g.isNull line

/-- What can happen to a line. -/
inductive Handled (line : Str) : List Act × Bool → Prop where
  | blank (h : isBlank line = true) : Handled line ([], false)
  | invalid (h : isBlank line = false) (hr : g.request line = none) (resp : Props) :
      Handled line ([.writes (jsonLine resp)], false)
  | null (req : Js) (hr : g.request line = some req) (hn : req.isNullish = true) (message : Str) :
      Handled line ([.throws message], true)
  | unauthorized (req : Js) (hr : g.request line = some req) (hn : req.isNullish = false)
      (ht : g.carriesToken req = false) (resp : Props) : Handled line ([.writes (jsonLine resp), .ends], true)
  | dispatched (req : Js) (hr : g.request line = some req) (hn : req.isNullish = false)
      (ht : g.carriesToken req = true) (signed : List (List UInt8)) (resp : Props) :
      Handled line (.dispatches req :: signed.map .signs ++ [.writes (jsonLine resp)], false)

theorem read_of_nullish {v : Js} (h : v.isNullish = true) (k : Str) : ∃ message, v.read k = .error message := by
  cases v with
  | undefined => exact ⟨_, rfl⟩
  | null => exact ⟨_, rfl⟩
  | _ => cases h

theorem read_of_value {v : Js} (h : v.isNullish = false) (k : Str) : ∃ w, v.read k = .ok w := by
  cases v with
  | undefined => cases h
  | null => cases h
  | _ => exact ⟨_, rfl⟩

theorem onRequest_null {req : Js} (h : req.isNullish = true) (now : ℕ → ℤ) :
    ∃ message, g.onRequest req now = .error message := by
  obtain ⟨message, hm⟩ := read_of_nullish h "token"
  exact ⟨message, by rw [onRequest, hm]; rfl⟩

theorem onRequest_unauthorized {req : Js} (h : req.isNullish = false) (ht : g.carriesToken req = false) (now : ℕ → ℤ) :
    ∃ resp, g.onRequest req now = .ok ([.writes (jsonLine resp), .ends], true) := by
  obtain ⟨token, hk⟩ := read_of_value h "token"
  obtain ⟨id, hid⟩ := read_of_value h "id"
  rw [carriesToken, hk] at ht
  simp only at ht
  refine ⟨Props.ofList [("id", id), ("error", .str "unauthorized")], ?_⟩
  rw [onRequest, hk]
  simp only [bind, Except.bind, ht, Bool.not_false, if_true, hid]
  rfl

theorem onRequest_dispatched {req : Js} (h : req.isNullish = false) (ht : g.carriesToken req = true) (now : ℕ → ℤ) :
    ∃ (signed : List (List UInt8)) (resp : Props), g.onRequest req now =
      .ok (.dispatches req :: signed.map .signs ++ [.writes (jsonLine resp)], false) := by
  obtain ⟨token, hk⟩ := read_of_value h "token"
  obtain ⟨id, hid⟩ := read_of_value h "id"
  rw [carriesToken, hk] at ht
  simp only at ht
  rw [onRequest, hk]
  simp only [bind, Except.bind, ht, Bool.not_true, Bool.false_eq_true, if_false]
  -- what `handleRequest` throws is answered too
  cases g.handleRequest req now with
  | ok r => exact ⟨r.1, r.2, rfl⟩
  | error message =>
    rw [hid]
    exact ⟨[], Props.ofList [("id", id), ("error", .str message)], rfl⟩

theorem onLine_handled (line : Str) (now : ℕ → ℤ) : g.Handled line (g.onLine line now) := by
  unfold onLine
  by_cases hb : Js.trim line = []
  · rw [if_pos hb]
    exact .blank (decide_eq_true hb)
  · have hblank : isBlank line = false := decide_eq_false hb
    have hr : g.request line = g.parse (Js.trim line) := if_neg hb
    rw [if_neg hb]
    cases hp : g.parse (Js.trim line) with
    | none => exact .invalid hblank (hr.trans hp) _
    | some req =>
      have hreq := hr.trans hp
      cases hn : req.isNullish with
      | true =>
        obtain ⟨message, he⟩ := g.onRequest_null hn now
        simp only [he]
        exact .null req hreq hn message
      | false =>
        cases ht : g.carriesToken req with
        | false =>
          obtain ⟨resp, he⟩ := g.onRequest_unauthorized hn ht now
          simp only [he]
          exact .unauthorized req hreq hn ht resp
        | true =>
          obtain ⟨signed, resp, he⟩ := g.onRequest_dispatched hn ht now
          simp only [he]
          exact .dispatched req hreq hn ht signed resp

theorem Handled.stops_eq {g : Gateway} {line : Str} {r : List Act × Bool} (h : g.Handled line r) :
    r.2 = g.stops line := by
  cases h with
  | blank h => simp [stops, Gateway.unauthorized, isNull, request, of_decide_eq_true h]
  | invalid _ hr => simp [stops, Gateway.unauthorized, isNull, hr]
  | null req hr hn => simp [stops, isNull, hr, hn]
  | unauthorized req hr hn ht => simp [stops, Gateway.unauthorized, hr, hn, ht]
  | dispatched req hr hn ht => simp [stops, Gateway.unauthorized, isNull, hr, hn, ht]

theorem Handled.threw_eq {g : Gateway} {line : Str} {acts : List Act} {b : Bool} (h : g.Handled line (acts, b)) (conn : ℕ) :
    (Entry.mk conn line acts).threw = g.isNull line := by
  cases h with
  | blank h => simp [Entry.threw, isNull, request, of_decide_eq_true h]
  | invalid _ hr => simp [Entry.threw, isNull, hr]
  | null req hr hn => simp [Entry.threw, isNull, hr, hn]
  | unauthorized req hr hn => simp [Entry.threw, isNull, hr, hn]
  | dispatched req hr hn => simp [Entry.threw, isNull, hr, hn]

/-! ## A connection -/

/-- The lines of a connection that the process has handled. -/
def Process.linesOf (x : Process) (conn : ℕ) : List Str := (x.log.filter (·.conn = conn)).map (·.line)

/-- The text that chunks bring a connection. -/
def textOf (conn : ℕ) (chunks : List (ℕ × List UInt8)) : Str :=
  (chunks.filter (·.1 = conn)).flatMap fun c => chunkText c.2

theorem chunkText_encode (cs : List Char) : chunkText (Utf8.encode cs) = Utf8.units cs := by
  rw [chunkText, Utf8.decode_encode]

/-- The whole lines of a connection. -/
def linesSent (conn : ℕ) (chunks : List (ℕ × List UInt8)) : List Str := lines 0x0A (textOf conn chunks)

/-- The lines of a connection that are to be handled. -/
def linesDue (conn : ℕ) (chunks : List (ℕ × List UInt8)) : List Str := upTo g.unauthorized (linesSent conn chunks)

theorem runLines_log (conn : ℕ) (log : List Entry) (ls : List Str) : ∃ es : List Entry,
    runLines (g.logLine conn) log ls = (log ++ es, ls.any g.stops) ∧ es.map (·.line) = upTo g.stops ls ∧
      ∀ e ∈ es, e.conn = conn ∧ ∃ b, g.Handled e.line (e.acts, b) := by
  induction ls generalizing log with
  | nil => exact ⟨[], by rw [runLines, List.append_nil]; rfl, rfl, by simp⟩
  | cons l ls ih =>
    have hl := g.onLine_handled l fun i => g.clock (3 * log.length + i)
    have hs : (g.logLine conn log l).2 = g.stops l := hl.stops_eq
    generalize he : (g.onLine l fun i => g.clock (3 * log.length + i)) = r at hl hs
    have h1 : (g.logLine conn log l).1 = log ++ [⟨conn, l, r.1⟩] := by
      rw [logLine, he]
    rw [runLines, hs, h1, upTo, List.any_cons]
    cases hst : g.stops l with
    | true =>
      refine ⟨[⟨conn, l, r.1⟩], by simp, rfl, ?_⟩
      rintro e (_ | ⟨_, h⟩)
      · exact ⟨rfl, r.2, hl⟩
      · cases h
    | false =>
      obtain ⟨es, h, hm, hall⟩ := ih (log ++ [⟨conn, l, r.1⟩])
      refine ⟨⟨conn, l, r.1⟩ :: es, by simp [h], by simp [hm], ?_⟩
      rintro e (_ | ⟨_, he⟩)
      · exact ⟨rfl, r.2, hl⟩
      · exact hall e he

/-! ## A run -/

/-- What holds after chunks. -/
structure Inv (chunks : List (ℕ × List UInt8)) (x : Process) : Prop where
  handled : ∀ e ∈ x.log, ∃ b, g.Handled e.line (e.acts, b)
  due : ∀ c, x.linesOf c <+: g.linesDue c chunks
  /-- A process that runs has handled all that it was to handle, and keeps the rest. -/
  going : x.crashed = false → ∀ c, x.linesOf c = g.linesDue c chunks ∧
    (x.conns c).socketDone = (linesSent c chunks).any g.unauthorized ∧
    ((x.conns c).socketDone = false → (x.conns c).buf = rest 0x0A (textOf c chunks))

theorem run_snoc (chunks : List (ℕ × List UInt8)) (c : ℕ × List UInt8) :
    g.run (chunks ++ [c]) = g.onData (g.run chunks) c.1 c.2 := by
  rw [run, List.foldl_append]
  rfl

theorem textOf_snoc (conn : ℕ) (chunks : List (ℕ × List UInt8)) (c : ℕ × List UInt8) :
    textOf conn (chunks ++ [c]) = textOf conn chunks ++ if c.1 = conn then chunkText c.2 else [] := by
  rw [textOf, List.filter_append, List.flatMap_append, ← textOf]
  by_cases h : c.1 = conn
  · simp [h]
  · simp [h]

theorem linesDue_snoc (conn : ℕ) (chunks : List (ℕ × List UInt8)) (c : ℕ × List UInt8) :
    g.linesDue conn chunks <+: g.linesDue conn (chunks ++ [c]) := by
  rw [linesDue, linesDue, linesSent, linesSent, textOf_snoc, lines_append]
  exact upTo_append_prefix _ _ _

theorem textOf_other {conn : ℕ} {c : ℕ × List UInt8} (h : c.1 ≠ conn) (chunks : List (ℕ × List UInt8)) :
    textOf conn (chunks ++ [c]) = textOf conn chunks := by rw [textOf_snoc, if_neg h, List.append_nil]

theorem linesOf_append (conns : ℕ → Connection) (log es : List Entry) (c : ℕ) :
    Process.linesOf ⟨conns, log ++ es⟩ c = Process.linesOf ⟨conns, log⟩ c ++ Process.linesOf ⟨conns, es⟩ c := by
  rw [Process.linesOf, List.filter_append, List.map_append]
  rfl

theorem linesOf_self {conns : ℕ → Connection} {es : List Entry} {c : ℕ} (h : ∀ e ∈ es, e.conn = c) :
    Process.linesOf ⟨conns, es⟩ c = es.map (·.line) := by
  rw [Process.linesOf, List.filter_eq_self.mpr fun e he => decide_eq_true (h e he)]

theorem linesOf_other {conns : ℕ → Connection} {es : List Entry} {c d : ℕ} (h : ∀ e ∈ es, e.conn = c) (hd : c ≠ d) :
    Process.linesOf ⟨conns, es⟩ d = [] := by
  rw [Process.linesOf, List.filter_eq_nil_iff.mpr, List.map_nil]
  intro e he hde
  exact hd ((h e he).symm.trans (of_decide_eq_true hde))

theorem inv_started : g.Inv [] started where
  handled _ he := nomatch he
  due _ := List.nil_prefix
  going _ _ := ⟨rfl, rfl, fun _ => rfl⟩

theorem stops_of_unauthorized {l : Str} (h : g.unauthorized l = true) : g.stops l = true := by rw [stops, h, Bool.true_or]

/-- A chunk that is not read: the connection is done with, or there is no process. -/
theorem inv_unread {chunks : List (ℕ × List UInt8)} {x : Process} (h : g.Inv chunks x) (c : ℕ × List UInt8)
    (hu : x.crashed = true ∨ (x.conns c.1).socketDone = true) : g.Inv (chunks ++ [c]) x where
  handled := h.handled
  due d := (h.due d).trans (g.linesDue_snoc d chunks c)
  going hc d := by
    obtain ⟨h1, h2, h3⟩ := h.going hc d
    by_cases hd : c.1 = d
    · subst hd
      have hdone := hu.resolve_left (by simp [hc])
      rw [hdone] at h2 ⊢
      refine ⟨?_, ?_, fun h => nomatch h⟩
      · rw [h1, linesDue, linesDue, linesSent, linesSent, textOf_snoc, lines_append, upTo_append]
        exact (if_pos h2.symm).symm
      · rw [linesSent, textOf_snoc, lines_append, List.any_append]
        rw [linesSent] at h2
        rw [← h2, Bool.true_or]
    · rw [linesDue, linesSent, textOf_other hd]
      exact ⟨h1, h2, h3⟩

theorem onData_unread {x : Process} {c : ℕ} (chunk : List UInt8)
    (h : x.crashed = true ∨ (x.conns c).socketDone = true) : g.onData x c chunk = x :=
  if_pos (Bool.or_eq_true_iff.mpr h)

theorem onData_going {x : Process} {c : ℕ} (chunk : List UInt8) (hc : x.crashed = false)
    (hd : (x.conns c).socketDone = false) : g.onData x c chunk =
      let r := drain 0x0A (g.logLine c) x.log ((x.conns c).buf ++ chunkText chunk)
      { conns := fun d => if d = c then ⟨r.buf, r.stopped⟩ else x.conns d, log := r.state } :=
  if_neg (by rw [hc, hd]; exact Bool.false_ne_true)

/-- What a chunk does that is read: its lines go to the log, up to the first that stops the loop. -/
theorem onData_read {x : Process} {c : ℕ} (chunk : List UInt8) (hc : x.crashed = false)
    (hd : (x.conns c).socketDone = false) : ∃ es : List Entry,
    (g.onData x c chunk).log = x.log ++ es ∧
      es.map (·.line) = upTo g.stops (lines 0x0A ((x.conns c).buf ++ chunkText chunk)) ∧
      (∀ e ∈ es, e.conn = c ∧ ∃ b, g.Handled e.line (e.acts, b)) ∧
      ((g.onData x c chunk).conns c).socketDone = (lines 0x0A ((x.conns c).buf ++ chunkText chunk)).any g.stops ∧
      (((g.onData x c chunk).conns c).socketDone = false →
        ((g.onData x c chunk).conns c).buf = rest 0x0A ((x.conns c).buf ++ chunkText chunk)) ∧
      ∀ d ≠ c, (g.onData x c chunk).conns d = x.conns d := by
  obtain ⟨hrun, hrest⟩ := drain_lines 0x0A (g.logLine c) x.log ((x.conns c).buf ++ chunkText chunk)
  obtain ⟨es, hes, hmap, hall⟩ := g.runLines_log c x.log (lines 0x0A ((x.conns c).buf ++ chunkText chunk))
  rw [hes] at hrun
  obtain ⟨hlog, hstop⟩ := Prod.mk.inj hrun
  rw [g.onData_going chunk hc hd]
  refine ⟨es, hlog, hmap, hall, ?_, ?_, ?_⟩
  · simp only [if_true]
    exact hstop
  · simp only [if_true]
    exact hrest
  · intro d hd
    simp only [if_neg hd]

theorem crashed_iff {log : List Entry} (h : ∀ e ∈ log, ∃ b, g.Handled e.line (e.acts, b)) (conns : ℕ → Connection) :
    Process.crashed ⟨conns, log⟩ = true ↔ ∃ e ∈ log, g.isNull e.line = true := by
  rw [Process.crashed, List.any_eq_true]
  constructor
  · rintro ⟨e, he, ht⟩
    obtain ⟨b, hb⟩ := h e he
    exact ⟨e, he, (hb.threw_eq e.conn).symm.trans ht⟩
  · rintro ⟨e, he, ht⟩
    obtain ⟨b, hb⟩ := h e he
    exact ⟨e, he, (hb.threw_eq e.conn).trans ht⟩

/-- A chunk that is read. -/
theorem inv_read {chunks : List (ℕ × List UInt8)} {x : Process} (h : g.Inv chunks x) (c : ℕ × List UInt8)
    (hc : x.crashed = false) (hd : (x.conns c.1).socketDone = false) : g.Inv (chunks ++ [c]) (g.onData x c.1 c.2) := by
  obtain ⟨hlines, hdone, hbuf⟩ := h.going hc c.1
  rw [hd] at hdone
  obtain ⟨es, hlog, hmap, hall, hstop, hrest, hother⟩ := g.onData_read c.2 hc hd
  rw [hbuf hd] at hmap hstop hrest
  generalize g.onData x c.1 c.2 = y at hlog hstop hrest hother ⊢
  obtain ⟨conns, log⟩ := y
  simp only at hlog
  subst hlog
  -- the connection's lines are the old ones and those of the chunk
  have hsent : linesSent c.1 (chunks ++ [c]) =
      linesSent c.1 chunks ++ lines 0x0A (rest 0x0A (textOf c.1 chunks) ++ chunkText c.2) := by
    rw [linesSent, textOf_snoc, if_pos rfl, lines_append, ← linesSent]
  have hdue : g.linesDue c.1 (chunks ++ [c]) =
      x.linesOf c.1 ++ upTo g.unauthorized (lines 0x0A (rest 0x0A (textOf c.1 chunks) ++ chunkText c.2)) := by
    rw [linesDue, hsent, upTo_append, if_neg (by rw [← hdone]; exact Bool.false_ne_true), hlines, linesDue,
      upTo_eq_self g.unauthorized hdone.symm]
  have hof : Process.linesOf ⟨conns, x.log ++ es⟩ c.1 =
      x.linesOf c.1 ++ upTo g.stops (lines 0x0A (rest 0x0A (textOf c.1 chunks) ++ chunkText c.2)) := by
    rw [linesOf_append, linesOf_self fun e he => (hall e he).1, hmap]
    rfl
  have hofOther : ∀ d, c.1 ≠ d → Process.linesOf ⟨conns, x.log ++ es⟩ d = x.linesOf d := by
    intro d hcd
    rw [linesOf_append, linesOf_other (fun e he => (hall e he).1) hcd, List.append_nil]
    rfl
  have hhandled : ∀ e ∈ x.log ++ es, ∃ b, g.Handled e.line (e.acts, b) := by
    intro e he
    rcases List.mem_append.mp he with he | he
    · exact h.handled e he
    · exact (hall e he).2
  refine ⟨hhandled, ?_, ?_⟩
  · intro d
    by_cases hcd : c.1 = d
    · subst hcd
      rw [hof, hdue]
      exact (List.prefix_append_right_inj _).mpr (upTo_mono _ (fun l => g.stops_of_unauthorized) _)
    · rw [hofOther d hcd]
      exact (h.due d).trans (g.linesDue_snoc d chunks c)
  · intro hcrash d
    -- no line of the chunk read `null`, so that stopping is being unauthorized
    have hnull : ∀ l ∈ upTo g.stops (lines 0x0A (rest 0x0A (textOf c.1 chunks) ++ chunkText c.2)), g.isNull l = false := by
      intro l hl
      rw [← hmap] at hl
      obtain ⟨e, he, rfl⟩ := List.mem_map.mp hl
      refine Bool.eq_false_iff.mpr fun hn => ?_
      have := (g.crashed_iff hhandled conns).mpr ⟨e, List.mem_append_right _ he, hn⟩
      rw [hcrash] at this
      cases this
    obtain ⟨hup, hany⟩ := upTo_or g.unauthorized hnull
    by_cases hcd : c.1 = d
    · subst hcd
      refine ⟨?_, ?_, ?_⟩
      · rw [hof, hdue]
        exact congrArg _ hup
      · rw [hstop, hsent, List.any_append, ← hdone, Bool.false_or]
        exact hany
      · intro hs
        rw [hrest hs, textOf_snoc, if_pos rfl]
        exact (rest_append _ _ _).symm
    · rw [hofOther d hcd, linesDue, linesSent, textOf_other hcd, hother d (Ne.symm hcd)]
      exact h.going hc d

theorem run_inv (chunks : List (ℕ × List UInt8)) : g.Inv chunks (g.run chunks) := by
  induction chunks using List.reverseRecOn with
  | nil => exact g.inv_started
  | append_singleton chunks c ih =>
    rw [run_snoc]
    by_cases hu : (g.run chunks).crashed = true ∨ ((g.run chunks).conns c.1).socketDone = true
    · rw [g.onData_unread c.2 hu]
      exact g.inv_unread ih c hu
    · obtain ⟨hc, hd⟩ := not_or.mp hu
      exact g.inv_read ih c (Bool.not_eq_true _ ▸ hc) (Bool.not_eq_true _ ▸ hd)

/-! ## Survival -/

/-- The texts that are written for a line. -/
def Entry.written (e : Entry) : List Str := e.acts.filterMap fun
  | .writes text => some text
  | _ => none

def Entry.ended (e : Entry) : Bool := e.acts.any fun
  | .ends => true
  | _ => false

/-- Chunks after which the executor has done what it owes every connection; `owed` are the lines that a reply is owed. -/
structure Survives (owed : Str → Bool) (chunks : List (ℕ × List UInt8)) : Prop where
  /-- The data handler never throws. -/
  no_throw : ∀ e ∈ (g.run chunks).log, e.threw = false
  /-- Every whole line is taken, up to the first that carries no token. -/
  taken : ∀ c, (g.run chunks).linesOf c = g.linesDue c chunks
  /-- One line, one reply. -/
  replied : ∀ e ∈ (g.run chunks).log, owed e.line = true → ∃ resp, e.written = [jsonLine resp]
  /-- The connection is closed after a line that carries no token, and after no other. -/
  closed : ∀ e ∈ (g.run chunks).log, e.ended = g.unauthorized e.line

/-- What an executor does without the token. -/
structure Guarded (chunks : List (ℕ × List UInt8)) : Prop where
  dispatches : ∀ e ∈ (g.run chunks).log, ∀ req, .dispatches req ∈ e.acts →
    g.request e.line = some req ∧ g.carriesToken req = true
  signs : ∀ e ∈ (g.run chunks).log, ∀ message, .signs message ∈ e.acts →
    ∃ req, g.request e.line = some req ∧ g.carriesToken req = true
  /-- Nothing on a connection is handled after its first line that carries no token. -/
  last : ∀ before e after, (g.run chunks).log = before ++ e :: after → g.unauthorized e.line = true →
    ∀ e' ∈ after, e'.conn ≠ e.conn

theorem Handled.ended_eq {g : Gateway} {e : Entry} {b : Bool} (h : g.Handled e.line (e.acts, b)) :
    e.ended = g.unauthorized e.line := by
  obtain ⟨conn, line, acts⟩ := e
  cases h with
  | blank h => simp [Entry.ended, Gateway.unauthorized, request, of_decide_eq_true h]
  | invalid _ hr => simp [Entry.ended, Gateway.unauthorized, hr]
  | null req hr hn => simp [Entry.ended, Gateway.unauthorized, hr, hn]
  | unauthorized req hr hn ht => simp [Entry.ended, Gateway.unauthorized, hr, hn, ht]
  | dispatched req hr hn ht => simp [Entry.ended, Gateway.unauthorized, hr, hn, ht]

theorem not_blank {line : Str} {req : Js} (h : g.request line = some req) : isBlank line = false := by
  unfold request at h
  split at h
  · cases h
  · rename_i hb
    exact decide_eq_false hb

theorem written_dispatched (conn : ℕ) (line : Str) (req : Js) (signed : List (List UInt8)) (text : Str) :
    (Entry.mk conn line (.dispatches req :: signed.map .signs ++ [.writes text])).written = [text] := by
  have hs : (signed.map Act.signs).filterMap (fun | .writes t => some t | _ => none) = ([] : List Str) := by
    rw [List.filterMap_map]
    exact List.filterMap_eq_nil_iff.mpr fun _ _ => rfl
  simp only [Entry.written, List.filterMap_append, List.filterMap_cons, hs]
  rfl

theorem Handled.written_iff {g : Gateway} {e : Entry} {b : Bool} (h : g.Handled e.line (e.acts, b)) :
    (∃ resp, e.written = [jsonLine resp]) ↔ isBlank e.line = false ∧ g.isNull e.line = false := by
  obtain ⟨conn, line, acts⟩ := e
  cases h with
  | blank h => simp [Entry.written, h]
  | invalid hb hr resp => simp [Entry.written, hb, isNull, hr]
  | null req hr hn message => simp [Entry.written, isNull, hr, hn]
  | unauthorized req hr hn ht resp => simp [Entry.written, g.not_blank hr, isNull, hr, hn]
  | dispatched req hr hn ht signed resp =>
    refine iff_of_true ⟨resp, written_dispatched conn line req signed (jsonLine resp)⟩ ⟨g.not_blank hr, ?_⟩
    simp only [isNull, hr, hn]

theorem Handled.dispatches {g : Gateway} {line : Str} {acts : List Act} {b : Bool} (h : g.Handled line (acts, b)) {req : Js}
    (hm : .dispatches req ∈ acts) : g.request line = some req ∧ g.carriesToken req = true := by
  cases h with
  | dispatched req' hr hn ht signed resp =>
    simp only [List.cons_append, List.mem_cons, List.mem_append, List.mem_map, List.not_mem_nil] at hm
    rcases hm with hm | ⟨_, _, hm⟩ | hm | hm
    · cases hm
      exact ⟨hr, ht⟩
    · cases hm
    · cases hm
    · cases hm
  | _ => simp at hm

theorem Handled.signs {g : Gateway} {line : Str} {acts : List Act} {b : Bool} (h : g.Handled line (acts, b))
    {message : List UInt8} (hm : .signs message ∈ acts) : ∃ req, g.request line = some req ∧ g.carriesToken req = true := by
  cases h with
  | dispatched req hr hn ht signed resp => exact ⟨req, hr, ht⟩
  | _ => simp at hm

/-- A request that carries the token is dispatched. -/
theorem dispatches_of_token {line : Str} {req : Js} (hr : g.request line = some req) (ht : g.carriesToken req = true)
    (now : ℕ → ℤ) : .dispatches req ∈ (g.onLine line now).1 := by
  have hn : req.isNullish = false := by
    refine Bool.eq_false_iff.mpr fun hn => ?_
    obtain ⟨message, he⟩ := read_of_nullish hn "token"
    rw [carriesToken, he] at ht
    cases ht
  have h := g.onLine_handled line now
  generalize g.onLine line now = r at h ⊢
  cases h with
  | blank h => simp [request, of_decide_eq_true h] at hr
  | invalid _ hr' => rw [hr'] at hr; cases hr
  | null req' hr' hn' => rw [hr', Option.some.injEq] at hr; rw [hr, hn] at hn'; cases hn'
  | unauthorized req' hr' _ ht' => rw [hr', Option.some.injEq] at hr; rw [hr, ht] at ht'; cases ht'
  | dispatched req' hr' => rw [hr', Option.some.injEq] at hr; rw [hr]; exact List.mem_cons_self

theorem guarded (chunks : List (ℕ × List UInt8)) : g.Guarded chunks where
  dispatches e he req hm := by
    obtain ⟨b, hb⟩ := (g.run_inv chunks).handled e he
    exact hb.dispatches hm
  signs e he message hm := by
    obtain ⟨b, hb⟩ := (g.run_inv chunks).handled e he
    exact hb.signs hm
  last before e after hlog hun e' he' hconn := by
    have hdue := (g.run_inv chunks).due e.conn
    rw [Process.linesOf, hlog, List.filter_append, List.filter_cons_of_pos (by simp), List.map_append, List.map_cons] at hdue
    have hnil := upTo_stops g.unauthorized hdue hun
    -- the later line is on the same connection
    have hmem : e'.line ∈ (after.filter (·.conn = e.conn)).map (·.line) :=
      List.mem_map_of_mem (List.mem_filter.mpr ⟨he', decide_eq_true hconn⟩)
    rw [hnil] at hmem
    cases hmem

/-- The lines that are due, and the process: it has ended if one of them reads `null`. -/
theorem crashed_run_iff (chunks : List (ℕ × List UInt8)) :
    (g.run chunks).crashed = false ↔ ∀ c, ∀ l ∈ g.linesDue c chunks, g.isNull l = false := by
  have hinv := g.run_inv chunks
  have hc := g.crashed_iff hinv.handled (g.run chunks).conns
  constructor
  · intro hrun c l hl
    rw [← (hinv.going hrun c).1] at hl
    obtain ⟨e, he, rfl⟩ := List.mem_map.mp hl
    refine Bool.eq_false_iff.mpr fun hn => ?_
    have := hc.mpr ⟨e, (List.mem_filter.mp he).1, hn⟩
    rw [hrun] at this
    cases this
  · intro hnull
    refine Bool.eq_false_iff.mpr fun hcrash => ?_
    obtain ⟨e, he, hn⟩ := hc.mp hcrash
    have hl : e.line ∈ (g.run chunks).linesOf e.conn :=
      List.mem_map_of_mem (List.mem_filter.mpr ⟨he, decide_eq_true rfl⟩)
    rw [hnull e.conn e.line ((hinv.due e.conn).subset hl)] at hn
    cases hn

theorem survives_owed_iff (owed : Str → Bool) (chunks : List (ℕ × List UInt8)) : g.Survives owed chunks ↔
    ∀ c, ∀ l ∈ g.linesDue c chunks, g.isNull l = false ∧ (owed l = true → isBlank l = false) := by
  have hinv := g.run_inv chunks
  constructor
  · intro h c l hl
    rw [← h.taken c] at hl
    obtain ⟨e, he, rfl⟩ := List.mem_map.mp hl
    have he := (List.mem_filter.mp he).1
    obtain ⟨b, hb⟩ := hinv.handled e he
    refine ⟨?_, fun ho => (hb.written_iff.mp (h.replied e he ho)).1⟩
    rw [← hb.threw_eq e.conn]
    exact h.no_throw e he
  · intro h
    have hrun := (g.crashed_run_iff chunks).mpr fun c l hl => (h c l hl).1
    have hof : ∀ e ∈ (g.run chunks).log, e.line ∈ g.linesDue e.conn chunks := by
      intro e he
      exact (hinv.due e.conn).subset (List.mem_map_of_mem (List.mem_filter.mpr ⟨he, decide_eq_true rfl⟩))
    refine ⟨?_, fun c => (hinv.going hrun c).1, ?_, ?_⟩
    · intro e he
      obtain ⟨b, hb⟩ := hinv.handled e he
      exact (hb.threw_eq e.conn).trans (h e.conn e.line (hof e he)).1
    · intro e he ho
      obtain ⟨b, hb⟩ := hinv.handled e he
      obtain ⟨hn, hblank⟩ := h e.conn e.line (hof e he)
      exact hb.written_iff.mpr ⟨hblank ho, hn⟩
    · intro e he
      obtain ⟨b, hb⟩ := hinv.handled e he
      exact hb.ended_eq

/-- The executor survives exactly the chunks in which no line before a connection's first unauthorized one reads `null`;
it answers every line if none of them is blank either. Whatever the chunks, it does nothing without the token. -/
theorem survives_iff (chunks : List (ℕ × List UInt8)) :
    (g.Survives (fun _ => true) chunks ↔
      ∀ c, ∀ l ∈ g.linesDue c chunks, g.isNull l = false ∧ isBlank l = false) ∧
    (g.Survives (fun l => !isBlank l) chunks ↔ ∀ c, ∀ l ∈ g.linesDue c chunks, g.isNull l = false) ∧
    g.Guarded chunks := by
  refine ⟨?_, ?_, g.guarded chunks⟩
  · rw [survives_owed_iff]
    simp only [forall_const]
  · rw [survives_owed_iff]
    simp only [Bool.not_eq_true', imp_self, and_true]

end Adn.Gateway

namespace Adn.Sample

open Adn.Gateway

theorem zeros_length : (List.replicate 32 (0 : UInt8)).length = 32 := List.length_replicate

/-- An executor with a key of zeros, that reads `null`. -/
def executor : Gateway where
  identity := ⟨List.replicate 32 0, "00", "agent", "did:key:ed25519:agent", "gateway-1"⟩
  expectedToken := List.replicate 32 0
  token_length := zeros_length
  parse s := if s = Str.ofString "null" then some .null else none
  sha256 := id
  sign message _ := message
  isoFromMs _ := "2026-01-01T00:00:00.000+00:00"
  clock _ := 0

theorem null_line_throws (owed : Str → Bool) : ¬executor.Survives owed [(0, Utf8.encode "null\n".toList)] := by
  intro h
  have ht : textOf 0 [(0, Utf8.encode "null\n".toList)] = Str.ofString "null\n" := by
    rw [textOf, List.filter_cons_of_pos (by decide), List.flatMap_cons, chunkText_encode]
    rfl
  have hdue : Str.ofString "null" ∈ executor.linesDue 0 [(0, Utf8.encode "null\n".toList)] := by
    rw [linesDue, linesSent, ht]
    decide
  have hn := ((executor.survives_owed_iff _ _).mp h 0 _ hdue).1
  revert hn
  decide

/-- Five bytes of one connection, before any token: the process ends. -/
theorem null_line_crashes : ¬executor.Survives (fun _ => true) [(0, Utf8.encode "null\n".toList)] ∧
    ¬executor.Survives (fun l => !isBlank l) [(0, Utf8.encode "null\n".toList)] :=
  ⟨null_line_throws _, null_line_throws _⟩

end Adn.Sample
