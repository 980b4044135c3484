import Adn.GatewayExecutor
/-!
# The gateway client

The bridge's end of the socket: requests wait by number, and each line that comes
in settles the one it names.
-/

open Lib

namespace Adn.GatewayClient

/-- What becomes of a request. -/
inductive Settled where
  | resolved (id : ℕ) (resp : Js)
  | rejected (id : ℕ) (message : Str)

structure State where
  /-- The numbers of the requests that wait. -/
  pending : List ℕ
  /-- What was settled, in order. -/
  settled : List Settled

/-- The key of a `Map` from numbers that a value is. -/
def keyOf : Js → Option ℕ
  | .num (.finite q) => if q.den = 1 ∧ 0 ≤ q.num then some q.num.toNat else none
  | .num .negZero => some 0
  | _ => none

/-- The `try` block of `onSocketData`, for a line that is read: an error leaves what was done before it. -/
def onResponse (x : State) (resp : Js) : State :=
  match resp.read "id", resp.read "error" with
  | .ok id, .ok error =>
    match keyOf id with
    | none => x
    | some key =>
      if key ∈ x.pending then
        let pending := x.pending.filter (· ≠ key)
        if error.truthy then
          match error.toText with
          | .ok message => ⟨pending, x.settled ++ [.rejected key message]⟩
          | .error _ => ⟨pending, x.settled⟩
        else ⟨pending, x.settled ++ [.resolved key resp]⟩
      else x
  | _, _ => x

/-- One line; `parse` is `JSON.parse`. -/
def onLine (parse : Str → Option Js) : Framing.OnLine State UInt16 := fun x line =>
  let line := Js.trim line
  if line = [] then (x, false)
  else
    match parse line with
    | none => (x, false)
    | some resp => (onResponse x resp, false)

/-- The client's end of a socket: what waits, and `recvBuf`. -/
abbrev Client := Framing.Reader State UInt16

def connected (pending : List ℕ) : Client := ⟨⟨pending, []⟩, [], false⟩

/-- `onSocketData` -/
def onSocketData (parse : Str → Option Js) (x : Client) (chunk : List UInt8) : Client :=
  x.feed 0x0A (onLine parse) (Gateway.chunkText chunk)

def receive (parse : Str → Option Js) (pending : List ℕ) (chunks : List (List UInt8)) : Client :=
  chunks.foldl (onSocketData parse) (connected pending)

/-- The lines of all the text are handled, however it is cut. -/
theorem receive_lines (parse : Str → Option Js) (pending : List ℕ) (chunks : List (List UInt8)) :
    (receive parse pending chunks).state = (Framing.runLines (onLine parse) ⟨pending, []⟩
      (Framing.lines 0x0A (chunks.map Gateway.chunkText).flatten)).1 := by
  have h := (Framing.feedAll_lines 0x0A (onLine parse) ⟨pending, []⟩ (chunks.map Gateway.chunkText)).1
  rw [← h, Framing.Reader.feedAll, List.foldl_map]
  rfl

end Adn.GatewayClient
