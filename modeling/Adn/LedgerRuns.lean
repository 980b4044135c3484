import Adn.LedgerSteps
import Adn.Lib.Runs
/-!
# Runs of the ledger

A run is any sequence of operations by any number of processes on one ledger,
with their replies. SQLite runs each operation as one transaction, so every
interleaving of the processes is such a sequence.
-/

open Lib

namespace Adn

/-- One operation with its clock reading and its reply. -/
inductive Event where
  | begin (now : ℚ) (token : Str) (a : BeginArgs) (reply : BeginReply)
  | heartbeat (now : ℚ) (replayKey : Str) (token : Option Str) (ok : Bool)
  | finalize (now : ℚ) (replayKey finalState : Str) (token : Option Str) (ok : Bool)
  | consume (now : ℚ) (a : ConsumeArgs) (reply : Bool × Str)
  | raised

/-- The clock reading an operation purges with. -/
def Event.purges : Event → Option ℚ
  | .begin now _ _ _ => some now
  | .consume now _ _ => some now
  | _ => none

/-- The replay key an operation is about. -/
def Event.key : Event → Option Str
  | .begin _ _ a _ => some a.replayKey
  | .heartbeat _ k _ _ => some k
  | .finalize _ k _ _ _ => some k
  | .consume _ a _ => some a.replayKey
  | .raised => none

inductive LedgerStep (p : Platform) : Ledger → Event → Ledger → Prop
  | begin {db : Except PyErr Unit} {now : ℚ} {token : Str} {a : BeginArgs} {L L' : Ledger} {r : BeginReply} :
      beginRequestExecution p db now token a L = .ok (r, L') → LedgerStep p L (.begin now token a r) L'
  | heartbeat {db : Except PyErr Unit} {now : ℚ} {k : Str} {secret token : Option Str} {L L' : Ledger} {b : Bool} :
      heartbeatRequestExecution p db now k secret token L = .ok (b, L') →
      LedgerStep p L (.heartbeat now k token b) L'
  | finalize {db : Except PyErr Unit} {now : ℚ} {k finalState : Str} {secret lastError token : Option Str}
      {L L' : Ledger} {b : Bool} :
      finalizeRequestExecution p db now k finalState secret lastError token L = .ok (b, L') →
      LedgerStep p L (.finalize now k finalState token b) L'
  | consume {db : Except PyErr Unit} {now : ℚ} {a : ConsumeArgs} {L L' : Ledger} {r : Bool × Str} :
      consumeResultReplay p db now a L = .ok (r, L') → LedgerStep p L (.consume now a r) L'
  | raised {L : Ledger} : LedgerStep p L .raised L

/-! ## Executing a schedule -/

/-- One call, before its reply is known. -/
inductive Call where
  | begin (now : ℚ) (token : Str) (a : BeginArgs)
  | heartbeat (now : ℚ) (replayKey : Str) (secret token : Option Str)
  | finalize (now : ℚ) (replayKey finalState : Str) (secret lastError token : Option Str)
  | consume (now : ℚ) (a : ConsumeArgs)

/-- The reply of an operation, or the ledger as it was if it raises. -/
def settle {α : Type} (L : Ledger) (reply : α → Event) : Except PyErr (α × Ledger) → Event × Ledger
  | .ok (r, L') => (reply r, L')
  | .error _ => (.raised, L)

def Call.exec (p : Platform) (L : Ledger) : Call → Event × Ledger
  | .begin now token a => settle L (.begin now token a) (beginRequestExecution p (.ok ()) now token a L)
  | .heartbeat now k secret token =>
    settle L (.heartbeat now k token) (heartbeatRequestExecution p (.ok ()) now k secret token L)
  | .finalize now k state secret error token =>
    settle L (.finalize now k state token) (finalizeRequestExecution p (.ok ()) now k state secret error token L)
  | .consume now a => settle L (.consume now a) (consumeResultReplay p (.ok ()) now a L)

def execAll (p : Platform) : Ledger → List Call → List Event × Ledger
  | L, [] => ([], L)
  | L, c :: cs =>
    let r := execAll p (c.exec p L).2 cs
    ((c.exec p L).1 :: r.1, r.2)

theorem exec_step (p : Platform) (L : Ledger) (c : Call) : LedgerStep p L (c.exec p L).1 (c.exec p L).2 := by
  have settled : ∀ {α : Type} {reply : α → Event} {x : Except PyErr (α × Ledger)},
      (∀ r L', x = .ok (r, L') → LedgerStep p L (reply r) L') →
      LedgerStep p L (settle L reply x).1 (settle L reply x).2 := by
    intro α reply x h
    cases x with
    | error e => exact .raised
    | ok y => exact h y.1 y.2 rfl
  cases c with
  | begin => exact settled fun _ _ h => .begin h
  | heartbeat => exact settled fun _ _ h => .heartbeat h
  | finalize => exact settled fun _ _ h => .finalize h
  | consume => exact settled fun _ _ h => .consume h

/-- A schedule of calls is a run. -/
theorem execAll_run (p : Platform) (cs : List Call) (L : Ledger) :
    Run (LedgerStep p) L (execAll p L cs).1 (execAll p L cs).2 := by
  induction cs generalizing L with
  | nil => exact .nil
  | cons c cs ih => exact .cons (exec_step p L c) (ih _)

/-! ## The latest begin -/

/-- A ledger without rows. -/
def Ledger.empty : Ledger := fun _ => none

/-- What one operation does to the token of the latest allowed begin on `k`. -/
def noteBegin (k : Str) (latest : Option Str) : Event → Option Str
  | .begin _ _ a r => if a.replayKey = k ∧ r.allowed = true then r.token else latest
  | _ => latest

/-- The token of the latest allowed begin on `k`. -/
def latestToken (es : List Event) (k : Str) : Option Str := es.foldl (noteBegin k) none

theorem latestToken_snoc (es : List Event) (e : Event) (k : Str) :
    latestToken (es ++ [e]) k = noteBegin k (latestToken es k) e := by
  rw [latestToken, List.foldl_append]
  rfl

variable {p : Platform} {L L' : Ledger} {e : Event} {k : Str}

/-- An operation changes the rows of other keys only by purging them. -/
theorem step_other (h : LedgerStep p L e L') (hk : e.key ≠ some k) :
    L' k = L k ∨ ∃ now, e.purges = some now ∧ L' k = L.purge now k := by
  have hne : ∀ {k'}, e.key = some k' → k ≠ k' := fun he hk' => hk (hk' ▸ he)
  cases h with
  | begin h =>
    cases begin_step h with
    | keyMissing => exact .inl rfl
    | blocked => exact .inr ⟨_, rfl, rfl⟩
    | first | exhausted | again => exact .inr ⟨_, rfl, Function.update_of_ne (hne rfl) _ _⟩
  | heartbeat h =>
    cases heartbeat_step h with
    | refused => exact .inl rfl
    | renewed => exact .inl (Function.update_of_ne (hne rfl) _ _)
  | finalize h =>
    cases finalize_step h with
    | refused => exact .inl rfl
    | recorded => exact .inl (Function.update_of_ne (hne rfl) _ _)
  | consume h =>
    cases consume_step h with
    | unkeyed => exact .inl rfl
    | present => exact .inr ⟨_, rfl, rfl⟩
    | consumed => exact .inr ⟨_, rfl, Function.update_of_ne (hne rfl) _ _⟩
  | raised => exact .inl rfl

/-- A row of another key stays as it is, or is past and gone. -/
theorem step_other_row {row : Row} (h : LedgerStep p L e L') (hk : e.key ≠ some k) (hr : L k = some row) :
    L' k = some row ∨ ∃ now, e.purges = some now ∧ row.expiresAt ≤ now ∧ L' k = none := by
  rcases step_other h hk with he | ⟨now, hn, he⟩
  · exact .inl (he.trans hr)
  · by_cases hlt : (now : Time) < row.expiresAt
    · exact .inl (he.trans (purge_some.2 ⟨hr, hlt⟩))
    · refine .inr ⟨now, hn, not_lt.1 hlt, he.trans ?_⟩
      simpa [Ledger.purge, hr] using not_lt.1 hlt

/-- No row appears under another key. -/
theorem step_other_none (h : LedgerStep p L e L') (hk : e.key ≠ some k) (hr : L k = none) : L' k = none := by
  rcases step_other h hk with he | ⟨now, -, he⟩
  · exact he.trans hr
  · rw [he, Ledger.purge, hr, Option.filter_none]

/-- No reading an operation purges with reaches the expiry of the row under `k`. -/
def Unpurged (k : Str) (L : Ledger) (e : Event) : Prop :=
  ∀ now, e.purges = some now → ∀ row, L k = some row → (now : Time) < row.expiresAt

/-- While it is not past, a row changes only through operations on its key. -/
theorem row_elsewhere (h : LedgerStep p L e L') (hk : e.key ≠ some k) (hu : Unpurged k L e) : L' k = L k := by
  cases hr : L k with
  | none => exact step_other_none h hk hr
  | some row =>
    rcases step_other_row h hk hr with hr' | ⟨now, hn, hle, -⟩
    · exact hr'
    · exact absurd hle (not_le.2 (hu now hn row hr))

end Adn
