import Mathlib.Logic.Basic
/-!
# Transactions on one table

A connection runs statements on its own view of a table, and others see what it
commits. Closing it discards the rest. `Ends` says of statements that commit
last that they either fail and leave the committed table alone, or do what a
function from the table to its successor says; there is one rule for each kind
of statement, and `Ends.transact` is what follows for the whole.
-/

namespace Lib

/-- The table as it is committed, and as the open transaction sees it. -/
structure Connection (T : Type) where
  committed : T
  working : T

/-- Statements on a connection. One that fails keeps what was done before it. -/
def Tx (T E α : Type) : Type := Connection T → Except E α × Connection T

namespace Tx

variable {T E α β : Type}

instance : Monad (Tx T E) where
  pure a := fun c => (.ok a, c)
  bind x k := fun c =>
    match x c with
    | (.ok a, c') => k a c'
    | (.error e, c') => (.error e, c')

/-- A step outside the database. -/
def ofExcept (x : Except E α) : Tx T E α := fun c => (x, c)

/-- One statement. `io` is whether the database executes it; one that fails does nothing. -/
def execute (io : Except E Unit) (effect : T → Except E (α × T)) : Tx T E α := fun c =>
  match io with
  | .error e => (.error e, c)
  | .ok () =>
    match effect c.working with
    | .error e => (.error e, c)
    | .ok (a, t) => (.ok a, { c with working := t })

def commit (io : Except E Unit) : Tx T E Unit := fun c =>
  match io with
  | .error e => (.error e, c)
  | .ok () => (.ok (), { c with committed := c.working })

/-- Everything between opening a connection and closing it. -/
def transact (x : Tx T E α) (t : T) : Except E α × T :=
  let r := x ⟨t, t⟩
  (r.1, r.2.committed)

/-! ## What statements come to -/

/-- The statements fail with nothing committed, or commit the outcome `out`. -/
def Ends (x : Tx T E α) (c : Connection T) (out : Except E (α × T)) : Prop :=
  (∃ e c', x c = (.error e, c') ∧ c'.committed = c.committed) ∨
    ∃ a c', x c = (.ok a, c') ∧ out = .ok (a, c'.committed)

variable {c : Connection T} {out : Except E (β × T)} {k : α → Tx T E β}

theorem bind_apply (x : Tx T E α) (k : α → Tx T E β) (c : Connection T) : (x >>= k) c =
    match x c with
    | (.ok a, c') => k a c'
    | (.error e, c') => (.error e, c') := rfl

theorem ends_execute {io : Except E Unit} {effect : T → Except E (α × T)}
    (h : ∀ a t, effect c.working = .ok (a, t) → Ends (k a) { c with working := t } out) :
    Ends (execute io effect >>= k) c out := by
  unfold Ends
  rw [bind_apply]
  unfold execute
  cases io with
  | error e => exact .inl ⟨e, c, rfl, rfl⟩
  | ok _ =>
    cases he : effect c.working with
    | error e => exact .inl ⟨e, c, rfl, rfl⟩
    | ok r => exact h r.1 r.2 he

theorem ends_ofExcept {x : Except E α} (h : ∀ a, x = .ok a → Ends (k a) c out) : Ends (ofExcept x >>= k) c out := by
  rw [Ends, bind_apply, ofExcept]
  cases x with
  | error e => exact .inl ⟨e, c, rfl, rfl⟩
  | ok a => exact h a rfl

theorem ends_commit (io : Except E Unit) (b : β) (c : Connection T) :
    Ends (commit io >>= fun _ => (pure b : Tx T E β)) c (.ok (b, c.working)) := by
  unfold Ends
  rw [bind_apply]
  cases io with
  | error e => exact .inl ⟨e, c, rfl, rfl⟩
  | ok _ => exact .inr ⟨b, _, rfl, rfl⟩

/-- A transaction that fails leaves the table as it was. -/
theorem Ends.transact {x : Tx T E β} {t : T} (h : Ends x ⟨t, t⟩ out) :
    (∃ e, x.transact t = (.error e, t)) ∨ ∃ b t', x.transact t = (.ok b, t') ∧ out = .ok (b, t') := by
  rcases h with ⟨e, c', hx, hc⟩ | ⟨b, c', hx, hout⟩
  · refine .inl ⟨e, ?_⟩
    rw [Tx.transact, hx, hc]
  · refine .inr ⟨b, c'.committed, ?_, hout⟩
    rw [Tx.transact, hx]

end Tx

end Lib
