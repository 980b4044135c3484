import Mathlib.Data.List.Basic
/-!
# Messages found by trial

A reader adds each chunk to a buffer and tries to handle the buffer as one message. A trial
handles it, waits for more, or fails; after a message the buffer is empty, and a failure ends
the reader. Chunks may not be cut in the middle of a symbol (`Whole`).

- `Separable`: a part of a message waits, and so does a message that something follows.
- `answersAll_iff`: when every message of a stream is answered.
-/

namespace Lib.TrialFraming

variable {α σ β μ : Type}

/-! ## Readers -/

inductive Attempt (σ β : Type) where
  | waits
  | fails
  | handles (state : σ) (answer : β)

/-- A trial of what can be handled, if it is. -/
def Attempt.ofOption : Option (σ × β) → Attempt σ β
  | some (s, b) => .handles s b
  | none => .fails

structure Reader (α σ β : Type) where
  state : σ
  buf : List α
  sent : List β
  failed : Bool

section
variable (attempt : σ → List α → Attempt σ β)

/-- One chunk. -/
def Reader.feed (r : Reader α σ β) (chunk : List α) : Reader α σ β :=
  if r.failed then r
  else
    match attempt r.state (r.buf ++ chunk) with
    | .waits => { r with buf := r.buf ++ chunk }
    | .fails => { r with buf := r.buf ++ chunk, failed := true }
    | .handles state answer => { r with state, buf := [], sent := r.sent ++ [answer] }

def Reader.feedAll (r : Reader α σ β) (chunks : List (List α)) : Reader α σ β := chunks.foldl (Reader.feed attempt) r

end

section
variable {attempt : σ → List α → Attempt σ β} {r : Reader α σ β} {chunk : List α}

theorem feed_waits (hr : r.failed = false) (h : attempt r.state (r.buf ++ chunk) = .waits) :
    r.feed attempt chunk = { r with buf := r.buf ++ chunk } := by
  rw [Reader.feed, hr, h]
  rfl

theorem feed_fails (hr : r.failed = false) (h : attempt r.state (r.buf ++ chunk) = .fails) :
    r.feed attempt chunk = { r with buf := r.buf ++ chunk, failed := true } := by
  rw [Reader.feed, hr, h]
  rfl

theorem feed_handles {s : σ} {b : β} (hr : r.failed = false) (h : attempt r.state (r.buf ++ chunk) = .handles s b) :
    r.feed attempt chunk = { r with state := s, buf := [], sent := r.sent ++ [b] } := by
  rw [Reader.feed, hr, h]
  rfl

/-- A reader that has failed stays as it is. -/
theorem feedAll_failed (hr : r.failed = true) (chunks : List (List α)) : r.feedAll attempt chunks = r := by
  induction chunks with
  | nil => rfl
  | cons c cs ih =>
    have hc : r.feed attempt c = r := by
      rw [Reader.feed, hr]
      rfl
    exact (congrArg (Reader.feedAll attempt · cs) hc).trans ih

theorem feedAll_nil (r : Reader α σ β) : r.feedAll attempt [] = r := rfl

theorem feedAll_cons (r : Reader α σ β) (c : List α) (cs : List (List α)) :
    r.feedAll attempt (c :: cs) = (r.feed attempt c).feedAll attempt cs := rfl

theorem feedAll_append (r : Reader α σ β) (cs cs' : List (List α)) :
    r.feedAll attempt (cs ++ cs') = (r.feedAll attempt cs).feedAll attempt cs' :=
  List.foldl_append

end

/-! ## Streams -/

/-- The answers to messages, each handled in the state that the one before has left. -/
def answers (handle : σ → μ → Option (σ × β)) : σ → List μ → Option (List β)
  | _, [] => some []
  | s, m :: ms =>
    match handle s m with
    | none => none
    | some (s', b) => (answers handle s' ms).map (b :: ·)

theorem answers_length {handle : σ → μ → Option (σ × β)} {s : σ} {ms : List μ} {bs : List β}
    (h : answers handle s ms = some bs) : bs.length = ms.length := by
  induction ms generalizing s bs with
  | nil =>
    cases h
    rfl
  | cons m ms ih =>
    rw [answers] at h
    split at h
    · cases h
    · obtain ⟨bs, hbs, rfl⟩ := Option.map_eq_some_iff.1 h
      rw [List.length_cons, List.length_cons, ih hbs]

/-- What is sent for messages. -/
def stream (enc : μ → List α) (ms : List μ) : List α := (ms.map enc).flatten

theorem stream_cons (enc : μ → List α) (m : μ) (ms : List μ) : stream enc (m :: ms) = enc m ++ stream enc ms := rfl

theorem flatten_eq_nil {chunks : List (List α)} (hne : ∀ c ∈ chunks, c ≠ []) (h : chunks.flatten = []) : chunks = [] := by
  cases chunks with
  | nil => rfl
  | cons c cs => exact absurd (List.append_eq_nil_iff.1 h).1 (hne c List.mem_cons_self)

/-- Of two starts of one text, the first ends before the second, with it, or after it. -/
theorem append_cases {a b c d : List α} (h : a ++ b = c ++ d) :
    (∃ q, q ≠ [] ∧ a ++ q = c ∧ b = q ++ d) ∨ (a = c ∧ b = d) ∨ ∃ p, p ≠ [] ∧ a = c ++ p ∧ d = p ++ b := by
  rcases List.append_eq_append_iff.1 h with ⟨q, rfl, rfl⟩ | ⟨p, rfl, rfl⟩
  · by_cases hq : q = []
    · subst hq
      exact .inr (.inl ⟨(List.append_nil a).symm, rfl⟩)
    · exact .inl ⟨q, hq, rfl, rfl⟩
  · by_cases hp : p = []
    · subst hp
      exact .inr (.inl ⟨List.append_nil c, rfl⟩)
    · exact .inr (.inr ⟨p, hp, rfl, rfl⟩)

/-- Every message ends where a chunk ends: each is the chunks of a group. -/
def Grouped (enc : μ → List α) (ms : List μ) (chunks : List (List α)) : Prop :=
  ∃ groups : List (List (List α)), groups.flatten = chunks ∧ groups.map List.flatten = ms.map enc

/-- Trials tell where a message ends, if nothing follows it. -/
structure Separable (attempt : σ → List α → Attempt σ β) (enc : μ → List α) (handle : σ → μ → Option (σ × β))
    (Whole : List α → Prop) : Prop where
  nonempty : ∀ m, enc m ≠ []
  whole_nil : Whole []
  whole_enc : ∀ m, Whole (enc m)
  whole_append : ∀ {p q}, Whole p → (Whole (p ++ q) ↔ Whole q)
  part : ∀ {s m p q}, p ++ q = enc m → q ≠ [] → attempt s p = .waits ∧ Whole p ∨ attempt s p = .fails ∧ ¬Whole p
  complete : ∀ s m, attempt s (enc m) = .ofOption (handle s m)
  followed : ∀ {s m p q ms}, p ++ q = stream enc ms → p ≠ [] →
    attempt s (enc m ++ p) = .waits ∨ attempt s (enc m ++ p) = .fails

/-! ## When everything is answered -/

/-- The reader goes on, and has answered all messages. -/
def AnswersAll (attempt : σ → List α → Attempt σ β) (handle : σ → μ → Option (σ × β)) (s : σ) (ms : List μ)
    (chunks : List (List α)) : Prop :=
  let r := Reader.feedAll attempt ⟨s, [], [], false⟩ chunks
  r.failed = false ∧ answers handle s ms = some r.sent

section
variable {attempt : σ → List α → Attempt σ β} {enc : μ → List α} {handle : σ → μ → Option (σ × β)}
  {Whole : List α → Prop} (hsep : Separable attempt enc handle Whole)

include hsep

/-- Chunks that together are a message: the last one completes it. -/
theorem feedAll_message {r : Reader α σ β} {m : μ} {s' : σ} {b : β} {chunks : List (List α)} (hr : r.failed = false)
    (hm : handle r.state m = some (s', b)) (hne : ∀ c ∈ chunks, c ≠ []) (hchunks : chunks ≠ [])
    (hbuf : Whole r.buf) (hwhole : ∀ c ∈ chunks, Whole c) (h : r.buf ++ chunks.flatten = enc m) :
    r.feedAll attempt chunks = { r with state := s', buf := [], sent := r.sent ++ [b] } := by
  induction chunks generalizing r with
  | nil => exact absurd rfl hchunks
  | cons c cs ih =>
    obtain ⟨-, hne⟩ := List.forall_mem_cons.1 hne
    obtain ⟨hc, hwhole⟩ := List.forall_mem_cons.1 hwhole
    rw [List.flatten_cons, ← List.append_assoc] at h
    rw [feedAll_cons]
    by_cases hcs : cs = []
    · subst hcs
      rw [List.flatten_nil, List.append_nil] at h
      have hattempt := hsep.complete r.state m
      rw [hm, ← h] at hattempt
      exact feed_handles hr hattempt
    · have hrest : cs.flatten ≠ [] := by
        obtain ⟨d, ds, rfl⟩ := List.exists_cons_of_ne_nil hcs
        rw [List.flatten_cons]
        exact List.append_ne_nil_of_left_ne_nil (hne d List.mem_cons_self) _
      have hbufc : Whole (r.buf ++ c) := (hsep.whole_append hbuf).2 hc
      rcases hsep.part (s := r.state) h hrest with ⟨hwaits, -⟩ | ⟨-, hcut⟩
      · rw [feed_waits hr hwaits]
        exact ih hr hm hne hcs hbufc hwhole h
      · exact absurd hbufc hcut

/-- After a message with something behind it, nothing is answered any more. -/
theorem feedAll_followed {r : Reader α σ β} {m : μ} {ms : List μ} {p : List α} {chunks : List (List α)}
    (hbuf : r.buf = enc m ++ p) (hp : p ≠ []) (h : p ++ chunks.flatten = stream enc ms) :
    (r.feedAll attempt chunks).sent = r.sent := by
  induction chunks generalizing r p with
  | nil => rfl
  | cons c cs ih =>
    by_cases hr : r.failed = true
    · rw [feedAll_failed hr]
    rw [Bool.not_eq_true] at hr
    rw [feedAll_cons]
    rw [List.flatten_cons, ← List.append_assoc] at h
    have hpc : p ++ c ≠ [] := List.append_ne_nil_of_left_ne_nil hp c
    have htrial := hsep.followed (s := r.state) (m := m) h hpc
    rw [← List.append_assoc, ← hbuf] at htrial
    rcases htrial with hwaits | hfails
    · rw [feed_waits hr hwaits]
      exact ih (by rw [hbuf, List.append_assoc]) hpc h
    · rw [feed_fails hr hfails, feedAll_failed rfl]

/-- What must have been so when a reader in the middle of a message has answered it and all that follow. -/
theorem grouped_of_feedAll {r : Reader α σ β} {m : μ} {ms : List μ} {rest : List α} {chunks : List (List α)}
    (hr : r.failed = false) (hne : ∀ c ∈ chunks, c ≠ []) (hm : r.buf ++ rest = enc m) (hrest : rest ≠ [])
    (hbuf : Whole r.buf) (h : r.buf ++ chunks.flatten = stream enc (m :: ms))
    (hgoing : (r.feedAll attempt chunks).failed = false)
    (hsent : (r.feedAll attempt chunks).sent.length = r.sent.length + ms.length + 1) :
    ∃ group groups, chunks = group ++ List.flatten groups ∧ r.buf ++ group.flatten = enc m ∧
      groups.map List.flatten = ms.map enc ∧ ∀ c ∈ chunks, Whole c := by
  induction chunks generalizing r m ms rest with
  | nil =>
    exfalso
    rw [feedAll_nil] at hsent
    omega
  | cons c cs ih =>
    obtain ⟨hc, hne⟩ := List.forall_mem_cons.1 hne
    rw [feedAll_cons] at hgoing hsent
    rw [stream_cons, List.flatten_cons, ← List.append_assoc] at h
    rcases append_cases h with ⟨q, hq, hpart, hcs⟩ | ⟨hwhole, hcs⟩ | ⟨p, hp, hlong, hms⟩
    · -- the chunk ends within the message
      rcases hsep.part (s := r.state) hpart hq with ⟨hwaits, hwhole⟩ | ⟨hfails, -⟩
      · rw [feed_waits hr hwaits] at hgoing hsent
        have hstream : r.buf ++ c ++ cs.flatten = stream enc (m :: ms) := by rw [stream_cons, h]
        obtain ⟨group, groups, rfl, hgroup, hgroups, hrestwhole⟩ :=
          ih (r := { r with buf := r.buf ++ c }) hr hne hpart hq hwhole hstream hgoing hsent
        refine ⟨c :: group, groups, rfl, ?_, hgroups, ?_⟩
        · rw [List.flatten_cons, ← List.append_assoc]
          exact hgroup
        · exact List.forall_mem_cons.2 ⟨(hsep.whole_append hbuf).1 hwhole, hrestwhole⟩
      · rw [feed_fails hr hfails, feedAll_failed rfl] at hgoing
        cases hgoing
    · -- the chunk ends with the message
      have hattempt := hsep.complete r.state m
      rw [← hwhole] at hattempt
      have hwc : Whole c := (hsep.whole_append hbuf).1 (hwhole ▸ hsep.whole_enc m)
      have hgroup : r.buf ++ [c].flatten = enc m := by rw [List.flatten_singleton, hwhole]
      cases hhandle : handle r.state m with
      | none =>
        rw [hhandle] at hattempt
        rw [feed_fails hr hattempt, feedAll_failed rfl] at hgoing
        cases hgoing
      | some sb =>
        rw [hhandle] at hattempt
        rw [feed_handles hr hattempt] at hgoing hsent
        cases ms with
        | nil =>
          obtain rfl := flatten_eq_nil hne hcs
          exact ⟨[c], [], rfl, hgroup, rfl, List.forall_mem_cons.2 ⟨hwc, List.forall_mem_nil _⟩⟩
        | cons m' ms =>
          have hlength : (r.sent ++ [sb.2]).length + ms.length + 1 = r.sent.length + (m' :: ms).length + 1 := by
            simp only [List.length_append, List.length_cons, List.length_nil]
            omega
          obtain ⟨group, groups, rfl, hgroup', hgroups, hwholes⟩ :=
            ih (r := ⟨sb.1, [], r.sent ++ [sb.2], r.failed⟩) hr hne rfl (hsep.nonempty m') hsep.whole_nil hcs hgoing
              (hsent.trans hlength.symm)
          refine ⟨[c], group :: groups, rfl, hgroup, ?_, List.forall_mem_cons.2 ⟨hwc, hwholes⟩⟩
          rw [List.map_cons, List.map_cons, hgroups, ← hgroup']
          rfl
    · -- the chunk goes beyond the message
      exfalso
      have htrial := hsep.followed (s := r.state) (m := m) hms.symm hp
      rw [← hlong] at htrial
      rcases htrial with hwaits | hfails
      · rw [feed_waits hr hwaits, feedAll_followed hsep hlong hp hms.symm] at hsent
        dsimp only at hsent
        omega
      · rw [feed_fails hr hfails, feedAll_failed rfl] at hgoing
        cases hgoing

/-- Groups of chunks, each a message: what is sent are the answers, as long as there are any. -/
theorem feedAll_groups (sent : List β) {s : σ} {ms : List μ} {groups : List (List (List α))}
    (hgroups : groups.map List.flatten = ms.map enc) (hne : ∀ c ∈ groups.flatten, c ≠ [])
    (hwhole : ∀ c ∈ groups.flatten, Whole c) {bs : List β} (hbs : answers handle s ms = some bs) :
    (Reader.feedAll attempt ⟨s, [], sent, false⟩ groups.flatten).failed = false ∧
      (Reader.feedAll attempt ⟨s, [], sent, false⟩ groups.flatten).sent = sent ++ bs := by
  induction groups generalizing s sent ms bs with
  | nil =>
    obtain rfl := List.map_eq_nil_iff.1 hgroups.symm
    cases hbs
    exact ⟨rfl, (List.append_nil sent).symm⟩
  | cons g gs ih =>
    obtain ⟨m, ms, rfl⟩ : ∃ m ms', ms = m :: ms' := by
      cases ms with
      | nil => cases hgroups
      | cons m ms => exact ⟨m, ms, rfl⟩
    obtain ⟨hg, hgs⟩ := List.cons.inj hgroups
    rw [List.flatten_cons, List.forall_mem_append] at hne hwhole
    rw [answers] at hbs
    split at hbs
    · cases hbs
    · rename_i s' b hm
      obtain ⟨bs', hbs', rfl⟩ := Option.map_eq_some_iff.1 hbs
      have hnil : g ≠ [] := by
        rintro rfl
        exact hsep.nonempty m hg.symm
      have hmessage := feedAll_message hsep (r := ⟨s, [], sent, false⟩) rfl hm hne.1 hnil hsep.whole_nil hwhole.1 hg
      obtain ⟨hgoing, hsent⟩ := ih (sent ++ [b]) hgs hne.2 hwhole.2 hbs'
      rw [List.flatten_cons, feedAll_append, hmessage]
      exact ⟨hgoing, by rw [hsent, List.append_assoc, List.singleton_append]⟩

/-- Every message is answered exactly if no chunk holds parts of two messages or of a symbol, and every message has
an answer. -/
theorem answersAll_iff {s : σ} {ms : List μ} {chunks : List (List α)} (hne : ∀ c ∈ chunks, c ≠ [])
    (h : chunks.flatten = stream enc ms) : AnswersAll attempt handle s ms chunks ↔
      Grouped enc ms chunks ∧ (∀ c ∈ chunks, Whole c) ∧ (answers handle s ms).isSome = true := by
  constructor
  · rintro ⟨hgoing, hanswers⟩
    have hsome : (answers handle s ms).isSome = true := by rw [hanswers]; rfl
    cases ms with
    | nil =>
      obtain rfl := flatten_eq_nil hne h
      exact ⟨⟨[], rfl, rfl⟩, List.forall_mem_nil _, hsome⟩
    | cons m ms =>
      have hsent := answers_length hanswers
      rw [List.length_cons, ← Nat.zero_add ms.length] at hsent
      obtain ⟨group, groups, rfl, hgroup, hgroups, hwhole⟩ :=
        grouped_of_feedAll hsep (r := ⟨s, [], [], false⟩) rfl hne rfl (hsep.nonempty m) hsep.whole_nil h hgoing hsent
      refine ⟨⟨group :: groups, rfl, ?_⟩, hwhole, hsome⟩
      rw [List.map_cons, List.map_cons, hgroups, ← hgroup]
      rfl
  · rintro ⟨⟨groups, rfl, hgroups⟩, hwhole, hsome⟩
    obtain ⟨bs, hbs⟩ := Option.isSome_iff_exists.1 hsome
    obtain ⟨hgoing, hsent⟩ := feedAll_groups hsep [] hgroups hne hwhole hbs
    exact ⟨hgoing, by rw [hbs, hsent, List.nil_append]⟩

end

end Lib.TrialFraming
