/-
# The order of a receipt's logs

`decode_sweep_outcomes` files every event under its payment address and its kind, and gives up when
a place is taken.  Which logs it accepts and what it makes of them is therefore a matter of which
logs there are, not of the order in which a node returns them.
-/
import Mathlib.Data.List.Nodup
import Payday.Chain.Logs

namespace Payday

/-- The kinds of events that are kept apart for a payment address. -/
inductive EventKind
  | settled
  | recovered
  | sweeper
deriving DecidableEq, Repr

namespace RpcLog

/-- The place that a log fills. -/
def place (batchSweeper : Address) (log : RpcLog) : Option (Address × EventKind) :=
  if log.address = batchSweeper then
    match log.event with
    | .sweepFailed (.ok (payment, _)) => some (payment, .sweeper)
    | .sweepRecovered (.ok (payment, _)) => some (payment, .sweeper)
    | _ => none
  else
    match log.event with
    | .settled (.ok _) => some (log.address, .settled)
    | .recovered (.ok _) => some (log.address, .recovered)
    | _ => none

/-- An event of the sweeper or of a payment whose data does not decode. -/
def malformed (batchSweeper : Address) (log : RpcLog) : Bool :=
  if log.address = batchSweeper then
    match log.event with
    | .sweepFailed (.error _) => true
    | .sweepRecovered (.error _) => true
    | _ => false
  else
    match log.event with
    | .settled (.error _) => true
    | .recovered (.error _) => true
    | _ => false

lemma subject_eq_place (batchSweeper : Address) (log : RpcLog) :
    log.subject batchSweeper = (log.place batchSweeper).map Prod.fst := by
  unfold subject place
  split_ifs <;> rcases log.event with (_ | _) | (_ | _) | (_ | _) | (_ | _) | _ <;> rfl

lemma subject_of_place {batchSweeper : Address} {log : RpcLog} {a : Address} {kind : EventKind}
    (h : log.place batchSweeper = some (a, kind)) : log.subject batchSweeper = some a := by
  rw [subject_eq_place, h]
  rfl

lemma place_of_subject {batchSweeper : Address} {log : RpcLog} {a : Address}
    (h : log.subject batchSweeper = some a) : ∃ kind, log.place batchSweeper = some (a, kind) := by
  rw [subject_eq_place, Option.map_eq_some_iff] at h
  obtain ⟨⟨b, kind⟩, hplace, rfl⟩ := h
  exact ⟨kind, hplace⟩

end RpcLog

namespace PendingOutcome

/-- The place is taken. -/
def filled (entry : PendingOutcome) : EventKind → Bool
  | .settled => entry.settled.isSome
  | .recovered => entry.recovered.isSome
  | .sweeper => entry.sweeper.isSome

lemma filled_empty (kind : EventKind) : ({} : PendingOutcome).filled kind = false := by
  cases kind <;> rfl

/-- What a log of each kind sets. -/
lemma push_of_place {batchSweeper : Address} {log : RpcLog} {a : Address} {kind : EventKind}
    (h : log.place batchSweeper = some (a, kind)) :
    (kind = .settled ∧ ∃ amount, ∀ entry : PendingOutcome,
      entry.push log = { entry with settled := some amount }) ∨
    (kind = .recovered ∧ ∃ amount, ∀ entry : PendingOutcome,
      entry.push log = { entry with recovered := some amount }) ∨
    (kind = .sweeper ∧ ∃ outcome, ∀ entry : PendingOutcome,
      entry.push log = { entry with sweeper := some outcome }) := by
  unfold RpcLog.place at h
  unfold push
  split_ifs at h <;> rcases hevent : log.event with (_ | _) | (_ | _) | (_ | _) | (_ | _) | _ <;>
    rw [hevent] at h <;> cases h
  · exact Or.inr (Or.inr ⟨rfl, _, fun _ => rfl⟩)
  · exact Or.inr (Or.inr ⟨rfl, _, fun _ => rfl⟩)
  · exact Or.inl ⟨rfl, _, fun _ => rfl⟩
  · exact Or.inr (Or.inl ⟨rfl, _, fun _ => rfl⟩)

/-- A log takes its place, and no other. -/
lemma filled_push {batchSweeper : Address} {log : RpcLog} {a : Address} {kind : EventKind}
    (h : log.place batchSweeper = some (a, kind)) (entry : PendingOutcome) (other : EventKind) :
    (entry.push log).filled other = (entry.filled other || decide (other = kind)) := by
  rcases push_of_place h with ⟨rfl, _, hpush⟩ | ⟨rfl, _, hpush⟩ | ⟨rfl, _, hpush⟩ <;>
    rw [hpush] <;> cases other <;> simp [filled]

/-- Logs with different places can be filed in either order. -/
lemma push_comm {batchSweeper : Address} {x y : RpcLog} {a b : Address} {kind kind' : EventKind}
    (hx : x.place batchSweeper = some (a, kind)) (hy : y.place batchSweeper = some (b, kind'))
    (hne : kind ≠ kind') (entry : PendingOutcome) : (entry.push x).push y = (entry.push y).push x := by
  rcases push_of_place hx with ⟨rfl, _, hx⟩ | ⟨rfl, _, hx⟩ | ⟨rfl, _, hx⟩ <;>
    rcases push_of_place hy with ⟨rfl, _, hy⟩ | ⟨rfl, _, hy⟩ | ⟨rfl, _, hy⟩ <;>
    first | exact absurd rfl hne | rw [hx, hy, hx, hy]

end PendingOutcome

/-- Two logs with one place are one log. -/
lemma eq_of_place {batchSweeper : Address} {logs : List RpcLog}
    (h : (logs.filterMap (RpcLog.place batchSweeper)).Nodup) {x y : RpcLog} (hx : x ∈ logs)
    (hy : y ∈ logs) {place : Address × EventKind} (hxp : x.place batchSweeper = some place)
    (hyp : y.place batchSweeper = some place) : x = y := by
  induction logs with
  | nil => cases hx
  | cons log rest ih =>
    have hrest : ∀ z ∈ rest, z.place batchSweeper = some place →
        place ∈ rest.filterMap (RpcLog.place batchSweeper) := fun z hz hzp =>
      List.mem_filterMap.2 ⟨z, hz, hzp⟩
    rcases List.mem_cons.1 hx with rfl | hx' <;> rcases List.mem_cons.1 hy with rfl | hy'
    · rfl
    · rw [List.filterMap_cons_some hxp, List.nodup_cons] at h
      exact absurd (hrest y hy' hyp) h.1
    · rw [List.filterMap_cons_some hyp, List.nodup_cons] at h
      exact absurd (hrest x hx' hxp) h.1
    · refine ih ?_ hx' hy'
      rw [List.filterMap_cons] at h
      split at h
      · exact h
      · exact (List.nodup_cons.1 h).2

/-! ### What is accepted -/

section

variable {batchSweeper : Address} {txHash : Hash} {pending pending' : Pending} {log : RpcLog}
  {logs logs' : List RpcLog}

lemma decodeLog_ok_iff (batchSweeper : Address) (txHash : Hash) (pending : Pending) (log : RpcLog) :
    (∃ pending', decodeLog batchSweeper txHash pending log = .ok pending') ↔
      log.malformed batchSweeper = false ∧
      ∀ a kind, log.place batchSweeper = some (a, kind) → (pending.entry a).filled kind = false := by
  unfold decodeLog RpcLog.malformed RpcLog.place Pending.pushSweeper
  by_cases haddr : log.address = batchSweeper
  · simp only [if_pos haddr]
    rcases log.event with (_ | _) | (_ | _) | (_ | ⟨payment, data⟩) | (_ | ⟨payment, amount⟩) | _ <;>
      simp [PendingOutcome.filled]
    all_goals
      split
      · rename_i h
        obtain ⟨outcome, h⟩ := Option.isSome_iff_exists.1 h
        simp [h]
      · rename_i h
        simp only [Bool.not_eq_true, Option.isSome_eq_false_iff, Option.isNone_iff_eq_none] at h
        simp [h]
  · simp only [if_neg haddr]
    rcases log.event with (_ | amount) | (_ | ⟨token, amount⟩) | (_ | _) | (_ | _) | _ <;>
      simp [PendingOutcome.filled]
    all_goals
      split
      · rename_i h
        obtain ⟨outcome, h⟩ := Option.isSome_iff_exists.1 h
        simp [h]
      · rename_i h
        simp only [Bool.not_eq_true, Option.isSome_eq_false_iff, Option.isNone_iff_eq_none] at h
        simp [h]

lemma filled_decodeLog (h : decodeLog batchSweeper txHash pending log = .ok pending') (a : Address)
    (kind : EventKind) : (pending'.entry a).filled kind =
      ((pending.entry a).filled kind || decide (log.place batchSweeper = some (a, kind))) := by
  rw [decodeLog_entry h a]
  by_cases hsubject : log.subject batchSweeper = some a
  · obtain ⟨kind', hplace⟩ := RpcLog.place_of_subject hsubject
    rw [if_pos hsubject, PendingOutcome.filled_push hplace, hplace]
    simp only [Option.some.injEq, Prod.mk.injEq, true_and, eq_comm]
  · have hplace : log.place batchSweeper ≠ some (a, kind) := fun h =>
      hsubject (RpcLog.subject_of_place h)
    rw [if_neg hsubject]
    simp [hplace]

/-- A receipt is filed exactly when every event decodes and no two events take one place. -/
lemma decodeLogs_ok_iff : (∃ pending', decodeLogs batchSweeper txHash logs pending = .ok pending') ↔
    (∀ log ∈ logs, log.malformed batchSweeper = false) ∧
      (logs.filterMap (RpcLog.place batchSweeper)).Nodup ∧
      ∀ place ∈ logs.filterMap (RpcLog.place batchSweeper),
        (pending.entry place.1).filled place.2 = false := by
  induction logs generalizing pending with
  | nil => simp [decodeLogs]
  | cons log rest ih =>
    have hlog := decodeLog_ok_iff batchSweeper txHash pending log
    unfold decodeLogs
    cases hdecode : decodeLog batchSweeper txHash pending log with
    | error e =>
      simp only [hdecode, reduceCtorEq, exists_false, false_iff] at hlog ⊢
      rintro ⟨hmalformed, hnodup, hfree⟩
      refine hlog ⟨hmalformed log (List.mem_cons_self ..), fun a kind hplace => hfree (a, kind) ?_⟩
      exact List.mem_filterMap.2 ⟨log, List.mem_cons_self .., hplace⟩
    | ok pending₁ =>
      obtain ⟨hmalformed, hfree⟩ := hlog.1 ⟨pending₁, hdecode⟩
      rw [ih]
      simp only [filled_decodeLog hdecode, Bool.or_eq_false_iff, decide_eq_false_iff_not, List.mem_cons,
        forall_eq_or_imp, hmalformed, true_and]
      cases hplace : log.place batchSweeper with
      | none => simp [hplace]
      | some place =>
        rw [List.filterMap_cons_some hplace, List.nodup_cons]
        simp only [List.mem_cons, forall_eq_or_imp, hfree place.1 place.2 hplace, true_and,
          Option.some.injEq]
        constructor
        · rintro ⟨hrest, hnodup, hfree'⟩
          exact ⟨hrest, ⟨fun hmem => (hfree' place hmem).2 rfl, hnodup⟩, fun other hother =>
            (hfree' other hother).1⟩
        · rintro ⟨hrest, ⟨hnew, hnodup⟩, hfree'⟩
          exact ⟨hrest, hnodup, fun other hother => ⟨hfree' other hother, fun heq => hnew (heq ▸ hother)⟩⟩

/-- The addresses with an entry are those of the logs. -/
lemma mem_keys_decodeLog (h : decodeLog batchSweeper txHash pending log = .ok pending') (a : Address) :
    a ∈ pending'.rows.map Prod.fst ↔
      log.subject batchSweeper = some a ∨ a ∈ pending.rows.map Prod.fst := by
  have hupsert : ∀ {b : Address} {entry : PendingOutcome}, log.subject batchSweeper = some b →
      pending' = pending.upsert (b, entry) →
      (a ∈ pending'.rows.map Prod.fst ↔
        log.subject batchSweeper = some a ∨ a ∈ pending.rows.map Prod.fst) := by
    rintro b entry hsubject rfl
    rw [Table.mem_keys_upsert, hsubject, Option.some.injEq, eq_comm]
  unfold decodeLog at h
  unfold RpcLog.subject at hupsert ⊢
  by_cases haddr : log.address = batchSweeper
  · simp only [if_pos haddr] at h hupsert ⊢
    rcases hevent : log.event with (_ | _) | (_ | _) | (_ | ⟨payment, data⟩) | (_ | ⟨payment, amount⟩) | _ <;>
      rw [hevent] at h hupsert <;> simp only [reduceCtorEq, false_or] at h hupsert ⊢
    all_goals
      first
      | (obtain rfl := Except.ok.inj h; rfl)
      | (unfold Pending.pushSweeper at h
         split at h
         · cases h
         · exact hupsert rfl (Except.ok.inj h).symm)
  · simp only [if_neg haddr] at h hupsert ⊢
    rcases hevent : log.event with (_ | amount) | (_ | ⟨token, amount⟩) | (_ | _) | (_ | _) | _ <;>
      rw [hevent] at h hupsert <;> simp only [reduceCtorEq, false_or] at h hupsert ⊢
    all_goals
      first
      | (obtain rfl := Except.ok.inj h; rfl)
      | (split at h
         · cases h
         · exact hupsert rfl (Except.ok.inj h).symm)

lemma mem_keys_decodeLogs (h : decodeLogs batchSweeper txHash logs pending = .ok pending') (a : Address) :
    a ∈ pending'.rows.map Prod.fst ↔
      (∃ log ∈ logs, log.subject batchSweeper = some a) ∨ a ∈ pending.rows.map Prod.fst := by
  induction logs generalizing pending with
  | nil =>
    obtain rfl := Except.ok.inj h
    simp
  | cons log rest ih =>
    unfold decodeLogs at h
    split at h
    · cases h
    · rename_i pending₁ hlog
      rw [ih h, mem_keys_decodeLog hlog]
      simp only [List.mem_cons, exists_eq_or_imp]
      rw [or_left_comm, or_assoc]

lemma resolveAll_ok_iff {entries : List (Address × PendingOutcome)} :
    (∃ outcomes, resolveAll txHash entries = .ok outcomes) ↔
      ∀ entry ∈ entries, ∃ outcome, entry.2.resolve txHash entry.1 = .ok outcome := by
  induction entries with
  | nil => simp [resolveAll]
  | cons entry rest ih =>
    rw [List.forall_mem_cons, ← ih, resolveAll]
    cases entry.2.resolve txHash entry.1 <;> cases resolveAll txHash rest <;> simp

lemma resolveAll_keys {entries : List (Address × PendingOutcome)}
    {outcomes : List (Address × SweepOutcome)} (h : resolveAll txHash entries = .ok outcomes) :
    outcomes.map Prod.fst = entries.map Prod.fst := by
  induction entries generalizing outcomes with
  | nil =>
    obtain rfl := Except.ok.inj h
    rfl
  | cons entry rest ih =>
    unfold resolveAll at h
    split at h
    · cases h
    · cases h
    · rename_i outcome outcomes' hentry hrest
      obtain rfl := Except.ok.inj h
      rw [List.map_cons, List.map_cons, ih hrest]

lemma decodeLog_error {e : ChainError} (h : decodeLog batchSweeper txHash pending log = .error e) :
    ∃ text, e = .transient text := by
  unfold decodeLog Pending.pushSweeper at h
  repeat' split at h
  all_goals first | (cases h; exact ⟨_, rfl⟩) | cases h

lemma decodeLogs_error {e : ChainError} (h : decodeLogs batchSweeper txHash logs pending = .error e) :
    ∃ text, e = .transient text := by
  induction logs generalizing pending with
  | nil => cases h
  | cons log rest ih =>
    unfold decodeLogs at h
    split at h
    · rename_i hlog
      cases h
      exact decodeLog_error hlog
    · exact ih h

lemma resolve_error {entry : PendingOutcome} {a : Address} {e : ChainError}
    (h : entry.resolve txHash a = .error e) : ∃ text, e = .transient text := by
  unfold PendingOutcome.resolve at h
  split at h <;> first | (cases h; exact ⟨_, rfl⟩) | cases h

lemma resolveAll_error {entries : List (Address × PendingOutcome)} {e : ChainError}
    (h : resolveAll txHash entries = .error e) : ∃ text, e = .transient text := by
  induction entries with
  | nil => cases h
  | cons entry rest ih =>
    unfold resolveAll at h
    split at h
    · rename_i hentry
      cases h
      exact resolve_error hentry
    · rename_i hrest _
      cases h
      exact ih hrest
    · cases h

/-- The events of a payment address, from the logs about it. -/
def eventsOf (batchSweeper : Address) (logs : List RpcLog) (a : Address) : PendingOutcome :=
  (logs.filter fun log => decide (log.subject batchSweeper = some a)).foldl PendingOutcome.push {}

/-- The logs that are decoded: every event decodes, no two take one place, and the events of every
payment address make an outcome. -/
structure WellFormed (batchSweeper : Address) (txHash : Hash) (logs : List RpcLog) : Prop where
  decoded : ∀ log ∈ logs, log.malformed batchSweeper = false
  places : (logs.filterMap (RpcLog.place batchSweeper)).Nodup
  resolved : ∀ a, (∃ log ∈ logs, log.subject batchSweeper = some a) →
    ∃ outcome, (eventsOf batchSweeper logs a).resolve txHash a = .ok outcome

lemma entry_empty (a : Address) : Pending.entry Table.empty a = {} := rfl

lemma filed_iff : (∃ pending, decodeLogs batchSweeper txHash logs Table.empty = .ok pending) ↔
    (∀ log ∈ logs, log.malformed batchSweeper = false) ∧
      (logs.filterMap (RpcLog.place batchSweeper)).Nodup := by
  rw [decodeLogs_ok_iff]
  simp only [entry_empty, PendingOutcome.filled_empty, implies_true, and_true]

/-- The rows of the filed events. -/
lemma mem_pending_iff (h : decodeLogs batchSweeper txHash logs Table.empty = .ok pending)
    {x : Address × PendingOutcome} : x ∈ pending.rows ↔
      (∃ log ∈ logs, log.subject batchSweeper = some x.1) ∧ x.2 = eventsOf batchSweeper logs x.1 := by
  have hkeys := mem_keys_decodeLogs h x.1
  have hentry := decodeLogs_entry h x.1
  simp only [Table.rows_empty, List.map_nil, List.not_mem_nil, or_false] at hkeys
  have hfound : ∀ y ∈ pending.rows, y.2 = pending.entry y.1 := by
    intro y hy
    rw [Pending.entry, Table.find?_of_mem hy]
    rfl
  constructor
  · intro hx
    refine ⟨hkeys.1 (List.mem_map_of_mem hx), ?_⟩
    rw [hfound x hx, hentry]
    rfl
  · rintro ⟨hlog, hx⟩
    obtain ⟨y, hy, heq⟩ := List.mem_map.1 (hkeys.2 hlog)
    have hxy : x = y := by
      refine Prod.ext heq.symm ?_
      rw [hx, hfound y hy, heq, hentry]
      rfl
    rwa [hxy]

/-- Which receipts are decoded. -/
lemma decodeSweepOutcomes_ok_iff : (∃ outcomes, decodeSweepOutcomes logs batchSweeper txHash = .ok outcomes) ↔
    WellFormed batchSweeper txHash logs := by
  unfold decodeSweepOutcomes
  cases hdecode : decodeLogs batchSweeper txHash logs Table.empty with
  | error e =>
    simp only [reduceCtorEq, exists_false, false_iff]
    intro hw
    obtain ⟨pending, hok⟩ := filed_iff.2 ⟨hw.decoded, hw.places⟩
    rw [hdecode] at hok
    cases hok
  | ok pending =>
    have hresolve : (∃ outcomes, resolveAll txHash pending.rows = .ok outcomes) ↔
        ∀ a, (∃ log ∈ logs, log.subject batchSweeper = some a) →
          ∃ outcome, (eventsOf batchSweeper logs a).resolve txHash a = .ok outcome := by
      rw [resolveAll_ok_iff]
      constructor
      · intro h a hlog
        exact h (a, eventsOf batchSweeper logs a) ((mem_pending_iff hdecode).2 ⟨hlog, rfl⟩)
      · intro h entry hentry
        obtain ⟨hlog, heq⟩ := (mem_pending_iff hdecode).1 hentry
        rw [heq]
        exact h entry.1 hlog
    obtain ⟨hdecoded, hplaces⟩ := filed_iff.1 ⟨pending, hdecode⟩
    cases hall : resolveAll txHash pending.rows with
    | error e =>
      simp only [hall, reduceCtorEq, exists_false, false_iff] at hresolve ⊢
      exact fun hw => hresolve hw.resolved
    | ok outcomes =>
      exact ⟨fun _ => ⟨hdecoded, hplaces, hresolve.1 ⟨outcomes, hall⟩⟩, fun _ => by simp [hall]⟩

/-- What is decoded for a payment address. -/
lemma decodeSweepOutcomes_iff {outcomes : Table (Prod.fst : Address × SweepOutcome → Address)}
    (h : decodeSweepOutcomes logs batchSweeper txHash = .ok outcomes) {a : Address}
    {outcome : SweepOutcome} : (outcomes.find? a).map Prod.snd = some outcome ↔
      (∃ log ∈ logs, log.subject batchSweeper = some a) ∧
        (eventsOf batchSweeper logs a).resolve txHash a = .ok outcome := by
  constructor
  · intro hfind
    obtain ⟨x, hx, rfl⟩ := Option.map_eq_some_iff.1 hfind
    refine ⟨?_, decodeSweepOutcomes_find? h hx⟩
    unfold decodeSweepOutcomes at h
    split at h
    · cases h
    · rename_i pending hpending
      split at h
      · cases h
      · rename_i list hlist
        obtain rfl := Except.ok.inj h
        have hnodup : (list.map Prod.fst).Nodup := by
          rw [resolveAll_keys hlist]
          exact pending.nodup
        rw [Table.find?_foldl_upsert _ hnodup, Table.find?_empty, Option.or_none] at hx
        have hmem := List.mem_map_of_mem (f := Prod.fst) (List.mem_of_find?_eq_some hx)
        rw [resolveAll_keys hlist, of_decide_eq_true (List.find?_some hx :)] at hmem
        obtain ⟨y, hy, rfl⟩ := List.mem_map.1 hmem
        exact ((mem_pending_iff hpending).1 hy).1
  · rintro ⟨hlog, hresolve⟩
    -- the address has an entry, which resolved to the outcome
    have hfound : outcomes.find? a ≠ none := by
      unfold decodeSweepOutcomes at h
      split at h
      · cases h
      · rename_i pending hpending
        split at h
        · cases h
        · rename_i list hlist
          obtain rfl := Except.ok.inj h
          have hkeys := resolveAll_keys hlist
          have hmem := List.mem_map_of_mem (f := Prod.fst)
            ((mem_pending_iff (x := (a, eventsOf batchSweeper logs a)) hpending).2 ⟨hlog, rfl⟩)
          rw [← hkeys] at hmem
          rw [Table.find?_foldl_upsert _ (hkeys ▸ pending.nodup), Table.find?_empty, Option.or_none]
          obtain ⟨x, hx, hxa⟩ := List.mem_map.1 hmem
          intro hnone
          exact List.find?_eq_none.1 hnone x hx (by simpa using hxa)
    obtain ⟨x, hx⟩ := Option.ne_none_iff_exists'.1 hfound
    have hx' := decodeSweepOutcomes_find? h hx
    rw [hx, Option.map_some]
    exact congrArg some (Except.ok.inj (hx'.symm.trans hresolve))

/-! ### Permutations -/

/-- The events of a payment address do not depend on the order of the logs. -/
lemma eventsOf_perm (h : logs.Perm logs') (hplaces : (logs.filterMap (RpcLog.place batchSweeper)).Nodup)
    (a : Address) : eventsOf batchSweeper logs a = eventsOf batchSweeper logs' a := by
  unfold eventsOf
  refine (h.filter _).foldl_eq' ?_ _
  intro x hx y hy entry
  obtain ⟨hx, hxa⟩ := List.mem_filter.1 hx
  obtain ⟨hy, hya⟩ := List.mem_filter.1 hy
  obtain ⟨kind, hx'⟩ := RpcLog.place_of_subject (of_decide_eq_true hxa)
  obtain ⟨kind', hy'⟩ := RpcLog.place_of_subject (of_decide_eq_true hya)
  by_cases hkind : kind = kind'
  · -- one log only has this place
    subst hkind
    rw [eq_of_place hplaces hx hy hx' hy']
  · exact PendingOutcome.push_comm hx' hy' hkind entry

lemma WellFormed.perm (hw : WellFormed batchSweeper txHash logs) (h : logs.Perm logs') :
    WellFormed batchSweeper txHash logs' where
  decoded := fun log hlog => hw.decoded log (h.mem_iff.2 hlog)
  places := ((h.filterMap _).nodup_iff).1 hw.places
  resolved := by
    rintro a ⟨log, hlog, hsubject⟩
    rw [← eventsOf_perm h hw.places]
    exact hw.resolved a ⟨log, h.mem_iff.2 hlog, hsubject⟩

/-- A receipt in another order is decoded to the same outcomes. -/
lemma decodeSweepOutcomes_perm (h : logs.Perm logs')
    {outcomes : Table (Prod.fst : Address × SweepOutcome → Address)}
    (hok : decodeSweepOutcomes logs batchSweeper txHash = .ok outcomes) :
    ∃ outcomes', decodeSweepOutcomes logs' batchSweeper txHash = .ok outcomes' ∧
      ∀ a, (outcomes'.find? a).map Prod.snd = (outcomes.find? a).map Prod.snd := by
  have hw := decodeSweepOutcomes_ok_iff.1 ⟨outcomes, hok⟩
  obtain ⟨outcomes', hok'⟩ := decodeSweepOutcomes_ok_iff.2 (hw.perm h)
  refine ⟨outcomes', hok', fun a => Option.ext fun outcome => ?_⟩
  rw [decodeSweepOutcomes_iff hok', decodeSweepOutcomes_iff hok, eventsOf_perm h hw.places]
  simp only [h.mem_iff]

/-- What is not decoded is reported as transient. -/
lemma decodeSweepOutcomes_error {e : ChainError}
    (h : decodeSweepOutcomes logs batchSweeper txHash = .error e) : ∃ text, e = .transient text := by
  unfold decodeSweepOutcomes at h
  split at h
  · rename_i hlogs
    cases h
    exact decodeLogs_error hlogs
  · split at h
    · rename_i hall
      cases h
      exact resolveAll_error hall
    · cases h

end

end Payday
