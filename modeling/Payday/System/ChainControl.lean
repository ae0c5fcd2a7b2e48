/-
# Halting a chain

The server halts a chain by raising a fault and resumes it by clearing the fault, and tells the
signers about both over the bus.  The messages may be redelivered and reordered; the signers keep one
row per fault (`execution.chain_halts`), in which a resume is a tombstone.
-/
import Mathlib.Logic.Relation
import Payday.Ledger.Requests

namespace Payday

/-! ### The signers' table -/

inductive ChainControl
  | halted (faultId : ℕ) (chainId : ChainId) (reason : String)
  | resumed (faultId : ℕ) (chainId : ChainId)
deriving DecidableEq, Repr

/-- The fault that a message is about. -/
def ChainControl.faultId : ChainControl → ℕ
  | halted faultId _ _ => faultId
  | resumed faultId _ => faultId

def ChainControl.chainId : ChainControl → ChainId
  | halted _ chainId _ => chainId
  | resumed _ chainId => chainId

def ChainControl.isHalt : ChainControl → Bool
  | halted .. => true
  | resumed .. => false

/-- A row of `execution.chain_halts`. -/
structure ChainHalt where
  faultId : ℕ
  chainId : ChainId
  reason : Option String
  haltedAt : Option Time
  resumedAt : Option Time
deriving DecidableEq, Repr

/-- The row of a message's fault after the message. -/
def ChainControl.row (now : Time) (old : Option ChainHalt) : ChainControl → ChainHalt
  | halted faultId chainId reason =>
    match old with
    | none => ⟨faultId, chainId, some reason, some now, none⟩
    | some row => ⟨faultId, chainId, some reason, row.haltedAt.or (some now), row.resumedAt⟩
  | resumed faultId chainId =>
    match old with
    | none => ⟨faultId, chainId, none, none, some now⟩
    | some row => ⟨faultId, row.chainId, row.reason, row.haltedAt, row.resumedAt.or (some now)⟩

/-- `apply_chain_control`. -/
def applyChainControl (halts : Table ChainHalt.faultId) (now : Time) (control : ChainControl) :
    Table ChainHalt.faultId :=
  halts.upsert (control.row now (halts.find? control.faultId))

/-- `is_halted`. -/
def isHalted (halts : Table ChainHalt.faultId) (chainId : ChainId) : Bool :=
  halts.rows.any fun row => decide (row.chainId = chainId) && row.haltedAt.isSome && row.resumedAt.isNone

/-! ### The server and the bus -/

/-- The open fault of a chain. -/
def Ledger.openFault (L : Ledger) (chainId : ChainId) : Option ChainFault :=
  L.chainFaults.rows.find? fun fault => decide (fault.chainId = chainId) && fault.clearedAt.isNone

/-- The messages that raising publishes. -/
def raisePublishes (L : Ledger) (faultId : ℕ) (chainId : ChainId) (reason : String) : List ChainControl :=
  if L.isHalted chainId then [] else [.halted faultId chainId reason]

/-- The messages that clearing publishes. -/
def clearPublishes (L : Ledger) (chainId : ChainId) : List ChainControl :=
  (L.openFault chainId).toList.map fun fault => .resumed fault.id chainId

/-- The ledger, the bus and the signers' table, with what was applied so far. -/
structure ControlWorld where
  ledger : Ledger
  published : List ChainControl
  halts : Table ChainHalt.faultId
  applied : List ChainControl

namespace ControlWorld

/-- Nothing raised yet. -/
def start (L : Ledger) : ControlWorld := ⟨L, [], Table.empty, []⟩

/-- What may happen: a fault is raised or cleared, another transaction is committed, or a published
message is delivered, the first time or again. -/
inductive Step : ControlWorld → ControlWorld → Prop
  | raise (w : ControlWorld) (now : Time) (faultId : ℕ) (chainId : ChainId) (reason : String) (block : Option ℕ)
      (fresh : faultId ∉ w.ledger.chainFaults.rows.map ChainFault.id) :
      Step w { w with
        ledger := raiseFault w.ledger now faultId chainId reason block
        published := w.published ++ raisePublishes w.ledger faultId chainId reason }
  | clear (w : ControlWorld) (now : Time) (chainId : ChainId) :
      Step w { w with
        ledger := clearFault w.ledger now chainId
        published := w.published ++ clearPublishes w.ledger chainId }
  | other (w : ControlWorld) (L : Ledger) (same : L.chainFaults = w.ledger.chainFaults) :
      Step w { w with ledger := L }
  | deliver (w : ControlWorld) (now : Time) (control : ChainControl) (sent : control ∈ w.published) :
      Step w { w with
        halts := applyChainControl w.halts now control
        applied := control :: w.applied }

/-- The worlds that a run can lead to. -/
def Reachable (w : ControlWorld) : Prop :=
  ∃ L : Ledger, L.chainFaults = Table.empty ∧ Relation.ReflTransGen Step (start L) w

/-! ### What was published -/

/-- The messages are those of the faults, and a chain has at most one open fault. -/
structure Published (w : ControlWorld) : Prop where
  single : ∀ f ∈ w.ledger.chainFaults.rows, ∀ g ∈ w.ledger.chainFaults.rows, f.clearedAt = none →
    g.clearedAt = none → f.chainId = g.chainId → f = g
  halted : ∀ faultId chainId reason, .halted faultId chainId reason ∈ w.published ↔
    ∃ f ∈ w.ledger.chainFaults.rows, f.id = faultId ∧ f.chainId = chainId ∧ f.reason = reason
  resumed : ∀ faultId chainId, .resumed faultId chainId ∈ w.published ↔
    ∃ f ∈ w.ledger.chainFaults.rows, f.id = faultId ∧ f.chainId = chainId ∧ f.clearedAt.isSome

variable {w : ControlWorld}

lemma isHalted_eq_false {L : Ledger} {chainId : ChainId} (h : ¬ L.isHalted chainId = true) :
    ∀ f ∈ L.chainFaults.rows, f.chainId = chainId → f.clearedAt ≠ none := by
  intro f hf hchain hopen
  refine h (List.any_eq_true.2 ⟨f, hf, ?_⟩)
  simp [hchain, hopen]

lemma Published.raise {now : Time} {faultId : ℕ} {chainId : ChainId} {reason : String} {block : Option ℕ}
    (h : w.Published) (fresh : faultId ∉ w.ledger.chainFaults.rows.map ChainFault.id) :
    Published { w with
      ledger := raiseFault w.ledger now faultId chainId reason block
      published := w.published ++ raisePublishes w.ledger faultId chainId reason } := by
  by_cases hopen : w.ledger.isHalted chainId = true
  · simp only [raiseFault, raisePublishes, hopen, if_true, List.append_nil]
    exact h
  · have hclosed := isHalted_eq_false hopen
    have hrows : (raiseFault w.ledger now faultId chainId reason block).chainFaults.rows =
        w.ledger.chainFaults.rows ++ [⟨faultId, chainId, reason, block, now, none⟩] := by
      rw [raiseFault, if_neg hopen]
      exact Table.rows_insertNew_of_notMem fresh
    have hmessages : raisePublishes w.ledger faultId chainId reason = [.halted faultId chainId reason] :=
      if_neg hopen
    constructor
    · intro f hf g hg hfopen hgopen hchain
      simp only [hrows, List.mem_append, List.mem_singleton] at hf hg
      rcases hf with hf | rfl
      · rcases hg with hg | rfl
        · exact h.single f hf g hg hfopen hgopen hchain
        · exact absurd hfopen (hclosed f hf hchain)
      · rcases hg with hg | rfl
        · exact absurd hgopen (hclosed g hg hchain.symm)
        · rfl
    · intro id chain text
      simp only [hrows, hmessages, List.mem_append, List.mem_singleton, h.halted, ChainControl.halted.injEq]
      constructor
      · rintro (⟨f, hf, hmatch⟩ | ⟨rfl, rfl, rfl⟩)
        · exact ⟨f, .inl hf, hmatch⟩
        · exact ⟨_, .inr rfl, rfl, rfl, rfl⟩
      · rintro ⟨f, hf | rfl, hid, hchain, hreason⟩
        · exact .inl ⟨f, hf, hid, hchain, hreason⟩
        · exact .inr ⟨hid.symm, hchain.symm, hreason.symm⟩
    · intro id chain
      simp only [hrows, hmessages, List.mem_append, List.mem_singleton, h.resumed, reduceCtorEq, or_false]
      constructor
      · rintro ⟨f, hf, hmatch⟩
        exact ⟨f, .inl hf, hmatch⟩
      · rintro ⟨f, hf | rfl, hid, hchain, hcleared⟩
        · exact ⟨f, hf, hid, hchain, hcleared⟩
        · cases hcleared

/-- A fault after a clearing. -/
def cleared (now : Time) (chainId : ChainId) (f : ChainFault) : ChainFault :=
  if decide (f.chainId = chainId) && f.clearedAt.isNone then { f with clearedAt := some now } else f

lemma rows_clearFault {L : Ledger} {now : Time} {chainId : ChainId} :
    (clearFault L now chainId).chainFaults.rows = L.chainFaults.rows.map (cleared now chainId) := rfl

lemma cleared_id (now : Time) (chainId : ChainId) (f : ChainFault) : (cleared now chainId f).id = f.id := by
  unfold cleared
  split <;> rfl

lemma cleared_chainId (now : Time) (chainId : ChainId) (f : ChainFault) :
    (cleared now chainId f).chainId = f.chainId := by
  unfold cleared
  split <;> rfl

lemma cleared_reason (now : Time) (chainId : ChainId) (f : ChainFault) :
    (cleared now chainId f).reason = f.reason := by
  unfold cleared
  split <;> rfl

/-- A fault is closed after a clearing if it was, or if it was open on the chain. -/
lemma cleared_clearedAt (now : Time) (chainId : ChainId) (f : ChainFault) :
    (cleared now chainId f).clearedAt.isSome ↔ f.clearedAt.isSome ∨ f.chainId = chainId := by
  unfold cleared
  rcases hopen : f.clearedAt with _ | at'
  · by_cases hchain : f.chainId = chainId <;> simp [hchain, hopen]
  · simp [hopen]

/-- The one message of a clearing is about the fault that was open. -/
lemma Published.mem_clearPublishes (h : w.Published) {chainId : ChainId} {m : ChainControl} :
    m ∈ clearPublishes w.ledger chainId ↔
      ∃ f ∈ w.ledger.chainFaults.rows, f.chainId = chainId ∧ f.clearedAt = none ∧ m = .resumed f.id chainId := by
  simp only [clearPublishes, List.mem_map, Option.mem_toList]
  constructor
  · rintro ⟨f, hf, rfl⟩
    have hopen := List.find?_some hf
    simp only [Bool.and_eq_true, decide_eq_true_eq, Option.isNone_iff_eq_none] at hopen
    exact ⟨f, List.mem_of_find?_eq_some hf, hopen.1, hopen.2, rfl⟩
  · rintro ⟨f, hf, hchain, hopen, rfl⟩
    obtain ⟨g, hg⟩ : ∃ g, w.ledger.openFault chainId = some g := by
      rw [← Option.isSome_iff_exists, Ledger.openFault, List.find?_isSome]
      exact ⟨f, hf, by simp [hchain, hopen]⟩
    have hgopen := List.find?_some hg
    simp only [Bool.and_eq_true, decide_eq_true_eq, Option.isNone_iff_eq_none] at hgopen
    -- the fault that is found is the only open one
    have hsame : g = f :=
      h.single g (List.mem_of_find?_eq_some hg) f hf hgopen.2 hopen (hgopen.1.trans hchain.symm)
    exact ⟨g, hg, by rw [hsame]⟩

lemma Published.clear {now : Time} {chainId : ChainId} (h : w.Published) :
    Published { w with
      ledger := clearFault w.ledger now chainId
      published := w.published ++ clearPublishes w.ledger chainId } := by
  constructor
  · intro f hf g hg hfopen hgopen hchain
    simp only [rows_clearFault, List.mem_map] at hf hg
    obtain ⟨f, hf, rfl⟩ := hf
    obtain ⟨g, hg, rfl⟩ := hg
    have hopen : ∀ f : ChainFault, (cleared now chainId f).clearedAt = none → f.clearedAt = none := by
      intro f hnone
      have hiff := cleared_clearedAt now chainId f
      rw [hnone] at hiff
      rcases hc : f.clearedAt with _ | at'
      · rfl
      · simp [hc] at hiff
    rw [cleared_chainId, cleared_chainId] at hchain
    rw [h.single f hf g hg (hopen f hfopen) (hopen g hgopen) hchain]
  · intro id chain text
    simp only [rows_clearFault, List.mem_append, h.halted, h.mem_clearPublishes, List.mem_map]
    constructor
    · rintro (⟨f, hf, hid, hchain, hreason⟩ | ⟨f, -, -, -, hm⟩)
      · exact ⟨_, ⟨f, hf, rfl⟩, by rw [cleared_id, hid], by rw [cleared_chainId, hchain],
          by rw [cleared_reason, hreason]⟩
      · cases hm
    · rintro ⟨_, ⟨f, hf, rfl⟩, hid, hchain, hreason⟩
      rw [cleared_id] at hid
      rw [cleared_chainId] at hchain
      rw [cleared_reason] at hreason
      exact .inl ⟨f, hf, hid, hchain, hreason⟩
  · intro id chain
    simp only [rows_clearFault, List.mem_append, h.resumed, h.mem_clearPublishes, List.mem_map,
      ChainControl.resumed.injEq]
    constructor
    · rintro (⟨f, hf, hid, hchain, hclosed⟩ | ⟨f, hf, hchain, -, hid, hc⟩)
      · exact ⟨_, ⟨f, hf, rfl⟩, by rw [cleared_id, hid], by rw [cleared_chainId, hchain],
          (cleared_clearedAt now chainId f).2 (.inl hclosed)⟩
      · exact ⟨_, ⟨f, hf, rfl⟩, by rw [cleared_id, hid], by rw [cleared_chainId, hchain, hc],
          (cleared_clearedAt now chainId f).2 (.inr hchain)⟩
    · rintro ⟨_, ⟨f, hf, rfl⟩, hid, hchain, hclosed⟩
      rw [cleared_id] at hid
      rw [cleared_chainId] at hchain
      rcases hc : f.clearedAt with _ | at'
      · rcases (cleared_clearedAt now chainId f).1 hclosed with hsome | heq
        · rw [hc] at hsome
          cases hsome
        · exact .inr ⟨f, hf, heq, hc, hid.symm, hchain.symm.trans heq⟩
      · exact .inl ⟨f, hf, hid, hchain, by rw [hc]; rfl⟩

/-! ### What was applied -/

/-- The signers' table is what was applied, whatever the order and however often. -/
structure Applied (w : ControlWorld) : Prop where
  sent : ∀ m ∈ w.applied, m ∈ w.published
  absent : ∀ faultId, w.halts.find? faultId = none → ∀ m ∈ w.applied, m.faultId ≠ faultId
  row : ∀ row ∈ w.halts.rows,
    (∃ m ∈ w.applied, m.faultId = row.faultId ∧ m.chainId = row.chainId) ∧
    (row.haltedAt.isSome ↔ ∃ m ∈ w.applied, m.faultId = row.faultId ∧ m.isHalt = true) ∧
    (row.resumedAt.isSome ↔ ∃ m ∈ w.applied, m.faultId = row.faultId ∧ m.isHalt = false)

lemma row_faultId (now : Time) (old : Option ChainHalt) (m : ChainControl) : (m.row now old).faultId = m.faultId := by
  cases m <;> cases old <;> rfl

/-- A message about a fault that has no row. -/
lemma row_none (now : Time) (m : ChainControl) : (m.row now none).chainId = m.chainId ∧
    (m.row now none).haltedAt.isSome = m.isHalt ∧ (m.row now none).resumedAt.isSome = !m.isHalt := by
  cases m <;> exact ⟨rfl, rfl, rfl⟩

/-- A message about a fault that has one: what was set stays set. -/
lemma row_some (now : Time) (row : ChainHalt) (m : ChainControl) :
    ((m.row now (some row)).chainId = m.chainId ∨ (m.row now (some row)).chainId = row.chainId) ∧
    (m.row now (some row)).haltedAt.isSome = (row.haltedAt.isSome || m.isHalt) ∧
    (m.row now (some row)).resumedAt.isSome = (row.resumedAt.isSome || !m.isHalt) := by
  cases m with
  | halted faultId chainId reason =>
    refine ⟨.inl rfl, ?_, ?_⟩
    · cases hc : row.haltedAt <;> simp [ChainControl.row, ChainControl.isHalt, hc]
    · simp [ChainControl.row, ChainControl.isHalt]
  | resumed faultId chainId =>
    refine ⟨.inr rfl, ?_, ?_⟩
    · simp [ChainControl.row, ChainControl.isHalt]
    · cases hc : row.resumedAt <;> simp [ChainControl.row, ChainControl.isHalt, hc]

lemma find?_applyChainControl (halts : Table ChainHalt.faultId) (now : Time) (m : ChainControl) (faultId : ℕ) :
    (applyChainControl halts now m).find? faultId =
      if faultId = m.faultId then some (m.row now (halts.find? m.faultId)) else halts.find? faultId := by
  rw [applyChainControl, Table.find?_upsert, row_faultId]

lemma Applied.deliver {now : Time} {m : ChainControl} (h : w.Applied) (sent : m ∈ w.published) :
    Applied { w with
      halts := applyChainControl w.halts now m
      applied := m :: w.applied } := by
  constructor
  · intro m' hm'
    rcases List.mem_cons.1 hm' with rfl | hm'
    · exact sent
    · exact h.sent m' hm'
  · intro faultId hnone m' hm'
    simp only [find?_applyChainControl] at hnone
    split at hnone
    · cases hnone
    · rename_i hne
      rcases List.mem_cons.1 hm' with rfl | hm'
      · exact fun heq => hne heq.symm
      · exact h.absent faultId hnone m' hm'
  · intro row hrow
    have hfind := Table.find?_of_mem hrow
    simp only [find?_applyChainControl] at hfind
    split at hfind
    · -- the row of the message's fault
      rename_i hid
      have hrow' := Option.some.inj hfind
      rcases hold : w.halts.find? m.faultId with _ | old
      · have habsent := h.absent m.faultId hold
        rw [hold] at hrow'
        obtain ⟨hchain, hhalted, hresumed⟩ := row_none now m
        rw [hrow'] at hchain hhalted hresumed
        refine ⟨⟨m, List.mem_cons_self, hid.symm, hchain.symm⟩, ?_, ?_⟩
        · rw [hhalted]
          constructor
          · intro hhalt
            exact ⟨m, List.mem_cons_self, hid.symm, hhalt⟩
          · rintro ⟨m', hm', hid', hhalt⟩
            rcases List.mem_cons.1 hm' with rfl | hm'
            · exact hhalt
            · exact absurd (hid'.trans hid) (habsent m' hm')
        · rw [hresumed]
          constructor
          · intro hresume
            exact ⟨m, List.mem_cons_self, hid.symm, by simpa using hresume⟩
          · rintro ⟨m', hm', hid', hresume⟩
            rcases List.mem_cons.1 hm' with rfl | hm'
            · simpa using hresume
            · exact absurd (hid'.trans hid) (habsent m' hm')
      · obtain ⟨⟨m₀, hm₀, hid₀, hchain₀⟩, hhalted₀, hresumed₀⟩ := h.row old (Table.mem_of_find? hold)
        have hold' := Table.key_of_find? hold
        rw [hold] at hrow'
        obtain ⟨hchain, hhalted, hresumed⟩ := row_some now old m
        rw [hrow'] at hchain hhalted hresumed
        have hsame : old.faultId = row.faultId := hold'.trans hid.symm
        refine ⟨?_, ?_, ?_⟩
        · rcases hchain with hchain | hchain
          · exact ⟨m, List.mem_cons_self, hid.symm, hchain.symm⟩
          · exact ⟨m₀, List.mem_cons_of_mem _ hm₀, hid₀.trans hsame, hchain₀.trans hchain.symm⟩
        · rw [hhalted, Bool.or_eq_true, hhalted₀, hsame]
          constructor
          · rintro (⟨m', hm', hid', hhalt⟩ | hhalt)
            · exact ⟨m', List.mem_cons_of_mem _ hm', hid', hhalt⟩
            · exact ⟨m, List.mem_cons_self, hid.symm, hhalt⟩
          · rintro ⟨m', hm', hid', hhalt⟩
            rcases List.mem_cons.1 hm' with rfl | hm'
            · exact .inr hhalt
            · exact .inl ⟨m', hm', hid', hhalt⟩
        · rw [hresumed, Bool.or_eq_true, hresumed₀, hsame]
          constructor
          · rintro (⟨m', hm', hid', hresume⟩ | hresume)
            · exact ⟨m', List.mem_cons_of_mem _ hm', hid', hresume⟩
            · exact ⟨m, List.mem_cons_self, hid.symm, by simpa using hresume⟩
          · rintro ⟨m', hm', hid', hresume⟩
            rcases List.mem_cons.1 hm' with rfl | hm'
            · exact .inr (by simpa using hresume)
            · exact .inl ⟨m', hm', hid', hresume⟩
    · -- another fault's row is left alone
      rename_i hne
      obtain ⟨⟨m₀, hm₀, hmatch⟩, hhalted, hresumed⟩ := h.row row (Table.mem_of_find? hfind)
      have hother : ∀ p : ChainControl → Prop, (∃ m' ∈ m :: w.applied, m'.faultId = row.faultId ∧ p m') ↔
          ∃ m' ∈ w.applied, m'.faultId = row.faultId ∧ p m' := by
        intro p
        constructor
        · rintro ⟨m', hm', hid', hp⟩
          rcases List.mem_cons.1 hm' with rfl | hm'
          · exact absurd hid'.symm hne
          · exact ⟨m', hm', hid', hp⟩
        · rintro ⟨m', hm', hid', hp⟩
          exact ⟨m', List.mem_cons_of_mem _ hm', hid', hp⟩
      exact ⟨⟨m₀, List.mem_cons_of_mem _ hm₀, hmatch⟩, hhalted.trans (hother _).symm, hresumed.trans (hother _).symm⟩

/-! ### Every run -/

lemma Step.keeps {w' : ControlWorld} (hstep : Step w w') (h : w.Published ∧ w.Applied) :
    w'.Published ∧ w'.Applied := by
  obtain ⟨hpublished, happlied⟩ := h
  have hkeep : ∀ (L : Ledger) (ms : List ChainControl),
      Applied { w with ledger := L, published := w.published ++ ms } := fun L ms =>
    ⟨fun m hm => List.mem_append_left _ (happlied.sent m hm), happlied.absent, happlied.row⟩
  cases hstep with
  | raise now faultId chainId reason block fresh => exact ⟨hpublished.raise fresh, hkeep _ _⟩
  | clear now chainId => exact ⟨hpublished.clear, hkeep _ _⟩
  | other L same =>
    refine ⟨⟨?_, ?_, ?_⟩, ⟨happlied.sent, happlied.absent, happlied.row⟩⟩
    · rw [same]
      exact hpublished.single
    · rw [same]
      exact hpublished.halted
    · rw [same]
      exact hpublished.resumed
  | deliver now control sent =>
    exact ⟨⟨hpublished.single, hpublished.halted, hpublished.resumed⟩, happlied.deliver sent⟩

lemma Reachable.keeps (h : w.Reachable) : w.Published ∧ w.Applied := by
  obtain ⟨L, hempty, hrun⟩ := h
  induction hrun with
  | refl =>
    refine ⟨⟨?_, ?_, ?_⟩, ⟨?_, ?_, ?_⟩⟩ <;> simp [start, hempty]
  | tail _ hstep ih => exact hstep.keeps ih

/-- A message that is about a fault carries the fault's chain. -/
lemma Published.chainId_eq (h : w.Published) {m : ChainControl} {f : ChainFault} (hm : m ∈ w.published)
    (hf : f ∈ w.ledger.chainFaults.rows) (hid : m.faultId = f.id) : m.chainId = f.chainId := by
  cases m with
  | halted faultId chainId reason =>
    obtain ⟨g, hg, hgid, hchain, -⟩ := (h.halted faultId chainId reason).1 hm
    have hsame : g = f := w.ledger.chainFaults.eq_of_key_eq hg hf (hgid.trans hid)
    rw [← hsame, hchain]
    rfl
  | resumed faultId chainId =>
    obtain ⟨g, hg, hgid, hchain, -⟩ := (h.resumed faultId chainId).1 hm
    have hsame : g = f := w.ledger.chainFaults.eq_of_key_eq hg hf (hgid.trans hid)
    rw [← hsame, hchain]
    rfl

/-- The signers are halted by the faults whose halt was applied and whose resume was not. -/
lemma isHalted_iff_applied (hpublished : w.Published) (happlied : w.Applied) (chainId : ChainId) :
    isHalted w.halts chainId = true ↔ ∃ f ∈ w.ledger.chainFaults.rows, f.chainId = chainId ∧
      .halted f.id f.chainId f.reason ∈ w.applied ∧ .resumed f.id f.chainId ∉ w.applied := by
  simp only [isHalted, List.any_eq_true, Bool.and_eq_true, decide_eq_true_eq, Option.isNone_iff_eq_none]
  constructor
  · rintro ⟨row, hrow, ⟨hchain, hhalted⟩, hresumed⟩
    obtain ⟨⟨m₀, hm₀, hid₀, hchain₀⟩, hhalts, hresumes⟩ := happlied.row row hrow
    obtain ⟨m, hm, hid, hhalt⟩ := hhalts.1 hhalted
    cases m with
    | resumed faultId chain => cases hhalt
    | halted faultId chain reason =>
      obtain ⟨f, hf, hfid, hfchain, hreason⟩ := (hpublished.halted faultId chain reason).1 (happlied.sent _ hm)
      have hfrow : f.id = row.faultId := hfid.trans hid
      refine ⟨f, hf, ?_, ?_, fun hresume => ?_⟩
      · rw [← hpublished.chainId_eq (happlied.sent _ hm₀) hf (hid₀.trans hfrow.symm), hchain₀, hchain]
      · rwa [hfid, hfchain, hreason]
      · have hsome := hresumes.2 ⟨_, hresume, hfrow, rfl⟩
        rw [hresumed] at hsome
        cases hsome
  · rintro ⟨f, hf, hchain, hhalt, hresume⟩
    obtain ⟨row, hrow⟩ : ∃ row, w.halts.find? f.id = some row := by
      rw [← Option.ne_none_iff_exists']
      intro hnone
      exact happlied.absent f.id hnone _ hhalt rfl
    have hid := Table.key_of_find? hrow
    obtain ⟨⟨m₀, hm₀, hid₀, hchain₀⟩, hhalts, hresumes⟩ := happlied.row row (Table.mem_of_find? hrow)
    refine ⟨row, Table.mem_of_find? hrow, ⟨?_, hhalts.2 ⟨_, hhalt, hid.symm, rfl⟩⟩, ?_⟩
    · rw [← hchain₀, hpublished.chainId_eq (happlied.sent _ hm₀) hf (hid₀.trans hid), hchain]
    · rcases hresumed : row.resumedAt with _ | at'
      · rfl
      · obtain ⟨m, hm, hmid, hisresume⟩ := hresumes.1 (by rw [hresumed]; rfl)
        cases m with
        | halted faultId chain reason => cases hisresume
        | resumed faultId chain =>
          have hmid' : faultId = f.id := hmid.trans hid
          have hmchain : chain = f.chainId := hpublished.chainId_eq (happlied.sent _ hm) hf hmid'
          rw [hmid', hmchain] at hm
          exact absurd hm hresume

/-- Halting converges: in whatever order and however often the messages are applied, the signers are
halted by exactly the faults whose halt was applied and whose resume was not, and once every message was
applied they are halted exactly when the ledger has an open fault. -/
theorem chain_halts_converge (h : w.Reachable) :
    (∀ chainId, isHalted w.halts chainId = true ↔ ∃ f ∈ w.ledger.chainFaults.rows, f.chainId = chainId ∧
      .halted f.id f.chainId f.reason ∈ w.applied ∧ .resumed f.id f.chainId ∉ w.applied) ∧
    ((∀ m ∈ w.published, m ∈ w.applied) →
      ∀ chainId, isHalted w.halts chainId = true ↔ w.ledger.isHalted chainId = true) := by
  obtain ⟨hpublished, happlied⟩ := h.keeps
  refine ⟨isHalted_iff_applied hpublished happlied, fun hall chainId => ?_⟩
  rw [isHalted_iff_applied hpublished happlied]
  simp only [Ledger.isHalted, List.any_eq_true, Bool.and_eq_true, decide_eq_true_eq, Option.isNone_iff_eq_none]
  constructor
  · rintro ⟨f, hf, hchain, -, hresume⟩
    refine ⟨f, hf, hchain, ?_⟩
    rcases hcleared : f.clearedAt with _ | at'
    · rfl
    · have hsent := (hpublished.resumed f.id f.chainId).2 ⟨f, hf, rfl, rfl, by rw [hcleared]; rfl⟩
      exact absurd (hall _ hsent) hresume
  · rintro ⟨f, hf, hchain, hopen⟩
    refine ⟨f, hf, hchain, hall _ ((hpublished.halted _ _ _).2 ⟨f, hf, rfl, rfl, rfl⟩), fun hresume => ?_⟩
    obtain ⟨g, hg, hid, -, hcleared⟩ := (hpublished.resumed f.id f.chainId).1 (happlied.sent _ hresume)
    rw [w.ledger.chainFaults.eq_of_key_eq hg hf hid, hopen] at hcleared
    cases hcleared

/-- A fault is raised and cleared; the resume arrives first, the halt twice afterwards. -/
theorem chain_halts_converge_reordered : ∃ w : ControlWorld, w.Reachable ∧
    w.applied = [.halted 1 143 "reorg", .halted 1 143 "reorg", .resumed 1 143] ∧
    isHalted w.halts 143 = false ∧ (isHalted w.halts 143 = true ↔ w.ledger.isHalted 143 = true) := by
  have h₁ := Relation.ReflTransGen.refl.tail (Step.raise (start Ledger.empty) 1 1 143 "reorg" none (by decide))
  have h₂ := h₁.tail (Step.clear _ 2 143)
  have h₃ := h₂.tail (Step.deliver _ 3 (.resumed 1 143) (by decide))
  have h₄ := h₃.tail (Step.deliver _ 4 (.halted 1 143 "reorg") (by decide))
  have h₅ := h₄.tail (Step.deliver _ 5 (.halted 1 143 "reorg") (by decide))
  refine ⟨_, ⟨Ledger.empty, rfl, h₅⟩, rfl, by decide, ?_⟩
  exact (chain_halts_converge ⟨Ledger.empty, rfl, h₅⟩).2 (by decide) 143

end ControlWorld

end Payday
