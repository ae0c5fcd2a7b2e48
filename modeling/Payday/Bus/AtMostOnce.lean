/-
# Deliveries take effect at most once

A handler's writes commit together with the acknowledgement of their delivery, and the
acknowledgement needs the row pending under the worker's own token.  From the acknowledgement to
the commit the row is locked, so it still is when the writes commit; afterwards it is done, which
no statement undoes.  Tokens are never given twice, so a token that was replaced by a later claim
qualifies for nothing any more.
-/
import Payday.Bus.Workers

namespace Payday.Bus

namespace System

variable {M W : Type} {C : ℕ → Consumer M} {s s' : System M W}

/-! ### What a step can do -/

/-- The deliveries change without a claim or a commit: a row that is done or locked stays, and
leases are only taken away. -/
structure Kept (C : ℕ → Consumer M) (s : System M W) (t : Table DeliveryRow.key) : Prop where
  done : ∀ row ∈ s.db.deliveries.rows, row.state = .done → row ∈ t.rows
  locked : ∀ row ∈ s.db.deliveries.rows, ∀ w, s.Locks C w row.key → row.state = .pending →
    row ∈ t.rows
  leases : ∀ row ∈ t.rows, ∀ lease, row.lease = some lease → ∃ row₀ ∈ s.db.deliveries.rows,
    row₀.key = row.key ∧ row₀.lease = some lease

lemma Kept.refl (C : ℕ → Consumer M) (s : System M W) : Kept C s s.db.deliveries where
  done := fun _ h _ => h
  locked := fun _ h _ _ _ => h
  leases := fun row h _ hl => ⟨row, h, rfl, hl⟩

/-- A statement under a lease that waits for locked rows and takes the lease away. -/
lemma Kept.of_free {w : ℕ} {messageId : MessageId} {token : LeaseToken}
    (free : s.Free C w messageId token) (f : DeliveryRow → DeliveryRow)
    (hf : ∀ row, (f row).key = row.key) (hlease : ∀ row, (f row).lease = none) :
    Kept C s (s.db.deliveries.updateWhere (holds (C w).name messageId token) f hf) where
  done := by
    intro row hrow hdone
    refine Table.mem_updateWhere_of_not hrow (Bool.eq_false_iff.2 fun h => ?_)
    have hpending := (holds_eq_true.1 h).2.2
    rw [hdone] at hpending
    cases hpending
  locked := by
    intro row hrow w' hlock _
    refine Table.mem_updateWhere_of_not hrow (Bool.eq_false_iff.2 fun h => ?_)
    exact free row hrow h w' hlock
  leases := by
    intro row hrow lease hl
    rcases Table.mem_updateWhere hrow with ⟨row₀, hrow₀, -, rfl⟩ | ⟨hrow, -⟩
    · rw [hlease] at hl
      cases hl
    · exact ⟨row, hrow, rfl, hl⟩

lemma Kept.parkDead {w : ℕ} {messageId : MessageId} {token : LeaseToken}
    (free : s.Free C w messageId token) (error : String) :
    Kept C s (parkDead s.db.deliveries (C w).name messageId token error) := by
  unfold Bus.parkDead
  exact Kept.of_free free _ _ (fun _ => rfl)

lemma Kept.fail {w : ℕ} {delivery : Delivery M}
    (free : s.Free C w delivery.messageId delivery.leaseToken) (now delay : Time)
    (error : HandlerError) : Kept C s (fail s.db.deliveries now delay (C w) delivery error).1 := by
  obtain ⟨f, hf, hlease, hfail⟩ := fail_rows s.db.deliveries now delay (C w) delivery error
  rw [hfail]
  exact Kept.of_free free f hf hlease

lemma Kept.retryDead (C : ℕ → Consumer M) (s : System M W) (now : Time) (name : String)
    (messageId : MessageId) : Kept C s (retryDead s.db.deliveries now name messageId) where
  done := by
    intro row hrow hdone
    exact Table.mem_updateWhere_of_not hrow (by simp [hdone])
  locked := by
    intro row hrow _ _ hpending
    exact Table.mem_updateWhere_of_not hrow (by simp [hpending])
  leases := by
    intro row hrow lease hl
    rcases Table.mem_updateWhere hrow with ⟨row₀, hrow₀, -, rfl⟩ | ⟨hrow, -⟩
    · exact ⟨row₀, hrow₀, rfl, hl⟩
    · exact ⟨row, hrow, rfl, hl⟩

lemma Kept.publish {now : Time} {message : MessageRow} {db : Database} {outcome : PublishOutcome}
    (h : publish s.db now message = .ok (db, outcome)) : Kept C s db.deliveries := by
  obtain ⟨new, hrows, hnone⟩ := publish_rows h
  refine ⟨fun row hrow _ => ?_, fun row hrow _ _ _ => ?_, fun row hrow lease hl => ?_⟩
  · rw [hrows]
    exact List.mem_append_left _ hrow
  · rw [hrows]
    exact List.mem_append_left _ hrow
  · rw [hrows] at hrow
    rcases List.mem_append.1 hrow with hrow | hrow
    · exact ⟨row, hrow, rfl, hl⟩
    · rw [hnone row hrow] at hl
      cases hl

lemma publishAll_rows {db db' : Database} {now : Time} {messages : List MessageRow}
    (h : publishAll db now messages = .ok db') :
    ∃ new, db'.deliveries.rows = db.deliveries.rows ++ new ∧ ∀ row ∈ new, row.lease = none := by
  induction messages generalizing db with
  | nil =>
    cases h
    exact ⟨[], by simp, by simp⟩
  | cons message rest ih =>
    rw [publishAll] at h
    split at h
    · rename_i db₁ outcome h₁
      obtain ⟨new₁, hrows₁, hnone₁⟩ := publish_rows h₁
      obtain ⟨new, hrows, hnone⟩ := ih h
      refine ⟨new₁ ++ new, by rw [hrows, hrows₁, List.append_assoc], ?_⟩
      intro row hrow
      rcases List.mem_append.1 hrow with hrow | hrow
      · exact hnone₁ row hrow
      · exact hnone row hrow
    · cases h

/-- A worker moves to a state in which it holds no lock. -/
lemma acked_of_update {workers : ℕ → WorkerState M W} {w : ℕ} {next : WorkerState M W}
    (hnext : ∀ d wr rest, next ≠ .acked d wr rest) {w' : ℕ} {d : Delivery M} {wr : Writes W}
    {rest : List (Delivery M)} (h : Function.update workers w next w' = .acked d wr rest) :
    w' ≠ w ∧ workers w' = .acked d wr rest := by
  rw [Function.update_apply] at h
  split at h
  · exact absurd h (hnext d wr rest)
  · rename_i hw
    exact ⟨hw, h⟩

/-- A step that neither claims, nor acknowledges, nor commits. -/
structure Quiet (C : ℕ → Consumer M) (s s' : System M W) : Prop where
  claims : s'.claims = s.claims
  effects : s'.effects = s.effects
  deliveries : Kept C s s'.db.deliveries
  locks : ∀ w d wr rest, s'.workers w = .acked d wr rest → s.workers w = .acked d wr rest

lemma Quiet.setWorker (C : ℕ → Consumer M) {w : ℕ} {next : WorkerState M W}
    {t : Table DeliveryRow.key} (ht : Kept C s t) (hnext : ∀ d wr rest, next ≠ .acked d wr rest) :
    Quiet C s ((s.setDeliveries t).setWorker w next) where
  claims := rfl
  effects := rfl
  deliveries := ht
  locks := fun _ _ _ _ h => (acked_of_update hnext h).2

/-- The claim of a worker, as `Step.claim` has it. -/
structure Claims (C : ℕ → Consumer M) (s s' : System M W) (w : ℕ) (ids : List MessageId)
    (tokens : MessageId → LeaseToken) : Prop where
  rows : ∃ now, s'.db.deliveries =
    lease s.db.deliveries (C w).name now (C w).options.lease ids tokens
  claims : s'.claims = s.claims ++ ids.map (fun id => ((id, (C w).name), tokens id))
  effects : s'.effects = s.effects
  locks : ∀ w d wr rest, s'.workers w = .acked d wr rest → s.workers w = .acked d wr rest
  /-- What is picked is pending, and not locked. -/
  picked : ∀ id ∈ ids, ∃ row ∈ s.db.deliveries.rows, row.key = (id, (C w).name) ∧
    row.state = .pending ∧ ∀ w', ¬ s.Locks C w' row.key
  fresh : ∀ id ∈ ids, tokens id ∉ s.claims.map Prod.snd
  distinct : (ids.map tokens).Nodup

/-- The commit of worker `w`, as `Step.commit` has it. -/
structure Commits (C : ℕ → Consumer M) (s s' : System M W) (w : ℕ) (d : Delivery M) (changes : W) :
    Prop where
  locked : s.Locks C w (key C w d)
  rows : ∃ now new, s'.db.deliveries.rows = (s.db.deliveries.updateWhere
      (holds (C w).name d.messageId d.leaseToken) (fun row => { row with
        state := .done, doneAt := some now, lease := none, lastError := none })).rows ++ new ∧
    ∀ row ∈ new, row.lease = none
  held : ∃ row ∈ s.db.deliveries.rows, holds (C w).name d.messageId d.leaseToken row = true
  claims : s'.claims = s.claims
  effects : s'.effects = s.effects ++ [(key C w d, changes)]
  locks : ∀ w' d' wr rest, s'.workers w' = .acked d' wr rest → w' ≠ w ∧ s.workers w' = .acked d' wr rest

/-- The acknowledgement of worker `w`, as `Step.ack` has it. -/
structure Acks (C : ℕ → Consumer M) (s s' : System M W) (w : ℕ) (d : Delivery M) : Prop where
  unchanged : s'.db = s.db ∧ s'.claims = s.claims ∧ s'.effects = s.effects
  held : ∃ row ∈ s.db.deliveries.rows, holds (C w).name d.messageId d.leaseToken row = true ∧
    ∀ w', ¬ s.Locks C w' row.key
  locks : ∀ w' d' wr rest, s'.workers w' = .acked d' wr rest →
    (w' = w ∧ d' = d) ∨ s.workers w' = .acked d' wr rest

lemma step_cases (h : Step C s s') : Quiet C s s' ∨ (∃ w d, Acks C s s' w d) ∨
    (∃ w ids tokens, Claims C s s' w ids tokens) ∨ ∃ w d changes, Commits C s s' w d changes := by
  have hquiet : ∀ {w : ℕ} {next : WorkerState M W}, (∀ d wr rest, next ≠ .acked d wr rest) →
      Quiet C s (s.setWorker w next) :=
    fun hnext => Quiet.setWorker C (Kept.refl C s) hnext
  cases h with
  | publish now message db outcome h =>
    exact Or.inl ⟨rfl, rfl, Kept.publish h, fun _ _ _ _ h => h⟩
  | claim w now skip tokens ids t h locked hids new distinct ht =>
    refine Or.inr (Or.inr (Or.inl ⟨w, ids, tokens, ⟨now, ht⟩, rfl, rfl, ?_, ?_, new, distinct⟩))
    · exact fun w' d wr rest hw' => (acked_of_update (by simp) hw').2
    · intro id hid
      rw [hids] at hid
      obtain ⟨row, hrow, hkey, hstate, hskip⟩ := mem_picked hid
      refine ⟨row, hrow, hkey, hstate, fun w' hlock => ?_⟩
      rw [locked row w' hlock] at hskip
      cases hskip
  | decode => exact Or.inl (hquiet (by simp))
  | refuse w raw c raws batch reason h hdecode free =>
    exact Or.inl (Quiet.setWorker C (Kept.parkDead free reason) (by simp))
  | decoded => exact Or.inl (hquiet (by simp))
  | handle => exact Or.inl (hquiet (by simp))
  | handleFailed => exact Or.inl (hquiet (by simp))
  | ack w now d writes rest t h free hack =>
    obtain ⟨row, hrow, hheld⟩ := holds_of_ack hack
    refine Or.inr (Or.inl ⟨w, d, ⟨rfl, rfl, rfl⟩, ⟨row, hrow, hheld, free row hrow hheld⟩, ?_⟩)
    intro w' d' wr rest' hw'
    simp only [setWorker, Function.update_apply] at hw'
    split at hw'
    · rename_i hw
      cases hw'
      exact Or.inl ⟨hw, rfl⟩
    · exact Or.inr hw'
  | ackLost => exact Or.inl (hquiet (by simp))
  | rollback => exact Or.inl (hquiet (by simp))
  | commit w now d writes rest t db next h hack hpublish hnext =>
    obtain ⟨row, hrow, hheld⟩ := holds_of_ack hack
    rw [ack_of_holds hrow hheld] at hack
    cases hack
    obtain ⟨new, hrows, hnone⟩ := publishAll_rows hpublish
    refine Or.inr (Or.inr (Or.inr ⟨w, d, writes.changes, ⟨d, writes, rest, h, rfl⟩,
      ⟨now, new, hrows, hnone⟩, ⟨row, hrow, hheld⟩, rfl, rfl, ?_⟩))
    intro w' d' wr rest' hw'
    refine acked_of_update ?_ hw'
    rcases hnext with rfl | ⟨error, rfl⟩ <;> simp
  | fail w now delay d error rest h free =>
    exact Or.inl (Quiet.setWorker C (Kept.fail free now delay error) (by simp))
  | failLost => exact Or.inl (hquiet (by simp))
  | finish => exact Or.inl (hquiet (by simp))
  | crash => exact Or.inl (hquiet (by simp))
  | retryDead now name messageId =>
    exact Or.inl ⟨rfl, rfl, Kept.retryDead C s now name messageId, fun _ _ _ _ h => h⟩

/-! ### The invariant -/

/-- What holds in every state of every run. -/
structure Sound (C : ℕ → Consumer M) (s : System M W) : Prop where
  /-- A row that a worker has acknowledged is pending under the worker's token until it commits. -/
  locked : ∀ w d wr rest, s.workers w = .acked d wr rest →
    ∃ row ∈ s.db.deliveries.rows, holds (C w).name d.messageId d.leaseToken row = true
  alone : ∀ w w' k, s.Locks C w k → s.Locks C w' k → w = w'
  done : ∀ e ∈ s.effects, ∃ row ∈ s.db.deliveries.rows, row.key = e.1 ∧ row.state = .done
  once : (s.effects.map Prod.fst).Nodup
  /-- A lease is the last one that was given on its row. -/
  last : ∀ row ∈ s.db.deliveries.rows, ∀ lease, row.lease = some lease →
    latest s.claims row.key = some lease.token
  tokens : (s.claims.map Prod.snd).Nodup

lemma sound_start : Sound C (start : System M W) where
  locked := by
    intro w d wr rest h
    cases h
  alone := by
    rintro w w' k ⟨d, wr, rest, h, -⟩
    cases h
  done := by simp [start]
  once := by simp [start]
  last := by simp [start, Database.empty]
  tokens := by simp [start]

/-- A worker that has locked a row has it pending. -/
lemma Sound.pending (hs : Sound C s) {w : ℕ} {row : DeliveryRow} (hrow : row ∈ s.db.deliveries.rows)
    (h : s.Locks C w row.key) : row.state = .pending := by
  obtain ⟨d, wr, rest, hw, hkey⟩ := h
  obtain ⟨row', hrow', hheld⟩ := hs.locked w d wr rest hw
  obtain ⟨hkey', -, hpending⟩ := holds_eq_true.1 hheld
  rwa [s.db.deliveries.eq_of_key_eq hrow hrow' (by rw [hkey', ← hkey, key])]

lemma Locks.of_workers {w : ℕ} {k : MessageId × String}
    (hlocks : ∀ w d wr rest, s'.workers w = .acked d wr rest → s.workers w = .acked d wr rest)
    (h : s'.Locks C w k) : s.Locks C w k := by
  obtain ⟨d, wr, rest, hw, hkey⟩ := h
  exact ⟨d, wr, rest, hlocks w d wr rest hw, hkey⟩

lemma Sound.quiet (hs : Sound C s) (h : Quiet C s s') : Sound C s' where
  locked := by
    intro w d wr rest hw
    have hw := h.locks w d wr rest hw
    obtain ⟨row, hrow, hheld⟩ := hs.locked w d wr rest hw
    obtain ⟨hkey, -, hpending⟩ := holds_eq_true.1 hheld
    have hlock : s.Locks C w row.key := ⟨d, wr, rest, hw, by rw [hkey, key]⟩
    exact ⟨row, h.deliveries.locked row hrow w hlock hpending, hheld⟩
  alone := by
    intro w w' k hw hw'
    exact hs.alone w w' k (hw.of_workers h.locks) (hw'.of_workers h.locks)
  done := by
    rw [h.effects]
    intro e he
    obtain ⟨row, hrow, hkey, hdone⟩ := hs.done e he
    exact ⟨row, h.deliveries.done row hrow hdone, hkey, hdone⟩
  once := by
    rw [h.effects]
    exact hs.once
  last := by
    rw [h.claims]
    intro row hrow lease hl
    obtain ⟨row₀, hrow₀, hkey, hl₀⟩ := h.deliveries.leases row hrow lease hl
    rw [← hkey]
    exact hs.last row₀ hrow₀ lease hl₀
  tokens := by
    rw [h.claims]
    exact hs.tokens

lemma Sound.acks {w : ℕ} {d : Delivery M} (hs : Sound C s) (h : Acks C s s' w d) :
    Sound C s' := by
  obtain ⟨hdb, hclaims, heffects⟩ := h.unchanged
  obtain ⟨row, hrow, hheld, hfree⟩ := h.held
  have hkey : row.key = key C w d := (holds_eq_true.1 hheld).1
  -- a lock is the new one, or was there
  have hlock : ∀ {w' k}, s'.Locks C w' k → (w' = w ∧ k = key C w d) ∨ s.Locks C w' k := by
    rintro w' k ⟨d', wr, rest, hw', rfl⟩
    rcases h.locks w' d' wr rest hw' with ⟨rfl, rfl⟩ | hw'
    · exact Or.inl ⟨rfl, rfl⟩
    · exact Or.inr ⟨d', wr, rest, hw', rfl⟩
  refine ⟨?_, ?_, ?_, ?_, ?_, ?_⟩
  · intro w' d' wr rest hw'
    rw [hdb]
    rcases h.locks w' d' wr rest hw' with ⟨rfl, rfl⟩ | hw'
    · exact ⟨row, hrow, hheld⟩
    · exact hs.locked w' d' wr rest hw'
  · intro w₁ w₂ k h₁ h₂
    rcases hlock h₁ with ⟨rfl, hk⟩ | h₁ <;> rcases hlock h₂ with ⟨rfl, hk'⟩ | h₂
    · rfl
    · exact absurd h₂ (by rw [hk, ← hkey]; exact hfree w₂)
    · exact absurd h₁ (by rw [hk', ← hkey]; exact hfree w₁)
    · exact hs.alone w₁ w₂ k h₁ h₂
  · rw [hdb, heffects]
    exact hs.done
  · rw [heffects]
    exact hs.once
  · rw [hdb, hclaims]
    exact hs.last
  · rw [hclaims]
    exact hs.tokens

/-! ### Claims -/

lemma latest_append (claims new : List ((MessageId × String) × LeaseToken)) (k : MessageId × String) :
    latest (claims ++ new) k = (latest new k).or (latest claims k) := by
  simp only [latest, List.filter_append, List.getLast?_append, Option.map_or]

/-- After a claim the last lease on a claimed delivery is the claim's. -/
lemma latest_claimed {ids : List MessageId} {name : String} {tokens : MessageId → LeaseToken}
    {id : MessageId} (h : id ∈ ids) :
    latest (ids.map fun id => ((id, name), tokens id)) (id, name) = some (tokens id) := by
  have hmem : ((id, name), tokens id) ∈
      (ids.map fun id => ((id, name), tokens id)).filter fun c => decide (c.1 = (id, name)) := by
    rw [List.mem_filter, List.mem_map]
    exact ⟨⟨id, h, rfl⟩, by simp⟩
  obtain ⟨c, hc⟩ := Option.isSome_iff_exists.1 (List.getLast?_isSome.2 (List.ne_nil_of_mem hmem))
  rw [latest, hc]
  obtain ⟨hc, hkey⟩ := List.mem_filter.1 (List.mem_of_getLast? hc)
  obtain ⟨id', -, rfl⟩ := List.mem_map.1 hc
  have hid : id' = id := by simpa using hkey
  rw [hid]
  rfl

lemma latest_unclaimed {ids : List MessageId} {name : String} {tokens : MessageId → LeaseToken}
    {k : MessageId × String} (h : ¬ (k.1 ∈ ids ∧ k.2 = name)) :
    latest (ids.map fun id => ((id, name), tokens id)) k = none := by
  have hnil : (ids.map fun id => ((id, name), tokens id)).filter (fun c => decide (c.1 = k)) = [] := by
    rw [List.filter_eq_nil_iff]
    intro c hc hk
    obtain ⟨id, hid, rfl⟩ := List.mem_map.1 hc
    have hk : (id, name) = k := by simpa using hk
    exact h ⟨by rw [← hk]; exact hid, by rw [← hk]⟩
  simp [latest, hnil]

/-- A row that is done, or locked, is not claimed. -/
lemma Claims.kept {w : ℕ} {ids : List MessageId} {tokens : MessageId → LeaseToken}
    (h : Claims C s s' w ids tokens) {row : DeliveryRow} (hrow : row ∈ s.db.deliveries.rows)
    (hkept : row.state = .done ∨ ∃ w', s.Locks C w' row.key) : row ∈ s'.db.deliveries.rows := by
  obtain ⟨now, hrows⟩ := h.rows
  rw [hrows]
  refine Table.mem_updateWhere_of_not hrow (decide_eq_false fun ⟨hid, hname⟩ => ?_)
  obtain ⟨row', hrow', hkey, hpending, hfree⟩ := h.picked row.messageId hid
  have heq : row = row' :=
    s.db.deliveries.eq_of_key_eq hrow hrow' (by rw [hkey, DeliveryRow.key, hname])
  rcases hkept with hdone | ⟨w', hlock⟩
  · rw [heq, hpending] at hdone
    cases hdone
  · exact hfree w' (heq ▸ hlock)

lemma Sound.claims {w : ℕ} {ids : List MessageId} {tokens : MessageId → LeaseToken}
    (hs : Sound C s) (h : Claims C s s' w ids tokens) : Sound C s' where
  locked := by
    intro w' d wr rest hw
    have hw := h.locks w' d wr rest hw
    obtain ⟨row, hrow, hheld⟩ := hs.locked w' d wr rest hw
    have hlock : s.Locks C w' row.key := ⟨d, wr, rest, hw, by rw [(holds_eq_true.1 hheld).1, key]⟩
    exact ⟨row, h.kept hrow (Or.inr ⟨w', hlock⟩), hheld⟩
  alone := by
    intro w₁ w₂ k h₁ h₂
    exact hs.alone w₁ w₂ k (h₁.of_workers h.locks) (h₂.of_workers h.locks)
  done := by
    rw [h.effects]
    intro e he
    obtain ⟨row, hrow, hkey, hdone⟩ := hs.done e he
    exact ⟨row, h.kept hrow (Or.inl hdone), hkey, hdone⟩
  once := by
    rw [h.effects]
    exact hs.once
  last := by
    intro row hrow lease hl
    obtain ⟨now, hrows⟩ := h.rows
    rw [hrows] at hrow
    rw [h.claims, latest_append]
    rcases mem_rows_lease hrow with ⟨hid, hname, hlease, -⟩ | ⟨hrow, hout⟩
    · rw [hlease] at hl
      cases hl
      have hkey : row.key = (row.messageId, (C w).name) := by rw [DeliveryRow.key, hname]
      rw [hkey, latest_claimed hid]
      rfl
    · rw [latest_unclaimed (k := row.key) hout, Option.none_or]
      exact hs.last row hrow lease hl
  tokens := by
    rw [h.claims, List.map_append, List.map_map, List.nodup_append]
    refine ⟨hs.tokens, h.distinct, ?_⟩
    intro t ht t' ht' heq
    obtain ⟨id, hid, rfl⟩ := List.mem_map.1 ht'
    exact h.fresh id hid (by rw [heq] at ht; exact ht)

/-! ### Commits -/

/-- A row that is done, or locked by another worker, stays when a worker commits. -/
lemma Commits.kept {w : ℕ} {d : Delivery M} {changes : W} (hs : Sound C s)
    (h : Commits C s s' w d changes) {row : DeliveryRow} (hrow : row ∈ s.db.deliveries.rows)
    (hkept : row.state = .done ∨ ∃ w', w' ≠ w ∧ s.Locks C w' row.key) :
    row ∈ s'.db.deliveries.rows := by
  obtain ⟨now, new, hrows, -⟩ := h.rows
  rw [hrows]
  refine List.mem_append_left _ (Table.mem_updateWhere_of_not hrow (Bool.eq_false_iff.2 ?_))
  intro hheld
  obtain ⟨hkey, -, hpending⟩ := holds_eq_true.1 hheld
  rcases hkept with hdone | ⟨w', hne, hlock⟩
  · rw [hdone] at hpending
    cases hpending
  · rw [hkey] at hlock
    exact hne (hs.alone w' w _ hlock h.locked)

lemma Sound.commits {w : ℕ} {d : Delivery M} {changes : W} (hs : Sound C s)
    (h : Commits C s s' w d changes) : Sound C s' where
  locked := by
    intro w' d' wr rest hw
    obtain ⟨hne, hw⟩ := h.locks w' d' wr rest hw
    obtain ⟨row, hrow, hheld⟩ := hs.locked w' d' wr rest hw
    have hlock : s.Locks C w' row.key := ⟨d', wr, rest, hw, by rw [(holds_eq_true.1 hheld).1, key]⟩
    exact ⟨row, h.kept hs hrow (Or.inr ⟨w', hne, hlock⟩), hheld⟩
  alone := by
    intro w₁ w₂ k h₁ h₂
    have hlocks := fun w' d' wr rest hw => (h.locks w' d' wr rest hw).2
    exact hs.alone w₁ w₂ k (h₁.of_workers hlocks) (h₂.of_workers hlocks)
  done := by
    rw [h.effects]
    intro e he
    rcases List.mem_append.1 he with he | he
    · obtain ⟨row, hrow, hkey, hdone⟩ := hs.done e he
      exact ⟨row, h.kept hs hrow (Or.inl hdone), hkey, hdone⟩
    · -- the row that is acknowledged now
      obtain ⟨now, new, hrows, -⟩ := h.rows
      obtain ⟨row, hrow, hheld⟩ := h.held
      rw [List.mem_singleton.1 he, hrows]
      exact ⟨_, List.mem_append_left _ (Table.mem_updateWhere_of hrow hheld),
        (holds_eq_true.1 hheld).1, rfl⟩
  once := by
    rw [h.effects, List.map_append, List.nodup_append]
    refine ⟨hs.once, by simp, ?_⟩
    intro k hk k' hk' heq
    -- an earlier effect would have left the row done
    obtain ⟨e, he, rfl⟩ := List.mem_map.1 hk
    obtain ⟨row, hrow, hkey, hdone⟩ := hs.done e he
    have hk' : k' = key C w d := by simpa using hk'
    have hpending := hs.pending hrow (w := w) (by rw [hkey, heq, hk']; exact h.locked)
    rw [hdone] at hpending
    cases hpending
  last := by
    rw [h.claims]
    intro row hrow lease hl
    obtain ⟨now, new, hrows, hnone⟩ := h.rows
    rw [hrows] at hrow
    rcases List.mem_append.1 hrow with hrow | hrow
    · rcases Table.mem_updateWhere hrow with ⟨row₀, -, -, rfl⟩ | ⟨hrow, -⟩
      · cases hl
      · exact hs.last row hrow lease hl
    · rw [hnone row hrow] at hl
      cases hl
  tokens := by
    rw [h.claims]
    exact hs.tokens

/-! ### Runs -/

lemma Sound.step (hs : Sound C s) (h : Step C s s') : Sound C s' := by
  rcases step_cases h with h | ⟨w, d, h⟩ | ⟨w, ids, tokens, h⟩ | ⟨w, d, changes, h⟩
  · exact hs.quiet h
  · exact hs.acks h
  · exact hs.claims h
  · exact hs.commits h

lemma sound_of_reachable (h : Reachable C s) : Sound C s := by
  induction h with
  | refl => exact sound_start
  | tail _ hstep ih => exact ih.step hstep

/-- A step keeps a row that is done as it is. -/
lemma Sound.done_step (hs : Sound C s) (h : Step C s s') {row : DeliveryRow}
    (hrow : row ∈ s.db.deliveries.rows) (hdone : row.state = .done) :
    row ∈ s'.db.deliveries.rows := by
  rcases step_cases h with h | ⟨w, d, h⟩ | ⟨w, ids, tokens, h⟩ | ⟨w, d, changes, h⟩
  · exact h.deliveries.done row hrow hdone
  · rw [h.unchanged.1]
    exact hrow
  · exact h.kept hrow (Or.inl hdone)
  · exact h.kept hs hrow (Or.inl hdone)

lemma Sound.run (hs : Sound C s) (h : Relation.ReflTransGen (Step C) s s') : Sound C s' := by
  induction h with
  | refl => exact hs
  | tail _ hstep ih => exact ih.step hstep

lemma Sound.done_run (hs : Sound C s) (h : Relation.ReflTransGen (Step C) s s') {row : DeliveryRow}
    (hrow : row ∈ s.db.deliveries.rows) (hdone : row.state = .done) :
    row ∈ s'.db.deliveries.rows := by
  induction h with
  | refl => exact hrow
  | tail hrun hstep ih => exact (hs.run hrun).done_step hstep ih hdone

/-- A lease that was taken over is not the last one on its delivery. -/
lemma Sound.takenOver (hs : Sound C s) {k : MessageId × String} {token : LeaseToken}
    (h : s.TakenOver k token) : latest s.claims k ≠ some token := by
  obtain ⟨before, after, hclaims, c, hc, hkey⟩ := h
  have hlater : c ∈ after.filter fun c => decide (c.1 = k) := List.mem_filter.2 ⟨hc, by simp [hkey]⟩
  obtain ⟨c', hc'⟩ := Option.isSome_iff_exists.1 (List.getLast?_isSome.2 (List.ne_nil_of_mem hlater))
  have hmem : c' ∈ after := (List.mem_filter.1 (List.mem_of_getLast? hc')).1
  have hlast : latest s.claims k = some c'.2 := by
    rw [hclaims, latest_append, latest, List.filter_cons_of_pos (by simp), List.getLast?_cons, hc']
    rfl
  rw [hlast]
  rintro heq
  -- the later claim would have been given the same token
  have hnodup := hs.tokens
  rw [hclaims, List.map_append, List.map_cons, List.nodup_append] at hnodup
  refine (List.nodup_cons.1 hnodup.2.1).1 ?_
  show token ∈ after.map Prod.snd
  rw [← Option.some.inj heq]
  exact List.mem_map_of_mem hmem

/-- No row is held under a lease that was taken over. -/
lemma Sound.not_holds (hs : Sound C s) {name : String} {messageId : MessageId} {token : LeaseToken}
    (h : s.TakenOver (messageId, name) token) :
    ∀ row ∈ s.db.deliveries.rows, holds name messageId token row = false := by
  intro row hrow
  refine Bool.eq_false_iff.2 fun hheld => ?_
  obtain ⟨hkey, ⟨lease, hlease, rfl⟩, -⟩ := holds_eq_true.1 hheld
  have hlast := hs.last row hrow lease hlease
  rw [hkey] at hlast
  exact hs.takenOver h hlast

lemma fail_of_lost {deliveries : Table DeliveryRow.key} {consumer : Consumer M}
    {delivery : Delivery M} (h : ∀ row ∈ deliveries.rows,
      holds consumer.name delivery.messageId delivery.leaseToken row = false)
    (now delay : Time) (error : HandlerError) :
    (fail deliveries now delay consumer delivery error).1 = deliveries := by
  obtain ⟨f, hf, -, hfail⟩ := fail_rows deliveries now delay consumer delivery error
  rw [hfail]
  exact Table.updateWhere_eq_self hf h

/-- In every run each delivery's handler writes are committed at most once, a delivery that is
done stays as it is, and a worker whose lease was taken over cannot acknowledge, fail or park the
delivery. -/
theorem deliveries_take_effect_at_most_once (C : ℕ → Consumer M) (s : System M W)
    (h : Reachable C s) :
    (∀ k, (s.effects.filter fun e => decide (e.1 = k)).length ≤ 1) ∧
    (∀ s', Relation.ReflTransGen (Step C) s s' → ∀ row ∈ s.db.deliveries.rows, row.state = .done →
      row ∈ s'.db.deliveries.rows) ∧
    ∀ (w : ℕ) (delivery : Delivery M), s.TakenOver (key C w delivery) delivery.leaseToken →
      (∀ now, ack s.db.deliveries now (C w).name delivery.messageId delivery.leaseToken =
        .error (.leaseLost delivery.messageId (C w).name)) ∧
      (∀ now delay error,
        (fail s.db.deliveries now delay (C w) delivery error).1 = s.db.deliveries) ∧
      ∀ reason, parkDead s.db.deliveries (C w).name delivery.messageId delivery.leaseToken reason =
        s.db.deliveries := by
  have hs := sound_of_reachable h
  refine ⟨fun k => ?_, fun s' hrun row hrow hdone => hs.done_run hrun hrow hdone, ?_⟩
  · have hcount := List.nodup_iff_count_le_one.1 hs.once k
    rw [List.count_eq_countP, List.countP_map, List.countP_eq_length_filter] at hcount
    refine le_trans (le_of_eq ?_) hcount
    congr 2
    funext e
    exact (beq_eq_decide e.1 k).symm
  · intro w delivery htaken
    have hlost := hs.not_holds htaken
    exact ⟨fun now => ack_of_lost hlost now, fun now delay error => fail_of_lost hlost now delay error,
      fun reason => Table.updateWhere_eq_self _ hlost⟩

/-! ### A run with a takeover -/

/-- Two workers of one consumer, whose leases last 30 time units. -/
def sampleConsumers : ℕ → Consumer String := fun _ =>
  ⟨"gum-signers", ⟨30, 20, 32⟩, ⟨"chain.control", 1, .ok⟩⟩

def sampleMessage : MessageRow where
  id := 1
  topic := "chain.control"
  kind := "resumed"
  schemaVersion := 1
  payload := "resumed"
  payloadHash := 0
  deduplicationKey := "resumed:1"
  correlationId := 9
  publishedAt := 0

def sampleDelivery (attempt : ℕ) (token : LeaseToken) : Delivery String :=
  ⟨1, "resumed", "resumed", 9, 0, attempt, token⟩

/-- The delivery row of the sample message. -/
def sampleRow (attempt : ℕ) (lease : Option Lease) (lastAttemptAt : Option Time) : DeliveryRow :=
  ⟨1, "gum-signers", .pending, attempt, 0, lease, none, lastAttemptAt, none⟩

def sampleDb (row : DeliveryRow) : Database :=
  ⟨⟨[sampleMessage], by decide⟩, ⟨[row], by simp⟩⟩

lemma publish_sampleMessage : Bus.publish Database.empty 0 sampleMessage =
    .ok (sampleDb (sampleRow 0 none none), .published 1) := by
  rfl

lemma picked_sampleDb (row : DeliveryRow) (now : Time)
    (h : claimable (sampleDb row) "gum-signers" "chain.control" now row = true)
    (hid : row.messageId = 1) :
    picked (sampleDb row) "gum-signers" "chain.control" now 32 (fun _ => false) = [1] := by
  have hrows : (sampleDb row).deliveries.rows = [row] := rfl
  simp [picked, hrows, h, hid]

lemma claimedMessages_sampleDb (row : DeliveryRow) (attempt : ℕ) (token : LeaseToken) :
    claimedMessages (sampleDb row) [⟨1, attempt, token⟩] = [(sampleMessage, ⟨1, attempt, token⟩)] := by
  have hrows : (sampleDb row).messages.rows = [sampleMessage] := rfl
  have hid : sampleMessage.id = 1 := rfl
  simp [claimedMessages, hrows, hid]

/-- A system in which no worker is committing locks nothing. -/
lemma not_locks {C : ℕ → Consumer M} {s : System M W} (h : ∀ w d wr rest, s.workers w ≠ .acked d wr rest) (w : ℕ)
    (k : MessageId × String) : ¬ s.Locks C w k := by
  rintro ⟨d, wr, rest, hw, -⟩
  exact h w d wr rest hw

/-- The first worker's lease runs out, and the second one takes the delivery over. -/
lemma sample_takenOver : ∃ workers, Reachable sampleConsumers
      (⟨sampleDb (sampleRow 2 (some ⟨8, 61⟩) (some 31)), workers,
        [((1, "gum-signers"), 7), ((1, "gum-signers"), 8)], []⟩ : System String Unit) ∧
    workers 1 = .batch [sampleDelivery 2 8] ∧ ∀ w d wr rest, workers w ≠ .acked d wr rest := by
  have h₁ : Reachable sampleConsumers (start : System String Unit) := Relation.ReflTransGen.refl
  have h₂ := h₁.tail (.publish 0 sampleMessage _ _ publish_sampleMessage)
  have hpick₁ := picked_sampleDb (sampleRow 0 none none) 0 (by decide) rfl
  have h₃ := h₂.tail (.claim 0 0 (fun _ => false) (fun _ => 7) [1]
    (sampleDb (sampleRow 1 (some ⟨7, 30⟩) (some 0))).deliveries rfl
    (fun row w' hlock => absurd hlock (not_locks (by simp [start]) _ _))
    hpick₁.symm (by simp [start]) (by decide) rfl)
  have hpick₂ := picked_sampleDb (sampleRow 1 (some ⟨7, 30⟩) (some 0)) 31 (by decide) rfl
  have h₄ := h₃.tail (.claim 1 31 (fun _ => false) (fun _ => 8) [1]
    (sampleDb (sampleRow 2 (some ⟨8, 61⟩) (some 31))).deliveries rfl
    (fun row w' hlock => absurd hlock (not_locks (by
      intro w d wr rest h
      have hw := (acked_of_update (by simp) h).2
      cases hw) _ _))
    hpick₂.symm (by simp [start]) (by decide) rfl)
  have hclaimed := claimedMessages_sampleDb (sampleRow 1 (some ⟨7, 30⟩) (some 0)) 2 8
  have h₅ := h₄.tail (.decode 1 sampleMessage ⟨1, 2, 8⟩ [] [] "resumed"
    (congrArg (fun raws => WorkerState.decoding raws []) hclaimed) rfl)
  have h₆ := h₅.tail (.decoded 1 _ rfl)
  refine ⟨_, h₆, rfl, fun w d wr rest h => ?_⟩
  -- none of the moves so far is an acknowledgement
  have hw := (acked_of_update (by simp) h).2
  have hw := (acked_of_update (by simp) hw).2
  have hw := (acked_of_update (by simp) hw).2
  have hw := (acked_of_update (by simp) hw).2
  cases hw

/-- The second worker handles the delivery and commits. -/
lemma sample_run : ∃ s : System String Unit, Reachable sampleConsumers s ∧
    s.claims = [((1, "gum-signers"), 7), ((1, "gum-signers"), 8)] ∧
    s.effects = [((1, "gum-signers"), ())] := by
  obtain ⟨workers, h, hworker, hnone⟩ := sample_takenOver
  have h₁ := h.tail (.handle 1 (sampleDelivery 2 8) ⟨(), []⟩ [] hworker)
  have h₂ := h₁.tail (.ack 1 32 _ _ _ _ rfl (fun row _ _ w' => not_locks (by
    intro w d wr rest h
    exact hnone w d wr rest (acked_of_update (by simp) h).2) w' _) rfl)
  have h₃ := h₂.tail (.commit 1 33 _ _ _ _ _ _ rfl rfl rfl (Or.inl rfl))
  exact ⟨_, h₃, rfl, rfl⟩

/-- The second worker stops: nobody works on the delivery, and its lease is still there. -/
lemma sample_left : ∃ s : System String Unit, Reachable sampleConsumers s ∧ s.workers 1 = .idle ∧
    s.db = sampleDb (sampleRow 2 (some ⟨8, 61⟩) (some 31)) ∧ s.effects = [] := by
  obtain ⟨workers, h, -, -⟩ := sample_takenOver
  exact ⟨_, h.tail (.crash 1), rfl, rfl, rfl⟩

/-- The second worker's handler fails for good, and the delivery is parked. -/
lemma sample_parked : ∃ s : System String Unit, Reachable sampleConsumers s ∧
    s.db = sampleDb { sampleRow 2 none (some 31) with state := .dead, lastError := some "no such job" } ∧
    s.effects = [] := by
  obtain ⟨workers, h, hworker, hnone⟩ := sample_takenOver
  have h₁ := h.tail (.handleFailed 1 (sampleDelivery 2 8) (.permanent "no such job") [] hworker)
  have h₂ := h₁.tail (.fail 1 32 0 _ _ _ rfl (fun row _ _ w' => not_locks (by
    intro w d wr rest h
    exact hnone w d wr rest (acked_of_update (by simp) h).2) w' _))
  exact ⟨_, h₂, rfl, rfl⟩

theorem deliveries_take_effect_at_most_once_sampleConsumers :
    ∃ s : System String Unit, Reachable sampleConsumers s ∧
      s.effects = [((1, "gum-signers"), ())] ∧
      (s.effects.filter fun e => decide (e.1 = (1, "gum-signers"))).length ≤ 1 ∧
      s.TakenOver (key sampleConsumers 0 (sampleDelivery 1 7)) 7 ∧
      ∀ now, ack s.db.deliveries now "gum-signers" 1 7 = .error (.leaseLost 1 "gum-signers") := by
  obtain ⟨s, hs, hclaims, heffects⟩ := sample_run
  have htaken : s.TakenOver (key sampleConsumers 0 (sampleDelivery 1 7)) 7 :=
    ⟨[], [((1, "gum-signers"), 8)], hclaims, _, List.mem_singleton.2 rfl, rfl⟩
  obtain ⟨honce, -, hlost⟩ := deliveries_take_effect_at_most_once sampleConsumers s hs
  exact ⟨s, hs, heffects, honce _, htaken, (hlost 0 (sampleDelivery 1 7) htaken).1⟩

end System

end Payday.Bus
