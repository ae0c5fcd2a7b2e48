/-
# Nothing is lost or invented

A message's deliveries are inserted by the trigger of its own insert, and no statement removes a
row of either table.  So a message and its deliveries are there together or not at all, whatever
the producers and the workers do, and a delivery is done exactly when the writes of its handler
were committed.  No delivery gets stuck either: a lock goes with its worker, a lease runs out, and
a dead delivery can be returned to the queue, so whatever has not been done can still be done.
-/
import Mathlib.Data.Fintype.EquivFin
import Payday.Bus.AtMostOnce

namespace Payday.Bus

/-! ### What publishing adds -/

/-- The consumers of a topic. -/
def subscribers (topic : String) : List String :=
  (subscriptions.filter fun s => decide (s.2 = topic)).map Prod.fst

lemma mem_subscribers {topic name : String} :
    name ∈ subscribers topic ↔ (name, topic) ∈ subscriptions := by
  simp only [subscribers, List.mem_map, List.mem_filter, decide_eq_true_eq]
  constructor
  · rintro ⟨s, ⟨hs, rfl⟩, rfl⟩
    exact hs
  · intro h
    exact ⟨(name, topic), ⟨h, rfl⟩, rfl⟩

/-- The fan-out appends one new delivery for each consumer. -/
lemma fanOut_rows {deliveries t : Table DeliveryRow.key} {now : Time} {message : MessageRow}
    (h : fanOut deliveries now message = some t) :
    t.rows = deliveries.rows ++ (subscribers message.topic).map (newDelivery now message.id) := by
  unfold fanOut at h
  rw [subscribers]
  generalize subscriptions.filter (fun s => decide (s.2 = message.topic)) = subs at h
  induction subs generalizing deliveries with
  | nil =>
    cases h
    simp
  | cons s rest ih =>
    rw [List.foldlM_cons, Option.bind_eq_bind, Option.bind_eq_some_iff] at h
    obtain ⟨t₁, h₁, h⟩ := h
    obtain ⟨-, hrows⟩ := Table.insert?_eq_some_iff.1 h₁
    rw [ih h, hrows]
    simp

/-- A publication changes nothing, or its key is new and the message is appended with its
deliveries. -/
lemma publish_cases {db db' : Database} {now : Time} {message : MessageRow}
    {outcome : PublishOutcome} (h : publish db now message = .ok (db', outcome)) :
    db' = db ∨
    ((∀ m ∈ db.messages.rows, (m.topic, m.deduplicationKey) ≠
        (message.topic, message.deduplicationKey)) ∧
      db'.messages.rows = db.messages.rows ++ [{ message with publishedAt := now }] ∧
      db'.deliveries.rows =
        db.deliveries.rows ++ (subscribers message.topic).map (newDelivery now message.id)) := by
  unfold publish at h
  split at h
  · split at h
    · cases h
      exact Or.inl rfl
    · cases h
  · rename_i hnone
    split at h
    · rename_i messages deliveries hmessages hdeliveries
      cases h
      refine Or.inr ⟨?_, (Table.insert?_eq_some_iff.1 hmessages).2, fanOut_rows hdeliveries⟩
      intro m hm heq
      have hno := List.find?_eq_none.1 hnone m hm
      exact hno (decide_eq_true ⟨congrArg Prod.fst heq, congrArg Prod.snd heq⟩)
    · cases h

/-! ### The invariant of the tables -/

/-- The two tables belong together. -/
structure Complete (db : Database) : Prop where
  /-- `bus_messages_dedup`. -/
  dedup : (db.messages.rows.map fun m => (m.topic, m.deduplicationKey)).Nodup
  /-- A delivery for every consumer of every message, and no other. -/
  fanned : ∀ k, k ∈ db.deliveries.rows.map DeliveryRow.key ↔
    ∃ m ∈ db.messages.rows, m.id = k.1 ∧ (k.2, m.topic) ∈ subscriptions

lemma complete_empty : Complete Database.empty where
  dedup := by simp [Database.empty]
  fanned := by simp [Database.empty]

lemma Complete.publish {db db' : Database} (hc : Complete db) {now : Time} {message : MessageRow}
    {outcome : PublishOutcome} (h : publish db now message = .ok (db', outcome)) :
    Complete db' := by
  rcases publish_cases h with rfl | ⟨hnew, hmessages, hdeliveries⟩
  · exact hc
  refine ⟨?_, fun k => ?_⟩
  · rw [hmessages, List.map_append, List.nodup_append]
    refine ⟨hc.dedup, by simp, ?_⟩
    intro a ha b hb heq
    obtain ⟨m, hm, rfl⟩ := List.mem_map.1 ha
    have hb : b = (message.topic, message.deduplicationKey) := by simpa using hb
    exact hnew m hm (heq.trans hb)
  · have hdelivery : k ∈ ((subscribers message.topic).map (newDelivery now message.id)).map
        DeliveryRow.key ↔ message.id = k.1 ∧ (k.2, message.topic) ∈ subscriptions := by
      rw [List.map_map, List.mem_map]
      constructor
      · rintro ⟨name, hname, rfl⟩
        exact ⟨rfl, mem_subscribers.1 hname⟩
      · rintro ⟨hid, hsub⟩
        exact ⟨k.2, mem_subscribers.2 hsub, Prod.ext hid rfl⟩
    rw [hdeliveries, hmessages, List.map_append, List.mem_append, hc.fanned k, hdelivery]
    constructor
    · rintro (⟨m, hm, h⟩ | h)
      · exact ⟨m, List.mem_append_left _ hm, h⟩
      · exact ⟨_, List.mem_append_right _ (List.mem_singleton.2 rfl), h⟩
    · rintro ⟨m, hm, h⟩
      rcases List.mem_append.1 hm with hm | hm
      · exact Or.inl ⟨m, hm, h⟩
      · rw [List.mem_singleton.1 hm] at h
        exact Or.inr h

/-- A step of the tables that publishes the messages one after the other. -/
lemma publishAll_induction {P : Database → Prop} {now : Time}
    (hpublish : ∀ db message db' outcome, publish db now message = .ok (db', outcome) → P db → P db')
    {db db' : Database} {messages : List MessageRow} (h : publishAll db now messages = .ok db')
    (hdb : P db) : P db' := by
  induction messages generalizing db with
  | nil =>
    cases h
    exact hdb
  | cons message rest ih =>
    rw [publishAll] at h
    split at h
    · rename_i db₁ outcome h₁
      exact ih h (hpublish _ _ _ _ h₁ hdb)
    · cases h

/-! ### What a step does to the tables -/

/-- The deliveries are rewritten row by row, and those that become done are acknowledged. -/
structure Rewrites (t t' : Table DeliveryRow.key) (acked : List (MessageId × String)) : Prop where
  keys : t'.rows.map DeliveryRow.key = t.rows.map DeliveryRow.key
  done : ∀ row' ∈ t'.rows, row'.state = .done → row'.key ∈ acked ∨
    ∃ row ∈ t.rows, row.key = row'.key ∧ row.state = .done

lemma Rewrites.refl (t : Table DeliveryRow.key) : Rewrites t t [] where
  keys := rfl
  done := fun row' h hdone => Or.inr ⟨row', h, rfl, hdone⟩

lemma keys_updateWhere {t : Table DeliveryRow.key} {p : DeliveryRow → Bool}
    {f : DeliveryRow → DeliveryRow} (hf : ∀ row, (f row).key = row.key) :
    (t.updateWhere p f hf).rows.map DeliveryRow.key = t.rows.map DeliveryRow.key := by
  rw [Table.rows_updateWhere, List.map_map]
  refine List.map_congr_left fun row _ => ?_
  simp only [Function.comp_apply]
  split
  · exact hf row
  · rfl

/-- A statement that makes nothing done. -/
lemma Rewrites.updateWhere {t : Table DeliveryRow.key} {p : DeliveryRow → Bool}
    {f : DeliveryRow → DeliveryRow} (hf : ∀ row, (f row).key = row.key)
    (hstate : ∀ row, p row = true → (f row).state ≠ .done ∨ (f row).state = row.state) :
    Rewrites t (t.updateWhere p f hf) [] where
  keys := keys_updateWhere hf
  done := by
    intro row' h hdone
    rcases Table.mem_updateWhere h with ⟨row, hrow, hp, rfl⟩ | ⟨hrow, -⟩
    · rcases hstate row hp with hne | heq
      · exact absurd hdone hne
      · exact Or.inr ⟨row, hrow, (hf row).symm, heq ▸ hdone⟩
    · exact Or.inr ⟨row', hrow, rfl, hdone⟩

lemma Rewrites.parkDead (t : Table DeliveryRow.key) (name : String) (messageId : MessageId)
    (token : LeaseToken) (error : String) :
    Rewrites t (parkDead t name messageId token error) [] := by
  refine Rewrites.updateWhere _ fun row _ => Or.inl ?_
  simp

lemma Rewrites.retryDead (t : Table DeliveryRow.key) (now : Time) (name : String)
    (messageId : MessageId) : Rewrites t (retryDead t now name messageId) [] := by
  refine Rewrites.updateWhere _ fun row _ => Or.inl ?_
  simp

lemma Rewrites.fail {M : Type} (t : Table DeliveryRow.key) (now delay : Time)
    (consumer : Consumer M) (delivery : Delivery M) (error : HandlerError) :
    Rewrites t (fail t now delay consumer delivery error).1 [] := by
  rw [Bus.fail]
  split
  · exact Rewrites.parkDead t _ _ _ _
  · refine Rewrites.updateWhere (fun _ => ?_) fun row _ => Or.inr ?_
    · rfl
    · rfl

lemma Rewrites.ack {t t' : Table DeliveryRow.key} {now : Time} {name : String}
    {messageId : MessageId} {token : LeaseToken} (h : ack t now name messageId token = .ok t') :
    Rewrites t t' [(messageId, name)] := by
  obtain ⟨row, hrow, hheld⟩ := holds_of_ack h
  rw [ack_of_holds hrow hheld] at h
  cases h
  refine ⟨keys_updateWhere _, fun row' hrow' hdone => ?_⟩
  · rcases Table.mem_updateWhere hrow' with ⟨row₀, -, hp, rfl⟩ | ⟨hrow', -⟩
    · exact Or.inl (List.mem_singleton.2 (holds_eq_true.1 hp).1)
    · exact Or.inr ⟨row', hrow', rfl, hdone⟩

lemma Complete.rewrites {db : Database} (hc : Complete db) {t : Table DeliveryRow.key}
    {acked : List (MessageId × String)} (h : Rewrites db.deliveries t acked) :
    Complete { db with deliveries := t } where
  dedup := hc.dedup
  fanned := by
    intro k
    show k ∈ t.rows.map DeliveryRow.key ↔ _
    rw [h.keys]
    exact hc.fanned k

namespace System

variable {M W : Type} {C : ℕ → Consumer M} {s s' : System M W}

/-- Every step rewrites deliveries and then publishes; what it rewrites to done, it adds to the
effects. -/
lemma step_tables (h : Step C s s') : ∃ t now published new,
    Rewrites s.db.deliveries t (new.map Prod.fst) ∧
    publishAll { s.db with deliveries := t } now published = .ok s'.db ∧
    s'.effects = s.effects ++ new := by
  -- a step that publishes nothing and acknowledges nothing
  have hquiet : ∀ {t : Table DeliveryRow.key} {s'' : System M W}, Rewrites s.db.deliveries t [] →
      s''.db = { s.db with deliveries := t } → s''.effects = s.effects →
      ∃ t now published new, Rewrites s.db.deliveries t (new.map Prod.fst) ∧
        publishAll { s.db with deliveries := t } now published = .ok s''.db ∧
        s''.effects = s.effects ++ new := by
    intro t s'' ht hdb heffects
    exact ⟨t, 0, [], [], ht, by rw [hdb]; rfl, by rw [heffects, List.append_nil]⟩
  cases h with
  | publish now message db outcome h =>
    refine ⟨s.db.deliveries, now, [message], [], Rewrites.refl _, ?_, by simp⟩
    rw [publishAll, h]
    rfl
  | claim w now skip tokens ids t h locked hids new distinct ht =>
    refine hquiet (t := t) ?_ rfl rfl
    rw [ht]
    exact Rewrites.updateWhere _ fun _ _ => Or.inr rfl
  | decode => exact hquiet (Rewrites.refl _) rfl rfl
  | refuse w raw c raws batch reason h hdecode free =>
    exact hquiet (Rewrites.parkDead _ _ _ _ _) rfl rfl
  | decoded => exact hquiet (Rewrites.refl _) rfl rfl
  | handle => exact hquiet (Rewrites.refl _) rfl rfl
  | handleFailed => exact hquiet (Rewrites.refl _) rfl rfl
  | ack => exact hquiet (Rewrites.refl _) rfl rfl
  | ackLost => exact hquiet (Rewrites.refl _) rfl rfl
  | rollback => exact hquiet (Rewrites.refl _) rfl rfl
  | commit w now d writes rest t db next h hack hpublish hnext =>
    exact ⟨t, now, writes.published, [(key C w d, writes.changes)], Rewrites.ack hack, hpublish, rfl⟩
  | fail w now delay d error rest h free =>
    exact hquiet (Rewrites.fail _ _ _ _ _ _) rfl rfl
  | failLost => exact hquiet (Rewrites.refl _) rfl rfl
  | finish => exact hquiet (Rewrites.refl _) rfl rfl
  | crash => exact hquiet (Rewrites.refl _) rfl rfl
  | retryDead now name messageId =>
    exact hquiet (Rewrites.retryDead _ _ _ _) rfl rfl

/-! ### Runs -/

/-- The tables belong together, and a delivery is done only with its effect. -/
structure Accounted (s : System M W) : Prop where
  complete : Complete s.db
  committed : ∀ row ∈ s.db.deliveries.rows, row.state = .done → row.key ∈ s.effects.map Prod.fst

lemma accounted_start : Accounted (start : System M W) where
  complete := complete_empty
  committed := by simp [start, Database.empty]

/-- Publishing adds no delivery that is done. -/
lemma done_of_publish {db db' : Database} {now : Time} {message : MessageRow}
    {outcome : PublishOutcome} (h : Bus.publish db now message = .ok (db', outcome))
    {row : DeliveryRow} (hrow : row ∈ db'.deliveries.rows) (hdone : row.state = .done) :
    row ∈ db.deliveries.rows := by
  rcases publish_cases h with rfl | ⟨-, -, hdeliveries⟩
  · exact hrow
  · rw [hdeliveries] at hrow
    rcases List.mem_append.1 hrow with hrow | hrow
    · exact hrow
    · obtain ⟨name, -, rfl⟩ := List.mem_map.1 hrow
      cases hdone

lemma Accounted.step (hs : Accounted s) (h : Step C s s') : Accounted s' := by
  obtain ⟨t, now, published, new, ht, hpublish, heffects⟩ := step_tables h
  refine ⟨publishAll_induction (fun _ _ _ _ h hc => hc.publish h) hpublish
    (hs.complete.rewrites ht), ?_⟩
  refine publishAll_induction (P := fun db => ∀ row ∈ db.deliveries.rows, row.state = .done →
    row.key ∈ s'.effects.map Prod.fst) ?_ hpublish ?_
  · intro db message db' outcome h hdb row hrow hdone
    exact hdb row (done_of_publish h hrow hdone) hdone
  · intro row hrow hdone
    rw [heffects, List.map_append, List.mem_append]
    rcases ht.done row hrow hdone with hnew | ⟨row₀, hrow₀, hkey, hdone₀⟩
    · exact Or.inr hnew
    · rw [← hkey]
      exact Or.inl (hs.committed row₀ hrow₀ hdone₀)

lemma accounted_of_reachable (h : Reachable C s) : Accounted s := by
  induction h with
  | refl => exact accounted_start
  | tail _ hstep ih => exact ih.step hstep

/-- No step takes a message away or changes it. -/
lemma messages_step (h : Step C s s') : s.db.messages.rows <+: s'.db.messages.rows := by
  obtain ⟨t, now, published, new, -, hpublish, -⟩ := step_tables h
  refine publishAll_induction (P := fun db => s.db.messages.rows <+: db.messages.rows) ?_ hpublish
    (List.prefix_refl _)
  intro db message db' outcome h hdb
  rcases publish_cases h with rfl | ⟨-, hmessages, -⟩
  · exact hdb
  · rw [hmessages]
    exact hdb.trans (List.prefix_append _ _)

lemma messages_run (h : Relation.ReflTransGen (Step C) s s') :
    s.db.messages.rows <+: s'.db.messages.rows := by
  induction h with
  | refl => exact List.prefix_refl _
  | tail _ hstep ih => exact ih.trans (messages_step hstep)

/-- In every state of every run the messages differ in topic and deduplication key, there is one
delivery for each consumer subscribed to a message's topic and no other, a delivery is done exactly
when the writes of its handler were committed, and every message stays as it was published. -/
theorem messages_are_delivered_and_accounted_for (C : ℕ → Consumer M) (s : System M W)
    (h : Reachable C s) :
    (s.db.messages.rows.map fun m => (m.topic, m.deduplicationKey)).Nodup ∧
    (∀ id name, ((s.db.deliveries.rows.filter fun row => decide (row.key = (id, name))).length =
      if ∃ m ∈ s.db.messages.rows, m.id = id ∧ (name, m.topic) ∈ subscriptions then 1 else 0)) ∧
    (∀ row ∈ s.db.deliveries.rows, row.state = .done ↔
      (s.effects.filter fun e => decide (e.1 = row.key)).length = 1) ∧
    ∀ s', Relation.ReflTransGen (Step C) s s' → s.db.messages.rows <+: s'.db.messages.rows := by
  have hs := accounted_of_reachable h
  have hsound := sound_of_reachable h
  refine ⟨hs.complete.dedup, fun id name => ?_, fun row hrow => ?_, fun s' hrun => messages_run hrun⟩
  · split
    · rename_i hm
      obtain ⟨row, hrow, hkey⟩ := List.mem_map.1 ((hs.complete.fanned (id, name)).2 hm)
      rw [Table.filter_eq_singleton hrow (by simp [hkey]) (by simp [hkey])]
      rfl
    · rename_i hm
      rw [List.length_eq_zero_iff, List.filter_eq_nil_iff]
      intro row hrow hkey
      refine hm ((hs.complete.fanned (id, name)).1 (List.mem_map.2 ⟨row, hrow, ?_⟩))
      simpa using hkey
  · constructor
    · intro hdone
      obtain ⟨e, he, hkey⟩ := List.mem_map.1 (hs.committed row hrow hdone)
      have hone := List.nodup_iff_count_le_one.1 hsound.once row.key
      rw [List.count_eq_countP, List.countP_map, List.countP_eq_length_filter] at hone
      have hle : (s.effects.filter fun e => decide (e.1 = row.key)).length ≤ 1 := by
        refine le_trans (le_of_eq ?_) hone
        congr 2
        funext e
        exact (beq_eq_decide e.1 row.key).symm
      have hmem : e ∈ s.effects.filter fun e => decide (e.1 = row.key) :=
        List.mem_filter.2 ⟨he, decide_eq_true hkey⟩
      have hpos := List.length_pos_of_mem hmem
      omega
    · intro hone
      obtain ⟨e, he⟩ := List.exists_mem_of_length_pos (by rw [hone]; exact Nat.one_pos)
      obtain ⟨he, hkey⟩ := List.mem_filter.1 he
      obtain ⟨row', hrow', hkey', hdone⟩ := hsound.done e he
      have heq : row' = row := s.db.deliveries.eq_of_key_eq hrow' hrow (by
        rw [hkey']
        exact of_decide_eq_true hkey)
      rwa [← heq]

/-- One message on the bus, which nobody has claimed. -/
def published : System String Unit := { start with db := sampleDb (sampleRow 0 none none) }

lemma reachable_published : Reachable sampleConsumers published :=
  Relation.ReflTransGen.single (.publish 0 sampleMessage _ _ publish_sampleMessage)

theorem messages_are_delivered_and_accounted_for_published :
    Reachable sampleConsumers published ∧
    (published.db.deliveries.rows.filter fun row =>
      decide (row.key = (1, "gum-signers"))).length = 1 ∧
    (published.db.deliveries.rows.filter fun row =>
      decide (row.key = (1, "gum-server"))).length = 0 ∧
    ∀ s', Relation.ReflTransGen (Step sampleConsumers) published s' →
      [sampleMessage] <+: s'.db.messages.rows := by
  obtain ⟨-, hcount, -, hkept⟩ :=
    messages_are_delivered_and_accounted_for sampleConsumers published reachable_published
  exact ⟨reachable_published, (hcount 1 "gum-signers").trans (by decide),
    (hcount 1 "gum-server").trans (by decide), hkept⟩

/-! ### What is not done can still be done -/

/-- A claim that skips every other delivery picks this one. -/
lemma picked_alone {db : Database} {name topic : String} {now : Time} {batchSize : ℕ}
    {row : DeliveryRow} (hrow : row ∈ db.deliveries.rows)
    (hclaim : claimable db name topic now row = true) (hbatch : 0 < batchSize) :
    picked db name topic now batchSize (fun r => !decide (r.key = row.key)) = [row.messageId] := by
  have hfilter := Table.filter_eq_singleton hrow
    (p := fun r => claimable db name topic now r && !!decide (r.key = row.key)) (by simp [hclaim])
    (by simp)
  obtain ⟨n, rfl⟩ := Nat.exists_eq_succ_of_ne_zero (by omega : batchSize ≠ 0)
  rw [picked, hfilter]
  simp

/-- The delivery after a claim of it alone. -/
def leased (row : DeliveryRow) (now duration : Time) (token : LeaseToken) : DeliveryRow :=
  { row with
    lease := some ⟨token, now + duration⟩
    attemptCount := row.attemptCount + 1
    lastAttemptAt := some now }

lemma mem_lease_alone {deliveries : Table DeliveryRow.key} {row : DeliveryRow}
    (hrow : row ∈ deliveries.rows) (now duration : Time) (tokens : MessageId → LeaseToken) :
    leased row now duration (tokens row.messageId) ∈
      (lease deliveries row.consumer now duration [row.messageId] tokens).rows := by
  have hmem : decide (row.messageId ∈ [row.messageId] ∧ row.consumer = row.consumer) = true := by
    simp
  exact Table.mem_updateWhere_of hrow hmem

lemma returning_alone {deliveries : Table DeliveryRow.key} {now duration : Time}
    {tokens : MessageId → LeaseToken} {row : DeliveryRow} (hrow : row ∈ deliveries.rows) :
    returning (lease deliveries row.consumer now duration [row.messageId] tokens) row.consumer
      [row.messageId] tokens = [⟨row.messageId, row.attemptCount + 1, tokens row.messageId⟩] := by
  have hleased := mem_lease_alone hrow now duration tokens
  have hfilter := Table.filter_eq_singleton hleased
    (p := fun r => decide (r.messageId ∈ [row.messageId] ∧ r.consumer = row.consumer))
    (by simp [leased]) (by
      intro r hr
      simp [DeliveryRow.key, leased])
  rw [returning, hfilter]
  rfl

lemma claimedMessages_alone {db : Database} {m : MessageRow} (hm : m ∈ db.messages.rows)
    (c : Claimed) (hc : c.messageId = m.id) : claimedMessages db [c] = [(m, c)] := by
  have hfilter := Table.filter_eq_singleton hm
    (p := fun m' => ([c].map (·.messageId)).contains m'.id) (by simp [hc]) (by simp [hc])
  rw [claimedMessages, hfilter]
  simp [hc]

/-- A delivery can be claimed at some time, when it is pending and its message is of the topic. -/
lemma exists_claimable {db : Database} {row : DeliveryRow} {m : MessageRow}
    (hm : m ∈ db.messages.rows) (hid : m.id = row.messageId) (hpending : row.state = .pending) :
    ∃ now, claimable db row.consumer m.topic now row = true := by
  have hfind : db.messages.find? row.messageId = some m := by
    rw [← hid]
    exact Table.find?_of_mem hm
  cases hlease : row.lease with
  | none => exact ⟨row.availableAt, by simp [claimable, hpending, hlease, hfind]⟩
  | some lease =>
    refine ⟨max row.availableAt (lease.expires + 1), ?_⟩
    simp [claimable, hpending, hlease, hfind]

/-- The workers that lock the delivery, and worker `w`, stop. -/
lemma exists_stopped (hs : Sound C s) (w : ℕ) (k : MessageId × String) :
    ∃ s', Relation.ReflTransGen (Step C) s s' ∧ s'.db = s.db ∧ s'.effects = s.effects ∧
      s'.workers w = .idle ∧ ∀ w', ¬ s'.Locks C w' k := by
  by_cases hlock : ∃ w', s.Locks C w' k
  · obtain ⟨w', hlock⟩ := hlock
    refine ⟨(s.setWorker w' .idle).setWorker w .idle,
      (Relation.ReflTransGen.single (.crash w')).tail (.crash w), rfl, rfl, by simp [setWorker], ?_⟩
    rintro w'' ⟨d, wr, rest, hw, hkey⟩
    -- the delivery has one lock, and its worker stopped
    have hw := (acked_of_update (by simp) hw).2
    obtain ⟨hne, hw⟩ := acked_of_update (by simp) hw
    exact hne (hs.alone w'' w' k ⟨d, wr, rest, hw, hkey⟩ hlock)
  · refine ⟨s.setWorker w .idle, Relation.ReflTransGen.single (.crash w), rfl, rfl,
      by simp [setWorker], ?_⟩
    rintro w' ⟨d, wr, rest, hw, hkey⟩
    exact hlock ⟨w', d, wr, rest, (acked_of_update (by simp) hw).2, hkey⟩

/-- The delivery is pending, after an operator's retry if it was dead. -/
lemma exists_pending {row : DeliveryRow} (hrow : row ∈ s.db.deliveries.rows)
    (hundone : row.state ≠ .done) :
    ∃ s' row', Relation.ReflTransGen (Step C) s s' ∧ s'.db.messages = s.db.messages ∧
      s'.effects = s.effects ∧ s'.workers = s.workers ∧ row' ∈ s'.db.deliveries.rows ∧
      row'.key = row.key ∧ row'.state = .pending := by
  cases hstate : row.state with
  | done => exact absurd hstate hundone
  | pending => exact ⟨s, row, Relation.ReflTransGen.refl, rfl, rfl, rfl, hrow, rfl, hstate⟩
  | dead =>
    have hretried : { row with
        state := .pending, attemptCount := 0, availableAt := 0, lastError := none } ∈
        (retryDead s.db.deliveries 0 row.consumer row.messageId).rows := by
      have hdead : decide (row.messageId = row.messageId ∧ row.consumer = row.consumer ∧
          row.state = .dead) = true := by simp [hstate]
      exact Table.mem_updateWhere_of hrow hdead
    exact ⟨_, _, Relation.ReflTransGen.single (.retryDead 0 row.consumer row.messageId), rfl, rfl,
      rfl, hretried, rfl, rfl⟩

/-- An idle worker claims the delivery alone. -/
lemma exists_claimed {w : ℕ} {row : DeliveryRow} {m : MessageRow} (hidle : s.workers w = .idle)
    (hfree : ∀ w', ¬ s.Locks C w' row.key) (hrow : row ∈ s.db.deliveries.rows)
    (hpending : row.state = .pending) (hm : m ∈ s.db.messages.rows) (hid : m.id = row.messageId)
    (hname : (C w).name = row.consumer) (htopic : (C w).messageType.topic = m.topic)
    (hbatch : 0 < (C w).options.batchSize) :
    ∃ s' row' c, Step C s s' ∧ s'.effects = s.effects ∧ s'.workers w = .decoding [(m, c)] [] ∧
      row' ∈ s'.db.deliveries.rows ∧ row'.key = row.key ∧
      holds (C w).name m.id c.leaseToken row' = true ∧ ∀ w', ¬ s'.Locks C w' row'.key := by
  obtain ⟨now, hclaim⟩ := exists_claimable hm hid hpending
  obtain ⟨token, htoken⟩ := Infinite.exists_notMem_finset (s.claims.map Prod.snd).toFinset
  have hstep := Step.claim (C := C) (s := s) w now (fun r => !decide (r.key = row.key))
    (fun _ => token) [row.messageId]
    (lease s.db.deliveries (C w).name now (C w).options.lease [row.messageId] fun _ => token)
    hidle (by
      intro r w' hlock
      by_contra hskip
      have hkey : r.key = row.key := by simpa using hskip
      exact hfree w' (hkey ▸ hlock))
    (by
      rw [hname, htopic]
      exact (picked_alone hrow hclaim hbatch).symm)
    (by simpa using htoken) (by simp) rfl
  rw [hname, returning_alone hrow, claimedMessages_alone hm _ hid.symm] at hstep
  have hleased := mem_lease_alone hrow now (C w).options.lease fun _ => token
  refine ⟨_, _, _, hstep, rfl, Function.update_self .., hleased, rfl, ?_, ?_⟩
  · exact holds_eq_true.2 ⟨Prod.ext hid.symm hname.symm, ⟨_, rfl, rfl⟩, hpending⟩
  · rintro w' ⟨d, wr, rest, hw, hkey⟩
    exact hfree w' ⟨d, wr, rest, (acked_of_update (by simp) hw).2, hkey⟩

/-- A worker that has claimed one delivery decodes it, handles it and commits. -/
lemma exists_committed {w : ℕ} {m : MessageRow} {c : Claimed} {message : M} {row : DeliveryRow}
    (hworker : s.workers w = .decoding [(m, c)] [])
    (hdecode : decode (C w).messageType m = .ok message) (hrow : row ∈ s.db.deliveries.rows)
    (hheld : holds (C w).name m.id c.leaseToken row = true) (hfree : ∀ w', ¬ s.Locks C w' row.key)
    (changes : W) :
    ∃ s', Relation.ReflTransGen (Step C) s s' ∧ s'.effects = s.effects ++ [(row.key, changes)] ∧
      ∃ row' ∈ s'.db.deliveries.rows, row'.key = row.key ∧ row'.state = .done := by
  have h₁ := Relation.ReflTransGen.single (Step.decode (C := C) w m c [] [] message hworker hdecode)
  have h₂ := h₁.tail (.decoded w [c.delivery m message] (Function.update_self ..))
  have h₃ := h₂.tail (.handle w (c.delivery m message) ⟨changes, []⟩ [] (Function.update_self ..))
  have hack := ack_of_holds hrow hheld 0
  have h₄ := h₃.tail (.ack w 0 (c.delivery m message) ⟨changes, []⟩ [] _ (Function.update_self ..) (by
    rintro r hr hr' w' ⟨d, wr, rest, hw, hkey⟩
    -- the row is the one that is held, and this worker's moves locked nothing
    have hw := (acked_of_update (by simp) hw).2
    have hw := (acked_of_update (by simp) hw).2
    have hw := (acked_of_update (by simp) hw).2
    refine hfree w' ⟨d, wr, rest, hw, hkey.trans ?_⟩
    rw [(holds_eq_true.1 hr').1, (holds_eq_true.1 hheld).1]
    rfl) hack)
  have h₅ := h₄.tail (.commit w 0 (c.delivery m message) ⟨changes, []⟩ [] _ _ _
    (Function.update_self ..) hack rfl (Or.inl rfl))
  have hdone : { row with state := .done, doneAt := some 0, lease := none, lastError := none } ∈
      (s.db.deliveries.updateWhere (holds (C w).name m.id c.leaseToken) fun row => { row with
        state := .done, doneAt := some 0, lease := none, lastError := none }).rows :=
    Table.mem_updateWhere_of hrow hheld
  refine ⟨_, h₅, ?_, _, hdone, rfl, rfl⟩
  rw [(holds_eq_true.1 hheld).1]
  rfl

/-- A delivery that is not done can be done from every state of every run: stop the workers that
hold it, return it to the queue if it is dead, and let a worker of its consumer that decodes the
message claim it when its lease has run out.  No other delivery takes effect on the way. -/
theorem undone_deliveries_can_be_done (C : ℕ → Consumer M) (s : System M W) (h : Reachable C s)
    (row : DeliveryRow) (hrow : row ∈ s.db.deliveries.rows) (hundone : row.state ≠ .done) :
    ∃ m ∈ s.db.messages.rows, m.id = row.messageId ∧ (row.consumer, m.topic) ∈ subscriptions ∧
      ∀ (w : ℕ) (message : M) (changes : W), (C w).name = row.consumer →
        (C w).messageType.topic = m.topic → 0 < (C w).options.batchSize →
        decode (C w).messageType m = .ok message →
        ∃ s', Relation.ReflTransGen (Step C) s s' ∧ s'.effects = s.effects ++ [(row.key, changes)] ∧
          ∃ row' ∈ s'.db.deliveries.rows, row'.key = row.key ∧ row'.state = .done := by
  have hs := accounted_of_reachable h
  obtain ⟨m, hm, hid, hsub⟩ := (hs.complete.fanned row.key).1 (List.mem_map_of_mem hrow)
  refine ⟨m, hm, hid, hsub, ?_⟩
  intro w message changes hname htopic hbatch hdecode
  obtain ⟨s₁, hrun₁, hdb₁, heffects₁, hidle₁, hfree₁⟩ :=
    exists_stopped (sound_of_reachable h) w row.key
  rw [← hdb₁] at hrow hm
  obtain ⟨s₂, row₂, hrun₂, hmessages₂, heffects₂, hworkers₂, hrow₂, hkey₂, hpending₂⟩ :=
    exists_pending (C := C) hrow hundone
  rw [← hmessages₂] at hm
  obtain ⟨s₃, row₃, c, hstep₃, heffects₃, hworker₃, hrow₃, hkey₃, hheld₃, hfree₃⟩ :=
    exists_claimed (C := C) (hworkers₂ ▸ hidle₁) (by
      rintro w' ⟨d, wr, rest, hw, hkey⟩
      exact hfree₁ w' ⟨d, wr, rest, hworkers₂ ▸ hw, hkey.trans hkey₂⟩)
      hrow₂ hpending₂ hm (hid.trans (congrArg Prod.fst hkey₂).symm)
      (hname.trans (congrArg Prod.snd hkey₂).symm) htopic hbatch
  obtain ⟨s₄, hrun₄, heffects₄, row₄, hrow₄, hkey₄, hdone₄⟩ :=
    exists_committed hworker₃ hdecode hrow₃ hheld₃ hfree₃ changes
  have hkey : row₃.key = row.key := hkey₃.trans hkey₂
  refine ⟨s₄, ((hrun₁.trans hrun₂).tail hstep₃).trans hrun₄, ?_, row₄, hrow₄, hkey₄.trans hkey,
    hdone₄⟩
  rw [heffects₄, heffects₃, heffects₂, heffects₁, hkey]

/-- The sample delivery can be done while it waits, when a stopped worker left its lease behind, and when it is parked. -/
theorem undone_deliveries_can_be_done_sampleConsumers :
    ∃ left parked : System String Unit, Reachable sampleConsumers left ∧ Reachable sampleConsumers parked ∧
      left.workers 1 = .idle ∧ left.db.deliveries.rows = [sampleRow 2 (some ⟨8, 61⟩) (some 31)] ∧
      parked.db.deliveries.rows.map (·.state) = [.dead] ∧
      ∀ s ∈ [published, left, parked], ∃ s', Relation.ReflTransGen (Step sampleConsumers) s s' ∧
        s'.effects = [((1, "gum-signers"), ())] := by
  have hdone : ∀ (s : System String Unit) (row : DeliveryRow), Reachable sampleConsumers s → s.db = sampleDb row →
      s.effects = [] → row.key = (1, "gum-signers") → row.state ≠ .done →
      ∃ s', Relation.ReflTransGen (Step sampleConsumers) s s' ∧ s'.effects = [((1, "gum-signers"), ())] := by
    intro s row hs hdb hnone hkey hundone
    obtain ⟨m, hm, -, -, hdo⟩ := undone_deliveries_can_be_done sampleConsumers s hs row (by simp [hdb, sampleDb]) hundone
    rw [hdb] at hm
    obtain rfl := List.mem_singleton.1 (show m ∈ [sampleMessage] from hm)
    obtain ⟨s', hrun, heffects, -⟩ := hdo 0 "resumed" () (congrArg Prod.snd hkey).symm rfl (by decide) rfl
    refine ⟨s', hrun, ?_⟩
    rw [heffects, hnone, hkey, List.nil_append]
  obtain ⟨left, hleft, hidle, hleftDb, hleftNone⟩ := sample_left
  obtain ⟨parked, hparked, hparkedDb, hparkedNone⟩ := sample_parked
  refine ⟨left, parked, hleft, hparked, hidle, congrArg (·.deliveries.rows) hleftDb, ?_, fun s hs => ?_⟩
  · rw [hparkedDb]
    rfl
  · simp only [List.mem_cons, List.not_mem_nil, or_false] at hs
    rcases hs with rfl | rfl | rfl
    · exact hdone _ _ reachable_published rfl rfl rfl (by decide)
    · exact hdone _ _ hleft hleftDb hleftNone rfl (by decide)
    · exact hdone _ _ hparked hparkedDb hparkedNone rfl (by decide)

end System

end Payday.Bus
