/-
# The attempts of a webhook delivery

What holds in every interleaving of the delivery workers.  The attempt number of a claim is the
number of claims of its delivery so far, and the token in a row belongs to the last of them
(`Sound`), so only the last claimant can move its delivery, and `delivered` and `failed` are
final.

The number of claims is another matter.  `complete` looks at the attempt number and gives up
after the twelfth attempt, but `claim` does not look at it.  When the worker of the twelfth
attempt stops, or is slower than its lease, the delivery is claimed again; without that no
delivery is claimed more than twelve times.
-/
import Payday.Webhooks.Deliveries

namespace Payday.Webhooks

namespace System

/-- The claim a worker works on. -/
def job? (s : System) (w : ℕ) : Option DeliveryClaim :=
  match s.workers w with
  | .idle => none
  | .delivering job => some job
  | .completing job _ _ _ _ => some job

/-- How often the delivery was claimed. -/
def timesClaimed (s : System) (id : DeliveryId) : ℕ :=
  (s.claims.filter (fun job => job.deliveryId = id)).length

/-- Tokens are not given twice, workers hold claims that were given, and the rows agree with the
claims. -/
structure Sound (s : System) : Prop where
  tokens : (s.claims.map (·.leaseToken)).Nodup
  jobs : ∀ w job, s.job? w = some job → job ∈ s.claims
  known : ∀ job ∈ s.claims, ∃ row, s.store.deliveries.find? job.deliveryId = some row ∧
    job.attemptNumber ≤ row.attemptCount
  counted : ∀ id row, s.store.deliveries.find? id = some row → s.timesClaimed id = row.attemptCount
  current : ∀ id row token, s.store.deliveries.find? id = some row →
    row.leaseToken = some token → ∃ job ∈ s.claims, job.deliveryId = id ∧
      job.leaseToken = token ∧ job.attemptNumber = row.attemptCount
  leased : ∀ id row, s.store.deliveries.find? id = some row → row.leaseToken.isSome →
    row.leaseUntil.isSome
  waiting : ∀ id row, s.store.deliveries.find? id = some row → row.state = .pending →
    row.leaseToken = none → row.attemptCount < maxAttempts

lemma sound_start : Sound start where
  tokens := List.nodup_nil
  jobs := by
    intro w job h
    cases h
  known := by simp [start]
  counted := by simp [start]
  current := by simp [start]
  leased := by simp [start]
  waiting := by simp [start]

section

variable {s s' : System}

/-- The holder of the lease is the last one who claimed the delivery. -/
lemma Sound.holder (hs : Sound s) {job : DeliveryClaim} (hjob : job ∈ s.claims)
    {row : WebhookDelivery} (hrow : row ∈ s.store.deliveries.rows) (hholds : job.holds row = true) :
    job.attemptNumber = row.attemptCount := by
  simp only [DeliveryClaim.holds, Bool.and_eq_true, decide_eq_true_eq] at hholds
  obtain ⟨⟨hid, htoken⟩, -⟩ := hholds
  obtain ⟨job', hjob', -, htoken', hnumber⟩ :=
    hs.current row.id row _ (Table.find?_of_mem hrow) htoken
  have heq : job' = job := List.inj_on_of_nodup_map hs.tokens hjob' hjob htoken'
  rw [← heq]
  exact hnumber

/-- The delivery was claimed again after this claim of it. -/
def TakenOver (s : System) (job : DeliveryClaim) : Prop :=
  ∃ later ∈ s.claims, later.deliveryId = job.deliveryId ∧ job.attemptNumber < later.attemptNumber

/-- A claim that was taken over holds no row. -/
lemma Sound.not_holds (hs : Sound s) {job : DeliveryClaim} (hjob : job ∈ s.claims)
    (hover : s.TakenOver job) {row : WebhookDelivery} (hrow : row ∈ s.store.deliveries.rows) :
    job.holds row = false := by
  rw [Bool.eq_false_iff]
  intro hholds
  have hnumber := hs.holder hjob hrow hholds
  simp only [DeliveryClaim.holds, Bool.and_eq_true, decide_eq_true_eq] at hholds
  obtain ⟨later, hlater, hdelivery, hlt⟩ := hover
  obtain ⟨row', hrow', hle⟩ := hs.known later hlater
  rw [hdelivery, ← hholds.1.1, Table.find?_of_mem hrow] at hrow'
  cases hrow'
  omega

/-! ### One step -/

/-- Deliveries and claims are as before, and no worker has a claim it did not have. -/
lemma Sound.of_same (hs : Sound s) (hdeliveries : s'.store.deliveries = s.store.deliveries)
    (hclaims : s'.claims = s.claims) (hjobs : ∀ w job, s'.job? w = some job → s.job? w = some job) :
    Sound s' where
  tokens := by
    rw [hclaims]
    exact hs.tokens
  jobs := by
    intro w job h
    rw [hclaims]
    exact hs.jobs w job (hjobs w job h)
  known := by
    rw [hclaims, hdeliveries]
    exact hs.known
  counted := by
    unfold timesClaimed
    rw [hclaims, hdeliveries]
    exact hs.counted
  current := by
    rw [hclaims, hdeliveries]
    exact hs.current
  leased := by
    rw [hdeliveries]
    exact hs.leased
  waiting := by
    rw [hdeliveries]
    exact hs.waiting

lemma job?_setWorker (s : System) (w w' : ℕ) (worker : Worker) :
    (s.setWorker w worker).job? w' = if w' = w then
      ({ s with workers := fun _ => worker } : System).job? w' else s.job? w' := by
  unfold job? setWorker
  by_cases h : w' = w
  · simp [h]
  · simp [h]

/-- An inserted delivery has not been claimed. -/
lemma Sound.enqueue (hs : Sound s) {id : DeliveryId} {eventId : EventId} {endpointId : EndpointId}
    {now : Time} {deliveries : Table WebhookDelivery.id}
    (h : s.store.deliveries.insert? (.new id eventId endpointId now) = some deliveries) :
    Sound { s with store := { s.store with deliveries := deliveries } } := by
  have hfind : ∀ id', deliveries.find? id' = if id' = id then
      some (.new id eventId endpointId now) else s.store.deliveries.find? id' :=
    Table.find?_of_insert? h
  have hnew : s.store.deliveries.find? id = none := by
    rw [Table.find?_eq_none_iff]
    exact (Table.insert?_eq_some_iff.1 h).1
  have hold : ∀ id' row, deliveries.find? id' = some row →
      s.store.deliveries.find? id' = some row ∨
        id' = id ∧ row = .new id eventId endpointId now := by
    intro id' row hrow
    rw [hfind] at hrow
    split at hrow
    · rename_i heq
      exact Or.inr ⟨heq, (Option.some.inj hrow).symm⟩
    · exact Or.inl hrow
  have hunclaimed : s.timesClaimed id = 0 := by
    refine List.length_eq_zero_iff.2 (List.filter_eq_nil_iff.2 fun job hjob => ?_)
    obtain ⟨row, hrow, -⟩ := hs.known job hjob
    simp only [decide_eq_true_eq]
    rintro rfl
    rw [hnew] at hrow
    cases hrow
  refine ⟨hs.tokens, hs.jobs, ?_, ?_, ?_, ?_, ?_⟩
  · intro job hjob
    obtain ⟨row, hrow, hle⟩ := hs.known job hjob
    refine ⟨row, ?_, hle⟩
    show deliveries.find? job.deliveryId = some row
    rw [hfind, if_neg, hrow]
    intro heq
    rw [heq, hnew] at hrow
    cases hrow
  · intro id' row hrow
    rcases hold id' row hrow with hrow | ⟨rfl, rfl⟩
    · exact hs.counted id' row hrow
    · exact hunclaimed
  · intro id' row token hrow htoken
    rcases hold id' row hrow with hrow | ⟨rfl, rfl⟩
    · exact hs.current id' row token hrow htoken
    · cases htoken
  · intro id' row hrow htoken
    rcases hold id' row hrow with hrow | ⟨rfl, rfl⟩
    · exact hs.leased id' row hrow htoken
    · cases htoken
  · intro id' row hrow hpending htoken
    rcases hold id' row hrow with hrow | ⟨rfl, rfl⟩
    · exact hs.waiting id' row hrow hpending htoken
    · show 0 < maxAttempts
      decide

/-- The row of a delivery after a claim. -/
lemma find?_claim {store : Store} {now : Time} {token : LeaseToken} {row : WebhookDelivery}
    (id : DeliveryId) : (claim store now token row).1.deliveries.find? id =
      (store.deliveries.find? id).map (fun d => if d.id = row.id then d.leased now token else d) := by
  refine (Table.find?_updateWhere store.deliveries (fun d => decide (d.id = row.id))
    (fun d => d.leased now token) (fun _ => rfl) id).trans ?_
  simp only [decide_eq_true_eq]

/-- A claim extends the claims by the next attempt of its delivery. -/
lemma Sound.claim (hs : Sound s) {w : ℕ} {now : Time} {token : LeaseToken} {row : WebhookDelivery}
    (hrow : row ∈ s.store.deliveries.rows) (hnew : token ∉ s.claims.map (·.leaseToken)) :
    Sound {
      store := (claim s.store now token row).1
      workers := Function.update s.workers w (.delivering (claim s.store now token row).2)
      claims := s.claims ++ [(claim s.store now token row).2] } := by
  have hfound : s.store.deliveries.find? row.id = some row := Table.find?_of_mem hrow
  have hold : ∀ id d, (Webhooks.claim s.store now token row).1.deliveries.find? id = some d →
      (id ≠ row.id ∧ s.store.deliveries.find? id = some d) ∨
        id = row.id ∧ d = row.leased now token := by
    intro id d hd
    rw [find?_claim] at hd
    obtain ⟨d', hd', rfl⟩ := Option.map_eq_some_iff.1 hd
    have hid := Table.key_of_find? hd'
    by_cases heq : d'.id = row.id
    · right
      rw [← hid, heq, hfound] at hd'
      cases hd'
      exact ⟨hid.symm, if_pos rfl⟩
    · left
      rw [if_neg heq]
      exact ⟨fun h => heq (hid.trans h), hd'⟩
  have hcount : ∀ id, (List.filter (fun job => decide (job.deliveryId = id))
      (s.claims ++ [(Webhooks.claim s.store now token row).2])).length =
        s.timesClaimed id + if id = row.id then 1 else 0 := by
    intro id
    rw [List.filter_append, List.length_append, timesClaimed]
    by_cases heq : id = row.id
    · simp [heq, Webhooks.claim]
    · simp [heq, Webhooks.claim, Ne.symm heq]
  refine ⟨?_, ?_, ?_, ?_, ?_, ?_, ?_⟩
  · show ((s.claims ++ [_]).map DeliveryClaim.leaseToken).Nodup
    rw [List.map_append]
    refine hs.tokens.append (List.nodup_singleton _) ?_
    simpa [Webhooks.claim, List.disjoint_singleton] using hnew
  · intro w' job hjob
    show job ∈ s.claims ++ [_]
    rw [List.mem_append, List.mem_singleton]
    by_cases hw : w' = w
    · right
      subst hw
      simpa [job?, eq_comm] using hjob
    · left
      refine hs.jobs w' job ?_
      simpa [job?, hw] using hjob
  · intro job hjob
    rcases List.mem_append.1 hjob with hjob | hjob
    · obtain ⟨d, hd, hle⟩ := hs.known job hjob
      show ∃ row', (Webhooks.claim s.store now token row).1.deliveries.find? job.deliveryId =
        some row' ∧ _
      rw [find?_claim, hd]
      refine ⟨_, rfl, ?_⟩
      show job.attemptNumber ≤ (if d.id = row.id then d.leased now token else d).attemptCount
      split
      · exact Nat.le_succ_of_le hle
      · exact hle
    · rw [List.mem_singleton.1 hjob]
      refine ⟨row.leased now token, ?_, le_refl _⟩
      show (Webhooks.claim s.store now token row).1.deliveries.find? row.id = _
      rw [find?_claim, hfound]
      simp
  · intro id d hd
    show (List.filter _ _).length = _
    rw [hcount]
    rcases hold id d hd with ⟨hne, hd⟩ | ⟨rfl, rfl⟩
    · rw [if_neg hne]
      exact hs.counted id d hd
    · rw [if_pos rfl, hs.counted _ row hfound]
      rfl
  · intro id d token' hd htoken
    rcases hold id d hd with ⟨hne, hd⟩ | ⟨rfl, rfl⟩
    · obtain ⟨job, hjob, hrest⟩ := hs.current id d token' hd htoken
      exact ⟨job, List.mem_append_left _ hjob, hrest⟩
    · exact ⟨_, List.mem_append_right _ (List.mem_singleton_self _), rfl, Option.some.inj htoken, rfl⟩
  · intro id d hd htoken
    rcases hold id d hd with ⟨hne, hd⟩ | ⟨rfl, rfl⟩
    · exact hs.leased id d hd htoken
    · rfl
  · intro id d hd hpending htoken
    rcases hold id d hd with ⟨hne, hd⟩ | ⟨rfl, rfl⟩
    · exact hs.waiting id d hd hpending htoken
    · cases htoken

/-- The row of a delivery after an attempt was recorded. -/
lemma find?_complete {store store' : Store} {now : Time} {job : DeliveryClaim} {attemptedAt : Time}
    {durationMs : ℕ} {status : Option ℕ} {error : Option String}
    (h : complete store now job attemptedAt durationMs status error = some store')
    (id : DeliveryId) : store'.deliveries.find? id = (store.deliveries.find? id).map
      (fun d => if job.holds d then d.completed now (isSuccess status) (job.terminal status) else d) := by
  unfold complete at h
  split at h
  · cases h
  · cases h
    exact Table.find?_updateWhere store.deliveries job.holds
      (fun d => d.completed now (isSuccess status) (job.terminal status)) (fun _ => rfl) id

/-- A recorded attempt takes the lease away, and leaves no delivery pending after the last
attempt. -/
lemma Sound.complete (hs : Sound s) {w : ℕ} {now : Time} {job : DeliveryClaim} {attemptedAt : Time}
    {durationMs : ℕ} {status : Option ℕ} {error : Option String} {store : Store} {next : Worker}
    (hw : s.workers w = .completing job attemptedAt durationMs status error)
    (h : Webhooks.complete s.store now job attemptedAt durationMs status error = some store)
    (hnext : next = .idle ∨ next = .completing job attemptedAt durationMs status error) :
    Sound { s with store := store, workers := Function.update s.workers w next } := by
  have hjob : job ∈ s.claims := hs.jobs w job (by simp [job?, hw])
  have hold : ∀ id d, store.deliveries.find? id = some d →
      ∃ d', s.store.deliveries.find? id = some d' ∧ d.attemptCount = d'.attemptCount ∧
        (d = d' ∨ d.leaseToken = none ∧ (d.state = .pending → d.attemptCount < maxAttempts)) := by
    intro id d hd
    rw [find?_complete h] at hd
    obtain ⟨d', hd', rfl⟩ := Option.map_eq_some_iff.1 hd
    refine ⟨d', hd', ?_⟩
    by_cases hholds : job.holds d' = true
    · rw [if_pos hholds]
      refine ⟨rfl, Or.inr ⟨rfl, ?_⟩⟩
      -- the holder's attempt is the row's, and the row is pending only before the last one
      have hnumber := hs.holder hjob (Table.mem_of_find? hd') hholds
      show (if isSuccess status then _ else if job.terminal status then _ else _) = _ →
        d'.attemptCount < maxAttempts
      rw [← hnumber]
      by_cases hsuccess : isSuccess status = true
      · simp [hsuccess]
      · by_cases hlast : maxAttempts ≤ job.attemptNumber
        · simp [hsuccess, DeliveryClaim.terminal, hlast]
        · intro _
          omega
    · rw [if_neg hholds]
      exact ⟨rfl, Or.inl rfl⟩
  refine ⟨hs.tokens, ?_, ?_, ?_, ?_, ?_, ?_⟩
  · intro w' job' hjob'
    by_cases hw' : w' = w
    · subst hw'
      rcases hnext with rfl | rfl
      · simp [job?] at hjob'
      · have heq : job = job' := by simpa [job?] using hjob'
        exact heq ▸ hjob
    · refine hs.jobs w' job' ?_
      simpa [job?, hw'] using hjob'
  · intro job' hjob'
    obtain ⟨d, hd, hle⟩ := hs.known job' hjob'
    show ∃ row, store.deliveries.find? job'.deliveryId = some row ∧ _
    rw [find?_complete h, hd]
    refine ⟨_, rfl, ?_⟩
    show job'.attemptNumber ≤ (if job.holds d then
      d.completed now (isSuccess status) (job.terminal status) else d).attemptCount
    split <;> exact hle
  · intro id d hd
    obtain ⟨d', hd', hcount, -⟩ := hold id d hd
    rw [hcount]
    exact hs.counted id d' hd'
  · intro id d token hd htoken
    obtain ⟨d', hd', -, rfl | ⟨hnone, -⟩⟩ := hold id d hd
    · exact hs.current id d token hd' htoken
    · rw [hnone] at htoken
      cases htoken
  · intro id d hd htoken
    obtain ⟨d', hd', -, rfl | ⟨hnone, -⟩⟩ := hold id d hd
    · exact hs.leased id d hd' htoken
    · rw [hnone] at htoken
      cases htoken
  · intro id d hd hpending htoken
    obtain ⟨d', hd', -, rfl | ⟨-, hlast⟩⟩ := hold id d hd
    · exact hs.waiting id d hd' hpending htoken
    · exact hlast hpending

lemma Sound.step (hs : Sound s) {e : Event} (h : Step s e s') : Sound s' := by
  cases h with
  | enqueue id eventId endpointId now deliveries hinsert once => exact hs.enqueue hinsert
  | addEndpoint endpoint endpoints hinsert => exact hs.of_same rfl rfl fun _ _ hjob => hjob
  | disable now account id => exact hs.of_same rfl rfl fun _ _ hjob => hjob
  | claim w now skip token row store job hw picks fits new hclaim =>
    have hstore : store = (Webhooks.claim s.store now token row).1 := by rw [hclaim]
    have hjob : job = (Webhooks.claim s.store now token row).2 := by rw [hclaim]
    rw [hstore, hjob]
    exact hs.claim picks.1 new
  | respond w job attemptedAt durationMs result hw =>
    refine hs.of_same rfl rfl fun w' job' hjob' => ?_
    rw [job?_setWorker] at hjob'
    split at hjob'
    · rename_i heq
      subst heq
      simpa [job?, hw] using hjob'
    · exact hjob'
  | complete w now job attemptedAt durationMs status error store next hw hcomplete hnext =>
    exact hs.complete hw hcomplete hnext
  | crash w =>
    refine hs.of_same rfl rfl fun w' job' hjob' => ?_
    rw [job?_setWorker] at hjob'
    split at hjob'
    · simp [job?] at hjob'
    · exact hjob'

lemma sound_of_run {past : List (System × Event)} (h : Run past s) : Sound s := by
  induction h with
  | start => exact sound_start
  | step _ hstep ih => exact ih.step hstep

/-! ### Who moves a delivery -/

lemma ready_eq_true {store : Store} {now : Time} {row : WebhookDelivery} (h : ready store now row = true) :
    row.state = .pending ∧ row.nextAttemptAt ≤ now ∧
      (∀ until', row.leaseUntil = some until' → until' < now) ∧
      (store.endpoints.find? row.endpointId).any (fun endpoint => endpoint.disabledAt.isNone) = true := by
  simp only [ready, Bool.and_eq_true, decide_eq_true_eq, Option.all_eq_true] at h
  exact ⟨h.1.1.1, h.1.1.2, h.1.2, h.2⟩

/-- A step leaves a delivery alone, or claims it when it is due, or records the attempt of a claim
that holds it. -/
lemma step_row {e : Event} (h : Step s e s') {id : DeliveryId} {row : WebhookDelivery}
    (hrow : s.store.deliveries.find? id = some row) :
    s'.store.deliveries.find? id = some row ∨
    (∃ w now job, e = .claim w now job ∧ ready s.store now row = true ∧
      s'.store.deliveries.find? id = some (row.leased now job.leaseToken)) ∨
    ∃ w now job status, e = .complete w job status ∧ s.job? w = some job ∧ job.holds row = true ∧
      s'.store.deliveries.find? id =
        some (row.completed now (isSuccess status) (job.terminal status)) := by
  cases h with
  | enqueue id' eventId endpointId now deliveries hinsert once =>
    left
    show deliveries.find? id = some row
    rw [Table.find?_of_insert? hinsert, if_neg, hrow]
    rintro rfl
    exact (Table.insert?_eq_some_iff.1 hinsert).1
      (List.mem_map.2 ⟨row, Table.mem_of_find? hrow, Table.key_of_find? hrow⟩)
  | addEndpoint endpoint endpoints hinsert => exact Or.inl hrow
  | disable now account id' => exact Or.inl hrow
  | claim w now skip token picked store job hw picks fits new hclaim =>
    obtain ⟨hmem, hready, -, -⟩ := picks
    have hstore : store = (Webhooks.claim s.store now token picked).1 := by rw [hclaim]
    have hjob : job = (Webhooks.claim s.store now token picked).2 := by rw [hclaim]
    have hfind : store.deliveries.find? id =
        some (if row.id = picked.id then row.leased now token else row) := by
      rw [hstore, find?_claim, hrow]
      rfl
    by_cases heq : row.id = picked.id
    · have hpicked : picked = row :=
        s.store.deliveries.eq_of_key_eq hmem (Table.mem_of_find? hrow) heq.symm
      refine Or.inr (Or.inl ⟨w, now, job, rfl, hpicked ▸ hready, ?_⟩)
      rw [if_pos heq] at hfind
      rw [hjob]
      exact hfind
    · rw [if_neg heq] at hfind
      exact Or.inl hfind
  | respond w job attemptedAt durationMs result hw => exact Or.inl hrow
  | complete w now job attemptedAt durationMs status error store next hw hcomplete hnext =>
    have hfind := find?_complete hcomplete id
    rw [hrow, Option.map_some] at hfind
    by_cases hholds : job.holds row = true
    · rw [if_pos hholds] at hfind
      exact Or.inr (Or.inr ⟨w, now, job, status, rfl, by simp [job?, hw], hholds, hfind⟩)
    · rw [if_neg hholds] at hfind
      exact Or.inl hfind
  | crash w => exact Or.inl hrow

/-- The worker holds the current lease of the delivery: its claim is the last one. -/
structure Holder (s : System) (w : ℕ) (job : DeliveryClaim) (row : WebhookDelivery) : Prop where
  working : s.job? w = some job
  delivery : row.id = job.deliveryId
  lease : row.leaseToken = some job.leaseToken
  last : job.attemptNumber = row.attemptCount

lemma Sound.isHolder (hs : Sound s) {w : ℕ} {job : DeliveryClaim} {row : WebhookDelivery}
    (hjob : s.job? w = some job) (hrow : row ∈ s.store.deliveries.rows)
    (hholds : job.holds row = true) : Holder s w job row := by
  have hlast := hs.holder (hs.jobs w job hjob) hrow hholds
  simp only [DeliveryClaim.holds, Bool.and_eq_true, decide_eq_true_eq] at hholds
  exact ⟨hjob, hholds.1.1, hholds.1.2, hlast⟩

/-- What a step may do to the deliveries and to the history of the attempts. -/
structure Protocol (s : System) (e : Event) (s' : System) : Prop where
  created : ∀ id row, s.store.deliveries.find? id = none →
    s'.store.deliveries.find? id = some row → row.state = .pending
  absorbing : ∀ id row, s.store.deliveries.find? id = some row → row.state ≠ .pending →
    s'.store.deliveries.find? id = some row
  delivered : ∀ id row row', s.store.deliveries.find? id = some row → row.state = .pending →
    s'.store.deliveries.find? id = some row' → row'.state = .delivered →
      ∃ w job status, e = .complete w job status ∧ Holder s w job row ∧ isSuccess status = true
  failed : ∀ id row row', s.store.deliveries.find? id = some row → row.state = .pending →
    s'.store.deliveries.find? id = some row' → row'.state = .failed →
      ∃ w job status, e = .complete w job status ∧ Holder s w job row ∧
        isSuccess status = false ∧ maxAttempts ≤ job.attemptNumber
  takenOver : ∀ w job status, e = .complete w job status → s.TakenOver job →
    s'.store.deliveries = s.store.deliveries ∧ s'.store.endpoints = s.store.endpoints ∧
      s'.claims = s.claims ∧ (∀ w', w' ≠ w → s'.workers w' = s.workers w') ∧
      ∀ k, k ≠ (job.deliveryId, job.attemptNumber) →
        s'.store.attempts.find? k = s.store.attempts.find? k
  once : ∀ a ∈ s'.store.attempts.rows, ∀ a' ∈ s'.store.attempts.rows,
    a.deliveryId = a'.deliveryId → a.attemptNumber = a'.attemptNumber → a = a'
  history : ∀ a ∈ s.store.attempts.rows, a ∈ s'.store.attempts.rows

lemma find?_recordAttempt {attempts : Table WebhookAttempt.key} {job : DeliveryClaim}
    {attemptedAt : Time} {durationMs : ℕ} {status : Option ℕ} {error : Option String}
    {k : DeliveryId × ℕ} (h : k ≠ (job.deliveryId, job.attemptNumber)) :
    (recordAttempt attempts job attemptedAt durationMs status error).find? k =
      attempts.find? k := by
  by_cases hmem : (job.deliveryId, job.attemptNumber) ∈ attempts.rows.map WebhookAttempt.key
  · rw [recordAttempt, Table.insertNew_of_mem hmem]
  · rw [recordAttempt, Table.find?_insertNew_of_notMem hmem]
    exact if_neg h

/-- An attempt that is recorded stays as it is. -/
lemma mem_recordAttempt {attempts : Table WebhookAttempt.key} {job : DeliveryClaim}
    {attemptedAt : Time} {durationMs : ℕ} {status : Option ℕ} {error : Option String}
    {a : WebhookAttempt} (h : a ∈ attempts.rows) :
    a ∈ (recordAttempt attempts job attemptedAt durationMs status error).rows := by
  by_cases hmem : (job.deliveryId, job.attemptNumber) ∈ attempts.rows.map WebhookAttempt.key
  · rw [recordAttempt, Table.insertNew_of_mem hmem]
    exact h
  · rw [recordAttempt, Table.rows_insertNew_of_notMem hmem]
    exact List.mem_append_left _ h

lemma complete_attempts {store store' : Store} {now : Time} {job : DeliveryClaim}
    {attemptedAt : Time} {durationMs : ℕ} {status : Option ℕ} {error : Option String}
    (h : Webhooks.complete store now job attemptedAt durationMs status error = some store') :
    ∃ clipped, store'.attempts =
        recordAttempt store.attempts job attemptedAt durationMs status clipped ∧
      store'.endpoints = store.endpoints ∧
      store'.deliveries = store.deliveries.updateWhere job.holds
        (·.completed now (isSuccess status) (job.terminal status)) := by
  unfold Webhooks.complete at h
  split at h
  · cases h
  · cases h
    exact ⟨_, rfl, rfl, rfl⟩

lemma step_history {e : Event} (h : Step s e s') {a : WebhookAttempt}
    (ha : a ∈ s.store.attempts.rows) : a ∈ s'.store.attempts.rows := by
  cases h with
  | complete w now job attemptedAt durationMs status error store next hw hcomplete hnext =>
    obtain ⟨clipped, hattempts, -, -⟩ := complete_attempts hcomplete
    show a ∈ store.attempts.rows
    rw [hattempts]
    exact mem_recordAttempt ha
  | claim w now skip token picked store job hw picks fits new hclaim =>
    have hstore : store = (Webhooks.claim s.store now token picked).1 := by rw [hclaim]
    rw [hstore]
    exact ha
  | _ => exact ha

/-- A claim that was taken over records its attempt, and nothing else. -/
lemma Sound.step_takenOver (hs : Sound s) {w : ℕ} {job : DeliveryClaim} {status : Option ℕ}
    (h : Step s (.complete w job status) s') (hover : s.TakenOver job) :
    s'.store.deliveries = s.store.deliveries ∧ s'.store.endpoints = s.store.endpoints ∧
      s'.claims = s.claims ∧ (∀ w', w' ≠ w → s'.workers w' = s.workers w') ∧
      ∀ k, k ≠ (job.deliveryId, job.attemptNumber) →
        s'.store.attempts.find? k = s.store.attempts.find? k := by
  cases h with
  | complete _ now _ attemptedAt durationMs _ error store next hw hcomplete hnext =>
    obtain ⟨clipped, hattempts, hendpoints, hdeliveries⟩ := complete_attempts hcomplete
    have hjob : job ∈ s.claims := hs.jobs w job (by simp [job?, hw])
    refine ⟨?_, hendpoints, rfl, ?_, ?_⟩
    · show store.deliveries = s.store.deliveries
      rw [hdeliveries]
      exact Table.updateWhere_eq_self _ fun row hrow => hs.not_holds hjob hover hrow
    · intro w' hw'
      exact Function.update_of_ne hw' _ _
    · intro k hk
      show store.attempts.find? k = s.store.attempts.find? k
      rw [hattempts]
      exact find?_recordAttempt hk

/-- A delivery that was not there before is as it is inserted. -/
lemma step_created {e : Event} (h : Step s e s') {id : DeliveryId} {row : WebhookDelivery}
    (hnone : s.store.deliveries.find? id = none)
    (hrow : s'.store.deliveries.find? id = some row) :
    ∃ id' eventId endpointId now, row = .new id' eventId endpointId now := by
  have hsame : s'.store.deliveries.find? id = s.store.deliveries.find? id →
      ∃ id' eventId endpointId now, row = .new id' eventId endpointId now := by
    intro heq
    rw [heq, hnone] at hrow
    cases hrow
  cases h with
  | enqueue id' eventId endpointId now deliveries hinsert once =>
    have hfind : deliveries.find? id = some row := hrow
    rw [Table.find?_of_insert? hinsert, hnone] at hfind
    split at hfind
    · exact ⟨_, _, _, _, (Option.some.inj hfind).symm⟩
    · cases hfind
  | claim w now skip token picked store job hw picks fits new hclaim =>
    have hstore : store = (Webhooks.claim s.store now token picked).1 := by rw [hclaim]
    refine hsame ?_
    show store.deliveries.find? id = _
    rw [hstore, find?_claim, hnone]
    rfl
  | complete w now job attemptedAt durationMs status error store next hw hcomplete hnext =>
    refine hsame ?_
    show store.deliveries.find? id = _
    rw [find?_complete hcomplete, hnone]
    rfl
  | _ => exact hsame rfl

/-- The state an attempt leaves behind. -/
lemma completed_state {row : WebhookDelivery} {now : Time} {job : DeliveryClaim}
    {status : Option ℕ} :
    ((row.completed now (isSuccess status) (job.terminal status)).state = .delivered →
      isSuccess status = true) ∧
    ((row.completed now (isSuccess status) (job.terminal status)).state = .failed →
      isSuccess status = false ∧ maxAttempts ≤ job.attemptNumber) := by
  simp only [WebhookDelivery.completed]
  by_cases hsuccess : isSuccess status = true
  · simp [hsuccess]
  · by_cases hlast : maxAttempts ≤ job.attemptNumber
    · simp [hsuccess, DeliveryClaim.terminal, hlast]
    · simp [hsuccess, DeliveryClaim.terminal, hlast]

/-- Every step keeps to the protocol. -/
lemma Sound.protocol (hs : Sound s) {e : Event} (h : Step s e s') : Protocol s e s' where
  created := by
    intro id row hnone hrow
    obtain ⟨_, _, _, _, rfl⟩ := step_created h hnone hrow
    rfl
  absorbing := by
    intro id row hrow hstate
    rcases step_row h hrow with hsame | ⟨_, _, _, -, hready, -⟩ | ⟨_, _, _, _, -, -, hholds, -⟩
    · exact hsame
    · exact absurd (ready_eq_true hready).1 hstate
    · simp only [DeliveryClaim.holds, Bool.and_eq_true, decide_eq_true_eq] at hholds
      exact absurd hholds.2 hstate
  delivered := by
    intro id row row' hrow hpending hrow' hstate
    rcases step_row h hrow with hsame | ⟨_, _, _, -, -, hleased⟩ |
      ⟨w, now, job, status, he, hjob, hholds, hcompleted⟩
    · cases hrow'.symm.trans hsame
      exact absurd (hpending.symm.trans hstate) (by decide)
    · cases hrow'.symm.trans hleased
      exact absurd (hpending.symm.trans hstate) (by decide)
    · cases hrow'.symm.trans hcompleted
      exact ⟨w, job, status, he, hs.isHolder hjob (Table.mem_of_find? hrow) hholds,
        completed_state.1 hstate⟩
  failed := by
    intro id row row' hrow hpending hrow' hstate
    rcases step_row h hrow with hsame | ⟨_, _, _, -, -, hleased⟩ |
      ⟨w, now, job, status, he, hjob, hholds, hcompleted⟩
    · cases hrow'.symm.trans hsame
      exact absurd (hpending.symm.trans hstate) (by decide)
    · cases hrow'.symm.trans hleased
      exact absurd (hpending.symm.trans hstate) (by decide)
    · cases hrow'.symm.trans hcompleted
      exact ⟨w, job, status, he, hs.isHolder hjob (Table.mem_of_find? hrow) hholds,
        completed_state.2 hstate⟩
  takenOver := by
    rintro w job status rfl hover
    exact hs.step_takenOver h hover
  once := by
    intro a ha a' ha' hdelivery hnumber
    exact s'.store.attempts.eq_of_key_eq ha ha' (Prod.ext hdelivery hnumber)
  history := fun _ ha => step_history h ha

/-! ### How often a delivery is claimed -/

/-- At a claim, no delivery is due to an active endpoint whose last attempt has outlived its
lease. -/
def LastLeasesKept (s : System) : Event → Prop
  | .claim _ now _ => ∀ row ∈ s.store.deliveries.rows, row.state = .pending → row.nextAttemptAt ≤ now →
      (s.store.endpoints.find? row.endpointId).any (fun endpoint => endpoint.disabledAt.isNone) = true →
      maxAttempts ≤ row.attemptCount → ∀ until', row.leaseUntil = some until' → now ≤ until'
  | _ => True

lemma lastLeasesKept_of_fewer (past : List (System × Event))
    (h : ∀ x ∈ past, ∀ row ∈ x.1.store.deliveries.rows, row.attemptCount < maxAttempts) :
    ∀ x ∈ past, LastLeasesKept x.1 x.2 := by
  rintro ⟨s, e⟩ hx
  cases e with
  | claim w now job => exact fun row hrow _ _ _ hlast => absurd hlast (not_le.2 (h _ hx row hrow))
  | _ => exact trivial

/-- A pending delivery after its last attempt is leased. -/
lemma Sound.lease_of_last (hs : Sound s) {id : DeliveryId} {row : WebhookDelivery}
    (hrow : s.store.deliveries.find? id = some row) (hpending : row.state = .pending)
    (hlast : maxAttempts ≤ row.attemptCount) : ∃ until', row.leaseUntil = some until' := by
  rcases htoken : row.leaseToken with _ | token
  · have hlt := hs.waiting id row hrow hpending htoken
    omega
  · exact Option.isSome_iff_exists.1 (hs.leased id row hrow (by rw [htoken]; rfl))

/-- When the last leases are kept, the counters stay within the limit. -/
lemma Sound.bounded_step (hs : Sound s) {e : Event} (h : Step s e s') (hkept : LastLeasesKept s e)
    (hbound : ∀ id row, s.store.deliveries.find? id = some row → row.attemptCount ≤ maxAttempts)
    {id : DeliveryId} {row' : WebhookDelivery} (hrow' : s'.store.deliveries.find? id = some row') :
    row'.attemptCount ≤ maxAttempts := by
  rcases hrow : s.store.deliveries.find? id with _ | row
  · obtain ⟨_, _, _, _, rfl⟩ := step_created h hrow hrow'
    exact Nat.zero_le _
  · rcases step_row h hrow with hsame | ⟨w, now, job, rfl, hready, hleased⟩ |
      ⟨_, _, _, _, -, -, -, hcompleted⟩
    · cases hrow'.symm.trans hsame
      exact hbound id _ hrow
    · cases hrow'.symm.trans hleased
      show row.attemptCount + 1 ≤ maxAttempts
      by_contra hlast
      obtain ⟨hpending, hdue, hlease, hactive⟩ := ready_eq_true hready
      obtain ⟨until', huntil⟩ := hs.lease_of_last hrow hpending (by omega)
      have hle : now ≤ until' :=
        hkept row (Table.mem_of_find? hrow) hpending hdue hactive (by omega) until' huntil
      exact absurd hle (not_le.2 (hlease until' huntil))
    · cases hrow'.symm.trans hcompleted
      exact hbound id row hrow

end

end System

def Event.claim? : Event → Option DeliveryClaim
  | .claim _ _ job => some job
  | _ => none

/-- How often the delivery was claimed in a run. -/
def claimsOf (past : List (System × Event)) (id : DeliveryId) : ℕ :=
  ((past.filterMap (·.2.claim?)).filter (fun job => job.deliveryId = id)).length

namespace System

/-- The claims of the system are those of the run. -/
lemma Run.claims_eq {past : List (System × Event)} {s : System} (h : Run past s) :
    past.filterMap (·.2.claim?) = s.claims := by
  induction h with
  | start => rfl
  | step _ hstep ih =>
    rw [List.filterMap_append, ih]
    cases hstep with
    | claim w now skip token row store job hw picks fits new hclaim => rfl
    | _ => exact List.append_nil _

/-- In a run that keeps the last leases no counter passes the limit. -/
lemma Run.bounded {past : List (System × Event)} {s : System} (h : Run past s)
    (hkept : ∀ x ∈ past, LastLeasesKept x.1 x.2) (id : DeliveryId) (row : WebhookDelivery)
    (hrow : s.store.deliveries.find? id = some row) : row.attemptCount ≤ maxAttempts := by
  induction h generalizing id row with
  | start => cases hrow
  | step hrun hstep ih =>
    refine (sound_of_run hrun).bounded_step hstep ?_ ?_ hrow
    · exact hkept _ (List.mem_append_right _ (List.mem_singleton_self _))
    · exact fun id row hrow => ih (fun x hx => hkept x (List.mem_append_left _ hx)) id row hrow

end System

/-- After every run each further step keeps to the protocol; and in a run in which no worker lets
the lease of a delivery's last attempt run out, no delivery is claimed more often than
`maxAttempts`. -/
theorem webhook_deliveries_keep_to_protocol {past : List (System × Event)} {s : System}
    (h : System.Run past s) :
    (∀ e s', System.Step s e s' → System.Protocol s e s') ∧
    ((∀ x ∈ past, System.LastLeasesKept x.1 x.2) → ∀ id, claimsOf past id ≤ maxAttempts) := by
  have hs := System.sound_of_run h
  refine ⟨fun e s' hstep => hs.protocol hstep, fun hkept id => ?_⟩
  have hclaims : claimsOf past id = s.timesClaimed id := by
    rw [claimsOf, h.claims_eq]
    rfl
  rw [hclaims]
  rcases hrow : s.store.deliveries.find? id with _ | row
  · -- a delivery that is not there was never claimed
    have hnone : s.timesClaimed id = 0 := by
      refine List.length_eq_zero_iff.2 (List.filter_eq_nil_iff.2 fun job hjob => ?_)
      obtain ⟨row, hfound, -⟩ := hs.known job hjob
      simp only [decide_eq_true_eq]
      rintro rfl
      rw [hrow] at hfound
      cases hfound
    rw [hnone]
    exact Nat.zero_le _
  · rw [hs.counted id row hrow]
    exact h.bounded hkept id row hrow

/-! ### A worker that keeps crashing -/

/-- A delivery that was claimed `n` times, two lease times apart, and never completed. -/
def crashedRow (n : ℕ) : WebhookDelivery where
  id := 0
  eventId := 0
  endpointId := 0
  attemptCount := n
  nextAttemptAt := 0
  leaseUntil := match n with
    | 0 => none
    | n + 1 => some (2 * n * leaseTime + leaseTime)
  leaseToken := match n with
    | 0 => none
    | n + 1 => some n
  state := .pending
  deliveredAt := none

/-- The worker of the delivery crashed after each of `n` claims. -/
def crashed (n : ℕ) : System where
  store :=
    { endpoints := ⟨[⟨0, 1, none⟩], by simp⟩
      deliveries := ⟨[crashedRow n], by simp⟩
      attempts := Table.empty }
  workers := fun _ => .idle
  claims := (List.range n).map (fun i => ⟨0, i + 1, i⟩)

lemma lease_over (n t : ℕ) (h : 0 < t) : 2 * n * t + t < 2 * (n + 1) * t := by
  have hsplit : 2 * (n + 1) * t = 2 * n * t + 2 * t := by
    rw [Nat.mul_add, Nat.add_mul]
  omega

/-- Two lease times after a claim its lease has run out. -/
lemma crashedRow_lease (n : ℕ) : (crashedRow n).leaseUntil.all
    (fun until' => decide (until' < 2 * n * leaseTime)) = true := by
  cases n with
  | zero => rfl
  | succ n =>
    have hpos : 0 < leaseTime := Nat.mul_pos (by decide) (Nat.pow_pos (by decide))
    have huntil : (crashedRow (n + 1)).leaseUntil = some (2 * n * leaseTime + leaseTime) := rfl
    rw [huntil, Option.all_some]
    exact decide_eq_true (lease_over n leaseTime hpos)

lemma crashed_picks (n : ℕ) :
    Picks (crashed n).store (2 * n * leaseTime) (fun _ => false) (crashedRow n) := by
  have hpending : (crashedRow n).state = .pending := rfl
  have hnext : (crashedRow n).nextAttemptAt = 0 := rfl
  have hactive : ((crashed n).store.endpoints.find? (crashedRow n).endpointId).any
      (fun endpoint => endpoint.disabledAt.isNone) = true := rfl
  refine ⟨List.mem_singleton_self _, ?_, rfl, ?_⟩
  · rw [ready, hpending, hnext, crashedRow_lease, hactive, decide_eq_true (Nat.zero_le _)]
    rfl
  · intro other hother _ _
    rw [List.mem_singleton.1 hother]

/-- The claim after which the worker crashes once more. -/
lemma crashed_step (n : ℕ) (hn : n < maxInteger) {past : List (System × Event)}
    (hrun : System.Run past (crashed n)) : ∃ past', System.Run past' (crashed (n + 1)) := by
  have hnew : n ∉ (crashed n).claims.map (·.leaseToken) := by
    simp [crashed]
  have hclaim := System.Step.claim 0 (2 * n * leaseTime) (fun _ => false) n (crashedRow n) _ _
    (show (crashed n).workers 0 = .idle from rfl) (crashed_picks n) hn hnew rfl
  have hend := (hrun.step hclaim).step (System.Step.crash 0)
  have hclaims : (crashed (n + 1)).claims = (crashed n).claims ++ [⟨0, n + 1, n⟩] := by
    simp [crashed, List.range_succ]
  have hstate : crashed (n + 1) = System.setWorker
      { store := (claim (crashed n).store (2 * n * leaseTime) n (crashedRow n)).1
        workers := Function.update (crashed n).workers 0 (.delivering ⟨0, n + 1, n⟩)
        claims := (crashed n).claims ++ [⟨0, n + 1, n⟩] } 0 .idle := by
    have hworkers : Function.update (crashed n).workers 0 .idle = (crashed (n + 1)).workers :=
      Function.update_eq_self 0 (crashed n).workers
    rw [← hclaims, System.setWorker, Function.update_idem, hworkers]
    rfl
  exact ⟨_, hstate ▸ hend⟩

lemma exists_crashed (n : ℕ) (hn : n ≤ maxInteger) : ∃ past, System.Run past (crashed n) := by
  induction n with
  | zero =>
    refine ⟨_, (System.Run.start.step (.addEndpoint ⟨0, 1, none⟩ _ rfl)).step
      (.enqueue 0 0 0 0 _ rfl ?_)⟩
    intro row hrow
    cases hrow
  | succ n ih =>
    obtain ⟨past, hrun⟩ := ih (by omega)
    exact crashed_step n hn hrun

lemma claimsOf_crashed {n : ℕ} {past : List (System × Event)} (h : System.Run past (crashed n)) :
    claimsOf past 0 = n := by
  rw [claimsOf, h.claims_eq]
  simp [crashed, List.filter_map, Function.comp_def]

/-- The store of one delivery to an active endpoint. -/
def oneDelivery (row : WebhookDelivery) (attempts : List WebhookAttempt)
    (nodup : (attempts.map WebhookAttempt.key).Nodup) : Store :=
  ⟨⟨[⟨0, 1, none⟩], by simp⟩, ⟨[row], by simp⟩, ⟨attempts, nodup⟩⟩

/-- A delivery whose first attempt fails; the second worker is slower than its lease, another one
takes the delivery over and delivers it. -/
theorem webhook_deliveries_keep_to_protocol_takenOver : ∃ past s, System.Run past s ∧
    claimsOf past 0 = 3 ∧ (∀ row ∈ s.store.deliveries.rows, row.state = .delivered) ∧
    s.TakenOver ⟨0, 2, 1⟩ ∧ s.store.attempts.rows.map (·.attemptNumber) = [1, 2, 3] ∧
    (∀ e s', System.Step s e s' → System.Protocol s e s') ∧ ∀ id, claimsOf past id ≤ maxAttempts := by
  have h₂ : System.Run _ ⟨oneDelivery (.new 0 0 0 0) [] List.nodup_nil, fun _ => .idle, []⟩ :=
    (System.Run.start.step (.addEndpoint ⟨0, 1, none⟩ _ rfl)).step (.enqueue 0 0 0 0 _ rfl (by decide))
  -- the endpoint answers with an error
  have h₃ : System.Run _ ⟨oneDelivery ⟨0, 0, 0, 1, 0, some 60000000, some 0, .pending, none⟩ []
      List.nodup_nil, _, [⟨0, 1, 0⟩]⟩ :=
    h₂.step (.claim 0 0 (fun _ => false) 0 (.new 0 0 0 0) _ _ rfl
      ⟨List.mem_cons_self .., by decide, rfl, by decide⟩ (by decide) (by decide) rfl)
  have h₄ := h₃.step (.respond 0 ⟨0, 1, 0⟩ 0 5 (.ok 500) rfl)
  have h₅ : System.Run _ ⟨oneDelivery ⟨0, 0, 0, 1, 2000001, none, none, .pending, none⟩
      [⟨0, 1, 0, 5, some 500, some "endpoint returned HTTP 500"⟩] (List.nodup_singleton _), _, [⟨0, 1, 0⟩]⟩ :=
    h₄.step (.complete 0 1 ⟨0, 1, 0⟩ 0 5 _ _ _ .idle rfl rfl (Or.inl rfl))
  -- the lease of the second attempt runs out, and its result comes too late
  have h₆ : System.Run _ ⟨oneDelivery ⟨0, 0, 0, 2, 2000001, some 62000001, some 1, .pending, none⟩
      [⟨0, 1, 0, 5, some 500, some "endpoint returned HTTP 500"⟩] (List.nodup_singleton _), _,
      [⟨0, 1, 0⟩, ⟨0, 2, 1⟩]⟩ :=
    h₅.step (.claim 0 2000001 (fun _ => false) 1 ⟨0, 0, 0, 1, 2000001, none, none, .pending, none⟩
      _ _ rfl ⟨List.mem_cons_self .., by decide, rfl, by decide⟩ (by decide) (by decide) rfl)
  have h₇ : System.Run _ ⟨oneDelivery ⟨0, 0, 0, 3, 2000001, some 122000002, some 2, .pending, none⟩
      [⟨0, 1, 0, 5, some 500, some "endpoint returned HTTP 500"⟩] (List.nodup_singleton _), _,
      [⟨0, 1, 0⟩, ⟨0, 2, 1⟩, ⟨0, 3, 2⟩]⟩ :=
    h₆.step (.claim 1 62000002 (fun _ => false) 2
      ⟨0, 0, 0, 2, 2000001, some 62000001, some 1, .pending, none⟩ _ _ rfl
      ⟨List.mem_cons_self .., by decide, rfl, by decide⟩ (by decide) (by decide) rfl)
  have h₈ := h₇.step (.respond 0 ⟨0, 2, 1⟩ 2000002 5 (.ok 200) rfl)
  have h₉ : System.Run _ ⟨oneDelivery ⟨0, 0, 0, 3, 2000001, some 122000002, some 2, .pending, none⟩
      [⟨0, 1, 0, 5, some 500, some "endpoint returned HTTP 500"⟩, ⟨0, 2, 2000002, 5, some 200, none⟩]
      (by decide), _, [⟨0, 1, 0⟩, ⟨0, 2, 1⟩, ⟨0, 3, 2⟩]⟩ :=
    h₈.step (.complete 0 62000003 ⟨0, 2, 1⟩ 2000002 5 _ _ _ .idle rfl rfl (Or.inl rfl))
  have h₁₀ := h₉.step (.respond 1 ⟨0, 3, 2⟩ 62000004 5 (.ok 200) rfl)
  have h₁₁ : System.Run _ ⟨oneDelivery ⟨0, 0, 0, 3, 2000001, none, none, .delivered, some 62000005⟩
      [⟨0, 1, 0, 5, some 500, some "endpoint returned HTTP 500"⟩, ⟨0, 2, 2000002, 5, some 200, none⟩,
        ⟨0, 3, 62000004, 5, some 200, none⟩] (by decide), _, [⟨0, 1, 0⟩, ⟨0, 2, 1⟩, ⟨0, 3, 2⟩]⟩ :=
    h₁₀.step (.complete 1 62000005 ⟨0, 3, 2⟩ 62000004 5 _ _ _ .idle rfl rfl (Or.inl rfl))
  exact ⟨_, _, h₁₁, rfl, by decide, ⟨⟨0, 3, 2⟩, by decide, rfl, by decide⟩, rfl,
    (webhook_deliveries_keep_to_protocol h₁₁).1, (webhook_deliveries_keep_to_protocol h₁₁).2
      (System.lastLeasesKept_of_fewer _ (by decide))⟩

/-- A worker that crashes after each of its claims claims the delivery a thirteenth time. -/
theorem webhook_delivery_is_claimed_again :
    ¬ ∀ past s, System.Run past s → ∀ id, claimsOf past id ≤ maxAttempts := by
  intro h
  obtain ⟨past, hrun⟩ := exists_crashed 13 (by decide)
  have hle := h past _ hrun 0
  rw [claimsOf_crashed hrun] at hle
  exact absurd hle (by decide)

end Payday.Webhooks
