/-
# A refresh keeps the watched addresses subscribed

The invariant of a running session: its chunks are the chunks of its list, each chunk's task has
the chunk's id and generation and its stream was not ended by an unsubscription, and the
generations of the tasks differ.  The ids depend on the addresses, so an id that a refresh
unsubscribes is not the id of a chunk it keeps or adds; the generations do not repeat, so an
`Ended` is taken for a chunk's only if its task sent it.
-/
import Mathlib.Logic.Equiv.List
import Mathlib.Tactic.Common
import Payday.Indexer.Signal
import Payday.Lib.Chunks

namespace Payday

/-! ### Tasks -/

namespace Session

/-- The generations of the tasks differ, and the next one is new. -/
structure Fresh (s : Session) : Prop where
  distinct : (s.tasks.map (·.generation)).Nodup
  older : ∀ t ∈ s.tasks, t.generation < s.nextGeneration

/-- Two tasks of one generation are one task. -/
lemma Fresh.task_eq {s : Session} (h : s.Fresh) {i j : ℕ} {t u : ForwardTask}
    (hi : s.tasks[i]? = some t) (hj : s.tasks[j]? = some u) (hg : t.generation = u.generation) :
    i = j := by
  have hlen : i < (s.tasks.map (·.generation)).length := by
    rw [List.length_map]
    exact (List.getElem?_eq_some_iff.1 hi).1
  refine (List.getElem?_inj hlen h.distinct).1 ?_
  rw [List.getElem?_map, List.getElem?_map, hi, hj]
  simpa using hg

/-- Nothing but new tasks and generations, and perhaps the kind. -/
structure Extends (s s' : Session) : Prop where
  tasks : ∀ (i : ℕ) (t : ForwardTask), s.tasks[i]? = some t → s'.tasks[i]? = some t
  added : ∀ (i : ℕ) (t : ForwardTask), s'.tasks[i]? = some t → s.tasks[i]? = some t ∨ t.stream = .live
  list : s'.list = s.list
  queue : s'.queue = s.queue
  unsubscribed : s'.unsubscribed = s.unsubscribed

lemma Extends.refl (s : Session) : Extends s s :=
  ⟨fun _ _ h => h, fun _ _ h => Or.inl h, rfl, rfl, rfl⟩

lemma Extends.trans {s s' s'' : Session} (h : Extends s s') (h' : Extends s' s'') :
    Extends s s'' where
  tasks := fun i t ht => h'.tasks i t (h.tasks i t ht)
  added := fun i t ht => (h'.added i t ht).elim (h.added i t) Or.inr
  list := h'.list.trans h.list
  queue := h'.queue.trans h.queue
  unsubscribed := h'.unsubscribed.trans h.unsubscribed

end Session

namespace TransferSignal

variable {S : TransferSignal}

/-- The session holds the chunk: its id is that of its addresses, its task has its identity, and
no unsubscription ended its stream. -/
def Holds (S : TransferSignal) (s : Session) (c : ActiveChunk) : Prop :=
  c.id = S.subscriptionId s.kind c.addresses ∧
    ∃ t, s.tasks[c.task]? = some t ∧ t.id = c.id ∧ t.generation = c.generation ∧
      t.stream ≠ .unsubscribed

lemma Holds.extends {s s' : Session} {c : ActiveChunk} (h : S.Holds s c) (he : s.Extends s')
    (hk : s'.kind = s.kind) : S.Holds s' c := by
  obtain ⟨hid, t, ht, hrest⟩ := h
  exact ⟨by rw [hid, hk], t, he.tasks _ t ht, hrest⟩

/-! ### Subscribing -/

/-- What a subscription that succeeded did. -/
structure Subscribes (S : TransferSignal) (s s' : Session) (chunk : List Address) (c : ActiveChunk) :
    Prop where
  extended : s.Extends s'
  fresh : s.Fresh → s'.Fresh
  holds : S.Holds s' c
  addresses : c.addresses = chunk

lemma subscribeChunk_ok {answer : ℕ → Except String Unit} {chunk : List Address} {s s' : Session}
    {c : ActiveChunk} (h : S.subscribeChunk answer chunk s = (s', .ok c)) :
    S.Subscribes s s' chunk c ∧ s'.kind = s.kind := by
  unfold subscribeChunk at h
  split at h
  · cases h
  · obtain ⟨rfl, hc⟩ := Prod.mk.inj h
    obtain rfl := Except.ok.inj hc
    refine ⟨⟨⟨?_, ?_, rfl, rfl, rfl⟩, ?_, ?_, rfl⟩, rfl⟩
    · intro i t ht
      rw [List.getElem?_append_left (List.getElem?_eq_some_iff.1 ht).1]
      exact ht
    · intro i t ht
      rcases lt_or_ge i s.tasks.length with hlt | hge
      · rw [List.getElem?_append_left hlt] at ht
        exact Or.inl ht
      · rw [List.getElem?_append_right hge] at ht
        rw [List.mem_singleton.1 (List.mem_of_getElem? ht)]
        exact Or.inr rfl
    · intro hf
      refine ⟨?_, ?_⟩
      · -- the new generation is above all others
        rw [List.map_append]
        refine List.nodup_append.2 ⟨hf.distinct, by simp, ?_⟩
        intro g hg g' hg' heq
        obtain ⟨t, ht, rfl⟩ := List.mem_map.1 hg
        have hlt := hf.older t ht
        have hnew : g' = s.nextGeneration := by simpa using hg'
        omega
      · intro t ht
        rcases List.mem_append.1 ht with ht | ht
        · have hlt := hf.older t ht
          show t.generation < s.nextGeneration + 1
          omega
        · rw [List.mem_singleton.1 ht]
          exact Nat.lt_succ_self _
    · refine ⟨rfl, _, List.getElem?_concat_length, rfl, rfl, ?_⟩
      intro hstream
      cases hstream

/-- The kind changes only on the first subscription of a session. -/
lemma subscribeChunkDiscovering_ok {answer : ℕ → Except String Unit} {chunk : List Address}
    {first : Bool} {s s' : Session} {c : ActiveChunk}
    (h : S.subscribeChunkDiscovering answer chunk first s = (s', .ok c)) :
    S.Subscribes s s' chunk c ∧ (first = false → s'.kind = s.kind) := by
  unfold subscribeChunkDiscovering at h
  split at h
  · rename_i s₁ subscribed hsubscribed
    obtain ⟨rfl, hc⟩ := Prod.mk.inj h
    obtain rfl := Except.ok.inj hc
    obtain ⟨hs, hkind⟩ := subscribeChunk_ok hsubscribed
    exact ⟨hs, fun _ => hkind⟩
  · rename_i s₁ error hrejected
    split at h
    · -- the rejected attempt used up a generation
      rename_i hunsupported
      obtain rfl : s₁ = { s with nextGeneration := s.nextGeneration + 1 } := by
        unfold subscribeChunk at hrejected
        split at hrejected
        · exact (Prod.mk.inj hrejected).1.symm
        · cases (Prod.mk.inj hrejected).2
      obtain ⟨hs, -⟩ := subscribeChunk_ok h
      refine ⟨⟨?_, ?_, hs.holds, hs.addresses⟩, ?_⟩
      · exact ⟨hs.extended.tasks, hs.extended.added, hs.extended.list, hs.extended.queue,
          hs.extended.unsubscribed⟩
      · intro hf
        refine hs.fresh ⟨hf.distinct, fun t ht => ?_⟩
        have hlt := hf.older t ht
        show t.generation < s.nextGeneration + 1
        omega
      · intro hfirst
        rw [hfirst] at hunsupported
        cases hunsupported.2.1
    · cases (Prod.mk.inj h).2

/-! ### Replacing -/

/-- What the loop of a refresh did: the chunks of the new list are subscribed in order, the old
chunks among them are kept, and no other old chunk has the addresses of one. -/
structure Replaces (S : TransferSignal) (s s' : Session) (chunks : List (List Address))
    (old old' replacement replacement' : List ActiveChunk) : Prop where
  extended : s.Extends s'
  fresh : s'.Fresh
  holds : ∀ c ∈ old' ++ replacement', S.Holds s' c
  addresses : replacement'.map (·.addresses) = replacement.map (·.addresses) ++ chunks
  left : ∀ c ∈ old', c ∈ old ∧ c.addresses ∉ chunks
  kept : ∀ c ∈ replacement, c ∈ replacement'
  retained : ∀ c ∈ old, c.addresses ∈ chunks → c ∈ replacement'

lemma replaceChunks_ok {answer : ℕ → Except String Unit} {shutdown : ℕ → Bool}
    {chunks : List (List Address)} {discover : Bool} {old old' replacement replacement' : List ActiveChunk}
    {s s' : Session}
    (h : S.replaceChunks answer shutdown chunks discover old replacement s =
      .ok (old', replacement', s'))
    (hf : s.Fresh) (hheld : ∀ c ∈ old ++ replacement, S.Holds s c)
    (hdistinct : (old.map (·.addresses)).Nodup)
    (hdiscover : discover = true → old = [] ∧ replacement = []) :
    S.Replaces s s' chunks old old' replacement replacement' := by
  induction chunks generalizing discover old replacement s with
  | nil =>
    obtain ⟨rfl, hpair⟩ := Prod.mk.inj (Except.ok.inj h)
    obtain ⟨rfl, rfl⟩ := Prod.mk.inj hpair
    refine ⟨.refl s, hf, hheld, (List.append_nil _).symm, ?_, fun c hc => hc, ?_⟩
    · exact fun c hc => ⟨hc, List.not_mem_nil⟩
    · intro c _ hc
      cases hc
  | cons chunk rest ih =>
    unfold replaceChunks at h
    split at h
    · cases h
    · split at h
      · -- the session holds the chunk
        rename_i retained hfind
        have haddresses : retained.addresses = chunk := by
          simpa using List.find?_some hfind
        have hmem : retained ∈ old := List.mem_of_find?_eq_some hfind
        have hsub : (old.eraseP fun active => decide (active.addresses = chunk)).Sublist old :=
          List.eraseP_sublist
        have hgone : ∀ c ∈ old.eraseP fun active => decide (active.addresses = chunk),
            c.addresses ≠ chunk := by
          obtain ⟨found, before, after, hbefore, hfound, hold, herase⟩ :=
            List.exists_of_eraseP (p := fun active : ActiveChunk => decide (active.addresses = chunk)) hmem
              (decide_eq_true haddresses)
          intro c hc heq
          rw [herase] at hc
          rcases List.mem_append.1 hc with hc | hc
          · exact hbefore c hc (by simpa using heq)
          · -- no second chunk has the addresses
            rw [hold, List.map_append, List.map_cons] at hdistinct
            have hnot := (List.nodup_cons.1 (List.nodup_append.1 hdistinct).2.1).1
            have hsame : c.addresses = found.addresses := heq.trans (of_decide_eq_true hfound).symm
            exact hnot (List.mem_map.2 ⟨c, hc, hsame⟩)
        have hrep := ih h hf ?_ (hdistinct.sublist (hsub.map _)) ?_
        · refine ⟨hrep.extended, hrep.fresh, hrep.holds, ?_, ?_, ?_, ?_⟩
          · rw [hrep.addresses]
            simp [haddresses]
          · intro c hc
            obtain ⟨hold, hnot⟩ := hrep.left c hc
            refine ⟨hsub.subset hold, ?_⟩
            rintro hin
            rcases List.mem_cons.1 hin with heq | hin
            · exact hgone c hold heq
            · exact hnot hin
          · exact fun c hc => hrep.kept c (by simp [hc])
          · intro c hc hin
            by_cases heq : c.addresses = chunk
            · -- it is the one that was found
              have hsame : c = retained :=
                List.inj_on_of_nodup_map hdistinct hc hmem (heq.trans haddresses.symm)
              rw [hsame]
              exact hrep.kept retained (by simp)
            · refine hrep.retained c ?_ ((List.mem_cons.1 hin).resolve_left heq)
              exact (List.mem_eraseP_of_neg (by simpa using heq)).2 hc
        · intro c hc
          refine hheld c ?_
          simp only [List.mem_append, List.mem_singleton] at hc ⊢
          rcases hc with hc | hc | rfl
          · exact Or.inl (hsub.subset hc)
          · exact Or.inr hc
          · exact Or.inl hmem
        · intro hd
          rw [(hdiscover hd).1] at hmem
          cases hmem
      · rename_i hfind
        split at h
        · -- the chunk is subscribed
          rename_i s₁ subscribed hsubscribed
          obtain ⟨hs, hkind⟩ := subscribeChunkDiscovering_ok hsubscribed
          have hnew : ∀ c ∈ old, c.addresses ≠ chunk := by
            intro c hc
            simpa using List.find?_eq_none.1 hfind c hc
          have hrep := ih h (hs.fresh hf) ?_ hdistinct ?_
          · refine ⟨hs.extended.trans hrep.extended, hrep.fresh, hrep.holds, ?_, ?_, ?_, ?_⟩
            · rw [hrep.addresses]
              simp [hs.addresses]
            · intro c hc
              obtain ⟨hold, hnot⟩ := hrep.left c hc
              refine ⟨hold, ?_⟩
              rintro hin
              rcases List.mem_cons.1 hin with heq | hin
              · exact hnew c hold heq
              · exact hnot hin
            · exact fun c hc => hrep.kept c (by simp [hc])
            · intro c hc hin
              exact hrep.retained c hc ((List.mem_cons.1 hin).resolve_left (hnew c hc))
          · -- the kind can only change while the session holds nothing
            intro c hc
            rcases hd : discover with _ | _
            · simp only [List.mem_append, List.mem_singleton] at hc
              rcases hc with hc | hc | rfl
              · exact (hheld c (by simp [hc])).extends hs.extended (hkind hd)
              · exact (hheld c (by simp [hc])).extends hs.extended (hkind hd)
              · exact hs.holds
            · obtain ⟨rfl, rfl⟩ := hdiscover hd
              obtain rfl : c = subscribed := by simpa using hc
              exact hs.holds
          · intro hd
            cases hd
        · cases h

/-- The start of a session is a replacement of nothing. -/
lemma subscribeAll_ok {answer : ℕ → Except String Unit} {chunks : List (List Address)}
    {active active' : List ActiveChunk} {s s' : Session}
    (h : S.subscribeAll answer chunks active s = .ok (active', s')) :
    S.replaceChunks answer (fun _ => false) chunks active.isEmpty [] active s =
      .ok ([], active', s') := by
  induction chunks generalizing active s with
  | nil =>
    obtain ⟨rfl, rfl⟩ := Prod.mk.inj (Except.ok.inj h)
    rfl
  | cons chunk rest ih =>
    unfold subscribeAll at h
    unfold replaceChunks
    rw [if_neg Bool.false_ne_true]
    simp only [List.find?_nil]
    split at h
    · rename_i s₁ subscribed hsubscribed
      have hrest := ih h
      have hlater : (active ++ [subscribed]).isEmpty = false := by simp
      rw [hlater] at hrest
      exact hrest
    · cases h

/-! ### Discarding -/

@[simp] lemma unsubscribe_id (ids : List Hash) (t : ForwardTask) : (t.unsubscribe ids).id = t.id := by
  unfold ForwardTask.unsubscribe
  split <;> rfl

@[simp] lemma unsubscribe_generation (ids : List Hash) (t : ForwardTask) :
    (t.unsubscribe ids).generation = t.generation := by
  unfold ForwardTask.unsubscribe
  split <;> rfl

lemma dropped_of_unsubscribe {ids : List Hash} {t : ForwardTask}
    (h : (t.unsubscribe ids).stream = .dropped) : t.stream = .dropped := by
  unfold ForwardTask.unsubscribe at h
  split at h
  · cases h
  · exact h

lemma discard_tasks (s : Session) (old : List ActiveChunk) (i : ℕ) :
    (s.discard old).tasks[i]? = s.tasks[i]?.map fun t =>
      (if i ∈ old.map (·.task) then { t with aborted := true } else t).unsubscribe
        (old.map (·.id)) := by
  simp [Session.discard, List.getElem?_mapIdx, Option.map_map, Function.comp_def]

/-- A task keeps its identity. -/
lemma discard_identity {s : Session} (old : List ActiveChunk) {i : ℕ} {t : ForwardTask}
    (h : s.tasks[i]? = some t) : ∃ t', (s.discard old).tasks[i]? = some t' ∧ t'.id = t.id ∧
      t'.generation = t.generation := by
  rw [discard_tasks, h]
  refine ⟨_, rfl, ?_, ?_⟩
  · rw [unsubscribe_id]
    split <;> rfl
  · rw [unsubscribe_generation]
    split <;> rfl

/-- A task of another id is untouched. -/
lemma discard_other {s : Session} {old : List ActiveChunk} {i : ℕ} {t : ForwardTask}
    (h : s.tasks[i]? = some t) (hi : i ∉ old.map (·.task)) (hid : t.id ∉ old.map (·.id)) :
    (s.discard old).tasks[i]? = some t := by
  rw [discard_tasks, h, Option.map_some, if_neg hi, ForwardTask.unsubscribe,
    if_neg fun hlive => hid hlive.2]

lemma discard_fresh {s : Session} (h : s.Fresh) (old : List ActiveChunk) : (s.discard old).Fresh := by
  have hgenerations : (s.discard old).tasks.map (·.generation) = s.tasks.map (·.generation) := by
    refine List.ext_getElem? fun i => ?_
    rw [List.getElem?_map, List.getElem?_map]
    rcases ht : s.tasks[i]? with _ | t
    · rw [discard_tasks, ht]
      rfl
    · obtain ⟨t', ht', -, hg⟩ := discard_identity old ht
      rw [ht', Option.map_some, Option.map_some, hg]
  refine ⟨hgenerations ▸ h.distinct, fun t ht => ?_⟩
  have hmem : t.generation ∈ s.tasks.map (·.generation) := by
    rw [← hgenerations]
    exact List.mem_map_of_mem ht
  obtain ⟨u, hu, heq⟩ := List.mem_map.1 hmem
  have hlt := h.older u hu
  show t.generation < s.nextGeneration
  omega

/-! ### The invariant -/

/-- What holds in a running session. -/
structure Subscribed (S : TransferSignal) (s : Session) : Prop where
  listed : s.list.Nodup
  chunks : s.chunks.map (·.addresses) = s.list.toChunks subscriptionChunk
  fresh : s.Fresh
  holds : ∀ c ∈ s.chunks, S.Holds s c
  signed : ∀ (k : ℕ) (id : Hash) (generation : ℕ), (k, ChunkMessage.ended id generation) ∈ s.queue →
    ∃ t, s.tasks[k]? = some t ∧ t.id = id ∧ t.generation = generation

/-- What a refresh leaves, where the provider ended the streams of the tasks `ended` on its own. -/
structure Refreshes (ended : ℕ → Prop) (s s' : Session) (next : List Address) : Prop where
  /-- The chunks concatenate to the list. -/
  covered : s'.chunks.flatMap (·.addresses) = next
  /-- Each chunk's stream is live, unless the provider ended it. -/
  live : ∀ c ∈ s'.chunks, ¬ ended c.task → ∃ t, s'.tasks[c.task]? = some t ∧ t.id = c.id ∧
    t.generation = c.generation ∧ t.stream = .live
  /-- No chunk has an id the refresh unsubscribed. -/
  apart : ∃ ids, s'.unsubscribed = s.unsubscribed ++ ids ∧ ∀ c ∈ s'.chunks, c.id ∉ ids
  /-- A chunk of the old and the new list keeps its generation, its task and its stream. -/
  kept : ∀ c ∈ s.chunks, c.addresses ∈ next.toChunks subscriptionChunk →
    c ∈ s'.chunks ∧ s'.tasks[c.task]? = s.tasks[c.task]?

/-- The streams the provider ended on its own are among those of the tasks `ended`. -/
def EndedBy (ended : ℕ → Prop) (s : Session) : Prop :=
  ∀ (k : ℕ) (t : ForwardTask), s.tasks[k]? = some t → t.stream = .dropped → ended k

lemma Holds.live {s : Session} {c : ActiveChunk} (h : S.Holds s c) {ended : ℕ → Prop}
    (he : EndedBy ended s) (hnot : ¬ ended c.task) :
    ∃ t, s.tasks[c.task]? = some t ∧ t.id = c.id ∧ t.generation = c.generation ∧
      t.stream = .live := by
  obtain ⟨-, t, ht, hid, hg, hstream⟩ := h
  refine ⟨t, ht, hid, hg, ?_⟩
  cases hs : t.stream with
  | live => rfl
  | dropped => exact absurd (he c.task t ht hs) hnot
  | unsubscribed => exact absurd hs hstream

lemma Subscribed.covered {s : Session} (h : S.Subscribed s) : s.chunks.flatMap (·.addresses) = s.list := by
  rw [List.flatMap_def, h.chunks, flatten_toChunks]

/-- Discarding old chunks leaves a chunk of other addresses alone. -/
lemma Holds.discard (hinj : ∀ kind, Function.Injective (S.subscriptionId kind)) {s : Session}
    {old : List ActiveChunk} {c : ActiveChunk} (hc : S.Holds s c)
    (hold : ∀ d ∈ old, S.Holds s d ∧ d.addresses ≠ c.addresses) :
    c.id ∉ old.map (·.id) ∧ (s.discard old).tasks[c.task]? = s.tasks[c.task]? := by
  obtain ⟨hid, t, ht, htid, -⟩ := hc
  -- an old chunk with the id would have the addresses
  have hapart : c.id ∉ old.map (·.id) := by
    intro hmem
    obtain ⟨d, hd, heq⟩ := List.mem_map.1 hmem
    obtain ⟨⟨hdid, -⟩, hne⟩ := hold d hd
    exact hne (hinj s.kind (by rw [← hid, ← hdid, heq]))
  refine ⟨hapart, ?_⟩
  rw [ht]
  refine discard_other ht ?_ (htid ▸ hapart)
  -- an old chunk with the task would have the id
  intro hmem
  obtain ⟨d, hd, heq⟩ := List.mem_map.1 hmem
  obtain ⟨⟨-, u, hu, huid, -⟩, -⟩ := hold d hd
  rw [heq, ht] at hu
  obtain rfl := Option.some.inj hu
  exact hapart (List.mem_map.2 ⟨d, hd, huid.symm.trans htid⟩)

lemma EndedBy.extends {ended : ℕ → Prop} {s s' : Session} (h : EndedBy ended s) (he : s.Extends s') :
    EndedBy ended s' := by
  intro k t ht hdropped
  rcases he.added k t ht with ht | hlive
  · exact h k t ht hdropped
  · rw [hlive] at hdropped
    cases hdropped

/-- An unsubscription is not the provider's doing. -/
lemma EndedBy.discard {ended : ℕ → Prop} {s : Session} (h : EndedBy ended s) (old : List ActiveChunk) :
    EndedBy ended (s.discard old) := by
  intro k t ht hdropped
  rw [discard_tasks] at ht
  obtain ⟨u, hu, rfl⟩ := Option.map_eq_some_iff.1 ht
  refine h k u hu ?_
  have hbefore := dropped_of_unsubscribe hdropped
  split at hbefore
  · exact hbefore
  · exact hbefore

/-- A refresh that goes through keeps the invariant. -/
lemma refresh_subscribed (hinj : ∀ kind, Function.Injective (S.subscriptionId kind))
    {answer : ℕ → Except String Unit} {shutdown : ℕ → Bool} {tip : Option ℕ} {next : List Address}
    {s : Session} (h : S.Subscribed s) {ended : ℕ → Prop} (hended : EndedBy ended s)
    (hnext : next.Nodup) (hrunning : (S.refresh answer shutdown tip next s).outcome = none) :
    S.Subscribed (S.refresh answer shutdown tip next s) ∧
      EndedBy ended (S.refresh answer shutdown tip next s) ∧
      Refreshes ended s (S.refresh answer shutdown tip next s) next := by
  unfold refresh at hrunning ⊢
  split at hrunning
  · -- the list did not change
    rename_i hsame
    rw [if_pos hsame]
    refine ⟨h, hended, ?_, fun c hc hnot => (h.holds c hc).live hended hnot,
      ⟨[], (List.append_nil _).symm, ?_⟩, ?_⟩
    · rw [h.covered, hsame]
    · exact fun c _ => List.not_mem_nil
    · exact fun c hc _ => ⟨hc, rfl⟩
  · rename_i hother
    rw [if_neg hother]
    split at hrunning
    · cases hrunning
    · rename_i hne
      rw [if_neg hne]
      split at hrunning
      · cases hrunning
      · rename_i old replacement s₁ hreplaced
        have hdistinct : (s.chunks.map (·.addresses)).Nodup := by
          rw [h.chunks]
          exact nodup_toChunks h.listed
        have hrep := replaceChunks_ok hreplaced h.fresh
          (by simpa using h.holds) hdistinct (fun hd => ⟨List.isEmpty_iff.1 hd, rfl⟩)
        have haddresses : replacement.map (·.addresses) = next.toChunks subscriptionChunk := by
          simpa using hrep.addresses
        have hholds : ∀ c ∈ replacement, S.Holds s₁ c := fun c hc => hrep.holds c (by simp [hc])
        -- the old chunks that are left have other addresses than the replacement
        have hdiscard : ∀ c ∈ replacement, c.id ∉ old.map (·.id) ∧
            (s₁.discard old).tasks[c.task]? = s₁.tasks[c.task]? := by
          intro c hc
          refine (hholds c hc).discard hinj fun d hd => ⟨hrep.holds d (by simp [hd]), fun heq => ?_⟩
          refine (hrep.left d hd).2 ?_
          rw [heq, ← haddresses]
          exact List.mem_map_of_mem hc
        have hsub : S.Subscribed
            { (s₁.discard old).wake tip with chunks := replacement, list := next } := by
          have hfresh := discard_fresh hrep.fresh old
          refine ⟨hnext, haddresses, ⟨hfresh.distinct, hfresh.older⟩, ?_, ?_⟩
          · intro c hc
            obtain ⟨hid, t, ht, hrest⟩ := hholds c hc
            exact ⟨hid, t, ((hdiscard c hc).2.trans ht), hrest⟩
          · intro k id generation hmem
            obtain ⟨t, ht, hid, hg⟩ := h.signed k id generation
              (by rw [← hrep.extended.queue]; exact hmem)
            obtain ⟨t', ht', hid', hg'⟩ := discard_identity old (hrep.extended.tasks k t ht)
            exact ⟨t', ht', hid'.trans hid, hg'.trans hg⟩
        have hended' : EndedBy ended
            { (s₁.discard old).wake tip with chunks := replacement, list := next } :=
          (hended.extends hrep.extended).discard old
        refine ⟨hsub, hended', hsub.covered, fun c hc hnot => (hsub.holds c hc).live hended' hnot,
          ⟨old.map (·.id), ?_, fun c hc => (hdiscard c hc).1⟩, ?_⟩
        · show s₁.unsubscribed ++ _ = _
          rw [hrep.extended.unsubscribed]
        · intro c hc hin
          have hkept := hrep.retained c hc hin
          obtain ⟨-, t, ht, -⟩ := h.holds c hc
          refine ⟨hkept, ?_⟩
          show (s₁.discard old).tasks[c.task]? = _
          rw [(hdiscard c hkept).2, hrep.extended.tasks _ t ht, ht]

/-! ### Runs -/

/-- The watch lists an event delivers have no repeated address. -/
def Event.Distinct : Event → Prop
  | .watchList next _ _ _ => next.Nodup
  | _ => True

/-- Changing a task that keeps its identity and is not unsubscribed by it. -/
lemma Subscribed.setTask {s : Session} (h : S.Subscribed s) {k : ℕ} {t t' : ForwardTask}
    (ht : s.tasks[k]? = some t) (hid : t'.id = t.id) (hg : t'.generation = t.generation)
    (hstream : t.stream ≠ .unsubscribed → t'.stream ≠ .unsubscribed) :
    S.Subscribed { s with tasks := s.tasks.set k t' } := by
  have hlt : k < s.tasks.length := (List.getElem?_eq_some_iff.1 ht).1
  -- each task is the old one or the changed one
  have hget : ∀ (i : ℕ) (u : ForwardTask), s.tasks[i]? = some u →
      ∃ u', (s.tasks.set k t')[i]? = some u' ∧ u'.id = u.id ∧ u'.generation = u.generation ∧
        (u.stream ≠ .unsubscribed → u'.stream ≠ .unsubscribed) := by
    intro i u hu
    by_cases hik : k = i
    · subst hik
      rw [ht] at hu
      obtain rfl := Option.some.inj hu
      exact ⟨t', List.getElem?_set_self hlt, hid, hg, hstream⟩
    · exact ⟨u, (List.getElem?_set_ne hik).trans hu, rfl, rfl, fun hu => hu⟩
  have hgenerations : (s.tasks.set k t').map (·.generation) = s.tasks.map (·.generation) := by
    refine List.ext_getElem? fun i => ?_
    rw [List.getElem?_map, List.getElem?_map]
    rcases hu : s.tasks[i]? with _ | u
    · have hlen : s.tasks.length ≤ i := List.getElem?_eq_none_iff.1 hu
      rw [List.getElem?_eq_none (by simpa using hlen)]
    · obtain ⟨u', hu', -, hgeneration, -⟩ := hget i u hu
      rw [hu', Option.map_some, Option.map_some, hgeneration]
  refine ⟨h.listed, h.chunks, ⟨?_, ?_⟩, ?_, ?_⟩
  · show ((s.tasks.set k t').map (·.generation)).Nodup
    rw [hgenerations]
    exact h.fresh.distinct
  · intro u hu
    have hmem : u.generation ∈ s.tasks.map (·.generation) := by
      rw [← hgenerations]
      exact List.mem_map_of_mem hu
    obtain ⟨v, hv, heq⟩ := List.mem_map.1 hmem
    have hlt' := h.fresh.older v hv
    show u.generation < s.nextGeneration
    omega
  · intro c hc
    obtain ⟨hcid, u, hu, huid, hug, hus⟩ := h.holds c hc
    obtain ⟨u', hu', hid', hg', hs'⟩ := hget c.task u hu
    exact ⟨hcid, u', hu', hid'.trans huid, hg'.trans hug, hs' hus⟩
  · intro i id generation hmem
    obtain ⟨u, hu, huid, hug⟩ := h.signed i id generation hmem
    obtain ⟨u', hu', hid', hg', -⟩ := hget i u hu
    exact ⟨u', hu', hid'.trans huid, hg'.trans hug⟩

/-- A change of the queue that adds only what tasks sign. -/
lemma Subscribed.setQueue {s : Session} (h : S.Subscribed s) {queue : List (ℕ × ChunkMessage)}
    (hq : ∀ (k : ℕ) (id : Hash) (generation : ℕ), (k, ChunkMessage.ended id generation) ∈ queue →
      (k, ChunkMessage.ended id generation) ∈ s.queue ∨
        ∃ t, s.tasks[k]? = some t ∧ t.id = id ∧ t.generation = generation) :
    S.Subscribed { s with queue := queue } := by
  refine ⟨h.listed, h.chunks, ⟨h.fresh.distinct, h.fresh.older⟩, h.holds, ?_⟩
  intro k id generation hmem
  rcases hq k id generation hmem with hmem | hsigned
  · exact h.signed k id generation hmem
  · exact hsigned

/-- A step of a session that goes on keeps the invariant. -/
lemma step_subscribed (hinj : ∀ kind, Function.Injective (S.subscriptionId kind)) {s : Session}
    {e : Event} (h : S.Subscribed s) {ended : ℕ → Prop} (hended : EndedBy ended s) (he : e.Distinct)
    (hdrop : ∀ k, e = .drop k → ended k) (hrunning : (S.step s e).outcome = none) :
    S.Subscribed (S.step s e) ∧ EndedBy ended (S.step s e) := by
  cases e with
  | watchList next answer shutdown tip =>
    obtain ⟨hsub, hended', -⟩ := refresh_subscribed hinj h hended he hrunning
    exact ⟨hsub, hended'⟩
  | drop task =>
    simp only [step]
    split
    · exact ⟨h, hended⟩
    · rename_i t ht
      split
      · refine ⟨h.setTask ht rfl rfl fun _ hstream => ?_, ?_⟩
        · cases hstream
        · intro k u hu hdropped
          by_cases hk : task = k
          · exact hk ▸ hdrop task rfl
          · exact hended k u ((List.getElem?_set_ne hk).symm.trans hu) hdropped
      · exact ⟨h, hended⟩
  | notify task log =>
    simp only [step]
    split
    · exact ⟨h, hended⟩
    · split
      · refine ⟨h.setQueue fun k id generation hmem => Or.inl ?_, hended⟩
        simpa using hmem
      · exact ⟨h, hended⟩
  | send task =>
    simp only [step]
    split
    · exact ⟨h, hended⟩
    · rename_i t ht
      split
      · -- the message carries the task's identity
        have hlt : task < s.tasks.length := (List.getElem?_eq_some_iff.1 ht).1
        have hsent : S.Subscribed { s with tasks := s.tasks.set task { t with sent := true } } :=
          h.setTask ht rfl rfl fun hs => hs
        refine ⟨hsent.setQueue fun k id generation hmem => ?_, ?_⟩
        · rcases List.mem_append.1 hmem with hmem | hmem
          · exact Or.inl hmem
          · obtain ⟨rfl, rfl, rfl⟩ : k = task ∧ id = t.id ∧ generation = t.generation := by
              simpa using hmem
            exact Or.inr ⟨{ t with sent := true }, List.getElem?_set_self hlt, rfl, rfl⟩
        · intro k u hu hdropped
          by_cases hk : task = k
          · subst hk
            obtain rfl := Option.some.inj ((List.getElem?_set_self hlt).symm.trans hu)
            exact hended task t ht hdropped
          · exact hended k u ((List.getElem?_set_ne hk).symm.trans hu) hdropped
      · exact ⟨h, hended⟩
  | receive i =>
    have hdropped : S.Subscribed { s with queue := s.queue.eraseIdx i } :=
      h.setQueue fun k id generation hmem => Or.inl (List.mem_of_mem_eraseIdx hmem)
    simp only [step, receive] at hrunning ⊢
    split at hrunning
    · rename_i hempty
      rw [if_pos hempty]
      exact ⟨h, hended⟩
    · rename_i hsome
      rw [if_neg hsome]
      split at hrunning
      · exact ⟨h, hended⟩
      · exact ⟨⟨hdropped.listed, hdropped.chunks, ⟨hdropped.fresh.distinct, hdropped.fresh.older⟩,
          hdropped.holds, hdropped.signed⟩, hended⟩
      · split at hrunning
        · cases hrunning
        · rename_i hstale
          rw [if_neg hstale]
          exact ⟨hdropped, hended⟩
  | keepalive answer =>
    cases answer with
    | error error => cases hrunning
    | ok id =>
      simp only [step] at hrunning ⊢
      split at hrunning
      · rename_i hsame
        rw [if_pos hsame]
        exact ⟨h, hended⟩
      · cases hrunning
  | shutdown => cases hrunning

/-- A session that starts has the invariant. -/
lemma establish_subscribed {answer : ℕ → Except String Unit} {tip : Option ℕ} {generation : ℕ}
    {list : List Address} (hlist : list.Nodup)
    (hrunning : (S.establish answer tip generation list).outcome = none) (ended : ℕ → Prop) :
    S.Subscribed (S.establish answer tip generation list) ∧
      EndedBy ended (S.establish answer tip generation list) := by
  unfold establish at hrunning ⊢
  split at hrunning
  · cases hrunning
  · rename_i active s hactive
    have hnone : ∀ c ∈ ([] : List ActiveChunk) ++ [],
        S.Holds { list := list, nextGeneration := generation } c := by
      intro c hc
      cases hc
    have hrep := replaceChunks_ok (subscribeAll_ok hactive) ⟨List.nodup_nil, by simp⟩ hnone
      List.nodup_nil fun _ => ⟨rfl, rfl⟩
    have hended : EndedBy ended { list := list, nextGeneration := generation } := by
      intro k t ht
      cases ht
    have hended' : EndedBy ended s := hended.extends hrep.extended
    have hslist : s.list = list := hrep.extended.list
    refine ⟨⟨?_, ?_, ⟨hrep.fresh.distinct, hrep.fresh.older⟩, ?_, ?_⟩, hended'⟩
    · show s.list.Nodup
      rw [hslist]
      exact hlist
    · show active.map (·.addresses) = s.list.toChunks subscriptionChunk
      rw [hslist]
      simpa using hrep.addresses
    · exact fun c hc => hrep.holds c (by simp [hc])
    · intro k id g hmem
      have hqueue : s.queue = [] := hrep.extended.queue
      have hmem : (k, ChunkMessage.ended id g) ∈ s.queue := hmem
      rw [hqueue] at hmem
      cases hmem

/-- A session that runs has run all along. -/
lemma running_of_run {events : List Event} {s : Session} (h : (S.run events s).outcome = none) :
    s.outcome = none := by
  induction events generalizing s with
  | nil => exact h
  | cons e rest ih =>
    have hnext : (if s.outcome.isSome then s else S.step s e).outcome = none := ih h
    split at hnext
    · exact hnext
    · rename_i hsome
      simpa using hsome

/-- The invariant over a run. -/
lemma run_subscribed (hinj : ∀ kind, Function.Injective (S.subscriptionId kind)) {ended : ℕ → Prop}
    {events : List Event} (hevents : ∀ e ∈ events, e.Distinct)
    (hdrops : ∀ k, Event.drop k ∈ events → ended k) {s : Session} (h : S.Subscribed s)
    (hended : EndedBy ended s) (hrunning : (S.run events s).outcome = none) :
    S.Subscribed (S.run events s) ∧ EndedBy ended (S.run events s) := by
  induction events generalizing s with
  | nil => exact ⟨h, hended⟩
  | cons e rest ih =>
    have hnow : s.outcome = none := running_of_run hrunning
    have hcons : S.run (e :: rest) s = S.run rest (S.step s e) := by
      show S.run rest (if s.outcome.isSome then s else S.step s e) = _
      rw [hnow]
      rfl
    rw [hcons] at hrunning ⊢
    obtain ⟨hstep, hended'⟩ := step_subscribed hinj h hended (hevents e (by simp))
      (fun k hk => hdrops k (by simp [hk])) (running_of_run hrunning)
    exact ih (fun e he => hevents e (by simp [he])) (fun k hk => hdrops k (by simp [hk])) hstep
      hended' hrunning

/-- An `Ended` is current exactly if the task of a held chunk sent it. -/
lemma receive_ended {s : Session} (h : S.Subscribed s) (hrunning : s.outcome = none) {i k : ℕ}
    {id : Hash} {generation : ℕ} (hmessage : s.queue[i]? = some (k, .ended id generation)) :
    (S.step s (.receive i)).outcome = some (.failed "subscription stream ended") ↔
      ∃ c ∈ s.chunks, c.task = k := by
  obtain ⟨t, ht, rfl, rfl⟩ := h.signed k id generation (List.mem_of_getElem? hmessage)
  have hcurrent : endingIsCurrent s.chunks t.id t.generation = true ↔ ∃ c ∈ s.chunks, c.task = k := by
    rw [endingIsCurrent, List.any_eq_true]
    refine exists_congr fun c => and_congr_right fun hc => ?_
    rw [decide_eq_true_iff]
    obtain ⟨-, u, hu, huid, hug, -⟩ := h.holds c hc
    constructor
    · -- one generation, one task
      rintro ⟨-, hg⟩
      exact h.fresh.task_eq hu ht (hug.trans hg)
    · intro hk
      rw [hk, ht] at hu
      obtain rfl := Option.some.inj hu
      exact ⟨huid.symm, hug.symm⟩
  rw [← hcurrent]
  simp only [step, receive]
  split
  · -- a session without chunks receives nothing, and none of them is current
    rename_i hempty
    rw [hrunning, List.isEmpty_iff.1 hempty]
    simp [endingIsCurrent]
  · simp only [hmessage]
    split
    · rename_i hyes
      simp [hyes]
    · rename_i hno
      simp [hno, hrunning]

/-- In every run of a session over watch lists without repeated addresses: a refresh that goes
through leaves the chunks of the new list, each with a live stream unless the provider ended that
stream, none with an id the refresh unsubscribed, and the unchanged ones as they were; and an
`Ended` fails the session exactly if a chunk that the session still holds sent it. -/
theorem refresh_never_drops_a_watched_address (S : TransferSignal)
    (hinj : ∀ kind, Function.Injective (S.subscriptionId kind)) (answer : ℕ → Except String Unit)
    (tip : Option ℕ) (generation : ℕ) {first : List Address} (hfirst : first.Nodup)
    {events : List Event} (hevents : ∀ e ∈ events, e.Distinct) {s : Session}
    (hs : S.run events (S.establish answer tip generation first) = s) (hrunning : s.outcome = none) :
    (∀ next answer shutdown tip, next.Nodup →
      (S.step s (.watchList next answer shutdown tip)).outcome = none →
      Refreshes (fun k => Event.drop k ∈ events) s
        (S.step s (.watchList next answer shutdown tip)) next) ∧
    ∀ (i k : ℕ) (id : Hash) (generation : ℕ), s.queue[i]? = some (k, .ended id generation) →
      ((S.step s (.receive i)).outcome = some (.failed "subscription stream ended") ↔
        ∃ c ∈ s.chunks, c.task = k) := by
  subst hs
  obtain ⟨hstart, hended⟩ := establish_subscribed hfirst (running_of_run hrunning)
    (fun k => Event.drop k ∈ events)
  obtain ⟨hsub, hended'⟩ := run_subscribed hinj hevents (fun _ hk => hk) hstart hended hrunning
  refine ⟨fun next answer shutdown tip hnext hgoes => ?_, fun i k id generation hmessage => ?_⟩
  · exact (refresh_subscribed hinj hsub hended' hnext hgoes).2.2
  · exact receive_ended hsub hrunning hmessage

/-- A signal whose ids code the addresses. -/
def sampleSignal : TransferSignal where
  chainId := 143
  subscriptionId := fun _ addresses => Encodable.encode addresses

/-- The chunk of `[1, 2]` is replaced, its task sends its `Ended`, and the chunk is added again. -/
def readding : List Event :=
  [.watchList [3] (fun _ => .ok ()) (fun _ => false) none, .send 0,
    .watchList [1, 2] (fun _ => .ok ()) (fun _ => false) none]

def sampleReadding : Session :=
  sampleSignal.run readding (sampleSignal.establish (fun _ => .ok ()) none 0 [1, 2])

/-- The late `Ended` of the first chunk does not fail the session, although the new chunk has its
id. -/
theorem refresh_never_drops_a_watched_address_readding :
    (sampleReadding.chunks.map (·.id) = [sampleSignal.subscriptionId .monadLogs [1, 2]] ∧
      sampleReadding.queue = [(0, .ended (sampleSignal.subscriptionId .monadLogs [1, 2]) 0)]) ∧
    Refreshes (fun k => Event.drop k ∈ readding) sampleReadding (sampleSignal.step sampleReadding
      (.watchList [1, 2, 4] (fun _ => .ok ()) (fun _ => false) none)) [1, 2, 4] ∧
    ((sampleSignal.step sampleReadding (.receive 0)).outcome =
        some (.failed "subscription stream ended") ↔ ∃ c ∈ sampleReadding.chunks, c.task = 0) := by
  have hdistinct : ∀ e ∈ readding, e.Distinct := by simp [readding, Event.Distinct]
  have hrun := refresh_never_drops_a_watched_address sampleSignal
    (fun _ => Encodable.encode_injective) (fun _ => .ok ()) none 0 (show [1, 2].Nodup by decide)
    hdistinct (show _ = sampleReadding from rfl) (by decide +kernel)
  refine ⟨⟨by decide +kernel, by decide +kernel⟩, ?_, ?_⟩
  · exact hrun.1 [1, 2, 4] _ _ _ (by decide) (by decide +kernel)
  · exact hrun.2 0 0 _ _ (show sampleReadding.queue[0]? =
      some (0, .ended (sampleSignal.subscriptionId .monadLogs [1, 2]) 0) by decide +kernel)

end TransferSignal

end Payday
