/-
# Keyed tables

A table is a list of rows in which no two rows have the same key.  The key function is
part of the type, and the operations below are the ones a relational store offers on a
primary key: look a row up, rewrite rows in place, insert a row unless its key is taken,
overwrite or insert a row.  Uniqueness of the key travels with the table as a field, so
an operation that would break it cannot be written down.
-/
import Mathlib.Algebra.GroupWithZero.Nat
import Mathlib.Data.List.Nodup
import Mathlib.Data.List.Basic
import Mathlib.Tactic.Common

namespace Payday

/-- Rows of type `ρ` with a primary key of type `κ`. -/
structure Table {κ ρ : Type*} (key : ρ → κ) where
  /-- The rows, in insertion order. -/
  rows : List ρ
  /-- No two rows share a key. -/
  nodup : (rows.map key).Nodup

namespace Table

variable {κ ρ : Type*} {key : ρ → κ}

/-- The table without rows. -/
def empty : Table key := ⟨[], by simp⟩

/-- Rewrite every row by `f`, which must keep the key. -/
def update (t : Table key) (f : ρ → ρ) (hf : ∀ r, key (f r) = key r := by intro _; rfl) :
    Table key :=
  ⟨t.rows.map f, by
    have h : (t.rows.map f).map key = t.rows.map key := by
      simp only [List.map_map]
      exact List.map_congr_left fun r _ => hf r
    rw [h]
    exact t.nodup⟩

/-- Rewrite by `f` the rows that satisfy `p`: SQL's `UPDATE … SET … WHERE …`. -/
def updateWhere (t : Table key) (p : ρ → Bool) (f : ρ → ρ)
    (hf : ∀ r, key (f r) = key r := by intro _; rfl) : Table key :=
  t.update (fun r => if p r then f r else r) (by
    intro r
    by_cases h : p r <;> simp [h, hf])

/-- `DELETE`: drop the rows that satisfy `p`. -/
def deleteWhere (t : Table key) (p : ρ → Bool) : Table key where
  rows := t.rows.filter (fun r => !p r)
  nodup := t.nodup.sublist (List.filter_sublist.map key)

/-- A table is its rows. -/
lemma ext_rows {t t' : Table key} (h : t.rows = t'.rows) : t = t' := by
  cases t
  cases t'
  cases h
  rfl

@[simp] lemma rows_empty : (empty : Table key).rows = [] := rfl

@[simp] lemma rows_update (t : Table key) (f : ρ → ρ) (hf : ∀ r, key (f r) = key r) :
    (t.update f hf).rows = t.rows.map f := rfl

@[simp] lemma rows_updateWhere (t : Table key) (p : ρ → Bool) (f : ρ → ρ)
    (hf : ∀ r, key (f r) = key r) :
    (t.updateWhere p f hf).rows = t.rows.map (fun r => if p r then f r else r) := rfl

/-- An update that no row qualifies for. -/
lemma updateWhere_eq_self {t : Table key} {p : ρ → Bool} {f : ρ → ρ}
    (hf : ∀ r, key (f r) = key r) (h : ∀ r ∈ t.rows, p r = false) : t.updateWhere p f hf = t := by
  have hrows : (t.updateWhere p f hf).rows = t.rows := by
    rw [rows_updateWhere]
    refine (List.map_congr_left fun r hr => ?_).trans (List.map_id _)
    simp [h r hr]
  cases t
  simpa [updateWhere, update] using hrows

/-- A row after an update is a rewritten row that qualified, or an old row that did not. -/
lemma mem_updateWhere {t : Table key} {p : ρ → Bool} {f : ρ → ρ} {hf : ∀ r, key (f r) = key r}
    {r : ρ} (h : r ∈ (t.updateWhere p f hf).rows) :
    (∃ r₀ ∈ t.rows, p r₀ = true ∧ r = f r₀) ∨ (r ∈ t.rows ∧ p r = false) := by
  rw [rows_updateWhere, List.mem_map] at h
  obtain ⟨r₀, hr₀, rfl⟩ := h
  by_cases hp : p r₀ = true
  · exact Or.inl ⟨r₀, hr₀, hp, by simp [hp]⟩
  · have hp : p r₀ = false := by simpa using hp
    rw [hp]
    exact Or.inr ⟨hr₀, hp⟩

/-- A row that qualifies is rewritten. -/
lemma mem_updateWhere_of {t : Table key} {p : ρ → Bool} {f : ρ → ρ}
    {hf : ∀ r, key (f r) = key r} {r : ρ} (h : r ∈ t.rows) (hp : p r = true) :
    f r ∈ (t.updateWhere p f hf).rows := by
  rw [rows_updateWhere, List.mem_map]
  exact ⟨r, h, by simp [hp]⟩

/-- A row that does not qualify stays. -/
lemma mem_updateWhere_of_not {t : Table key} {p : ρ → Bool} {f : ρ → ρ}
    {hf : ∀ r, key (f r) = key r} {r : ρ} (h : r ∈ t.rows) (hp : p r = false) :
    r ∈ (t.updateWhere p f hf).rows := by
  rw [rows_updateWhere, List.mem_map]
  exact ⟨r, h, by simp [hp]⟩

/-- Rewriting the rows and keeping a column of theirs keeps the list of its values. -/
lemma column_of_rows_map {γ : Type*} {column : ρ → γ} {t t' : Table key} {f : ρ → ρ}
    (h : t'.rows = t.rows.map f) (hf : ∀ r, column (f r) = column r) :
    t'.rows.map column = t.rows.map column := by
  simp [h, Function.comp_def, hf]

/-- A key names at most one row. -/
lemma eq_of_key_eq (t : Table key) {r r' : ρ} (h : r ∈ t.rows) (h' : r' ∈ t.rows)
    (hk : key r = key r') : r = r' :=
  List.inj_on_of_nodup_map t.nodup h h' hk

/-- A condition that only rows of one key meet picks at most one row. -/
lemma filter_eq_singleton {t : Table key} {r : ρ} (h : r ∈ t.rows) {p : ρ → Bool} (hp : p r = true)
    (hkey : ∀ r' ∈ t.rows, p r' = true → key r' = key r) : t.rows.filter p = [r] := by
  have hnodup : (t.rows.filter p).Nodup := (List.Nodup.of_map key t.nodup).filter p
  have hall : ∀ r' ∈ t.rows.filter p, r' = r := by
    intro r' hr'
    obtain ⟨hmem, hp'⟩ := List.mem_filter.1 hr'
    exact t.eq_of_key_eq hmem h (hkey r' hmem hp')
  have hmem : r ∈ t.rows.filter p := List.mem_filter.2 ⟨h, hp⟩
  rcases hf : t.rows.filter p with _ | ⟨x, _ | ⟨y, rest⟩⟩
  · rw [hf] at hmem
    cases hmem
  · rw [hall x (by rw [hf]; simp)]
  · -- two rows would be the same one
    rw [hf] at hnodup
    have hx := hall x (by rw [hf]; simp)
    have hy := hall y (by rw [hf]; simp)
    exact absurd (by rw [hx, hy]; simp) (List.nodup_cons.1 hnodup).1

variable [DecidableEq κ]

/-- The row with key `k`. -/
def find? (t : Table key) (k : κ) : Option ρ := t.rows.find? (fun r => decide (key r = k))

/-- Insert a row, or fail when its key is taken. -/
def insert? (t : Table key) (r : ρ) : Option (Table key) :=
  if h : key r ∈ t.rows.map key then none
  else some ⟨t.rows ++ [r], by
    rw [List.map_append, List.nodup_append]
    refine ⟨t.nodup, by simp, ?_⟩
    intro a ha b hb hab
    simp only [List.map_cons, List.map_nil, List.mem_singleton] at hb
    exact h (by rw [← hb, ← hab]; exact ha)⟩

/-- Insert a row unless its key is taken: `ON CONFLICT DO NOTHING`. -/
def insertNew (t : Table key) (r : ρ) : Table key := (t.insert? r).getD t

/-- Insert a row, or overwrite the row that has its key: `ON CONFLICT DO UPDATE`, and the
`insert` of a hash map. -/
def upsert (t : Table key) (r : ρ) : Table key :=
  match t.insert? r with
  | some t' => t'
  | none => t.update (fun r' => if key r' = key r then r else r') (by
      intro r'
      by_cases h : key r' = key r <;> simp [h])

/-! ### Looking rows up -/

lemma find?_of_mem {t : Table key} {r : ρ} (h : r ∈ t.rows) : t.find? (key r) = some r := by
  rcases hf : t.find? (key r) with _ | s
  · rw [find?, List.find?_eq_none] at hf
    exact absurd (hf r h) (by simp)
  · rw [find?, List.find?_eq_some_iff_append] at hf
    obtain ⟨hk, as, bs, happ, -⟩ := hf
    have hs : s ∈ t.rows := by rw [happ]; simp
    rw [t.eq_of_key_eq hs h (of_decide_eq_true hk)]

lemma mem_of_find? {t : Table key} {k : κ} {r : ρ} (h : t.find? k = some r) : r ∈ t.rows :=
  List.mem_of_find?_eq_some h

lemma key_of_find? {t : Table key} {k : κ} {r : ρ} (h : t.find? k = some r) : key r = k :=
  of_decide_eq_true (List.find?_some h :)

lemma find?_eq_some_iff {t : Table key} {k : κ} {r : ρ} :
    t.find? k = some r ↔ r ∈ t.rows ∧ key r = k :=
  ⟨fun h => ⟨mem_of_find? h, key_of_find? h⟩, fun ⟨h, hk⟩ => hk ▸ find?_of_mem h⟩

lemma find?_eq_none_iff {t : Table key} {k : κ} :
    t.find? k = none ↔ k ∉ t.rows.map key := by
  rw [find?, List.find?_eq_none]
  simp

@[simp] lemma find?_empty (k : κ) : (empty : Table key).find? k = none := rfl

/-- Rewriting the rows and keeping their keys rewrites what is found. -/
lemma find?_of_rows_map {t t' : Table key} {f : ρ → ρ} (h : t'.rows = t.rows.map f)
    (hf : ∀ r, key (f r) = key r) (k : κ) : t'.find? k = (t.find? k).map f := by
  simp only [find?, h, List.find?_map]
  congr 2
  funext r
  simp [hf r]

@[simp] lemma find?_update (t : Table key) (f : ρ → ρ) (hf : ∀ r, key (f r) = key r) (k : κ) :
    (t.update f hf).find? k = (t.find? k).map f :=
  find?_of_rows_map rfl hf k

@[simp] lemma find?_updateWhere (t : Table key) (p : ρ → Bool) (f : ρ → ρ)
    (hf : ∀ r, key (f r) = key r) (k : κ) :
    (t.updateWhere p f hf).find? k = (t.find? k).map (fun r => if p r then f r else r) :=
  find?_update ..

/-! ### Inserting -/

lemma insert?_eq_some_iff {t t' : Table key} {r : ρ} :
    t.insert? r = some t' ↔ key r ∉ t.rows.map key ∧ t'.rows = t.rows ++ [r] := by
  unfold insert?
  split
  · rename_i h
    simp [h]
  · rename_i h
    constructor
    · intro he
      exact ⟨h, by rw [← Option.some.inj he]⟩
    · rintro ⟨-, hrows⟩
      cases t'
      simp_all

lemma insert?_eq_none_iff {t : Table key} {r : ρ} :
    t.insert? r = none ↔ key r ∈ t.rows.map key := by
  unfold insert?
  split <;> simp_all

lemma insertNew_of_mem {t : Table key} {r : ρ} (h : key r ∈ t.rows.map key) :
    t.insertNew r = t := by
  rw [insertNew, insert?_eq_none_iff.2 h, Option.getD_none]

lemma rows_insertNew_of_notMem {t : Table key} {r : ρ} (h : key r ∉ t.rows.map key) :
    (t.insertNew r).rows = t.rows ++ [r] := by
  obtain ⟨t', ht'⟩ : ∃ t', t.insert? r = some t' := by
    rw [← Option.ne_none_iff_exists']
    exact fun hn => h (insert?_eq_none_iff.1 hn)
  rw [insertNew, ht', Option.getD_some]
  exact (insert?_eq_some_iff.1 ht').2

lemma mem_rows_insertNew {t : Table key} {r r' : ρ} (h : r' ∈ (t.insertNew r).rows) :
    r' ∈ t.rows ∨ r' = r := by
  by_cases hkey : key r ∈ t.rows.map key
  · rw [insertNew_of_mem hkey] at h
    exact Or.inl h
  · rw [rows_insertNew_of_notMem hkey] at h
    simpa using h

lemma mem_keys_insertNew {t : Table key} {r : ρ} {k : κ} :
    k ∈ (t.insertNew r).rows.map key ↔ k = key r ∨ k ∈ t.rows.map key := by
  by_cases h : key r ∈ t.rows.map key
  · rw [insertNew_of_mem h]
    constructor
    · exact Or.inr
    · rintro (rfl | hk)
      · exact h
      · exact hk
  · rw [rows_insertNew_of_notMem h, List.map_append, List.mem_append]
    simp [or_comm]

lemma mem_keys_foldl_insertNew {t : Table key} {rs : List ρ} {k : κ} :
    k ∈ (rs.foldl insertNew t).rows.map key ↔ k ∈ rs.map key ∨ k ∈ t.rows.map key := by
  induction rs generalizing t with
  | nil => simp
  | cons r rest ih =>
    rw [List.foldl_cons, ih, mem_keys_insertNew, List.map_cons, List.mem_cons]
    tauto

/-- Inserting rows appends those of them that are new, in order. -/
lemma rows_foldl_insertNew (t : Table key) (rs : List ρ) :
    ∃ new, (rs.foldl insertNew t).rows = t.rows ++ new ∧ new.Sublist rs := by
  induction rs generalizing t with
  | nil => exact ⟨[], by simp, List.Sublist.refl _⟩
  | cons r rest ih =>
    rw [List.foldl_cons]
    by_cases h : key r ∈ t.rows.map key
    · rw [insertNew_of_mem h]
      obtain ⟨new, hrows, hsub⟩ := ih t
      exact ⟨new, hrows, hsub.cons r⟩
    · obtain ⟨new, hrows, hsub⟩ := ih (t.insertNew r)
      refine ⟨r :: new, ?_, hsub.cons_cons r⟩
      rw [hrows, rows_insertNew_of_notMem h]
      simp

lemma find?_of_insert? {t t' : Table key} {r : ρ} (h : t.insert? r = some t') (k : κ) :
    t'.find? k = if k = key r then some r else t.find? k := by
  obtain ⟨hnew, hrows⟩ := insert?_eq_some_iff.1 h
  split
  · rename_i hk
    exact find?_eq_some_iff.2 ⟨by rw [hrows]; simp, hk.symm⟩
  · rename_i hk
    rw [find?, hrows, List.find?_append]
    simp [find?, Ne.symm hk]

lemma find?_insertNew_of_notMem {t : Table key} {r : ρ} (h : key r ∉ t.rows.map key) (k : κ) :
    (t.insertNew r).find? k = if k = key r then some r else t.find? k := by
  obtain ⟨t', ht'⟩ : ∃ t', t.insert? r = some t' := by
    rw [← Option.ne_none_iff_exists']
    exact fun hn => h (insert?_eq_none_iff.1 hn)
  rw [insertNew, ht', Option.getD_some]
  exact find?_of_insert? ht' k

lemma find?_upsert (t : Table key) (r : ρ) (k : κ) :
    (t.upsert r).find? k = if k = key r then some r else t.find? k := by
  unfold upsert
  split
  · rename_i t' h
    exact find?_of_insert? h k
  · rename_i h
    have hmem := insert?_eq_none_iff.1 h
    rw [find?_update]
    rcases hf : t.find? k with _ | r'
    · have hk : k ≠ key r := by
        rintro rfl
        exact find?_eq_none_iff.1 hf hmem
      simp [hk]
    · rw [Option.map_some, key_of_find? hf]
      by_cases hk : k = key r <;> simp [hk]

lemma mem_rows_upsert {t : Table key} {r r' : ρ} (h : r' ∈ (t.upsert r).rows) :
    r' = r ∨ r' ∈ t.rows := by
  have hf := find?_of_mem h
  rw [find?_upsert] at hf
  split at hf
  · exact Or.inl (Option.some.inj hf).symm
  · exact Or.inr (mem_of_find? hf)

lemma mem_keys_upsert {t : Table key} {r : ρ} {k : κ} :
    k ∈ (t.upsert r).rows.map key ↔ k = key r ∨ k ∈ t.rows.map key := by
  have hiff : ∀ {t : Table key}, k ∈ t.rows.map key ↔ t.find? k ≠ none := by
    intro t
    rw [ne_eq, find?_eq_none_iff, not_not]
  rw [hiff, hiff, find?_upsert]
  by_cases hk : k = key r <;> simp [hk]

/-- Rows with different keys are all found, and nothing else is. -/
lemma find?_foldl_upsert {rs : List ρ} (t : Table key) (h : (rs.map key).Nodup) (k : κ) :
    (rs.foldl upsert t).find? k = (rs.find? fun r => decide (key r = k)).or (t.find? k) := by
  induction rs generalizing t with
  | nil => rfl
  | cons r rest ih =>
    rw [List.map_cons, List.nodup_cons] at h
    rw [List.foldl_cons, ih _ h.2, find?_upsert, List.find?_cons]
    by_cases hk : k = key r
    · have hnone : rest.find? (fun r => decide (key r = k)) = none := by
        refine List.find?_eq_none.2 fun r' hr' heq => h.1 ?_
        rw [← hk, ← of_decide_eq_true heq]
        exact List.mem_map_of_mem hr'
      simp [hk, hk ▸ hnone]
    · simp [hk, eq_comm]

end Table

end Payday
