/-
# Chunks of a list

`List.toChunks` cuts a list into chunks of one size.  The chunks concatenate to the list, none is
empty, and those of a list without repetitions differ.
-/
import Mathlib.Data.List.Nodup

namespace Payday

variable {α : Type*}

lemma flatten_toChunks_go (n : ℕ) (xs : List α) (chunk : Array α) (done : Array (List α)) :
    (List.toChunks.go n xs chunk done).flatten = done.toList.flatten ++ chunk.toList ++ xs := by
  induction xs generalizing chunk done with
  | nil => simp [List.toChunks.go]
  | cons x rest ih =>
    rw [List.toChunks.go]
    split
    · rw [ih]
      simp
    · rw [ih]
      simp

lemma ne_nil_of_mem_toChunks_go {n : ℕ} {xs : List α} {chunk : Array α} {done : Array (List α)}
    (hchunk : chunk.toList ≠ []) (hdone : ∀ l ∈ done.toList, l ≠ []) :
    ∀ l ∈ List.toChunks.go n xs chunk done, l ≠ [] := by
  induction xs generalizing chunk done with
  | nil =>
    intro l hl
    rw [List.toChunks.go, Array.toList_push] at hl
    rcases List.mem_append.1 hl with hl | hl
    · exact hdone l hl
    · rw [List.mem_singleton.1 hl]
      exact hchunk
  | cons x rest ih =>
    rw [List.toChunks.go]
    split
    · refine ih (by simp) ?_
      intro l hl
      rw [Array.toList_push] at hl
      rcases List.mem_append.1 hl with hl | hl
      · exact hdone l hl
      · rw [List.mem_singleton.1 hl]
        exact hchunk
    · exact ih (by simp) hdone

/-- The chunks of a list concatenate to it. -/
lemma flatten_toChunks (n : ℕ) (xs : List α) : (xs.toChunks n).flatten = xs := by
  cases xs with
  | nil => cases n <;> rfl
  | cons x rest =>
    cases n with
    | zero => simp [List.toChunks]
    | succ n =>
      rw [List.toChunks, flatten_toChunks_go]
      · simp
      · omega

lemma ne_nil_of_mem_toChunks {n : ℕ} {xs l : List α} (h : l ∈ xs.toChunks n) : l ≠ [] := by
  cases xs with
  | nil => cases n <;> cases h
  | cons x rest =>
    cases n with
    | zero =>
      simp only [List.toChunks, List.mem_singleton] at h
      rw [h]
      simp
    | succ n =>
      rw [List.toChunks] at h
      · exact ne_nil_of_mem_toChunks_go (by simp) (by simp) l h
      · omega

/-- The chunks of a list without repetitions differ. -/
lemma nodup_toChunks {n : ℕ} {xs : List α} (h : xs.Nodup) : (xs.toChunks n).Nodup := by
  have hflat : (xs.toChunks n).flatten.Nodup := by
    rw [flatten_toChunks]
    exact h
  have hdisjoint := (List.nodup_flatten.1 hflat).2
  refine List.Pairwise.imp_of_mem ?_ hdisjoint
  intro l l' hl _ hd heq
  subst heq
  obtain ⟨x, hx⟩ := List.exists_mem_of_ne_nil l (ne_nil_of_mem_toChunks hl)
  exact hd hx hx

end Payday
