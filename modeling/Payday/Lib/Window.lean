/-
# Windows of a list, and adjacent intervals

The elements of a list whose key lies in a half-open interval.  Over a list sorted by the key,
adjacent windows concatenate.  A list may be sorted before or after elements are dropped.
`Contiguous` is a list of intervals each of which starts where the one before ended.
-/
import Mathlib.Data.List.Sort
import Mathlib.Order.Defs.LinearOrder
import Mathlib.Tactic.Common

namespace Payday

variable {α : Type*} {f : α → ℕ}

section Sorted

variable {κ : Type*} [LinearOrder κ] (key : α → κ) (keep : α → Bool)

/-- An element is put at its place before or after others of a sorted list are dropped. -/
lemma filter_orderedInsert (x : α) {xs : List α} (hs : xs.Pairwise (fun y z => key y ≤ key z)) :
    (xs.orderedInsert (fun y z => key y ≤ key z) x).filter keep =
      if keep x then (xs.filter keep).orderedInsert (fun y z => key y ≤ key z) x else xs.filter keep := by
  induction xs with
  | nil => by_cases hx : keep x <;> simp [hx]
  | cons y rest ih =>
    obtain ⟨hle, hrest⟩ := List.pairwise_cons.1 hs
    rw [List.orderedInsert_cons]
    split
    · -- the place is in front of the whole list, and of what is kept of it
      rename_i hxy
      by_cases hx : keep x
      · rw [List.filter_cons_of_pos hx, if_pos hx]
        have hall : ∀ z ∈ (y :: rest).filter keep, key x ≤ key z := by
          intro z hz
          rcases List.mem_cons.1 (List.mem_filter.1 hz).1 with rfl | hmem
          · exact hxy
          · exact hxy.trans (hle z hmem)
        rcases hkept : (y :: rest).filter keep with _ | ⟨z, zs⟩
        · rfl
        · rw [List.orderedInsert_cons, if_pos (hall z (by simp [hkept]))]
      · rw [List.filter_cons_of_neg hx, if_neg hx]
    · rename_i hxy
      by_cases hy : keep y
      · rw [List.filter_cons_of_pos hy, List.filter_cons_of_pos hy, ih hrest]
        split
        · rw [List.orderedInsert_cons, if_neg hxy]
        · rfl
      · rw [List.filter_cons_of_neg hy, List.filter_cons_of_neg hy, ih hrest]

/-- Sorting and dropping elements commute. -/
lemma filter_insertionSort (xs : List α) :
    (xs.insertionSort (fun y z => key y ≤ key z)).filter keep =
      (xs.filter keep).insertionSort (fun y z => key y ≤ key z) := by
  induction xs with
  | nil => rfl
  | cons x rest ih =>
    have hsorted : (rest.insertionSort (fun y z => key y ≤ key z)).Pairwise (fun y z => key y ≤ key z) :=
      List.pairwise_insertionSort _ _
    rw [List.insertionSort_cons, filter_orderedInsert key keep x hsorted, ih]
    by_cases hx : keep x
    · rw [if_pos hx, List.filter_cons_of_pos hx, List.insertionSort_cons]
    · rw [if_neg hx, List.filter_cons_of_neg hx]

end Sorted

/-- The elements with a key in `[lo, hi)`. -/
def window (f : α → ℕ) (lo hi : ℕ) (xs : List α) : List α :=
  xs.filter (fun x => decide (lo ≤ f x ∧ f x < hi))

lemma mem_window {lo hi : ℕ} {xs : List α} {x : α} :
    x ∈ window f lo hi xs ↔ x ∈ xs ∧ lo ≤ f x ∧ f x < hi := by
  simp [window]

lemma window_append (lo hi : ℕ) (xs ys : List α) :
    window f lo hi (xs ++ ys) = window f lo hi xs ++ window f lo hi ys :=
  List.filter_append _ _

/-- Adjacent windows of a sorted list. -/
lemma window_adjacent {lo mid hi : ℕ} (hlo : lo ≤ mid) (hhi : mid ≤ hi) {xs : List α}
    (hs : xs.Pairwise (fun x y => f x ≤ f y)) :
    window f lo hi xs = window f lo mid xs ++ window f mid hi xs := by
  induction xs with
  | nil => rfl
  | cons x rest ih =>
    obtain ⟨hle, hrest⟩ := List.pairwise_cons.1 hs
    have ih := ih hrest
    by_cases hmid : f x < mid
    · -- the head can only lie in the first window
      have hnot : window f mid hi (x :: rest) = window f mid hi rest :=
        List.filter_cons_of_neg (by simp; omega)
      by_cases hx : lo ≤ f x
      · have hfirst : window f lo mid (x :: rest) = x :: window f lo mid rest :=
          List.filter_cons_of_pos (by simp; omega)
        have hwhole : window f lo hi (x :: rest) = x :: window f lo hi rest :=
          List.filter_cons_of_pos (by simp; omega)
        rw [hwhole, hfirst, hnot, ih, List.cons_append]
      · have hfirst : window f lo mid (x :: rest) = window f lo mid rest :=
          List.filter_cons_of_neg (by simp; omega)
        have hwhole : window f lo hi (x :: rest) = window f lo hi rest :=
          List.filter_cons_of_neg (by simp; omega)
        rw [hwhole, hfirst, hnot, ih]
    · -- the head and everything after it lie beyond the first window
      have hempty : window f lo mid (x :: rest) = [] := by
        rw [window, List.filter_eq_nil_iff]
        intro y hy
        rcases List.mem_cons.1 hy with rfl | hy
        · simp
          omega
        · have := hle y hy
          simp
          omega
      rw [hempty, List.nil_append]
      refine List.filter_congr fun y hy => ?_
      have hy : mid ≤ f y := by
        rcases List.mem_cons.1 hy with rfl | hy
        · omega
        · have := hle y hy
          omega
      simp only [decide_eq_decide]
      omega

/-- Elements that are added beyond a window do not change it. -/
lemma window_append_of_le {lo hi : ℕ} {xs ys : List α} (h : ∀ y ∈ ys, hi ≤ f y) :
    window f lo hi (xs ++ ys) = window f lo hi xs := by
  rw [window_append]
  have hempty : window f lo hi ys = [] := by
    rw [window, List.filter_eq_nil_iff]
    intro y hy
    have := h y hy
    simp
    omega
  rw [hempty, List.append_nil]

/-! ### Adjacent intervals -/

/-- The first number after a list of closed intervals that starts at `lo`. -/
def nextOf (lo : ℕ) : List (ℕ × ℕ) → ℕ
  | [] => lo
  | x :: rest => nextOf (x.2 + 1) rest

/-- Each interval is nonempty and starts right after the one before; the first starts at `lo`. -/
def Contiguous (lo : ℕ) : List (ℕ × ℕ) → Prop
  | [] => True
  | x :: rest => x.1 = lo ∧ x.1 ≤ x.2 ∧ Contiguous (x.2 + 1) rest

lemma nextOf_concat (lo : ℕ) (xs : List (ℕ × ℕ)) (x : ℕ × ℕ) : nextOf lo (xs ++ [x]) = x.2 + 1 := by
  induction xs generalizing lo with
  | nil => rfl
  | cons y rest ih => exact ih _

lemma contiguous_concat {lo : ℕ} {xs : List (ℕ × ℕ)} {x : ℕ × ℕ} :
    Contiguous lo (xs ++ [x]) ↔ Contiguous lo xs ∧ x.1 = nextOf lo xs ∧ x.1 ≤ x.2 := by
  induction xs generalizing lo with
  | nil => simp [Contiguous, nextOf]
  | cons y rest ih =>
    simp only [List.cons_append, Contiguous, nextOf]
    rw [ih]
    constructor
    · rintro ⟨hstart, hle, hcont, hnext, hx⟩
      exact ⟨⟨hstart, hle, hcont⟩, hnext, hx⟩
    · rintro ⟨⟨hstart, hle, hcont⟩, hnext, hx⟩
      exact ⟨hstart, hle, hcont, hnext, hx⟩

end Payday
