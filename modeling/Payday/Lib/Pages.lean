/-
# Pages of a sorted list

Rows with distinct keys are read the largest key first, one page after another.  A page starts
behind a cursor, the key of the last row that was read: since the keys decrease strictly, the rows
below the cursor are the ones that are left.
-/
import Mathlib.Data.List.Sort

namespace Payday

section

variable {ρ κ : Type*} [LinearOrder κ]

/-- The rows, the largest key first. -/
def newestFirst (key : ρ → κ) (rows : List ρ) : List ρ :=
  rows.insertionSort (fun r r' => key r' ≤ key r)

variable {key : ρ → κ} {rows : List ρ}

@[simp] lemma mem_newestFirst {r : ρ} : r ∈ newestFirst key rows ↔ r ∈ rows :=
  List.mem_insertionSort _

lemma newestFirst_perm : (newestFirst key rows).Perm rows := List.perm_insertionSort _ _

lemma newestFirst_nonincreasing : (newestFirst key rows).Pairwise (fun r r' => key r' ≤ key r) := by
  have : Std.Total (fun r r' : ρ => key r' ≤ key r) := ⟨fun r r' => le_total (key r') (key r)⟩
  have : IsTrans ρ (fun r r' => key r' ≤ key r) := ⟨fun _ _ _ h h' => h'.trans h⟩
  exact List.pairwise_insertionSort _ rows

/-- With distinct keys the order is strict. -/
lemma newestFirst_decreasing (h : (rows.map key).Nodup) :
    (newestFirst key rows).Pairwise (fun r r' => key r' < key r) := by
  have hne : (newestFirst key rows).Pairwise (fun r r' => key r ≠ key r') :=
    List.pairwise_map.1 ((newestFirst_perm.map key).nodup_iff.2 h)
  refine (newestFirst_nonincreasing.and hne).imp ?_
  rintro r r' ⟨hle, hne⟩
  exact lt_of_le_of_ne hle hne.symm

/-- Two decreasing lists of the same rows are one list. -/
lemma eq_of_perm_of_decreasing {xs ys : List ρ} (hxs : xs.Pairwise (fun r r' => key r' < key r))
    (hys : ys.Pairwise (fun r r' => key r' < key r)) (h : xs.Perm ys) : xs = ys := by
  refine h.eq_of_pairwise ?_ hxs hys
  intro r r' _ _ hlt hgt
  exact absurd hlt hgt.asymm

/-- A selection of the rows is read in the order of the whole. -/
lemma newestFirst_filter (h : (rows.map key).Nodup) (p : ρ → Bool) :
    newestFirst key (rows.filter p) = (newestFirst key rows).filter p := by
  have hfilter : ((rows.filter p).map key).Nodup := h.sublist (List.filter_sublist.map key)
  refine eq_of_perm_of_decreasing (newestFirst_decreasing hfilter)
    ((newestFirst_decreasing h).sublist List.filter_sublist) ?_
  exact newestFirst_perm.trans (newestFirst_perm.symm.filter p)

/-- What is left behind a row. -/
lemma filter_below {read left : List ρ} {last : ρ}
    (h : (read ++ last :: left).Pairwise (fun r r' => key r' < key r)) :
    (read ++ last :: left).filter (fun r => key r < key last) = left := by
  obtain ⟨-, hlast, hread⟩ := List.pairwise_append.1 h
  have hbefore : read.filter (fun r => key r < key last) = [] := by
    refine List.filter_eq_nil_iff.2 fun r hr => ?_
    have hgt := hread r hr last (List.mem_cons_self ..)
    simpa using hgt.le
  have hbehind : left.filter (fun r => key r < key last) = left := by
    refine List.filter_eq_self.2 fun r hr => ?_
    simpa using (List.pairwise_cons.1 hlast).1 r hr
  rw [List.filter_append, hbefore, List.filter_cons_of_neg (by simp), hbehind, List.nil_append]

end

end Payday
