/-
# Chains of checks

A function that checks one thing after another returns the first error.  That it succeeds means that
every check passed: the lemmas here turn a successful chain into the facts it checked, and back.
-/
import Mathlib.Data.List.Forall2
import Mathlib.Tactic.Common

namespace Payday

variable {ε : Type*} {α β : Type}

/-- Fail with the error unless the condition holds. -/
def require (condition : Prop) [Decidable condition] (error : ε) : Except ε Unit :=
  if condition then .ok () else .error error

/-- The value, or the error when there is none. -/
def orError (error : ε) : Option α → Except ε α
  | some value => .ok value
  | none => .error error

@[simp] lemma require_eq_ok {condition : Prop} [Decidable condition] {error : ε} {u : Unit} :
    require condition error = .ok u ↔ condition := by
  unfold require
  split
  · rename_i h
    exact ⟨fun _ => h, fun _ => rfl⟩
  · rename_i h
    exact ⟨(fun heq => by cases heq), fun hc => absurd hc h⟩

@[simp] lemma orError_eq_ok {error : ε} {value : Option α} {a : α} :
    orError error value = .ok a ↔ value = some a := by
  cases value <;> simp [orError]

/-- A chain succeeds when its first part does and the rest does on its value. -/
lemma bind_eq_ok {x : Except ε α} {f : α → Except ε β} {b : β} :
    (x >>= f) = .ok b ↔ ∃ a, x = .ok a ∧ f a = .ok b := by
  cases x with
  | error e =>
    refine ⟨fun h => ?_, fun ⟨a, ha, _⟩ => ?_⟩
    · cases h
    · cases ha
  | ok a =>
    refine ⟨fun h => ⟨a, rfl, h⟩, fun ⟨a', ha', h⟩ => ?_⟩
    cases ha'
    exact h

lemma pure_eq_ok {a b : α} : (pure a : Except ε α) = .ok b ↔ a = b := by
  refine ⟨fun h => ?_, fun h => ?_⟩
  · cases h
    rfl
  · rw [h]
    rfl

/-- A check in front of a chain. -/
lemma require_bind_eq_ok {condition : Prop} [Decidable condition] {error : ε} {f : Unit → Except ε β} {b : β} :
    (require condition error >>= f) = .ok b ↔ condition ∧ f () = .ok b := by
  rw [bind_eq_ok]
  refine ⟨fun ⟨_, hc, h⟩ => ⟨require_eq_ok.1 hc, h⟩, fun ⟨hc, h⟩ => ⟨(), require_eq_ok.2 hc, h⟩⟩

/-- A value in front of a chain. -/
lemma orError_bind_eq_ok {error : ε} {value : Option α} {f : α → Except ε β} {b : β} :
    (orError error value >>= f) = .ok b ↔ ∃ a, value = some a ∧ f a = .ok b := by
  simp only [bind_eq_ok, orError_eq_ok]

lemma mapError_eq_ok {ε' : Type*} {f : ε → ε'} {x : Except ε α} {a : α} :
    x.mapError f = .ok a ↔ x = .ok a := by
  cases x <;> simp [Except.mapError]

lemma toOption_eq_some {x : Except ε α} {a : α} : x.toOption = some a ↔ x = .ok a := by
  cases x <;> simp [Except.toOption]

lemma map_eq_ok {f : α → β} {x : Except ε α} {b : β} : x.map f = .ok b ↔ ∃ a, x = .ok a ∧ f a = b := by
  cases x <;> simp [Except.map]

/-- What holds at the start of a loop and is kept by every round that succeeds holds at its end. -/
lemma foldlM_invariant (inv : β → Prop) {f : β → α → Except ε β} {xs : List α} {b b' : β}
    (h : xs.foldlM f b = .ok b') (hb : inv b)
    (hstep : ∀ x ∈ xs, ∀ b b', inv b → f b x = .ok b' → inv b') : inv b' := by
  induction xs generalizing b with
  | nil =>
    cases h
    exact hb
  | cons x xs ih =>
    rw [List.foldlM_cons, bind_eq_ok] at h
    obtain ⟨b₁, h₁, h⟩ := h
    exact ih h (hstep x (List.mem_cons_self ..) b b₁ hb h₁) fun y hy => hstep y (List.mem_cons_of_mem _ hy)

/-- A loop that collects its results succeeds when every round does. -/
lemma mapM_eq_ok {f : α → Except ε β} {xs : List α} {ys : List β} :
    xs.mapM f = .ok ys ↔ List.Forall₂ (fun x y => f x = .ok y) xs ys := by
  induction xs generalizing ys with
  | nil =>
    rw [List.mapM_nil, pure_eq_ok, List.forall₂_nil_left_iff]
    exact eq_comm
  | cons x xs ih =>
    rw [List.mapM_cons, bind_eq_ok, List.forall₂_cons_left_iff]
    constructor
    · rintro ⟨y, hy, h⟩
      obtain ⟨rest, hrest, h⟩ := bind_eq_ok.1 h
      exact ⟨y, rest, hy, ih.1 hrest, (pure_eq_ok.1 h).symm⟩
    · rintro ⟨y, rest, hy, hrest, rfl⟩
      exact ⟨y, hy, bind_eq_ok.2 ⟨rest, ih.2 hrest, rfl⟩⟩

lemma exists_mapM_ok {f : α → Except ε β} {xs : List α} (h : ∀ x ∈ xs, ∃ y, f x = .ok y) :
    ∃ ys, xs.mapM f = .ok ys := by
  induction xs with
  | nil => exact ⟨[], rfl⟩
  | cons x xs ih =>
    obtain ⟨y, hy⟩ := h x (List.mem_cons_self ..)
    obtain ⟨ys, hys⟩ := ih fun x' hx' => h x' (List.mem_cons_of_mem _ hx')
    exact ⟨y :: ys, mapM_eq_ok.2 (.cons hy (mapM_eq_ok.1 hys))⟩

lemma exists_of_mem_right {R : α → β → Prop} {xs : List α} {ys : List β} (h : List.Forall₂ R xs ys) {y : β}
    (hy : y ∈ ys) : ∃ x ∈ xs, R x y := by
  obtain ⟨i, hi, rfl⟩ := List.getElem_of_mem hy
  have hxs : i < xs.length := by rwa [h.length_eq]
  exact ⟨xs[i], List.getElem_mem hxs, h.get hxs hi⟩

/-- Each result of a loop is that of a round. -/
lemma exists_of_mem_mapM {f : α → Except ε β} {xs : List α} {ys : List β} (h : xs.mapM f = .ok ys) {y : β}
    (hy : y ∈ ys) : ∃ x ∈ xs, f x = .ok y :=
  exists_of_mem_right (mapM_eq_ok.1 h) hy

/-- Each round of a loop has its result. -/
lemma exists_mem_mapM {f : α → Except ε β} {xs : List α} {ys : List β} (h : xs.mapM f = .ok ys) {x : α}
    (hx : x ∈ xs) : ∃ y ∈ ys, f x = .ok y := by
  have hflip : List.Forall₂ (fun y x => f x = .ok y) ys xs := (mapM_eq_ok.1 h).flip
  exact exists_of_mem_right hflip hx

/-- A loop over checks. -/
lemma forM_eq_ok {f : α → Except ε Unit} {xs : List α} {u : Unit} :
    xs.forM f = .ok u ↔ ∀ x ∈ xs, f x = .ok () := by
  induction xs with
  | nil => exact ⟨fun _ _ hx => (by cases hx), fun _ => rfl⟩
  | cons x xs ih =>
    rw [List.forM, bind_eq_ok, List.forall_mem_cons]
    exact ⟨fun ⟨_, hx, h⟩ => ⟨hx, ih.1 h⟩, fun ⟨hx, h⟩ => ⟨(), hx, ih.2 h⟩⟩

end Payday
