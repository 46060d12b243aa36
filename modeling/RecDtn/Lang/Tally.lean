import Mathlib.Algebra.GroupWithZero.Nat
import Mathlib.Algebra.Order.BigOperators.Group.List
import Mathlib.Algebra.Order.Group.Nat
import Mathlib.Data.List.Sort

/-! Sums over a list of which one place changes. -/

namespace RecDtn.Lang

open List

variable {α : Type}

def tally (amount : α → Nat) (items : List α) : Nat := (items.map amount).sum

variable {amount other : α → Nat} {items : List α} {position : Nat} {old new : α}

@[simp] theorem tally_nil : tally amount [] = 0 := rfl

@[simp] theorem tally_cons (item : α) (rest : List α) :
    tally amount (item :: rest) = amount item + tally amount rest := sum_cons

@[simp] theorem tally_append (first second : List α) :
    tally amount (first ++ second) = tally amount first + tally amount second := by
  rw [tally, map_append, sum_append]
  rfl

theorem tally_add : tally (fun item => amount item + other item) items =
    tally amount items + tally other items := by
  induction items with
  | nil => rfl
  | cons item rest ih =>
    simp only [tally_cons, ih]
    omega

theorem tally_map {β : Type} (read : β → α) (values : List β) :
    tally amount (values.map read) = tally (fun value => amount (read value)) values := by
  rw [tally, map_map]
  rfl

theorem tally_set (held : items[position]? = some old) :
    tally amount (items.set position new) + amount old = tally amount items + amount new := by
  induction items generalizing position with
  | nil => cases held
  | cons item rest ih =>
    cases position with
    | zero =>
      cases held
      simp only [set_cons_zero, tally_cons]
      omega
    | succ position =>
      have later := ih held
      simp only [set_cons_succ, tally_cons]
      omega

variable {first second : List α} {weight : Nat → Nat} {start : Nat} {numbers : List Nat}

theorem tally_perm (same : first.Perm second) : tally amount first = tally amount second :=
  (same.map amount).sum_eq

theorem tally_eraseIdx (held : items[position]? = some old) :
    tally amount (items.eraseIdx position) + amount old = tally amount items := by
  obtain ⟨inside, rfl⟩ := List.getElem?_eq_some_iff.mp held
  have split : (items[position] :: items.eraseIdx position).Perm items :=
    getElem_cons_eraseIdx_perm inside
  rw [← tally_perm split, tally_cons, Nat.add_comm]

theorem le_tally (member : old ∈ items) : amount old ≤ tally amount items :=
  le_sum_of_mem (mem_map_of_mem member)

theorem tally_eq_zero : tally amount items = 0 ↔ ∀ item ∈ items, amount item = 0 := by
  rw [tally, sum_eq_zero_iff, forall_mem_map]

theorem tally_le (less : ∀ item ∈ items, amount item ≤ other item) :
    tally amount items ≤ tally other items :=
  sum_le_sum less

theorem tally_sublist (fewer : first.Sublist second) : tally amount first ≤ tally amount second :=
  (fewer.map amount).sum_le_sum fun _ _ => Nat.zero_le _

/-- In increasing order, the numbers run ahead of those that are counted up. -/
private theorem tally_range'_of_increasing (monotone : Monotone weight)
    (increasing : numbers.Pairwise (· < ·)) (above : ∀ number ∈ numbers, start ≤ number) :
    tally weight (List.range' start numbers.length) ≤ tally weight numbers := by
  induction numbers generalizing start with
  | nil => exact Nat.le_refl _
  | cons number rest ih =>
    obtain ⟨ahead, later⟩ := pairwise_cons.mp increasing
    have first : start ≤ number := above number mem_cons_self
    have further : ∀ next ∈ rest, start + 1 ≤ next := by
      intro next member
      have larger := ahead next member
      omega
    rw [length_cons, range'_succ, tally_cons, tally_cons]
    exact Nat.add_le_add (monotone first) (ih later further)

/-- Distinct numbers weigh at least as much as the first ones of their count. -/
theorem tally_range'_le (monotone : Monotone weight) (distinct : numbers.Nodup)
    (above : ∀ number ∈ numbers, start ≤ number) :
    tally weight (List.range' start numbers.length) ≤ tally weight numbers := by
  have same := perm_insertionSort (· ≤ ·) numbers
  have increasing : (numbers.insertionSort (· ≤ ·)).Pairwise (· < ·) := by
    have sorted := pairwise_insertionSort (· ≤ ·) numbers
    refine (sorted.and (same.nodup_iff.mpr distinct)).imp ?_
    intro first second both
    exact Nat.lt_of_le_of_ne both.1 both.2
  rw [← tally_perm same, ← same.length_eq]
  refine tally_range'_of_increasing monotone increasing ?_
  intro number member
  exact above number (same.mem_iff.mp member)

end RecDtn.Lang
