import Mathlib.Data.List.Sort

namespace RecDtn.Lang

open List

variable {α : Type} {weight : α → Nat} {items : List α}

/-- Items of the same weight keep their order. -/
def ranked (weight : α → Nat) (items : List α) : List α :=
  items.insertionSort fun first second => weight second ≤ weight first

@[simp] theorem mem_ranked {item : α} : item ∈ ranked weight items ↔ item ∈ items :=
  mem_insertionSort _

theorem ranked_eq_nil : ranked weight items = [] ↔ items = [] := by
  rw [← length_eq_zero_iff, ← length_eq_zero_iff, ranked, length_insertionSort]

theorem perm_ranked (weight : α → Nat) (items : List α) : (ranked weight items).Perm items :=
  perm_insertionSort _ items

theorem pairwise_ranked (weight : α → Nat) (items : List α) :
    (ranked weight items).Pairwise fun first second => weight second ≤ weight first := by
  let heavier : α → α → Prop := fun first second => weight second ≤ weight first
  have total : Std.Total heavier := ⟨fun a b => Nat.le_total (weight b) (weight a)⟩
  have trans : IsTrans α heavier := ⟨fun a b c above below => Nat.le_trans below above⟩
  exact pairwise_insertionSort heavier items

/-- No item is heavier than the first one. -/
theorem weight_le_of_ranked {first : α} {rest : List α}
    (order : ranked weight items = first :: rest)
    {item : α} (member : item ∈ items) : weight item ≤ weight first := by
  have sorted := pairwise_ranked weight items
  rw [order] at sorted
  rcases mem_cons.mp (order ▸ mem_ranked.mpr member) with rfl | later
  · exact Nat.le_refl _
  · exact (pairwise_cons.mp sorted).1 item later

/-- Only the weights of the items themselves matter. -/
theorem ranked_congr {other : α → Nat} (same : ∀ item ∈ items, weight item = other item) :
    ranked weight items = ranked other items := by
  have mapped := map_insertionSort (fun first second => weight second ≤ weight first)
    (fun first second => other second ≤ other first) id items
    fun first firstIn second secondIn => by simp [same first firstIn, same second secondIn]
  simpa [ranked] using mapped

theorem ranked_eq_of_pairwise {ordered : List α} (perm : items.Perm ordered)
    (order : ordered.Pairwise fun first second => weight second ≤ weight first)
    (distinct : ∀ first ∈ items, ∀ second ∈ items, weight first = weight second →
    first = second) : ranked weight items = ordered := by
  refine ((perm_ranked weight items).trans perm).eq_of_pairwise ?_
    (pairwise_ranked weight items) order
  intro first second firstIn secondIn below above
  exact distinct first (mem_ranked.mp firstIn) second (perm.mem_iff.mpr secondIn)
    (Nat.le_antisymm above below)

/-- Then it does not matter in which order they come. -/
theorem ranked_eq_of_perm {others : List α} (perm : items.Perm others)
    (distinct : ∀ first ∈ items, ∀ second ∈ items, weight first = weight second →
    first = second) : ranked weight items = ranked weight others :=
  ranked_eq_of_pairwise (perm.trans (perm_ranked weight others).symm)
    (pairwise_ranked weight others) distinct

/-- The items with one more at the place that its weight gives it. -/
def placed (weight : α → Nat) (item : α) (items : List α) : List α :=
  items.orderedInsert (fun first second => weight second ≤ weight first) item

theorem exists_placed (weight : α → Nat) (item : α) (items : List α) :
    ∃ first second, items = first ++ second ∧
      placed weight item items = first ++ item :: second := by
  refine ⟨_, _, ?_, orderedInsert_eq_take_drop _ item items⟩
  exact (takeWhile_append_dropWhile ..).symm

/-- If no two items weigh the same, one more item goes to its place and the
others stay where they are, in whatever order they came. -/
theorem ranked_eq_placed {item : α} {more : List α} (perm : more.Perm (item :: items))
    (distinct : ∀ first ∈ more, ∀ second ∈ more, weight first = weight second →
    first = second) : ranked weight more = placed weight item (ranked weight items) := by
  let heavier : α → α → Prop := fun first second => weight second ≤ weight first
  have total : Std.Total heavier := ⟨fun a b => Nat.le_total (weight b) (weight a)⟩
  have trans : IsTrans α heavier := ⟨fun a b c above below => Nat.le_trans below above⟩
  have order : (placed weight item (ranked weight items)).Pairwise heavier :=
    List.Pairwise.orderedInsert item _ (pairwise_ranked weight items)
  have inserted : (placed weight item (ranked weight items)).Perm (item :: ranked weight items) :=
    perm_orderedInsert heavier item _
  have members : more.Perm (placed weight item (ranked weight items)) :=
    perm.trans (((perm_ranked weight items).cons item).symm.trans inserted.symm)
  exact ranked_eq_of_pairwise members order distinct

/-- Beyond the cut nothing matters. -/
theorem take_placed (weight : α → Nat) (item : α) (items : List α) (count : Nat) :
    (placed weight item (items.take count)).take count = (placed weight item items).take count := by
  induction items generalizing count with
  | nil => rw [take_nil]
  | cons head rest ih =>
    cases count with
    | zero => rfl
    | succ count =>
      rw [take_succ_cons]
      unfold placed at ih ⊢
      rw [orderedInsert_cons, orderedInsert_cons]
      split
      · have cut : ((head :: rest).take (count + 1)).take count = (head :: rest).take count := by
          rw [take_take, Nat.min_eq_left (Nat.le_succ count)]
        exact congrArg (item :: ·) cut
      · rw [take_succ_cons, take_succ_cons, ih]

/-- One more item does not make it into the first ones, or it drives out at most
one of them. -/
theorem take_placed_cases (weight : α → Nat) (item : α) (items : List α) (count : Nat) :
    (placed weight item items).take count = items.take count ∨ ∃ first second gone,
        gone.length ≤ 1 ∧ (placed weight item items).take count = first ++ item :: second ∧
        items.take count = first ++ second ++ gone := by
  obtain ⟨first, second, split, inserted⟩ := exists_placed weight item items
  rw [inserted, split]
  by_cases early : count ≤ first.length
  · left
    rw [take_append_of_le_length early, take_append_of_le_length early]
  · obtain ⟨left, rfl⟩ : ∃ left, count = first.length + (left + 1) :=
      ⟨count - first.length - 1, by omega⟩
    right
    refine ⟨first, second.take left, second[left]?.toList, ?_, ?_, ?_⟩
    · cases second[left]? with
      | none => exact Nat.zero_le 1
      | some last => exact Nat.le_refl 1
    · rw [take_length_add_append, take_succ_cons]
    · rw [take_length_add_append, take_add_one, append_assoc]

end RecDtn.Lang
