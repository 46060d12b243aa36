import Mathlib.Data.List.Basic
import Mathlib.Order.Basic

/-! Slices of a sequence, and how to put them together again. -/

namespace RecDtn.Wire

open List

variable {τ : Type}

structure Slice (τ : Type) where
  start : Nat
  data : List τ

variable {last total final : Nat} {slice : Slice τ} {merged : List τ} {slices : List (Slice τ)}
  {whole : List τ} {rest : List (Slice τ)}

namespace Slice

def stop (slice : Slice τ) : Nat := slice.start + slice.data.length

def Holds (slice : Slice τ) (position : Nat) : Prop :=
  slice.start ≤ position ∧ position < slice.stop

theorem start_le_stop (slice : Slice τ) : slice.start ≤ slice.stop := Nat.le_add_right _ _

/-- The slice was cut out of the sequence. -/
structure CutFrom (slice : Slice τ) (whole : List τ) : Prop where
  inside : slice.stop ≤ whole.length
  same : slice.data = (whole.drop slice.start).take slice.data.length

/-- The rest of a slice after a position in it lies there in the sequence. -/
theorem CutFrom.drop (cut : slice.CutFrom whole) (begun : slice.start ≤ last) :
    slice.data.drop (last - slice.start) = (whole.take slice.stop).drop last := by
  have position : slice.start + (last - slice.start) = last := Nat.add_sub_cancel' begun
  rw [cut.same, drop_take, drop_drop, position, drop_take]
  congr 1
  unfold stop
  omega

/-- One slice ends no later than the other if it starts no later. -/
def EndsWith (first second : Slice τ) : Prop :=
  (first.start ≤ second.start → first.stop ≤ second.stop) ∧
    (second.start ≤ first.start → second.stop ≤ first.stop)

theorem EndsWith.symm {first second : Slice τ} (tidy : first.EndsWith second) :
    second.EndsWith first :=
  ⟨tidy.2, tidy.1⟩

end Slice

/-- Every position below `total` lies in some slice. -/
def Covered (slices : List (Slice τ)) (total : Nat) : Prop :=
  ∀ position, position < total → ∃ slice ∈ slices, slice.Holds position

theorem Covered.perm {first second : List (Slice τ)} (same : first.Perm second)
    (covered : Covered first total) : Covered second total := by
  intro position below
  obtain ⟨slice, member, holds⟩ := covered position below
  exact ⟨slice, same.mem_iff.mp member, holds⟩

/-- Go over the slices with the end of the last one, and stop at a gap. -/
def walk : Nat → List (Slice τ) → Option Nat
  | last, [] => some last
  | last, slice :: rest => if last < slice.start then none else walk slice.stop rest

/-- Append to what is there the part of each slice behind the end of the last
one. There is none if that end lies outside the slice. -/
def merge : Nat → List (Slice τ) → Option (List τ)
  | _, [] => some []
  | last, slice :: rest =>
    if slice.start ≤ last ∧ last ≤ slice.stop then
      (merge slice.stop rest).map (slice.data.drop (last - slice.start) ++ ·)
    else none

/-- No slice ends before an earlier one does. -/
def EndsInOrder (slices : List (Slice τ)) : Prop :=
  slices.Pairwise fun first second => first.stop ≤ second.stop

theorem walk_cons :
    walk last (slice :: rest) = some final ↔ slice.start ≤ last ∧
      walk slice.stop rest = some final := by
  by_cases gap : last < slice.start
  · simp [walk, gap, Nat.not_le.mpr gap]
  · simp [walk, gap, Nat.not_lt.mp gap]

theorem merge_cons : merge last (slice :: rest) = some merged ↔ slice.start ≤ last ∧
    last ≤ slice.stop ∧
      ∃ later, merge slice.stop rest = some later ∧ slice.data.drop (last - slice.start) ++ later = merged := by
  by_cases within : slice.start ≤ last ∧ last ≤ slice.stop
  · simp [merge, within]
  · simp only [merge, within, ↓reduceIte, reduceCtorEq, false_iff]
    exact fun found => within ⟨found.1, found.2.1⟩

theorem walk_passes (through : walk last slices = some final) :
    ∀ position, last ≤ position → position < final →
      ∃ slice ∈ slices, slice.Holds position := by
  induction slices generalizing last with
  | nil =>
    intro position above below
    cases through
    exact absurd below (Nat.not_lt.mpr above)
  | cons slice rest ih =>
    obtain ⟨reached, through⟩ := walk_cons.mp through
    intro position above below
    by_cases inside : position < slice.stop
    · exact ⟨slice, by simp, Nat.le_trans reached above, inside⟩
    · obtain ⟨other, member, holds⟩ := ih through position (Nat.not_lt.mp inside) below
      exact ⟨other, by simp [member], holds⟩

theorem covered_of_walk (through : walk 0 slices = some total) : Covered slices total :=
  fun position below => walk_passes through position (Nat.zero_le _) below

/-- Slices in the order of their starts and of their ends are walked through if
they cover what lies ahead. -/
theorem walk_of_ahead (starts : slices.Pairwise fun first second => first.start ≤ second.start)
    (ends : EndsInOrder slices) (later : ∀ slice ∈ slices, last ≤ slice.stop)
    (inside : ∀ slice ∈ slices, slice.stop ≤ total) (reached : last ≤ total)
    (ahead : ∀ position, last ≤ position → position < total →
    ∃ slice ∈ slices, slice.Holds position) : walk last slices = some total := by
  induction slices generalizing last with
  | nil =>
    rcases Nat.lt_or_ge last total with below | done
    · obtain ⟨slice, member, -⟩ := ahead last (Nat.le_refl _) below
      cases member
    · exact congrArg some (Nat.le_antisymm reached done)
  | cons slice rest ih =>
    obtain ⟨startsLater, starts⟩ := pairwise_cons.mp starts
    obtain ⟨endsLater, ends⟩ := pairwise_cons.mp ends
    have stop := inside slice (by simp)
    -- A gap in front of this slice would be a gap in front of all later ones.
    have noGap : slice.start ≤ last := by
      by_contra gap
      have below : last < total := Nat.lt_of_lt_of_le (Nat.not_le.mp gap) (Nat.le_trans slice.start_le_stop stop)
      obtain ⟨other, member, begun, -⟩ := ahead last (Nat.le_refl _) below
      rcases mem_cons.mp member with rfl | member
      · exact gap begun
      · exact gap (Nat.le_trans (startsLater other member) begun)
    refine walk_cons.mpr ⟨noGap,
      ih starts ends endsLater (fun other member => inside other (by simp [member])) stop ?_⟩
    intro position above below
    obtain ⟨other, member, holds⟩ :=
      ahead position (Nat.le_trans (later slice (by simp)) above) below
    rcases mem_cons.mp member with rfl | member
    · exact absurd holds.2 (Nat.not_lt.mpr above)
    · exact ⟨other, member, holds⟩

theorem walk_of_covered (starts : slices.Pairwise fun first second => first.start ≤ second.start)
    (ends : EndsInOrder slices) (inside : ∀ slice ∈ slices, slice.stop ≤ total)
    (covered : Covered slices total) : walk 0 slices = some total :=
  walk_of_ahead starts ends (fun _ _ => Nat.zero_le _) inside (Nat.zero_le _) fun position _ =>
    covered position

theorem merge_isSome_iff (through : walk last slices = some final) :
    (∃ merged, merge last slices = some merged) ↔
      EndsInOrder slices ∧ ∀ slice ∈ slices, last ≤ slice.stop := by
  induction slices generalizing last with
  | nil => simp [merge, EndsInOrder]
  | cons slice rest ih =>
    obtain ⟨begun, through⟩ := walk_cons.mp through
    have later := ih through
    constructor
    · rintro ⟨merged, found⟩
      obtain ⟨-, within, data, found, -⟩ := merge_cons.mp found
      obtain ⟨ends, after⟩ := later.mp ⟨data, found⟩
      refine ⟨pairwise_cons.mpr ⟨after, ends⟩, ?_⟩
      intro other member
      rcases mem_cons.mp member with rfl | member
      · exact within
      · exact Nat.le_trans within (after other member)
    · rintro ⟨ends, after⟩
      obtain ⟨first, ends⟩ := pairwise_cons.mp ends
      obtain ⟨data, found⟩ := later.mpr ⟨ends, first⟩
      exact ⟨_, merge_cons.mpr ⟨begun, after slice (by simp), data, found, rfl⟩⟩

theorem le_of_merge (through : walk last slices = some final)
    (found : merge last slices = some merged) : last ≤ final := by
  induction slices generalizing last merged with
  | nil =>
    cases through
    exact Nat.le_refl _
  | cons slice rest ih =>
    obtain ⟨-, through⟩ := walk_cons.mp through
    obtain ⟨-, within, later, merged, -⟩ := merge_cons.mp found
    exact Nat.le_trans within (ih through merged)

/-- What is merged is the part of the sequence the walk went over. -/
theorem merge_of_cut (cut : ∀ slice ∈ slices, slice.CutFrom whole)
    (through : walk last slices = some final)
    (found : merge last slices = some merged) : merged = (whole.take final).drop last := by
  induction slices generalizing last merged with
  | nil =>
    cases through
    cases found
    simp
  | cons slice rest ih =>
    obtain ⟨begun, through⟩ := walk_cons.mp through
    obtain ⟨-, within, later, joined, rfl⟩ := merge_cons.mp found
    have tail := ih (fun other member => cut other (by simp [member])) through joined
    have ahead : slice.stop ≤ final := le_of_merge through joined
    have split : whole.take final = whole.take slice.stop ++ (whole.take final).drop slice.stop := by
      have halves := take_append_drop slice.stop (whole.take final)
      rw [take_take, Nat.min_eq_left ahead] at halves
      exact halves.symm
    have room : last ≤ (whole.take slice.stop).length := by
      rw [length_take, Nat.min_eq_left (cut slice (by simp)).inside]
      exact within
    rw [(cut slice (by simp)).drop begun, tail]
    nth_rewrite 2 [split]
    rw [drop_append_of_le_length room]

theorem endsInOrder_of_tidy
    (starts : slices.Pairwise fun first second => first.start ≤ second.start)
    (tidy : slices.Pairwise Slice.EndsWith) : EndsInOrder slices :=
  (starts.and tidy).imp fun both => both.2.1 both.1

end RecDtn.Wire
