import Mathlib.Algebra.Group.Int.Defs
import Mathlib.Algebra.Group.Nat.Defs
import Mathlib.Data.List.Pairwise
import Mathlib.Data.List.Sort
import RecDtn.Lang.Go

namespace RecDtn.Lang

/-- `sort.Sort` and `sort.Slice`. The result is a permutation in which no
element is less than an earlier one, if `less` is a strict weak order. Nothing
is said about the order of equal elements. -/
class GoSort where
  sort : {α : Type} → (α → α → Bool) → List α → List α
  perm : ∀ {α : Type} (less : α → α → Bool) (items : List α), (sort less items).Perm items
  sorted : ∀ {α : Type} (less : α → α → Bool) (items : List α),
    (∀ a b, less a b = true → less b a = false) →
    (∀ a b c, less b a = false → less c b = false → less c a = false) →
    (sort less items).Pairwise fun a b => less b a = false

namespace GoSort

/-- A stable sort of the shuffled items keeps the contract, whatever the shuffle. -/
@[reducible] def shuffled (shuffle : {α : Type} → List α → List α)
    (same : ∀ {α : Type} (items : List α), (shuffle items).Perm items) : GoSort where
  sort less items := (shuffle items).insertionSort fun a b => less b a = false
  perm less items := (List.perm_insertionSort _ _).trans (same items)
  sorted := by
    intro α less items asymmetric transitive
    have total : Std.Total fun a b => less b a = false := ⟨fun a b => by
      cases ahead : less b a with
      | false => exact .inl rfl
      | true => exact .inr (asymmetric b a ahead)⟩
    have trans : IsTrans α fun a b => less b a = false := ⟨transitive⟩
    exact List.pairwise_insertionSort _ _

@[reducible] def insertion : GoSort := shuffled id .refl

variable [GoSort] {α : Type}

theorem sort_eq_of_perm {less : α → α → Bool} {items ordered : List α}
    (asymmetric : ∀ a b, less a b = true → less b a = false)
    (transitive : ∀ a b c, less b a = false → less c b = false → less c a = false)
    (same : items.Perm ordered) (strict : ordered.Pairwise fun a b => less a b = true) :
    sort less items = ordered := by
  have permuted : (sort less items).Perm ordered := (perm less items).trans same
  have weak : ordered.Pairwise fun a b => less b a = false := strict.imp (asymmetric _ _)
  refine List.Perm.eq_of_pairwise ?_ (sorted less items asymmetric transitive) weak permuted
  intro a b left right notAfter notBefore
  by_contra different
  have comparable : ordered.Pairwise fun a b => less a b = true ∨ less b a = true := strict.imp .inl
  have symmetric : Std.Symm fun a b => less a b = true ∨ less b a = true := ⟨fun _ _ => Or.symm⟩
  rcases comparable.forall (permuted.mem_iff.mp left) right different with ahead | behind
  · rw [notBefore] at ahead
    cases ahead
  · rw [notAfter] at behind
    cases behind

end GoSort

/-- The heap has 48 address bits. -/
def maxAlloc : Nat := 2 ^ 48

/-- A slice the runtime can hold. -/
def Allocatable {α : Type} (slice : List α) : Prop := slice.length ≤ maxAlloc

theorem toNat_toUInt64 {number : Nat} (fits : number < 2 ^ 64) : number.toUInt64.toNat = number :=
  UInt64.toNat_ofNat_of_lt' fits

/-- `int(number)` of a `uint64`. -/
def intOf (number : UInt64) : Int := number.toBitVec.toInt

theorem intOf_eq {number : UInt64} (fits : number.toNat < 2 ^ 63) : intOf number = number.toNat :=
  BitVec.toInt_eq_toNat_of_lt (by
    have bits : number.toBitVec.toNat = number.toNat := rfl
    omega)

/-- `uint64(number)` of an `int`. -/
def uint64Of (number : Int) : UInt64 := UInt64.ofNat (number % 2 ^ 64).toNat

/-- `slice[low:high]`, which panics if the bounds are not in order or too large. -/
def sliceOf {α : Type} (slice : List α) (low high : Nat) : Go (List α) :=
  if low ≤ high ∧ high ≤ slice.length then .ok ((slice.take high).drop low) else .error .panic

/-- The nearest number with a mantissa of 53 bits, ties to even. -/
def float64 (number : Nat) : Nat :=
  if number < 2 ^ 53 then number
  else
    let shift := Nat.log2 number - 52
    let mantissa := number / 2 ^ shift
    let lost := number % 2 ^ shift
    let up := 2 ^ shift < 2 * lost ∨ (2 ^ shift = 2 * lost ∧ mantissa % 2 = 1)
    (if up then mantissa + 1 else mantissa) * 2 ^ shift

/-- `int(math.Min(float64(a), float64(b)))`. -/
def minFloat64 (a b : Nat) : Nat := min (float64 a) (float64 b)

theorem float64_large {number : Nat} (large : 2 ^ 53 ≤ number) : 2 ^ 53 ≤ float64 number := by
  have log : 53 ≤ Nat.log2 number := (Nat.le_log2 (by omega)).mpr large
  have power : 2 ^ Nat.log2 number ≤ number := Nat.log2_self_le (by omega)
  have shifted : 2 ^ (Nat.log2 number - 52) * 2 ^ 52 ≤ number := by
    rw [← Nat.pow_add, Nat.sub_add_cancel (by omega)]
    exact power
  have mantissa : 2 ^ 52 ≤ number / 2 ^ (Nat.log2 number - 52) :=
    (Nat.le_div_iff_mul_le (Nat.two_pow_pos _)).mpr (by rwa [Nat.mul_comm])
  have factor : 2 ≤ 2 ^ (Nat.log2 number - 52) := by
    calc 2 = 2 ^ 1 := rfl
      _ ≤ _ := Nat.pow_le_pow_right (by decide) (by omega)
  have kept : 2 ^ 53 ≤ number / 2 ^ (Nat.log2 number - 52) * 2 ^ (Nat.log2 number - 52) := by
    calc 2 ^ 53 = 2 ^ 52 * 2 := rfl
      _ ≤ _ := Nat.mul_le_mul mantissa factor
  simp only [float64, Nat.not_lt.mpr large, ↓reduceIte]
  split
  · exact kept.trans (Nat.mul_le_mul_right _ (Nat.le_succ _))
  · exact kept

/-- Against the length of a slice the detour makes no difference. -/
theorem minFloat64_eq {a b : Nat} (bound : b ≤ maxAlloc) : minFloat64 a b = min a b := by
  have small : b < 2 ^ 53 := Nat.lt_of_le_of_lt bound (by decide)
  have exact : float64 b = b := if_pos small
  unfold minFloat64
  by_cases fits : a < 2 ^ 53
  · have same : float64 a = a := if_pos fits
    rw [exact, same]
  · have large := float64_large (Nat.not_lt.mp fits)
    rw [exact, Nat.min_eq_right (by omega), Nat.min_eq_right (by omega)]

/-- `sha256.Sum256`. Where two hashes have to differ, this is an assumption
about the texts at hand. -/
class Sha256 where
  sum256 : List UInt8 → List UInt8

/-- A hash without collisions. -/
@[reducible] def Sha256.identity : Sha256 := ⟨id⟩

/-- The order in which one `range` statement visits the keys of a map. The
language leaves it open. -/
structure RangeOrder (α : Type) where
  visit : List α → List α
  perm : ∀ keys, (visit keys).Perm keys

namespace RangeOrder

def asStored {α : Type} : RangeOrder α := ⟨id, .refl⟩

@[simp] theorem mem_visit {α : Type} (order : RangeOrder α) (keys : List α) (key : α) :
    key ∈ order.visit keys ↔ key ∈ keys :=
  (order.perm keys).mem_iff

end RangeOrder

end RecDtn.Lang

/-! Instances for the examples. -/

namespace RecDtn.Samples

attribute [scoped instance] Lang.GoSort.insertion Lang.Sha256.identity

end RecDtn.Samples
