import Mathlib.Algebra.Group.Int.Defs
import Mathlib.Algebra.Group.Nat.Defs
import RecDtn.Bpv7.Checking

/-! Lifetimes in 64-bit arithmetic. -/

namespace RecDtn.Bpv7

open Wire Lang CanonicalBlock List

/-- A number that is not negative loses a multiple of 2⁶⁴ in an `int64`, and
nothing exactly if it fits. -/
theorem exists_bmod_eq {number : Int} (nonneg : 0 ≤ number) :
    ∃ turns : Int, 0 ≤ turns ∧ number.bmod (2 ^ 64) = number - 2 ^ 64 * turns ∧
      (turns = 0 ↔ number < 2 ^ 63) := by
  rw [Int.bmod_def]
  split
  · exact ⟨number / 2 ^ 64, by omega⟩
  · exact ⟨number / 2 ^ 64 + 1, by omega⟩

theorem toInt_toInt64 (number : UInt64) : number.toInt64.toInt = (number.toNat : Int).bmod (2 ^ 64) :=
  BitVec.toInt_eq_toNat_bmod number.toBitVec

namespace DtnTime

theorem toInt_unixMilliseconds (time : DtnTime) :
    time.unixMilliseconds.toInt = ((time.toNat : Int) + 946684800000).bmod (2 ^ 64) := by
  have shift : milliseconds1970To2k.toInt = 946684800000 := by decide
  rw [unixMilliseconds, Int64.toInt_add, toInt_toInt64, shift, Int.bmod_add_bmod]

/-- The split into seconds and nanoseconds loses nothing. -/
theorem time_eq (time : DtnTime) : time.time = time.unixMilliseconds.toInt * 1000000 := by
  have split : ∀ seconds milliseconds : Int,
      seconds * 1000000000 + (milliseconds - seconds * 1000) * 1000000 = milliseconds * 1000000 := by
    intro seconds milliseconds
    omega
  exact split _ _

end DtnTime

theorem lifetimeDuration_eq (lifetime : UInt64) :
    lifetimeDuration lifetime = ((lifetime.toNat : Int) * 1000000).bmod (2 ^ 64) := by
  have factor : (1000000 : Int64).toInt = 1000000 := by decide
  rw [lifetimeDuration, Int64.toInt_mul, toInt_toInt64, factor, Int.bmod_mul_bmod]

namespace Bundle

/-- When the lifetime is over for a bundle with a creation time. -/
def expiry (b : Bundle) : Time :=
  b.primaryBlock.creationTimestamp.dtnTime.time + lifetimeDuration b.primaryBlock.lifetime

/-- A clock that shows this many milliseconds since the start of the year 2000. -/
def clock (now : Int) : Time := (now + 946684800000) * 1000000

/-- At every clock value the lifetime is exceeded exactly if creation time and
lifetime together lie before it. -/
def LifetimeExact (b : Bundle) : Prop :=
  ∀ now : Int, b.isLifetimeExceeded (clock now) = .ok (decide
    ((b.primaryBlock.creationTimestamp.dtnTime.toNat : Int) + b.primaryBlock.lifetime.toNat < now))

variable {b : Bundle} {blocks : List CanonicalBlock} {values : List ExtensionBlock}

theorem isLifetimeExceeded_of_nonzero (nonzero : b.primaryBlock.creationTimestamp.dtnTime ≠ 0)
    (now : Time) : b.isLifetimeExceeded now = .ok (decide (b.expiry < now)) := by
  have timed : b.primaryBlock.creationTimestamp.isZeroTime = false := decide_eq_false nonzero
  rw [isLifetimeExceeded, timed]
  rfl

theorem present_of_values (held : blocks.map CanonicalBlock.value = values.map some) :
    ∀ cb ∈ blocks, cb.Present := by
  intro cb member
  have listed : cb.value ∈ values.map some := by
    rw [← held]
    exact mem_map_of_mem member
  obtain ⟨value, -, same⟩ := mem_map.mp listed
  exact ⟨value, same.symm⟩

theorem values_ofType (held : blocks.map CanonicalBlock.value = values.map some)
    (blockType : UInt64) : (blocks.filter (ofType blockType)).map CanonicalBlock.value =
      (values.filter (·.blockTypeCode == blockType)).map some := by
  have typed : ofType blockType =
      (fun value => decide (value.map ExtensionBlock.blockTypeCode = some blockType)) ∘
        CanonicalBlock.value := rfl
  rw [typed, ← filter_map, held, filter_map]
  congr 2
  funext value
  exact Bool.eq_iff_iff.mpr (by simp)

/-- Without a creation time only the Bundle Age Block counts, and there has to be
exactly one. -/
theorem isLifetimeExceeded_of_zero (zero : b.primaryBlock.creationTimestamp.dtnTime = 0)
    (held : b.extensionBlocks.map CanonicalBlock.value = values.map some) (now : Time) :
    b.isLifetimeExceeded now =
      match values.filter (·.blockTypeCode == BlockType.bundleAgeBlock) with
      | [.bundleAge age] => .ok (decide (age > b.primaryBlock.lifetime))
      | [_] => .error .panic
      | _ => .ok true := by
  have timeless : b.primaryBlock.creationTimestamp.isZeroTime = true := decide_eq_true zero
  have ages := values_ofType held BlockType.bundleAgeBlock
  rw [isLifetimeExceeded, timeless, if_pos rfl]
  rcases extensionBlockByType_cases (present_of_values held) BlockType.bundleAgeBlock with
    ⟨cb, only, found⟩ | ⟨none, cause, failed⟩
  · rw [only] at ages
    obtain ⟨value, single⟩ : ∃ value, values.filter (·.blockTypeCode == BlockType.bundleAgeBlock) = [value] := by
      have length := congrArg List.length ages
      simp only [map_cons, map_nil, length_cons, length_nil, length_map] at length
      exact length_eq_one_iff.mp length.symm
    rw [single] at ages ⊢
    have own : cb.value = some value := by simpa using ages
    rw [found]
    simp only [Go.attempt, Go.ok_bind, own]
    cases value <;> rfl
  · rw [failed]
    generalize values.filter (·.blockTypeCode == BlockType.bundleAgeBlock) = found at ages ⊢
    cases found with
    | nil => rfl
    | cons value others =>
      cases others with
      | nil =>
        obtain ⟨cb, single, -⟩ := map_eq_singleton_iff.mp ages
        exact absurd single (none cb)
      | cons other rest => cases value <;> rfl

theorem isLifetimeExceeded_of_bare {primary : PrimaryBlock}
    (zero : primary.creationTimestamp.isZeroTime = true) (now : Time) :
    (⟨primary, [], .blank⟩ : Bundle).isLifetimeExceeded now = .ok true := by
  rw [isLifetimeExceeded, if_pos zero]
  rfl

end Bundle

open Bpv7.Bundle in
/-- The arithmetic of a bundle with a creation time is exact if and only if
neither the creation time in Unix milliseconds nor the lifetime in nanoseconds
wraps. -/
theorem lifetimeExact_iff {b : Bundle} (nonzero : b.primaryBlock.creationTimestamp.dtnTime ≠ 0) :
    b.LifetimeExact ↔ b.primaryBlock.creationTimestamp.dtnTime.toNat + 946684800000 < 2 ^ 63 ∧
      b.primaryBlock.lifetime.toNat * 1000000 < 2 ^ 63 := by
  have created : (0 : Int) ≤ b.primaryBlock.creationTimestamp.dtnTime.toNat +
      946684800000 := by omega
  have lived : (0 : Int) ≤ b.primaryBlock.lifetime.toNat * 1000000 := by omega
  obtain ⟨lost, positive, start, inRange⟩ := exists_bmod_eq created
  obtain ⟨cut, nonneg, duration, brief⟩ := exists_bmod_eq lived
  have compare : ∀ now : Int, b.expiry < clock now ↔
      ((b.primaryBlock.creationTimestamp.dtnTime.toNat : Int) + 946684800000 - 2 ^ 64 * lost) * 1000000 +
        ((b.primaryBlock.lifetime.toNat : Int) * 1000000 - 2 ^ 64 * cut) < (now + 946684800000) * 1000000 := by
    intro now
    rw [expiry, clock, DtnTime.time_eq, DtnTime.toInt_unixMilliseconds, lifetimeDuration_eq,
      start, duration]
  simp only [LifetimeExact, isLifetimeExceeded_of_nonzero nonzero, Except.ok.injEq,
    decide_eq_decide, compare]
  constructor
  · intro exact
    -- Both wraps only take away, so they show at the moment the lifetime ends.
    have last := exact (b.primaryBlock.creationTimestamp.dtnTime.toNat +
      b.primaryBlock.lifetime.toNat)
    omega
  · intro fits now
    omega

/-- A bundle from the first millisecond of the year 2000, with this lifetime. -/
def earlyBundle (lifetime : UInt64) : Bundle :=
  { plainBundle with primaryBlock := { plainBundle.primaryBlock with lifetime := lifetime } }

theorem earlyBundle_day_exact : (earlyBundle 86400000).LifetimeExact :=
  (lifetimeExact_iff (by decide)).mpr (by decide)

/-- A lifetime of 292 years wraps to a negative duration, and the bundle is over
when it starts. -/
theorem earlyBundle_not_exact : ¬(earlyBundle 9223372036855).LifetimeExact := by
  intro exact
  have start := exact 1
  rw [Bundle.isLifetimeExceeded_of_nonzero (by decide)] at start
  exact absurd (Except.ok.inj start) (by decide +kernel)

end RecDtn.Bpv7
