import RecDtn.Lang.Runtime

/-! Places in an input, and the two ways to leave out what comes next. -/

namespace RecDtn.Lang

open Wire

/-- A place in an input. A seek can leave it behind the end, where every read
meets the end of the input. -/
structure Place where
  whole : List UInt8
  position : Nat

namespace Place

variable {place : Place} {used rest : List UInt8}

def start (input : List UInt8) : Place := ⟨input, 0⟩

/-- What is still to be read. -/
def pending (place : Place) : List UInt8 := place.whole.drop place.position

def forward (place : Place) (count : Nat) : Place := { place with position := place.position + count }

/-- The place after a read that has left `rest`. -/
def left (place : Place) (rest : List UInt8) : Place :=
  place.forward (place.pending.length - rest.length)

theorem pending_forward (place : Place) (count : Nat) :
    (place.forward count).pending = place.pending.drop count := by
  simp [pending, forward, List.drop_drop]

theorem pending_left (split : place.pending = used ++ rest) : (place.left rest).pending = rest := by
  rw [left, pending_forward, split]
  simp

def between (front rest : List UInt8) : Place := ⟨front ++ rest, front.length⟩

@[simp] theorem pending_between (front rest : List UInt8) : (between front rest).pending = rest := by
  simp [between, pending]

theorem start_eq_between (input : List UInt8) : start input = between [] input := rfl

theorem forward_between (front used rest : List UInt8) :
    (between front (used ++ rest)).forward used.length = between (front ++ used) rest := by
  simp [between, forward]

theorem left_between (front used rest : List UInt8) :
    (between front (used ++ rest)).left rest = between (front ++ used) rest := by
  rw [left, pending_between, List.length_append, Nat.add_sub_cancel, forward_between]

end Place

/-- What stands behind an `io.Reader`: one that is an `io.Seeker` too and takes
offsets up to a limit, or one that can only be read on. -/
inductive Source where
  | seekable (limit : Nat)
  | stream

namespace Source

variable {source : Source} {length : UInt64} {place : Place}

/-- `Seek(int64(length), io.SeekCurrent)`, or `io.CopyN(io.Discard, r, int64(length))`. -/
def skip (source : Source) (length : UInt64) (place : Place) : Go Place :=
  match source with
  | .seekable limit =>
    let target := place.position + intOf length
    if 0 ≤ target ∧ target ≤ limit then .ok { place with position := target.toNat }
    else .error (.error (.text "invalid argument"))
  | .stream =>
    -- a count below zero copies nothing and is no error
    if place.pending.length < intOf length then .error (.error .eof)
    else .ok (place.forward (intOf length).toNat)

/-- The source has as many bytes ahead as the length says. A seek only asks for
the limit, and the count of a copy is negative from `2 ^ 63` on. -/
def Covers : Source → UInt64 → Place → Prop
  | .seekable limit, length, place =>
    length.toNat < 2 ^ 63 ∧ place.position + length.toNat ≤ limit
  | .stream, length, place => length.toNat < 2 ^ 63 → length.toNat ≤ place.pending.length

/-- An input whose every place has an offset. -/
def Holds (source : Source) (input : List UInt8) : Prop :=
  input.length < 2 ^ 63 ∧ ∀ limit, source = .seekable limit → input.length ≤ limit

private theorem intOf_negative (large : ¬length.toNat < 2 ^ 63) : intOf length < 0 := by
  have bits : length.toBitVec.toNat = length.toNat := rfl
  have bound := length.toNat_lt
  rw [intOf, BitVec.toInt_eq_toNat_cond]
  split <;> omega

theorem skip_of_covers (covers : source.Covers length place) (fits : length.toNat < 2 ^ 63) :
    source.skip length place = .ok (place.forward length.toNat) := by
  cases source with
  | seekable limit =>
    have bound := covers.2
    simp only [skip, intOf_eq fits]
    have target : (place.position + length.toNat : Int).toNat = place.position + length.toNat := by omega
    rw [if_pos (by omega), target]
    rfl
  | stream =>
    have bound := covers fits
    simp only [skip, intOf_eq fits]
    rw [if_neg (by omega), Int.toNat_natCast]

/-- A length is covered exactly if leaving out that much goes on from a place
that is not before the one it started at. -/
theorem covers_iff_skip_forward : source.Covers length place ↔
    ∃ next, source.skip length place = .ok next ∧ place.position ≤ next.position := by
  by_cases fits : length.toNat < 2 ^ 63
  · constructor
    · intro covers
      exact ⟨_, skip_of_covers covers fits, Nat.le_add_right _ _⟩
    · rintro ⟨next, skipped, -⟩
      cases source with
      | seekable limit =>
        simp only [skip, intOf_eq fits] at skipped
        split at skipped
        · exact ⟨fits, by omega⟩
        · cases skipped
      | stream =>
        simp only [skip, intOf_eq fits] at skipped
        split at skipped
        · cases skipped
        · intro _
          omega
  · have negative := intOf_negative fits
    cases source with
    | seekable limit =>
      refine ⟨fun covers => absurd covers.1 fits, ?_⟩
      rintro ⟨next, skipped, onward⟩
      simp only [skip] at skipped
      split at skipped
      · cases skipped
        simp only at onward
        omega
      · cases skipped
    | stream =>
      refine ⟨fun _ => ⟨place.forward (intOf length).toNat, ?_, Nat.le_add_right _ _⟩,
        fun _ small => absurd small fits⟩
      exact if_neg (by omega)

theorem skip_between (front data rest : List UInt8) (holds : source.Holds (front ++ (data ++ rest))) :
    source.skip data.length.toUInt64 (.between front (data ++ rest)) =
      .ok (.between (front ++ data) rest) := by
  obtain ⟨small, inside⟩ := holds
  simp only [List.length_append] at small inside
  have same : data.length.toUInt64.toNat = data.length := toNat_toUInt64 (by omega)
  have covers : source.Covers data.length.toUInt64 (.between front (data ++ rest)) := by
    cases source with
    | seekable limit =>
      have bound := inside limit rfl
      exact ⟨by omega, by simp only [Place.between]; omega⟩
    | stream =>
      intro _
      simp [same]
  rw [skip_of_covers covers (by omega), same, Place.forward_between]

/-- Going on from a place that is not before another one, no more is pending. -/
theorem pending_of_skip (skipped : source.skip length place = .ok next)
    (onward : place.position ≤ next.position) : next.pending.length ≤ place.pending.length := by
  have whole : next.whole = place.whole := by
    cases source with
    | seekable limit | stream =>
      simp only [skip] at skipped
      split at skipped <;> cases skipped
      rfl
  simp only [Place.pending, whole, List.length_drop]
  omega

/-- A place that cannot be reached is reported by a plain error. -/
theorem skip_eq_error (failed : source.skip length place = .error fault) :
    ∃ message, fault = .error (.text message) := by
  cases source with
  | seekable limit =>
    simp only [skip] at failed
    split at failed
    · cases failed
    · cases failed
      exact ⟨_, rfl⟩
  | stream =>
    simp only [skip] at failed
    split at failed
    · cases failed
      exact ⟨_, rfl⟩
    · cases failed

end Source

end RecDtn.Lang
