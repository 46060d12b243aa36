import RecDtn.Bpv7.FragmentSize

/-! Which part of the original payload the fragments say they are. -/

namespace RecDtn.Bpv7

open Wire Lang List

namespace Bundle

/-- Where the payload begins in that of the original bundle. -/
def payloadOffset (b : Bundle) : Nat :=
  if b.isFragment then b.primaryBlock.fragmentOffset.toNat else 0

def originalLength (b : Bundle) : Nat :=
  if b.isFragment then b.primaryBlock.totalDataLength.toNat else b.slice.data.length

/-- Fragments of one original, each of them where the one before it ends. -/
def Consecutive (total : Nat) : Nat → List Bundle → Prop
  | _, [] => True
  | offset, f :: rest => f.isFragment = true ∧ f.primaryBlock.totalDataLength.toNat = total ∧
      f.slice.start = offset ∧ Consecutive total f.slice.stop rest

instance decidableConsecutive (total : Nat) : (offset : Nat) → (bs : List Bundle) →
    Decidable (Consecutive total offset bs)
  | _, [] => inferInstanceAs (Decidable True)
  | _, f :: rest =>
    have := decidableConsecutive total f.slice.stop rest
    inferInstanceAs (Decidable (_ ∧ _ ∧ _ ∧ _))

/-- The first fragment says where all of them begin, and how much there is. -/
theorem Consecutive.unique {total other offset start : Nat} {f : Bundle} {rest : List Bundle}
    (first : Consecutive total offset (f :: rest)) (second : Consecutive other start (f :: rest)) :
    total = other ∧ offset = start :=
  ⟨first.2.1.symm.trans second.2.1, first.2.2.1.symm.trans second.2.2.1⟩

/-- The bundle itself, or fragments in its place. -/
def Covered (b : Bundle) (bs : List Bundle) : Prop :=
  bs ≠ [] ∧ (bs = [b] ∨ Consecutive b.originalLength b.payloadOffset bs ∧
    bs.flatMap (fun f => f.slice.data) = b.slice.data)

instance (b : Bundle) (bs : List Bundle) : Decidable (b.Covered bs) :=
  inferInstanceAs (Decidable (_ ∧ (_ ∨ _ ∧ _)))

/-- Several fragments say the right thing if the bundle has all of the original
payload. -/
theorem Consecutive.covered_iff {b : Bundle} {bs : List Bundle}
    (consecutive : Consecutive b.slice.data.length 0 bs)
    (whole : bs.flatMap (fun f => f.slice.data) = b.slice.data) (some : bs ≠ [])
    (several : bs.length ≠ 1) :
    b.Covered bs ↔ b.originalLength = b.slice.data.length ∧ b.payloadOffset = 0 := by
  constructor
  · rintro ⟨-, alone | ⟨claimed, -⟩⟩
    · exact absurd (congrArg List.length alone) several
    · cases bs with
      | nil => exact absurd rfl some
      | cons f later => exact claimed.unique consecutive
  · rintro ⟨total, offset⟩
    refine ⟨some, .inr ⟨?_, whole⟩⟩
    rw [total, offset]
    exact consecutive

section Fragment

variable [Cboring] [Crc16]

/-- By the estimate, the first fragment has room for the whole payload. -/
def FitsWhole (b : Bundle) (mtu : Int) : Prop :=
  ∃ fragPrimaryBlock primaryOverhead extOverhead,
    fragmentPrimaryBlock b.primaryBlock 0 b.slice.data.length =
      .ok (fragPrimaryBlock, primaryOverhead) ∧
    fragmentExtensionBlocksLen b mtu = .ok extOverhead ∧
    2 + primaryOverhead + extOverhead.1 + b.slice.data.length ≤ mtu

variable [Ed25519] [GoSort] {b f : Bundle} {mtu : Int} {now : Time} {extOverhead : Int × Int}
  {data : List UInt8} {i : Nat} {bs : List Bundle}

/-- What a fragment says about itself. -/
theorem announced_of_fragmentAt {next : Nat} (fits : Allocatable data) (below : i < data.length)
    (answered : b.fragmentAt mtu now extOverhead data i = .ok (f, next)) :
    f.isFragment = true ∧ f.primaryBlock.totalDataLength.toNat = data.length ∧
      f.slice = ⟨i, (data.take (min next data.length)).drop i⟩ ∧ i < next := by
  have bound : data.length ≤ 2 ^ 48 := fits
  obtain ⟨primaryOverhead, carried, primary, -, -, payload, ahead, -⟩ :=
    fragmentAt_eq_ok fits answered
  obtain ⟨crc, shape⟩ := fragmentPrimaryBlock_eq_ok primary
  refine ⟨?_, ?_, ?_, ahead⟩
  · simp only [isFragment, PrimaryBlock.hasFragmentation, shape,
      BundleControlFlags.has_set_isFragment]
  · rw [shape]
    exact toNat_toUInt64 (by omega)
  · have offset : f.primaryBlock.fragmentOffset.toNat = i := by
      rw [shape]
      exact toNat_toUInt64 (by omega)
    simp [slice, payloadData, offset, payload, Except.toOption]

/-- The loop cuts what is left of the payload into consecutive pieces of a
payload that begins at zero. -/
theorem Rounds.consecutive (fits : Allocatable data)
    (rounds : b.Rounds mtu now extOverhead data i bs) :
    Consecutive data.length (min i data.length) bs ∧
      bs.flatMap (fun f => f.slice.data) = data.drop i := by
  induction rounds with
  | done past => exact ⟨trivial, (drop_of_length_le past).symm⟩
  | @round i next f later below first rest ih =>
    obtain ⟨consecutive, remaining⟩ := ih
    obtain ⟨flagged, total, slice, ahead⟩ := announced_of_fragmentAt fits below first
    have stop : f.slice.stop = min next data.length := by
      simp only [slice, Slice.stop, length_drop, length_take]
      omega
    refine ⟨⟨flagged, total, by rw [slice, Nat.min_eq_left (Nat.le_of_lt below)],
      stop ▸ consecutive⟩, ?_⟩
    rw [flatMap_cons, slice, remaining, drop_take]
    by_cases last : data.length ≤ next
    · rw [Nat.min_eq_right last, drop_of_length_le last, append_nil]
      exact take_of_length_le (by rw [length_drop])
    · rw [Nat.min_eq_left (by omega)]
      calc (data.drop i).take (next - i) ++ data.drop next
          = (data.drop i).take (next - i) ++ (data.drop i).drop (next - i) := by
            rw [drop_drop, Nat.add_sub_cancel' (by omega)]
        _ = data.drop i := take_append_drop _ _

theorem Rounds.eq_nil (rounds : b.Rounds mtu now extOverhead data i bs)
    (past : data.length ≤ i) : bs = [] := by
  cases rounds with
  | done _ => rfl
  | round below _ _ => exact absurd below (Nat.not_lt.mpr past)

/-- Nothing is left for a second round if there is room for everything. -/
theorem Rounds.length_of_fitsWhole (rounds : b.Rounds mtu now extOverhead b.slice.data 0 bs)
    (fits : Allocatable b.slice.data) (estimated : fragmentExtensionBlocksLen b mtu = .ok extOverhead)
    (some : b.slice.data ≠ []) (room : b.FitsWhole mtu) : bs.length = 1 := by
  obtain ⟨fragPrimaryBlock, primaryOverhead, other, primary, again, room⟩ := room
  obtain rfl := Except.ok.inj (estimated.symm.trans again)
  cases rounds with
  | done past => exact absurd (eq_nil_of_length_eq_zero (Nat.le_zero.mp past)) some
  | round below first rest =>
    obtain ⟨counted, -, same, -, -, -, -, full⟩ := fragmentAt_eq_ok fits first
    obtain ⟨-, rfl⟩ := Prod.mk.inj (Except.ok.inj (same.symm.trans primary))
    rw [if_pos rfl] at full
    rw [rest.eq_nil (by omega)]
    rfl

/-- And if there is not, one round does not take everything. -/
theorem Rounds.fitsWhole_of_length (rounds : b.Rounds mtu now extOverhead b.slice.data 0 bs)
    (fits : Allocatable b.slice.data) (estimated : fragmentExtensionBlocksLen b mtu = .ok extOverhead)
    (single : bs.length = 1) : b.FitsWhole mtu := by
  obtain ⟨f, next, first, all⟩ := rounds.single single
  obtain ⟨primaryOverhead, -, primary, -, -, -, -, full⟩ := fragmentAt_eq_ok fits first
  rw [if_pos rfl] at full
  exact ⟨_, _, _, primary, estimated, by omega⟩

end Fragment

end Bundle

section

variable [Cboring] [Crc16] [Ed25519] [GoSort]

/-- The fragments stand for the bundle if there is a payload, and the bundle is
whole, or a fragment of all the payload, or goes into one piece. -/
theorem fragment_covered_iff {b : Bundle} {mtu : Int} {now : Time} {bs : List Bundle}
    (fits : Allocatable b.slice.data) (fragmented : b.fragment mtu now = .ok bs) :
    b.Covered bs ↔ b.slice.data ≠ [] ∧ (b.isFragment = false ∨
      (b.primaryBlock.fragmentOffset = 0 ∧
      b.primaryBlock.totalDataLength.toNat = b.slice.data.length) ∨ b.FitsWhole mtu) := by
  obtain ⟨data, extOverhead, pieces, payload, estimated, rounds, result⟩ :=
    Bundle.rounds_of_fragment fragmented
  obtain rfl : b.slice.data = data := by simp [Bundle.slice, payload, Except.toOption]
  by_cases empty : b.slice.data = []
  · have answer : bs = [] := by
      rw [result, rounds.eq_nil (by simp [empty])]
      rfl
    exact iff_of_false (fun covered => covered.1 answer) (fun held => held.1 empty)
  by_cases single : pieces.length = 1
  · -- One piece is replaced by the bundle itself.
    rw [if_pos single] at result
    refine iff_of_true ⟨by rw [result]; exact cons_ne_nil _ _, .inl result⟩ ⟨empty,
      .inr (.inr ?_)⟩
    exact rounds.fitsWhole_of_length fits estimated single
  · rw [if_neg single] at result
    subst result
    have tight : ¬b.FitsWhole mtu :=
      fun room => single (rounds.length_of_fitsWhole fits estimated empty room)
    obtain ⟨consecutive, whole⟩ := rounds.consecutive fits
    have some : bs ≠ [] := by
      rintro rfl
      exact empty whole.symm
    rw [Nat.zero_min] at consecutive
    rw [consecutive.covered_iff whole some single]
    simp only [ne_eq, empty, not_false_eq_true, true_and, tight, or_false]
    cases kind : b.isFragment with
    | false => simp [Bundle.originalLength, Bundle.payloadOffset, kind]
    | true =>
      have zero : b.primaryBlock.fragmentOffset.toNat = 0 ↔ b.primaryBlock.fragmentOffset = 0 :=
        @UInt64.toNat_inj b.primaryBlock.fragmentOffset 0
      simp [Bundle.originalLength, Bundle.payloadOffset, kind, zero, and_comm]

end

open scoped Samples

theorem largeBundle_covered : ∃ bs, largeBundle.fragment 100 0 = .ok bs ∧ bs.length = 2 ∧
    largeBundle.Covered bs := by
  obtain ⟨bs, fragmented, length⟩ := largeBundle_fragments
  refine ⟨bs, fragmented, length, ?_⟩
  exact (fragment_covered_iff (Nat.le_of_ble_eq_true rfl) fragmented).mpr ⟨by decide, .inl rfl⟩

/-- The bytes 10 to 19 of a payload of 30 bytes. -/
def middleBundle : Bundle := { largeBundle with
  primaryBlock := { largeBundle.primaryBlock with
    bundleControlFlags := BundleControlFlags.isFragment, fragmentOffset :=
      10, totalDataLength := 30 } }

def hollowBundle : Bundle := { largeBundle with
  payloadBlock := { largeBundle.payloadBlock with value := some (.payload []) } }

theorem middleBundle_not_covered :
    (middleBundle.checkValid 0 = .ok [] ∧
      ∃ bs, middleBundle.fragment 100 0 = .ok bs ∧ bs.map (fun f => f.slice.start) = [0, 2] ∧
        ¬middleBundle.Covered bs) ∧
    hollowBundle.checkValid 0 = .ok [] ∧ hollowBundle.fragment 100 0 = .ok [] ∧
      ¬hollowBundle.Covered [] := by
  refine ⟨⟨rfl, ?_⟩, rfl, rfl, fun covered => covered.1 rfl⟩
  have outcome : (middleBundle.fragment 100 0).toOption.map
      (fun bs => (bs.map (fun f => f.slice.start), decide (middleBundle.Covered bs))) = some ([0, 2], false) := by
    decide +kernel
  obtain ⟨bs, fragmented, found⟩ := Go.toOption_map_eq_some.mp outcome
  obtain ⟨starts, uncovered⟩ := Prod.mk.inj found
  exact ⟨bs, fragmented, starts, of_decide_eq_false uncovered⟩

end RecDtn.Bpv7
