import RecDtn.Bpv7.Bundle

/-! When the validity check of a bundle finishes. -/

namespace RecDtn.Bpv7

open Wire Lang BlockType List CanonicalBlock Go

section Encoding

variable [Cboring]

theorem EndpointID.settled_marshalCbor (eid : EndpointID) : Settled eid.marshalCbor := by
  cases valid : eid.checkValid with
  | none =>
    obtain ⟨written, marshalled⟩ := EndpointID.marshalCbor_of_valid valid
    rw [marshalled]
    exact .ok written
  | some cause =>
    intro fault failed
    simp only [EndpointID.marshalCbor, valid, Go.check, error_bind, Except.error.injEq] at failed
    exact ⟨cause, failed.symm⟩

theorem ExtensionBlock.settled_marshalEntries (write : UInt64 → List UInt8)
    (entries : List (EndpointID × UInt64)) : Settled (marshalEntries write entries) := by
  induction entries with
  | nil => exact .ok []
  | cons entry rest ih =>
    exact settled_bind entry.1.settled_marshalCbor fun _ => settled_bind ih fun _ => .ok _

theorem ExtensionBlock.settled_writeBlock (block : ExtensionBlock) : Settled block.writeBlock := by
  refine settled_bind (settled_wrap ?_ _) fun _ => .ok _
  cases block with
  | previousNode endpoint => exact endpoint.settled_marshalCbor
  | dtlsr id timestamp peers =>
    exact settled_bind id.settled_marshalCbor fun _ =>
      settled_bind (settled_marshalEntries _ _) fun _ => .ok _
  | prophet predictabilities => exact settled_bind (settled_marshalEntries _ _) fun _ => .ok _
  | _ => exact .ok _

variable [Crc16]

theorem settled_appendCRC (crcType : CRCType) (fields : List UInt8) :
    Settled (appendCRC crcType fields) := by
  unfold appendCRC
  split
  · exact .ok _
  · exact settled_bind (settled_ofExcept _) fun _ => .ok _

theorem PrimaryBlock.settled_marshalCbor (pb : PrimaryBlock) : Settled pb.marshalCbor := by
  have endpoint : ∀ eid : EndpointID, Settled (Go.wrap "EndpointID failed" eid.marshalCbor) :=
    fun eid => settled_wrap eid.settled_marshalCbor _
  refine settled_bind ?_ fun fields => settled_bind (settled_appendCRC _ _) fun _ => .ok _
  exact settled_bind (endpoint _) fun _ => settled_bind (endpoint _) fun _ =>
    settled_bind (endpoint _) fun _ => .ok _

end Encoding

variable {causes : List GoError}

namespace CanonicalBlock

/-- The block holds a value. -/
def Present (cb : CanonicalBlock) : Prop := ∃ value, cb.value = some value

def ofType (blockType : UInt64) (cb : CanonicalBlock) : Bool :=
  cb.value.map ExtensionBlock.blockTypeCode = some blockType

def isPayload (cb : CanonicalBlock) : Bool := cb.ofType BlockType.payloadBlock

variable {cb : CanonicalBlock} {value : ExtensionBlock}

theorem typeCode_of_present (present : cb.value = some value) :
    cb.typeCode = .ok value.blockTypeCode := by
  simp [typeCode, present, Go.deref, pure, Except.pure]

theorem checkValid_of_present (present : cb.value = some value) :
    ∃ causes, cb.checkValid = .ok causes := by
  simp [checkValid, present, Go.deref, pure, Except.pure]

theorem checkValid_of_absent (absent : cb.value = none) : cb.checkValid = .error .panic := by
  simp [checkValid, absent, Go.deref]

theorem Managed.present (managed : cb.Managed) : cb.Present :=
  let ⟨value, held, _⟩ := managed
  ⟨value, held⟩

theorem Faithful.present (faithful : cb.Faithful) : cb.Present := faithful.managed.present

theorem present_of_checkValid (checked : cb.checkValid = .ok causes) : cb.Present := by
  cases held : cb.value with
  | some value => exact ⟨value, held⟩
  | none =>
    rw [checkValid_of_absent held] at checked
    cases checked

theorem blockNumber_of_payload (held : cb.value = some value)
    (code : value.blockTypeCode = BlockType.payloadBlock)
    (valid : cb.checkValid = .ok []) : cb.blockNumber = 1 := by
  by_contra other
  simp [checkValid, held, Go.deref, code, other, pure, Except.pure] at valid

theorem settled_marshalCbor [Cboring] [Crc16] (present : cb.Present) : Settled cb.marshalCbor := by
  obtain ⟨value, held⟩ := present
  have pointed : Go.deref cb.value = .ok value := deref_eq_ok.mpr held
  refine settled_bind ?_ fun fields => settled_bind (settled_appendCRC _ _) fun _ => .ok _
  simp only [marshalFields, typeCode_of_present held, pointed, ok_bind]
  exact settled_bind (settled_wrap value.settled_writeBlock _) fun _ => .ok _

end CanonicalBlock

namespace Bundle

variable {blocks : List CanonicalBlock} {b : Bundle} {now : Time}

theorem blocksOfType_of_present (present : ∀ cb ∈ blocks, cb.Present) (blockType : UInt64) :
    blocksOfType blockType blocks = .ok (blocks.filter (ofType blockType)) := by
  induction blocks with
  | nil => rfl
  | cons cb rest ih =>
    obtain ⟨value, held⟩ := present cb (by simp)
    have later := ih (fun other member => present other (by simp [member]))
    simp only [blocksOfType, typeCode_of_present held, later, ok_bind, pure, Except.pure]
    by_cases same : value.blockTypeCode = blockType
    · simp [ofType, held, same]
    · simp [ofType, held, same]

section Present

variable {b : Bundle} (present : ∀ cb ∈ b.extensionBlocks, cb.Present)

include present

theorem settled_extensionBlocksByType (blockType : UInt64) :
    Settled (b.extensionBlocksByType blockType) := by
  simp only [extensionBlocksByType, blocksOfType_of_present present blockType, ok_bind]
  split
  · rintro fault ⟨⟩
    exact ⟨_, rfl⟩
  · exact .ok _

theorem extensionBlockByType_cases (blockType : UInt64) :
    (∃ cb, b.extensionBlocks.filter (ofType blockType) = [cb] ∧
      b.extensionBlockByType blockType = .ok cb) ∨
    ((∀ cb, b.extensionBlocks.filter (ofType blockType) ≠ [cb]) ∧
      ∃ cause, b.extensionBlockByType blockType = .error (.error cause)) := by
  simp only [extensionBlockByType, extensionBlocksByType,
    blocksOfType_of_present present blockType, ok_bind]
  match b.extensionBlocks.filter (ofType blockType) with
  | [] => exact .inr ⟨by simp, _, rfl⟩
  | [cb] => exact .inl ⟨cb, rfl, rfl⟩
  | _ :: _ :: _ => exact .inr ⟨by simp, _, rfl⟩

theorem settled_extensionBlockByType (blockType : UInt64) :
    Settled (b.extensionBlockByType blockType) := by
  rcases extensionBlockByType_cases present blockType with ⟨cb, -, found⟩ | ⟨-, cause, failed⟩
  · rw [found]
    exact .ok cb
  · rw [failed]
    exact .error cause

theorem checkAge_total : ∃ causes, b.checkAge = .ok causes := by
  unfold checkAge
  split
  · obtain ⟨found, listed⟩ := errorOf_of_settled
      (settled_extensionBlocksByType present bundleAgeBlock)
    simp only [hasExtensionBlock, listed, ok_bind, pure, Except.pure]
    split
    · exact ⟨_, rfl⟩
    · exact ⟨_, rfl⟩
  · exact ⟨_, rfl⟩

variable [Cboring] [Crc16] [Ed25519]

omit present in
theorem verify_total (payload : b.payloadBlock.Present) (publicKey proof : List UInt8) :
    ∃ verified, b.verify publicKey proof = .ok verified := by
  have settled : Settled b.signatureBundleData :=
    settled_bind b.primaryBlock.settled_marshalCbor fun _ =>
      settled_bind (settled_marshalCbor payload) fun _ => .ok _
  obtain ⟨outcome, attempted⟩ := attempt_of_settled settled
  unfold verify
  split
  · exact ⟨_, rfl⟩
  · split
    · exact ⟨_, rfl⟩
    · rw [attempted]
      cases outcome <;> exact ⟨_, rfl⟩

theorem checkContextValid_total (payload : b.payloadBlock.Present) (value : ExtensionBlock) :
    ∃ verdict, b.checkContextValid value = .ok verdict := by
  have lookup := fun code => errorOf_of_settled (settled_extensionBlockByType present code)
  cases value with
  | previousNode endpoint | bundleAge age | hopCount limit count => exact lookup _
  | signature publicKey proof =>
    obtain ⟨verified, answered⟩ := verify_total payload publicKey proof
    simp only [checkContextValid, answered, ok_bind]
    split
    · exact ⟨_, rfl⟩
    · split
      · exact ⟨_, rfl⟩
      · exact ⟨_, rfl⟩
  | _ => exact ⟨none, rfl⟩

theorem checkExtensions_total (payload : b.payloadBlock.Present)
    (some : ∀ cb ∈ blocks, cb.Present)
    (seen : List UInt64) : ∃ causes, b.checkExtensions seen blocks = .ok causes := by
  induction blocks generalizing seen with
  | nil => exact ⟨[], rfl⟩
  | cons cb rest ih =>
    obtain ⟨value, held⟩ := some cb (by simp)
    obtain ⟨verdict, context⟩ := checkContextValid_total present payload value
    obtain ⟨later, checked⟩ := ih (fun other member => some other (by simp [member]))
      (cb.blockNumber :: seen)
    simp [checkExtensions, held, context, checked, Go.deref, pure, Except.pure]
end Present

theorem checkBlocks_of_present (present : ∀ cb ∈ blocks, cb.Present) :
    ∃ causes, checkBlocks blocks = .ok causes := by
  induction blocks with
  | nil => exact ⟨[], rfl⟩
  | cons cb rest ih =>
    obtain ⟨value, held⟩ := present cb (by simp)
    obtain ⟨first, checked⟩ := checkValid_of_present held
    obtain ⟨later, others⟩ := ih (fun other member => present other (by simp [member]))
    exact ⟨first ++ later, by simp [checkBlocks, checked, others, pure, Except.pure]⟩

theorem checkBlocks_of_absent {cb : CanonicalBlock} (present : ∀ cb ∈ blocks, cb.Present)
    (absent : cb.value = none) : checkBlocks (blocks ++ [cb]) = .error .panic := by
  induction blocks with
  | nil => simp [checkBlocks, checkValid_of_absent absent]
  | cons first rest ih =>
    obtain ⟨value, held⟩ := present first (by simp)
    obtain ⟨causes, checked⟩ := checkValid_of_present held
    have later := ih (fun other member => present other (by simp [member]))
    simp [checkBlocks, checked, later]

/-- A check that finishes has found a value in every block. -/
theorem present_of_checkBlocks (checked : checkBlocks blocks = .ok causes) :
    ∀ cb ∈ blocks, cb.Present := by
  induction blocks generalizing causes with
  | nil => simp
  | cons cb rest ih =>
    obtain ⟨first, own, checked⟩ := bind_eq_ok.mp checked
    obtain ⟨later, others, -⟩ := bind_eq_ok.mp checked
    intro other member
    rcases mem_cons.mp member with rfl | member
    · exact present_of_checkValid own
    · exact ih others other member

/-- If the check looks at the age of the bundle and there is one block of the
Bundle Age type, that is a Bundle Age Block. -/
def AgeReadable (b : Bundle) : Prop :=
  b.primaryBlock.creationTimestamp.isZeroTime = true →
    ∀ cb, b.extensionBlocks.filter (ofType bundleAgeBlock) = [cb] →
      ∃ age, cb.value = some (.bundleAge age)

theorem isLifetimeExceeded_cases (present : ∀ cb ∈ b.extensionBlocks, cb.Present) (now : Time) :
    (b.AgeReadable ∧ ∃ exceeded, b.isLifetimeExceeded now = .ok exceeded) ∨
      (¬b.AgeReadable ∧ b.isLifetimeExceeded now = .error .panic) := by
  unfold isLifetimeExceeded AgeReadable
  by_cases zero : b.primaryBlock.creationTimestamp.isZeroTime = true
  · simp only [zero, ↓reduceIte, true_implies]
    rcases extensionBlockByType_cases present bundleAgeBlock with
      ⟨cb, only, found⟩ | ⟨none, cause, failed⟩
    · simp only [only, found, Go.attempt, ok_bind, List.cons.injEq, and_true, forall_eq']
      split
      · rename_i age held
        exact .inl ⟨⟨age, held⟩, _, rfl⟩
      · rename_i other
        exact .inr ⟨fun ⟨age, held⟩ => other age held, rfl⟩
    · simp [none, failed, Go.attempt, pure, Except.pure]
  · simp [zero, pure, Except.pure]

theorem ageReadable_of_managed (managed : ∀ cb ∈ b.extensionBlocks, cb.Managed) :
    b.AgeReadable := by
  intro _ cb only
  have member : cb ∈ b.extensionBlocks.filter (ofType bundleAgeBlock) := by simp [only]
  obtain ⟨member, code⟩ := mem_filter.mp member
  obtain ⟨value, held, kind⟩ := managed cb member
  obtain ⟨age, rfl⟩ := kind.bundleAge_of_code (by simpa [ofType, held] using code)
  exact ⟨age, held⟩

/-- A bundle without a creation time that is not too old has one Bundle Age
Block. -/
theorem age_of_lifetime (present : ∀ cb ∈ b.extensionBlocks, cb.Present)
    (zero : b.primaryBlock.creationTimestamp.isZeroTime = true)
    (young : b.isLifetimeExceeded now = .ok false) :
    ∃ cb age, b.extensionBlocks.filter (ofType bundleAgeBlock) = [cb] ∧
      cb.value = some (.bundleAge age) ∧ age ≤ b.primaryBlock.lifetime := by
  rw [isLifetimeExceeded, zero, if_pos rfl] at young
  rcases extensionBlockByType_cases present bundleAgeBlock with ⟨cb, only, found⟩ | ⟨-,
    cause, failed⟩
  · rw [found] at young
    simp only [Go.attempt, ok_bind] at young
    split at young
    · rename_i age held
      refine ⟨cb, age, only, held, ?_⟩
      simpa [pure, Except.pure] using young
    · cases young
  · rw [failed] at young
    cases young

theorem present_of_perm {first second : List CanonicalBlock}
    (same : (first.map CanonicalBlock.value).Perm (second.map CanonicalBlock.value))
    (present : ∀ cb ∈ first, cb.Present) : ∀ cb ∈ second, cb.Present := by
  intro cb member
  obtain ⟨other, inside, value⟩ := mem_map.mp (same.mem_iff.mpr (mem_map_of_mem member))
  obtain ⟨held, pointed⟩ := present other inside
  exact ⟨held, value ▸ pointed⟩

/-- Whether the age can be read depends on the values alone, in any order. -/
theorem AgeReadable.perm {first second : Bundle}
    (timestamp : first.primaryBlock.creationTimestamp = second.primaryBlock.creationTimestamp)
    (same : (first.extensionBlocks.map CanonicalBlock.value).Perm
      (second.extensionBlocks.map CanonicalBlock.value))
    (readable : first.AgeReadable) : second.AgeReadable := by
  intro zero cb only
  let coded : Option ExtensionBlock → Bool := fun value =>
    value.map ExtensionBlock.blockTypeCode = some bundleAgeBlock
  have values : ∀ blocks : List CanonicalBlock, (blocks.map CanonicalBlock.value).filter coded =
      (blocks.filter (ofType bundleAgeBlock)).map CanonicalBlock.value :=
    fun blocks => filter_map
  have filtered := same.filter coded
  rw [values, values, only, map_singleton] at filtered
  obtain ⟨other, found, value⟩ := map_eq_singleton_iff.mp (perm_singleton.mp filtered)
  obtain ⟨age, held⟩ := readable (timestamp ▸ zero) other found
  exact ⟨age, value ▸ held⟩

variable [Cboring] [Crc16] [Ed25519]

/-- With every value present, only an age that cannot be read stops the check. -/
theorem checkValid_cases (present : ∀ cb ∈ b.extensionBlocks, cb.Present)
    (payload : b.payloadBlock.Present)
    (now : Time) : (b.AgeReadable ∧ ∃ causes, b.checkValid now = .ok causes) ∨
      (¬b.AgeReadable ∧ b.checkValid now = .error .panic) := by
  have all : ∀ cb ∈ b.extensionBlocks ++ [b.payloadBlock], cb.Present := by
    intro cb member
    rcases mem_append.mp member with member | member
    · exact present cb member
    · exact mem_singleton.mp member ▸ payload
  obtain ⟨blocks, checkedBlocks⟩ := checkBlocks_of_present all
  obtain ⟨extensions, checkedExtensions⟩ := checkExtensions_total present payload present []
  obtain ⟨age, checkedAge⟩ := checkAge_total present
  simp only [checkValid, checkedBlocks, checkedExtensions, checkedAge, ok_bind]
  rcases isLifetimeExceeded_cases present now with ⟨readable, exceeded,
    answered⟩ | ⟨unreadable, stopped⟩
  · exact .inl ⟨readable, _, by rw [answered]; rfl⟩
  · exact .inr ⟨unreadable, by rw [stopped]; rfl⟩

theorem checkValid_total (managed : ∀ cb ∈ b.extensionBlocks, cb.Managed)
    (payload : b.payloadBlock.Present)
    (now : Time) : ∃ causes, b.checkValid now = .ok causes := by
  rcases checkValid_cases (fun cb member => (managed cb member).present) payload now with
    ⟨-, finished⟩ | ⟨unreadable, -⟩
  · exact finished
  · exact absurd (ageReadable_of_managed managed) unreadable

theorem present_of_checkValid (checked : b.checkValid now = .ok causes) :
    ∀ cb ∈ b.extensionBlocks, cb.Present := by
  obtain ⟨blocks, each, -⟩ := bind_eq_ok.mp checked
  exact fun cb member => present_of_checkBlocks each cb (by simp [member])

/-- The check calls a method of the payload's value, whether there is one or not. -/
theorem checkValid_without_payload (present : ∀ cb ∈ b.extensionBlocks, cb.Present)
    (absent : b.payloadBlock.value = none) (now : Time) : b.checkValid now = .error .panic := by
  simp only [checkValid, checkBlocks_of_absent present absent, error_bind]

/-- The check of the bundle finishes. -/
def Checkable (b : Bundle) (now : Time) : Prop := ∃ causes, b.checkValid now = .ok causes

/-- The order of the blocks makes no difference to whether the check finishes. -/
theorem checkable_cases {first second : Bundle}
    (timestamp : first.primaryBlock.creationTimestamp = second.primaryBlock.creationTimestamp)
    (same : (first.extensionBlocks.map CanonicalBlock.value).Perm
      (second.extensionBlocks.map CanonicalBlock.value))
    (present : ∀ cb ∈ first.extensionBlocks, cb.Present)
    (others : ∀ cb ∈ second.extensionBlocks, cb.Present) (payload : first.payloadBlock.Present)
    (otherPayload : second.payloadBlock.Present) : (first.Checkable now ∧ second.Checkable now) ∨
      (first.checkValid now = .error .panic ∧ ¬second.Checkable now) := by
  rcases checkValid_cases present payload now with ⟨readable,
    finished⟩ | ⟨unreadable, stopped⟩
  · rcases checkValid_cases others otherPayload now with ⟨-, other⟩ | ⟨other, -⟩
    · exact .inl ⟨finished, other⟩
    · exact absurd (readable.perm timestamp same) other
  · rcases checkValid_cases others otherPayload now with ⟨other, -⟩ | ⟨-, other⟩
    · exact absurd (other.perm timestamp.symm same.symm) unreadable
    · refine .inr ⟨stopped, ?_⟩
      rintro ⟨causes, finished⟩
      rw [other] at finished
      cases finished

omit [Cboring] [Crc16] [Ed25519] in
theorem checkBlocks_eq_nil : checkBlocks blocks = .ok [] ↔
    ∀ cb ∈ blocks, cb.checkValid = .ok [] := by
  induction blocks with
  | nil => simp [checkBlocks]
  | cons cb rest ih =>
    rw [forall_mem_cons, ← ih]
    constructor
    · intro valid
      obtain ⟨first, checked, valid⟩ := bind_eq_ok.mp valid
      obtain ⟨later, others, valid⟩ := bind_eq_ok.mp valid
      obtain ⟨rfl, rfl⟩ : first = [] ∧ later = [] := by
        simpa [pure, Except.pure] using valid
      exact ⟨checked, others⟩
    · intro ⟨checked, others⟩
      simp [checkBlocks, checked, others, pure, Except.pure]

/-- The loop finds nothing wrong: the numbers are new and distinct, and every
block passes its own check. -/
theorem checkExtensions_eq_nil {seen : List UInt64} : b.checkExtensions seen blocks = .ok [] ↔
    (blocks.map blockNumber).Nodup ∧ ∀ cb ∈ blocks, cb.blockNumber ∉ seen ∧
      ∃ value, cb.value = some value ∧ b.checkContextValid value = .ok none := by
  induction blocks generalizing seen with
  | nil => simp [checkExtensions]
  | cons cb rest ih =>
    rw [map_cons, nodup_cons, forall_mem_cons]
    constructor
    · intro valid
      obtain ⟨value, pointed, valid⟩ := bind_eq_ok.mp valid
      obtain ⟨context, verdict, valid⟩ := bind_eq_ok.mp valid
      obtain ⟨later, checked, valid⟩ := bind_eq_ok.mp valid
      simp only [pure, Except.pure, Except.ok.injEq, append_eq_nil_iff, Option.toList_eq_nil_iff,
        ite_eq_right_iff, cons_ne_nil, imp_false] at valid
      obtain ⟨⟨fresh, rfl⟩, rfl⟩ := valid
      obtain ⟨distinct, others⟩ := ih.mp checked
      refine ⟨⟨?_, distinct⟩, ⟨fresh, value, deref_eq_ok.mp pointed, verdict⟩, ?_⟩
      · intro again
        obtain ⟨other, member, same⟩ := mem_map.mp again
        exact (others other member).1 (same ▸ mem_cons_self)
      · intro other member
        obtain ⟨unseen, passed⟩ := others other member
        exact ⟨fun before => unseen (mem_cons_of_mem _ before), passed⟩
    · rintro ⟨⟨unlike, distinct⟩, ⟨fresh, value, held, verdict⟩, others⟩
      have later : b.checkExtensions (cb.blockNumber :: seen) rest = .ok [] := by
        refine ih.mpr ⟨distinct, fun other member => ?_⟩
        obtain ⟨unseen, passed⟩ := others other member
        refine ⟨fun again => ?_, passed⟩
        rcases mem_cons.mp again with same | before
        · exact unlike (same ▸ mem_map_of_mem member)
        · exact unseen before
      simp [checkExtensions, deref_eq_ok.mpr held, verdict, later, fresh, pure, Except.pure]

theorem checkValid_eq_nil : b.checkValid now = .ok [] ↔ b.primaryBlock.checkValid = [] ∧
      (∀ cb ∈ b.extensionBlocks ++ [b.payloadBlock], cb.checkValid = .ok []) ∧
      b.payloadBlock.blockControlFlags.has BlockControlFlags.statusReportBlock = false ∧
      b.checkExtensions [] b.extensionBlocks = .ok [] ∧ b.checkAge = .ok [] ∧
      b.isLifetimeExceeded now = .ok false := by
  rw [← checkBlocks_eq_nil]
  constructor
  · intro valid
    obtain ⟨blocks, checked, valid⟩ := bind_eq_ok.mp valid
    obtain ⟨extensions, context, valid⟩ := bind_eq_ok.mp valid
    obtain ⟨age, aged, valid⟩ := bind_eq_ok.mp valid
    obtain ⟨exceeded, lifetime, valid⟩ := bind_eq_ok.mp valid
    simp only [pure, Except.pure, Except.ok.injEq, append_eq_nil_iff] at valid
    obtain ⟨⟨⟨⟨⟨primary, rfl⟩, report⟩, rfl⟩, rfl⟩, late⟩ := valid
    have noReport : b.payloadBlock.blockControlFlags.has BlockControlFlags.statusReportBlock = false := by
      by_contra set
      rw [if_pos (by simpa using set)] at report
      cases report
    have inTime : exceeded = false := by
      cases exceeded with
      | false => rfl
      | true => cases late
    exact ⟨primary, checked, noReport, context, aged, inTime ▸ lifetime⟩
  · intro ⟨primary, checked, report, context, aged, lifetime⟩
    simp [checkValid, primary, checked, report, context, aged, lifetime, pure, Except.pure]

end Bundle

end RecDtn.Bpv7
