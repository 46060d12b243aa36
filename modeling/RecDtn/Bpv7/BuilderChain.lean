import RecDtn.Bpv7.BuilderCalls

/-! Chains of calls with documented arguments. -/

namespace RecDtn.Bpv7

open Wire Lang BlockControlFlags Bpv7.Bundle List Go

/-- The calls that set a part of the primary block, or the CRC type. -/
inductive PrimaryCall where
  | crc (crcType : CRCType)
  | destination (eid : Interface)
  | source (eid : Interface)
  | reportTo (eid : Interface)
  | creationTimestampEpoch
  | creationTimestampNow
  | creationTimestampTime (t : Time)
  | lifetime (duration : Interface)
  | bundleCtrlFlags (bcf : BundleControlFlags)

/-- An age in milliseconds, a format string or a `time.Duration`. -/
inductive AgeArgument where
  | milliseconds (ms : UInt64)
  | int (ms : Int64)
  | format (text : List UInt8)
  | duration (dur : Int64)

/-- An endpoint, or a string that describes one. -/
inductive NodeArgument where
  | endpoint (eid : EndpointID)
  | uri (text : List UInt8)

/-- The calls of a chain. The flags of a block may be left out. -/
inductive BuilderCall where
  | primary (call : PrimaryCall)
  | bundleAgeBlock (age : AgeArgument) (flags : Option BlockControlFlags)
  | hopCountBlock (limit : Int64) (flags : Option BlockControlFlags)
  | previousNodeBlock (prevNode : NodeArgument) (flags : Option BlockControlFlags)
  | payloadBlock (data : Interface) (flags : Option BlockControlFlags)
  | canonical (data : ExtensionBlock) (flags : Option BlockControlFlags)
  | canonicalBlock (cb : CanonicalBlock)

def AgeArgument.interface : AgeArgument → Interface
  | milliseconds ms => .uint64 ms
  | int ms => .int ms
  | format text => .string text
  | duration dur => .duration dur

def NodeArgument.interface : NodeArgument → Interface
  | endpoint eid => .endpointID eid
  | uri text => .string text

def flagArguments : Option BlockControlFlags → List Interface
  | none => []
  | some flags => [.blockControlFlags flags]

section

variable [Numerals]

open BundleBuilder

def PrimaryCall.run (now : Time) (bldr : BundleBuilder) : PrimaryCall → Go BundleBuilder
  | crc crcType => .ok (bldr.crc crcType)
  | destination eid => Untyped.destination bldr eid
  | source eid => Untyped.source bldr eid
  | reportTo eid => Untyped.reportTo bldr eid
  | creationTimestampEpoch => .ok bldr.creationTimestampEpoch
  | creationTimestampNow => .ok (bldr.creationTimestampNow now)
  | creationTimestampTime t => .ok (bldr.creationTimestampTime t)
  | lifetime duration => Untyped.lifetime bldr duration
  | bundleCtrlFlags bcf => .ok (bldr.bundleCtrlFlags bcf)

def BuilderCall.run (now : Time) (bldr : BundleBuilder) : BuilderCall → Go BundleBuilder
  | primary call => call.run now bldr
  | bundleAgeBlock age flags => Untyped.bundleAgeBlock bldr (age.interface :: flagArguments flags)
  | hopCountBlock limit flags => Untyped.hopCountBlock bldr (.int limit :: flagArguments flags)
  | previousNodeBlock prevNode flags =>
    Untyped.previousNodeBlock bldr (prevNode.interface :: flagArguments flags)
  | payloadBlock data flags => Untyped.payloadBlock bldr (data :: flagArguments flags)
  | canonical data flags => Untyped.canonical bldr (.extensionBlock data :: flagArguments flags)
  | canonicalBlock cb => Untyped.canonical bldr [.canonicalBlock cb]

/-- A new builder, the calls one after the other, and `Build`. -/
def BuilderCall.chain [Cboring] [Crc16] [Ed25519] [GoSort] (now : Time) (calls : List BuilderCall) :
    Go Bundle := do
  let bldr ← calls.foldlM (run now) BundleBuilder.new
  bldr.build now

end

namespace BuilderCall

def typeCode : BuilderCall → Option UInt64
  | primary _ => none
  | bundleAgeBlock _ _ => some BlockType.bundleAgeBlock
  | hopCountBlock _ _ => some BlockType.hopCountBlock
  | previousNodeBlock _ _ => some BlockType.previousNodeBlock
  | payloadBlock _ _ => some BlockType.payloadBlock
  | canonical data _ => some data.blockTypeCode
  | canonicalBlock cb => cb.value.map ExtensionBlock.blockTypeCode

def isPayload (call : BuilderCall) : Bool := call.typeCode = some BlockType.payloadBlock

def isExtension (call : BuilderCall) : Bool := call.typeCode ≠ none && !call.isPayload

end BuilderCall

section

variable [Numerals]

/-- The age in milliseconds, whatever the form in which it is given. -/
def AgeArgument.Tells : AgeArgument → Int → Prop
  | milliseconds ms, age => age = ms.toNat
  | int ms, age => age = ms.toInt
  | format text, age =>
    ∃ dur, Numerals.parseDuration text = .ok dur ∧ age = dur.toInt.tdiv 1000000
  | duration dur, age => age = dur.toInt.tdiv 1000000

def NodeArgument.Tells : NodeArgument → EndpointID → Prop
  | endpoint given, eid => eid = given
  | uri text, eid => newEndpointID text = .ok eid

namespace BuilderCall

/-- A block with this value and these flags is what the call asks for. -/
inductive MetBy : BuilderCall → Option ExtensionBlock → BlockControlFlags → Prop where
  | bundleAgeBlock {age : AgeArgument} {flags : Option BlockControlFlags} {ms : UInt64}
    {set : BlockControlFlags}
      (told : age.Tells ms.toNat) (given : set = flags.getD 0 ||| replicateBlock) :
      MetBy (.bundleAgeBlock age flags) (some (.bundleAge ms)) set
  | hopCountBlock {limit : Int64} {flags : Option BlockControlFlags} {stored : UInt8}
    {set : BlockControlFlags}
      (told : (stored.toNat : Int) = limit.toInt) (given : set = flags.getD 0 ||| replicateBlock) :
      MetBy (.hopCountBlock limit flags) (some (.hopCount stored 0)) set
  | previousNodeBlock {prevNode : NodeArgument} {flags : Option BlockControlFlags}
      {eid : EndpointID} {set : BlockControlFlags} (told : prevNode.Tells eid)
      (given : set = flags.getD 0 ||| replicateBlock) :
      MetBy (.previousNodeBlock prevNode flags) (some (.previousNode eid)) set
  | payloadBlock {data : Interface} {flags : Option BlockControlFlags} {bytes : List UInt8}
      (told : data.fixedSized = some bytes) :
      MetBy (.payloadBlock data flags) (some (.payload bytes)) (flags.getD 0)
  | canonical {data : ExtensionBlock} {flags : Option BlockControlFlags} :
      MetBy (.canonical data flags) (some data) (flags.getD 0)
  | canonicalBlock {cb : CanonicalBlock} : MetBy (.canonicalBlock cb) cb.value cb.blockControlFlags

/-- The bundle holds one extension block for each call that asks for one, in the order of the
calls and numbered from 2 on, and the payload of the last call that asks for a payload. -/
structure Obeyed (calls : List BuilderCall) (bndl : Bundle) : Prop where
  extensions : List.Forall₂ (fun call cb => MetBy call cb.value cb.blockControlFlags)
    (calls.filter isExtension) bndl.extensionBlocks
  numbers : bndl.extensionBlocks.map CanonicalBlock.blockNumber =
    (List.range' 2 (calls.filter isExtension).length).map Nat.toUInt64
  payload : ∃ call, (calls.filter isPayload).getLast? = some call ∧
    MetBy call bndl.payloadBlock.value bndl.payloadBlock.blockControlFlags

end BuilderCall

end

/-- No flag is given that the named blocks do not have anyway. -/
def NoMoreFlags (flags : Option BlockControlFlags) : Prop :=
  flags.getD 0 ||| replicateBlock = replicateBlock

/-- Only a `time.Duration` can be negative and still be taken. -/
def AgeArgument.Carried : AgeArgument → Prop
  | duration dur => 0 ≤ dur.toInt.tdiv 1000000
  | _ => True

/-- The call for a named block gives no flags that would be lost, and no number that does not
fit. -/
def BuilderCall.Carried : BuilderCall → Prop
  | bundleAgeBlock age flags => age.Carried ∧ NoMoreFlags flags
  | hopCountBlock limit flags => (0 ≤ limit.toInt ∧ limit.toInt < 256) ∧ NoMoreFlags flags
  | previousNodeBlock _ flags => NoMoreFlags flags
  | _ => True

theorem toInt_eq_cond (number : Int64) : number.toInt =
    if 2 * number.toUInt64.toNat < 2 ^ 64 then (number.toUInt64.toNat : Int)
      else number.toUInt64.toNat - 2 ^ 64 :=
  BitVec.toInt_eq_toNat_cond _

theorem toNat_toUInt64_eq_iff (number : Int64) :
    (number.toUInt64.toNat : Int) = number.toInt ↔ 0 ≤ number.toInt := by
  have bound := number.toUInt64.toNat_lt
  rw [toInt_eq_cond]
  split <;> omega

theorem toNat_toUInt8_eq_iff (limit : Int64) :
    (limit.toUInt64.toUInt8.toNat : Int) = limit.toInt ↔ 0 ≤ limit.toInt ∧
      limit.toInt < 256 := by
  have bound := limit.toUInt64.toNat_lt
  rw [toInt_eq_cond, UInt64.toNat_toUInt8]
  split <;> omega

theorem toInt_milliseconds (dur : Int64) : (dur / 1000000).toInt = dur.toInt.tdiv 1000000 :=
  Int64.toInt_div_of_ne_right dur 1000000 (by decide)

section

theorem NodeArgument.tells_of_parsed {prevNode : NodeArgument} {eid : EndpointID}
    (parsed : bldrParseEndpoint prevNode.interface = .ok eid) : prevNode.Tells eid := by
  cases prevNode with
  | endpoint given =>
    cases parsed
    rfl
  | uri text => exact parsed

variable [Numerals]

theorem AgeArgument.tells_iff {age : AgeArgument} {ms : UInt64}
    (parsed : bldrParseLifetime age.interface = .ok ms) : age.Tells ms.toNat ↔ age.Carried := by
  cases age with
  | milliseconds given =>
    cases parsed
    exact iff_of_true rfl trivial
  | int given =>
    simp only [interface, bldrParseLifetime] at parsed
    split at parsed
    · cases parsed
    · rename_i above
      cases parsed
      have positive : 0 ≤ given.toInt := Int64.le_iff_toInt_le.mp (Int64.not_lt.mp above)
      exact iff_of_true ((toNat_toUInt64_eq_iff given).mpr positive) trivial
  | format text =>
    obtain ⟨dur, read, parsed⟩ := bind_eq_ok.mp parsed
    split at parsed
    · cases parsed
    · rename_i above
      cases parsed
      have positive : 0 ≤ (dur / 1000000).toInt := by
        have order : 0 < dur.toInt := Int64.lt_iff_toInt_lt.mp (Int64.not_le.mp above)
        rw [toInt_milliseconds]
        exact Int.tdiv_nonneg (Int.le_of_lt order) (by decide)
      refine iff_of_true ⟨dur, ofExcept_eq_ok.mp read, ?_⟩ trivial
      rw [← toInt_milliseconds]
      exact (toNat_toUInt64_eq_iff _).mpr positive
  | duration dur =>
    cases parsed
    rw [Tells, Carried, ← toInt_milliseconds]
    exact toNat_toUInt64_eq_iff _

namespace BuilderCall

/-- A block with this value and these flags is what the call makes. -/
inductive Made : BuilderCall → Option ExtensionBlock → BlockControlFlags → Prop where
  | bundleAgeBlock {age : AgeArgument} {flags : Option BlockControlFlags} {ms : UInt64}
      (parsed : bldrParseLifetime age.interface = .ok ms) :
      Made (.bundleAgeBlock age flags) (some (.bundleAge ms)) replicateBlock
  | hopCountBlock {limit : Int64} {flags : Option BlockControlFlags} :
      Made (.hopCountBlock limit flags) (some (.hopCount limit.toUInt64.toUInt8 0)) replicateBlock
  | previousNodeBlock {prevNode : NodeArgument} {flags : Option BlockControlFlags}
      {eid : EndpointID} (parsed : bldrParseEndpoint prevNode.interface = .ok eid) :
      Made (.previousNodeBlock prevNode flags) (some (.previousNode eid)) replicateBlock
  | payloadBlock {data : Interface} {flags : Option BlockControlFlags} {bytes : List UInt8}
      (written : data.fixedSized = some bytes) :
      Made (.payloadBlock data flags) (some (.payload bytes)) (flags.getD 0)
  | canonical {data : ExtensionBlock} {flags : Option BlockControlFlags} :
      Made (.canonical data flags) (some data) (flags.getD 0)
  | canonicalBlock {cb : CanonicalBlock} : Made (.canonicalBlock cb) cb.value cb.blockControlFlags

variable {call : BuilderCall} {value : Option ExtensionBlock} {set : BlockControlFlags}

/-- What is made is what was asked for, if nothing was lost on the way. -/
theorem Made.metBy_iff (made : call.Made value set) : call.MetBy value set ↔ call.Carried := by
  cases made with
  | bundleAgeBlock parsed =>
    constructor
    · intro met
      cases met with
      | bundleAgeBlock told given => exact ⟨(AgeArgument.tells_iff parsed).mp told, given.symm⟩
    · rintro ⟨carried, none⟩
      exact .bundleAgeBlock ((AgeArgument.tells_iff parsed).mpr carried) none.symm
  | hopCountBlock =>
    constructor
    · intro met
      cases met with
      | hopCountBlock told given => exact ⟨(toNat_toUInt8_eq_iff _).mp told, given.symm⟩
    · rintro ⟨fits, none⟩
      exact .hopCountBlock ((toNat_toUInt8_eq_iff _).mpr fits) none.symm
  | previousNodeBlock parsed =>
    constructor
    · intro met
      cases met with
      | previousNodeBlock told given => exact given.symm
    · intro none
      exact .previousNodeBlock (NodeArgument.tells_of_parsed parsed) (Eq.symm none)
  | payloadBlock written => exact iff_of_true (.payloadBlock written) trivial
  | canonical => exact iff_of_true .canonical trivial
  | canonicalBlock => exact iff_of_true .canonicalBlock trivial

end BuilderCall

end

namespace BundleBuilder

/-- What the calls for blocks change. -/
def blocks (bldr : BundleBuilder) : List CanonicalBlock × UInt64 × CanonicalBlock :=
  (bldr.canonicals, bldr.canonicalCounter, bldr.payload)

variable {bldr after : BundleBuilder}

theorem blocks_unlessFailed {call : BundleBuilder → BundleBuilder}
    (kept : (call bldr).blocks = bldr.blocks) : (bldr.unlessFailed call).blocks = bldr.blocks := by
  by_cases ready : bldr.err = none
  · rwa [unlessFailed_of_ready ready]
  · rw [unlessFailed_of_failed ready]

theorem blocks_setting {α : Type} {argument : Go α} {set : BundleBuilder → α → BundleBuilder}
    (settled : Settled argument) (kept : ∀ value, (set bldr value).blocks = bldr.blocks)
    (ran : Untyped.setting bldr argument set = .ok after) : after.blocks = bldr.blocks := by
  by_cases ready : bldr.err = none
  · cases parsed : argument with
    | ok value =>
      rw [Untyped.setting_of_parsed ready parsed] at ran
      cases ran
      exact kept value
    | error fault =>
      obtain ⟨cause, rfl⟩ := settled fault parsed
      rw [Untyped.setting_of_refused ready parsed] at ran
      cases ran
      rfl
  · rw [Untyped.setting, Untyped.guarded_of_failed ready] at ran
    cases ran
    rfl

end BundleBuilder

section

variable [Numerals] {now : Time} {bldr after : BundleBuilder}

open BundleBuilder

theorem PrimaryCall.blocks_run {call : PrimaryCall} (ran : call.run now bldr = .ok after) :
    after.blocks = bldr.blocks := by
  cases call with
  | crc crcType =>
    cases ran
    exact blocks_unlessFailed rfl
  | destination eid | source eid | reportTo eid =>
    exact blocks_setting (settled_bldrParseEndpoint eid) (fun _ => blocks_unlessFailed rfl) ran
  | creationTimestampEpoch | creationTimestampNow | creationTimestampTime t =>
    cases ran
    exact blocks_unlessFailed rfl
  | lifetime duration =>
    exact blocks_setting (settled_bldrParseLifetime duration) (fun _ => blocks_unlessFailed rfl) ran
  | bundleCtrlFlags bcf =>
    cases ran
    exact blocks_unlessFailed rfl

theorem PrimaryCall.run_of_failed (failed : bldr.err ≠ none) (call : PrimaryCall) :
    call.run now bldr = .ok bldr := by
  have stamped : ∀ t, Except.ok (bldr.creationTimestamp t) = (.ok bldr : Go BundleBuilder) := by
    intro t
    rw [creationTimestamp, unlessFailed_of_failed failed]
  cases call with
  | crc crcType => exact congrArg Except.ok (unlessFailed_of_failed failed _)
  | creationTimestampEpoch => exact stamped 0
  | creationTimestampNow => exact stamped (dtnTimeFromTime now)
  | creationTimestampTime t => exact stamped (dtnTimeFromTime t)
  | bundleCtrlFlags bcf => exact congrArg Except.ok (unlessFailed_of_failed failed _)
  | _ => exact Untyped.guarded_of_failed failed _

namespace BuilderCall

/-- An error stays, though the text may change. -/
theorem err_run {call : BuilderCall} (failed : bldr.err ≠ none)
    (ran : call.run now bldr = .ok after) : after.err ≠ none := by
  have unchanged : ∀ {result : Go BundleBuilder}, result = .ok bldr → result = .ok after →
      after.err ≠ none := by
    intro result same ended
    rw [same] at ended
    cases ended
    exact failed
  cases call with
  | primary call => exact unchanged (call.run_of_failed failed) ran
  | payloadBlock data flags =>
    rw [run] at ran
    rcases data.binaryWrite_cases with ⟨bytes, -, written⟩ | ⟨-, panicked⟩ | ⟨-,
      cause, refused⟩
    · rw [Untyped.payloadBlock_of_written written] at ran
      exact unchanged (Untyped.canonical_of_failed failed _) ran
    · rw [Untyped.payloadBlock_of_panicked panicked] at ran
      cases ran
    · rw [Untyped.payloadBlock_of_refused refused] at ran
      cases ran
      exact Option.some_ne_none cause
  | _ => exact unchanged (Untyped.guarded_of_failed failed _) ran

omit [Numerals] in
theorem canonicalData_eq_put (ready : bldr.err = none) (data : ExtensionBlock)
    (flags : Option BlockControlFlags) : Untyped.canonicalData bldr data (flagArguments flags) =
      bldr.put data.blockTypeCode (newCanonicalBlock 0 (flags.getD 0) data) := by
  cases flags with
  | none => exact canonical_eq_put ready data 0
  | some flags => exact canonical_eq_put ready data flags

/-- A call that leaves no error keeps the blocks, or puts one to them. -/
theorem run_cases {call : BuilderCall} (ready : bldr.err = none) (ran : call.run now bldr = .ok after)
    (fine : after.err = none) : (call.typeCode = none ∧ after.blocks = bldr.blocks) ∨
      ∃ code cb, call.typeCode = some code ∧ call.Made cb.value cb.blockControlFlags ∧ after = bldr.put code cb := by
  cases call with
  | primary call => exact .inl ⟨rfl, PrimaryCall.blocks_run ran⟩
  | bundleAgeBlock age flags =>
    obtain ⟨data, parsed, rfl⟩ := Untyped.namedBlock_eq_ok
      (settled_map (settled_bldrParseLifetime _) _) ready ran fine
    obtain ⟨ms, read, rfl⟩ := map_eq_ok.mp parsed
    exact .inr ⟨_, _, rfl, .bundleAgeBlock read, rfl⟩
  | hopCountBlock limit flags =>
    obtain ⟨data, parsed, rfl⟩ := Untyped.namedBlock_eq_ok (.ok _) ready ran fine
    cases parsed
    exact .inr ⟨_, _, rfl, .hopCountBlock, rfl⟩
  | previousNodeBlock prevNode flags =>
    obtain ⟨data, parsed, rfl⟩ := Untyped.namedBlock_eq_ok
      (settled_map (settled_bldrParseEndpoint _) _) ready ran fine
    obtain ⟨eid, read, rfl⟩ := map_eq_ok.mp parsed
    exact .inr ⟨_, _, rfl, .previousNodeBlock read, rfl⟩
  | payloadBlock data flags =>
    rw [run] at ran
    rcases data.binaryWrite_cases with ⟨bytes, sized, written⟩ | ⟨-, panicked⟩ | ⟨-,
      cause, refused⟩
    · rw [Untyped.payloadBlock_of_written written, Untyped.canonical_of_data ready, canonicalData_eq_put ready] at ran
      cases ran
      exact .inr ⟨_, _, rfl, .payloadBlock sized, rfl⟩
    · rw [Untyped.payloadBlock_of_panicked panicked] at ran
      cases ran
    · rw [Untyped.payloadBlock_of_refused refused] at ran
      cases ran
      cases fine
  | canonical data flags =>
    rw [run, Untyped.canonical_of_data ready, canonicalData_eq_put ready] at ran
    cases ran
    exact .inr ⟨_, _, rfl, .canonical, rfl⟩
  | canonicalBlock cb =>
    rw [run, Untyped.canonical, Untyped.guarded_of_ready ready] at ran
    obtain ⟨code, typed, rfl⟩ := map_eq_ok.mp ran
    obtain ⟨value, held, typed⟩ := bind_eq_ok.mp typed
    cases typed
    refine .inr ⟨_, cb, ?_, .canonicalBlock, rfl⟩
    rw [typeCode, deref_eq_ok.mp held]
    rfl

end BuilderCall

end

/-- The blocks are numbered by their place, and the counter is the next number. -/
structure BundleBuilder.Counted (bldr : BundleBuilder) : Prop where
  numbered : numberedFrom 2 bldr.canonicals = bldr.canonicals
  counter : bldr.canonicalCounter = (2 + bldr.canonicals.length).toUInt64

namespace BundleBuilder

variable {bldr : BundleBuilder}

theorem Counted.put (counted : bldr.Counted) (code : UInt64) (cb : CanonicalBlock) :
    (bldr.put code cb).Counted := by
  unfold BundleBuilder.put
  split
  · exact ⟨counted.numbered, counted.counter⟩
  · constructor
    · rw [numberedFrom_append, counted.numbered, counted.counter]
      rfl
    · dsimp only
      rw [length_append, length_singleton, ← Nat.add_assoc, counted.counter]
      exact (UInt64.ofNat_add _ 1).symm

theorem Counted.sort [GoSort] (counted : bldr.Counted) (room : Allocatable bldr.canonicals) :
    GoSort.sort canonicalBlockLess bldr.canonicals = bldr.canonicals := by
  have small : 2 + bldr.canonicals.length < 2 ^ 64 := by
    have bound : bldr.canonicals.length ≤ 2 ^ 48 := room
    omega
  have strict := ordered_numberedFrom (Nat.le_refl 2) small
  rw [counted.numbered] at strict
  exact GoSort.sort_eq_of_perm canonicalBlockLess_asymm canonicalBlockLess_trans (.refl _) strict

theorem build_eq_ok [Cboring] [Crc16] [Ed25519] [GoSort] {now : Time} {bndl : Bundle}
    (built : bldr.build now = .ok bndl) :
    bldr.err = none ∧ ∃ checked : Bundle, checked = ⟨bldr.primary.reporting,
      GoSort.sort canonicalBlockLess bldr.canonicals, bldr.payload⟩ ∧
        checked.checkValid now = .ok [] ∧ bndl = checked.setCRCType bldr.crcType := by
  obtain ⟨_, fine, built⟩ := bind_eq_ok.mp built
  dsimp only at built
  split at built
  · cases built
  · obtain ⟨_, valid, built⟩ := bind_eq_ok.mp built
    cases built
    obtain ⟨causes, checked, passed⟩ := bind_eq_ok.mp valid
    cases causes with
    | nil => exact ⟨check_eq_ok.mp fine, _, rfl, checked, rfl⟩
    | cons cause causes => cases passed

/-- Reports do not change where the bundle comes from and goes to. -/
theorem reporting_eq (pb : PrimaryBlock) : ∃ eid, pb.reporting = { pb with reportTo := eid } := by
  unfold PrimaryBlock.reporting
  split
  · exact ⟨_, rfl⟩
  · exact ⟨pb.reportTo, rfl⟩

section

variable [Cboring] [Crc16] [Ed25519] [GoSort] (fine : bldr.err = none) (now : Time)

include fine

theorem build_of_unnamed (unnamed : bldr.primary.sourceNode = ⟨none⟩ ∨
    bldr.primary.destination = ⟨none⟩) :
    bldr.build now = .error (.error (.text "both Source and Destination must be set")) := by
  obtain ⟨eid, same⟩ := reporting_eq bldr.primary
  rw [build, fine, Go.check, ok_bind]
  dsimp only
  rw [same, if_pos unnamed]

theorem build_of_named (source : bldr.primary.sourceNode ≠ ⟨none⟩)
    (destination : bldr.primary.destination ≠ ⟨none⟩) :
    bldr.build now = (ensureValid ⟨bldr.primary.reporting,
      GoSort.sort canonicalBlockLess bldr.canonicals,
        bldr.payload⟩ now >>= fun _ => .ok (setCRCType ⟨bldr.primary.reporting,
          GoSort.sort canonicalBlockLess bldr.canonicals, bldr.payload⟩ bldr.crcType)) := by
  obtain ⟨eid, same⟩ := reporting_eq bldr.primary
  rw [build, fine, Go.check, ok_bind]
  dsimp only
  rw [same, if_neg (not_or.mpr ⟨source, destination⟩)]
  rfl

end

end BundleBuilder

namespace BuilderCall

section

variable [Numerals]

/-- What a builder without an error holds after the calls. -/
structure Tracks (done : List BuilderCall) (bldr : BundleBuilder) : Prop extends bldr.Counted where
  extensions : List.Forall₂ (fun call cb => Made call cb.value cb.blockControlFlags)
    (done.filter isExtension) bldr.canonicals
  payload : bldr.payload.value = none ∨ ∃ call, (done.filter isPayload).getLast? = some call ∧
    Made call bldr.payload.value bldr.payload.blockControlFlags

variable {now : Time} {done calls : List BuilderCall} {call : BuilderCall}
  {bldr after : BundleBuilder}

theorem Tracks.keep (tracks : Tracks done bldr) (other : call.typeCode = none)
    (kept : after.blocks = bldr.blocks) : Tracks (done ++ [call]) after := by
  obtain ⟨canonicals, rest⟩ := Prod.mk.inj kept
  obtain ⟨counter, payload⟩ := Prod.mk.inj rest
  have noPayload : call.isPayload = false := by simp [isPayload, other]
  have noExtension : call.isExtension = false := by simp [isExtension, other]
  have extensions : (done ++ [call]).filter isExtension = done.filter isExtension := by
    simp [filter_append, noExtension]
  have payloads : (done ++ [call]).filter isPayload = done.filter isPayload := by
    simp [filter_append, noPayload]
  refine ⟨⟨?_, ?_⟩, ?_, ?_⟩
  · rw [canonicals, tracks.numbered]
  · rw [canonicals, counter, tracks.counter]
  · rw [extensions, canonicals]
    exact tracks.extensions
  · rw [payloads, payload]
    exact tracks.payload

theorem Tracks.put (tracks : Tracks done bldr) {code : UInt64} {cb : CanonicalBlock}
    (typed : call.typeCode = some code)
    (made : call.Made cb.value cb.blockControlFlags) :
    Tracks (done ++ [call]) (bldr.put code cb) := by
  refine ⟨tracks.toCounted.put code cb, ?_, ?_⟩
  · unfold BundleBuilder.put
    split
    · rename_i isPayload
      have noExtension : call.isExtension = false := by simp [isExtension, BuilderCall.isPayload, typed, isPayload]
      rw [filter_append, filter_singleton, noExtension]
      simpa using tracks.extensions
    · rename_i other
      have extension : call.isExtension = true := by simp [isExtension, isPayload, typed, other]
      rw [filter_append, filter_singleton, extension]
      exact rel_append tracks.extensions (.cons made .nil)
  · unfold BundleBuilder.put
    split
    · rename_i payload
      have last : call.isPayload = true := by simp [isPayload, typed, payload]
      refine .inr ⟨call, ?_, made⟩
      rw [filter_append, filter_singleton, last]
      simp
    · rename_i other
      have noPayload : call.isPayload = false := by simp [isPayload, typed, other]
      rw [filter_append, filter_singleton, noPayload]
      simpa using tracks.payload

theorem err_runs (failed : bldr.err ≠ none) (ran : calls.foldlM (run now) bldr = .ok after) :
    after.err ≠ none := by
  induction calls generalizing bldr with
  | nil =>
    cases ran
    exact failed
  | cons call rest ih =>
    obtain ⟨next, first, later⟩ := bind_eq_ok.mp ran
    exact ih (err_run failed first) later

theorem Tracks.runs (tracks : Tracks done bldr) (ready : bldr.err = none)
    (ran : calls.foldlM (run now) bldr = .ok after) (fine : after.err = none) :
    Tracks (done ++ calls) after := by
  induction calls generalizing done bldr with
  | nil =>
    cases ran
    rwa [append_nil]
  | cons call rest ih =>
    obtain ⟨next, first, later⟩ := bind_eq_ok.mp ran
    have nextFine : next.err = none := by
      by_contra failed
      exact err_runs failed later fine
    rw [append_cons]
    rcases run_cases ready first nextFine with ⟨other, kept⟩ | ⟨code, cb, typed, made, rfl⟩
    · exact ih (tracks.keep other kept) nextFine later
    · exact ih (tracks.put typed made) nextFine later

theorem tracks_new : Tracks [] BundleBuilder.new := ⟨⟨rfl, rfl⟩, .nil, .inl rfl⟩

theorem forall₂_metBy_iff {made : List CanonicalBlock}
    (each : List.Forall₂ (fun call cb => Made call cb.value cb.blockControlFlags) calls made) :
    List.Forall₂ (fun call cb => MetBy call cb.value cb.blockControlFlags) calls made ↔
      ∀ call ∈ calls, call.Carried := by
  induction each with
  | nil => simp
  | cons first rest ih => rw [forall₂_cons, ih, first.metBy_iff, forall_mem_cons]

omit [Numerals] in
theorem carried_of_not_extension (other : call.isExtension = false) : call.Carried := by
  cases call with
  | bundleAgeBlock age flags => cases other
  | hopCountBlock limit flags => cases other
  | previousNodeBlock prevNode flags => cases other
  | _ => trivial

omit [Numerals] in
theorem carried_extensions_iff (calls : List BuilderCall) :
    (∀ call ∈ calls.filter isExtension, call.Carried) ↔ ∀ call ∈ calls, call.Carried := by
  constructor
  · intro each call member
    cases extension : call.isExtension with
    | true => exact each call (mem_filter.mpr ⟨member, extension⟩)
    | false => exact carried_of_not_extension extension
  · intro each call member
    exact each call (mem_filter.mp member).1

variable [Cboring] [Crc16] [Ed25519] [GoSort]

/-- A chain is obeyed unless a named block was given more flags, a limit beyond a byte or an age
before the creation. -/
theorem obeyed_iff {bndl : Bundle} (built : chain now calls = .ok bndl)
    (room : Allocatable bndl.extensionBlocks) :
    Obeyed calls bndl ↔ ∀ call ∈ calls, call.Carried := by
  obtain ⟨bldr, ran, built⟩ := bind_eq_ok.mp built
  obtain ⟨fine, checked, rfl, valid, rfl⟩ := BundleBuilder.build_eq_ok built
  have tracks := tracks_new.runs rfl ran fine
  rw [nil_append] at tracks
  have small : Allocatable bldr.canonicals := by
    have size : (GoSort.sort canonicalBlockLess bldr.canonicals).length ≤ maxAlloc := by
      simpa [setCRCType, Allocatable] using room
    rwa [(GoSort.perm _ _).length_eq] at size
  have blocks : extensionBlocks (setCRCType ⟨bldr.primary.reporting,
      GoSort.sort canonicalBlockLess bldr.canonicals, bldr.payload⟩ bldr.crcType) =
        bldr.canonicals.map fun cb => { cb with crcType := bldr.crcType } := by
    rw [setCRCType, tracks.toCounted.sort small]
  have extensions : List.Forall₂ (fun call cb => MetBy call cb.value cb.blockControlFlags)
      (calls.filter isExtension)
      (bldr.canonicals.map fun cb => { cb with crcType := bldr.crcType }) ↔ ∀ call ∈ calls, call.Carried := by
    rw [forall₂_map_right_iff, ← carried_extensions_iff]
    exact forall₂_metBy_iff tracks.extensions
  constructor
  · intro obeyed
    have met := obeyed.extensions
    rw [blocks] at met
    exact extensions.mp met
  · intro carried
    refine ⟨?_, ?_, ?_⟩
    · rw [blocks]
      exact extensions.mpr carried
    · have numbers := numbers_numberedFrom 2 bldr.canonicals
      rw [tracks.numbered] at numbers
      rw [blocks, map_map, tracks.extensions.length_eq, ← numbers]
      rfl
    · obtain ⟨value, held⟩ : bldr.payload.Present :=
        CanonicalBlock.present_of_checkValid ((checkValid_eq_nil.mp valid).2.1 bldr.payload (by simp))
      rcases tracks.payload with absent | ⟨call, last, made⟩
      · rw [held] at absent
        cases absent
      · have inside := mem_of_getLast? last
        exact ⟨call, last, made.metBy_iff.mpr (carried call (mem_filter.mp inside).1)⟩

end

section

open scoped Samples

attribute [local instance] Numerals.withoutTexts

def hopChain (limit : Int64) (flags : Option BlockControlFlags) : List BuilderCall :=
  [.primary (.source (.endpointID (nodeEndpoint "broker"))),
    .primary (.destination (.endpointID (nodeEndpoint "executor"))),
    .primary (.creationTimestampTime 946684800001000000), .primary (.lifetime (.uint64 60000)),
    .hopCountBlock limit flags, .payloadBlock (.bytes [42]) none]

/-- The flag of the first chain is lost, and 300 hops become 44. -/
theorem hopChain_not_obeyed :
    (∃ bndl, chain 0 (hopChain 64 (some statusReportBlock)) = .ok bndl ∧
      ¬Obeyed (hopChain 64 (some statusReportBlock)) bndl) ∧
    ∃ bndl, chain 0 (hopChain 300 none) = .ok bndl ∧ ¬Obeyed (hopChain 300 none) bndl := by
  constructor
  · refine ⟨_, rfl, ?_⟩
    intro obeyed
    cases obeyed.extensions with
    | cons met rest =>
      cases met with
      | hopCountBlock told given => exact absurd given (by decide)
  · refine ⟨_, rfl, ?_⟩
    intro obeyed
    cases obeyed.extensions with
    | cons met rest =>
      cases met with
      | hopCountBlock told given => exact absurd told (by decide)

theorem hopChain_obeyed : ∃ bndl, chain 0 (hopChain 64 none) = .ok bndl ∧
    Obeyed (hopChain 64 none) bndl := by
  have carried : ∀ call ∈ hopChain 64 none, call.Carried := by
    intro call member
    simp only [hopChain, mem_cons, not_mem_nil, or_false] at member
    rcases member with rfl | rfl | rfl | rfl | rfl | rfl
    · trivial
    · trivial
    · trivial
    · trivial
    · exact ⟨by decide, rfl⟩
    · trivial
  obtain ⟨bndl, built, room⟩ : ∃ bndl, chain 0 (hopChain 64 none) = .ok bndl ∧
      Allocatable bndl.extensionBlocks :=
    ⟨_, rfl, Nat.le_of_ble_eq_true rfl⟩
  exact ⟨bndl, built, (obeyed_iff built room).mpr carried⟩

end

end BuilderCall

end RecDtn.Bpv7
