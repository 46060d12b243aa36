import RecDtn.Bpv7.Builder
import RecDtn.Bpv7.Numbering

/-! The calls of the builder, with arguments of any type. -/

namespace RecDtn.Bpv7

open Wire Lang BlockControlFlags Go List

/-- An `interface{}`: the types that a decoder of JSON makes, those that the builder tells
apart, and any other, of which the name and what `binary.Write` writes are known. -/
inductive Interface where
  | nil
  | bool (value : Bool)
  | float64 (bits : UInt64)
  | string (text : List UInt8)
  | slice (items : List Interface)
  | object (members : List (List UInt8 × Interface))
  | uint64 (value : UInt64)
  | int (value : Int64)
  | duration (nanoseconds : Int64)
  | time (t : Time)
  | bytes (data : List UInt8)
  | endpointID (eid : EndpointID)
  | blockControlFlags (flags : BlockControlFlags)
  | extensionBlock (data : ExtensionBlock)
  | canonicalBlock (cb : CanonicalBlock)
  | other (typeName : String) (written : Option (List UInt8))

def littleEndian (number : UInt64) : List UInt8 := (CborHead.bigEndian 8 number.toNat).reverse

namespace ExtensionBlock

/-- The type of the pointer, as `%T` prints it. -/
def typeName : ExtensionBlock → String
  | payload _ => "*bpv7.PayloadBlock"
  | previousNode _ => "*bpv7.PreviousNodeBlock"
  | bundleAge _ => "*bpv7.BundleAgeBlock"
  | hopCount _ _ => "*bpv7.HopCountBlock"
  | recBundleType _ => "*bpv7.RECBundleTypeBlock"
  | binarySpray _ => "*bpv7.BinarySprayBlock"
  | dtlsr _ _ _ => "*bpv7.DTLSRBlock"
  | prophet _ => "*bpv7.ProphetBlock"
  | signature _ _ => "*bpv7.SignatureBlock"
  | generic _ _ => "*bpv7.GenericExtensionBlock"

/-- What the pointer leads to has a fixed size, unless it holds an endpoint, a map or a slice. -/
def fixedSized : ExtensionBlock → Option (List UInt8)
  | payload data => some data
  | bundleAge age => some (littleEndian age)
  | hopCount limit count => some [limit, count]
  | recBundleType btype => some (littleEndian btype)
  | binarySpray copies => some (littleEndian copies)
  | previousNode _ | dtlsr _ _ _ | prophet _ | signature _ _ | generic _ _ => none

end ExtensionBlock

namespace Interface

/-- The verb `%T`. -/
def typeName : Interface → String
  | nil => "<nil>"
  | bool _ => "bool"
  | float64 _ => "float64"
  | string _ => "string"
  | slice _ => "[]interface {}"
  | object _ => "map[string]interface {}"
  | uint64 _ => "uint64"
  | int _ => "int"
  | duration _ => "time.Duration"
  | time _ => "time.Time"
  | bytes _ => "[]uint8"
  | endpointID _ => "bpv7.EndpointID"
  | blockControlFlags _ => "bpv7.BlockControlFlags"
  | extensionBlock data => data.typeName
  | canonicalBlock _ => "bpv7.CanonicalBlock"
  | other typeName _ => typeName

/-- An `int` and a `string` have no fixed size. -/
def fixedSized : Interface → Option (List UInt8)
  | bool value => some [if value then 1 else 0]
  | float64 bits => some (littleEndian bits)
  | uint64 value => some (littleEndian value)
  | duration nanoseconds => some (littleEndian nanoseconds.toUInt64)
  | bytes data => some data
  | blockControlFlags flags => some (littleEndian flags)
  | extensionBlock data => data.fixedSized
  | other _ written => written
  | nil | string _ | slice _ | object _ | int _ | time _ | endpointID _ | canonicalBlock _ => none

/-- `binary.Write` into a buffer. The text of the error asks for the name of the type, and nil
has no type. -/
def binaryWrite (data : Interface) : Go (List UInt8) :=
  match data, data.fixedSized with
  | _, some written => .ok written
  | nil, none => .error .panic
  | data, none => .error (.error
      (.text s!"binary.Write: some values are not fixed-sized in type {data.typeName}"))

/-- Only nil makes the call panic. -/
theorem binaryWrite_cases (data : Interface) :
    (∃ written, data.fixedSized = some written ∧ data.binaryWrite = .ok written) ∨
      (data = nil ∧ data.binaryWrite = .error .panic) ∨
      data.fixedSized = none ∧ ∃ cause, data.binaryWrite = .error (.error cause) := by
  cases size : data.fixedSized with
  | some written => exact .inl ⟨written, rfl, by simp only [binaryWrite, size]⟩
  | none =>
    by_cases missing : data = nil
    · subst missing
      exact .inr (.inl ⟨rfl, rfl⟩)
    · refine .inr (.inr ⟨rfl, ?_⟩)
      unfold binaryWrite
      split
      · rename_i other
        rw [size] at other
        cases other
      · exact absurd rfl missing
      · exact ⟨_, rfl⟩

end Interface

/-- `time.ParseDuration`, the verb `%f`, and what becomes of a `float64` that no `uint64` is
the integral part of. -/
class Numerals where
  parseDuration : List UInt8 → Except GoError Int64
  formatFloat : UInt64 → String
  convertBeyond : UInt64 → UInt64

/-- Durations are not given as texts here. -/
@[reducible] def Numerals.withoutTexts : Numerals :=
  ⟨fun _ => .error (.text "time: invalid duration"), fun _ => "", id⟩

/-- `float < 0`, of the bits of a `float64`: neither the negative zero nor a negative NaN. -/
def float64Negative (bits : UInt64) : Bool :=
  0x8000000000000000 < bits && bits ≤ 0xfff0000000000000

/-- `uint64(float)`, which drops the fraction. -/
def uint64OfFloat64 [Numerals] (bits : UInt64) : UInt64 :=
  let exponent := (bits >>> 52).toNat % 2048
  let mantissa := 2 ^ 52 + bits.toNat % 2 ^ 52
  if exponent < 1023 then 0
  else if exponent < 1023 + 64 then (mantissa * 2 ^ (exponent - 1023) / 2 ^ 52).toUInt64
  else Numerals.convertBeyond bits

def bldrParseEndpoint : Interface → Go EndpointID
  | .endpointID eid => .ok eid
  | .string uri => newEndpointID uri
  | eid => .error (.error (.text s!"{eid.typeName} is neither an EndpointID nor a string"))

/-- Only a `time.Duration` may be negative. -/
def bldrParseLifetime [Numerals] : Interface → Go UInt64
  | .uint64 ms => .ok ms
  | .int ms =>
    if ms < 0 then .error (.error (.text s!"lifetime's duration {ms.toInt} <= 0"))
      else .ok ms.toUInt64
  | .float64 bits =>
    if float64Negative bits then
      .error (.error (.text s!"lifetime's duration {Numerals.formatFloat bits} <= 0"))
    else .ok (uint64OfFloat64 bits)
  | .string text => do
    let dur ← Go.ofExcept (Numerals.parseDuration text)
    if dur ≤ 0 then .error (.error (.text s!"lifetime's duration {dur.toInt} <= 0"))
    else return (dur / 1000000).toUInt64
  | .duration dur => .ok (dur / 1000000).toUInt64
  | value =>
    .error (.error (.text s!"{value.typeName} is an unsupported type to parse a Duration from"))

theorem settled_bldrParseEndpoint (eid : Interface) : Settled (bldrParseEndpoint eid) := by
  unfold bldrParseEndpoint
  split
  · exact .ok _
  · exact settled_newEndpointID _
  · exact .error _

theorem settled_bldrParseLifetime [Numerals] (value : Interface) :
    Settled (bldrParseLifetime value) := by
  unfold bldrParseLifetime
  split
  · exact .ok _
  · split
    · exact .error _
    · exact .ok _
  · split
    · exact .error _
    · exact .ok _
  · apply settled_bind (settled_ofExcept _)
    intro dur
    split
    · exact .error _
    · exact .ok _
  · exact .ok _
  · exact .error _

namespace BundleBuilder

section

variable (bldr : BundleBuilder)

def crc (crcType : CRCType) : BundleBuilder :=
  bldr.unlessFailed fun bldr => { bldr with crcType := crcType }

def reportTo (eid : EndpointID) : BundleBuilder :=
  bldr.unlessFailed fun bldr => { bldr with primary := { bldr.primary with reportTo := eid } }

def creationTimestampEpoch : BundleBuilder := bldr.creationTimestamp 0

def creationTimestampNow (now : Time) : BundleBuilder := bldr.creationTimestamp (dtnTimeFromTime now)

def creationTimestampTime (t : Time) : BundleBuilder := bldr.creationTimestamp (dtnTimeFromTime t)

def bundleCtrlFlags (bcf : BundleControlFlags) : BundleBuilder :=
  bldr.unlessFailed fun bldr =>
    { bldr with primary := { bldr.primary with bundleControlFlags := bcf } }

/-- `bldr.err = err`. -/
def failed (err : GoError) : BundleBuilder := { bldr with err := some err }

/-- A block of payload type takes the payload slot, any other one the next number. -/
def put (typeCode : UInt64) (cb : CanonicalBlock) : BundleBuilder :=
  if typeCode = BlockType.payloadBlock then { bldr with payload := { cb with blockNumber := 1 } }
  else
    { bldr with
      canonicalCounter := bldr.canonicalCounter + 1
      canonicals := bldr.canonicals ++ [{ cb with blockNumber := bldr.canonicalCounter }] }

end

variable {bldr : BundleBuilder}

theorem unlessFailed_of_ready (ready : bldr.err = none) (call : BundleBuilder → BundleBuilder) :
    bldr.unlessFailed call = call bldr := by
  simp only [unlessFailed, ready]

theorem unlessFailed_of_failed (failed : bldr.err ≠ none)
    (call : BundleBuilder → BundleBuilder) : bldr.unlessFailed call = bldr := by
  cases err : bldr.err with
  | none => exact absurd err failed
  | some cause => simp only [unlessFailed, err]

theorem canonical_eq_put (ready : bldr.err = none) (data : ExtensionBlock)
    (flags : BlockControlFlags) :
    bldr.canonical data flags = bldr.put data.blockTypeCode (newCanonicalBlock 0 flags data) := by
  rw [canonical, unlessFailed_of_ready ready]
  rfl

namespace Untyped

/-- `if bldr.err != nil { return bldr }`. -/
def guarded (bldr : BundleBuilder) (call : Go BundleBuilder) : Go BundleBuilder :=
  match bldr.err with
  | none => call
  | some _ => .ok bldr

/-- A call that sets a part of the builder to its argument, if it can be parsed. -/
def setting {α : Type} (bldr : BundleBuilder) (argument : Go α)
    (set : BundleBuilder → α → BundleBuilder) : Go BundleBuilder :=
  guarded bldr do
    match ← argument.attempt with
    | .ok value => return set bldr value
    | .error err => return bldr.failed err

def destination (bldr : BundleBuilder) (eid : Interface) : Go BundleBuilder :=
  setting bldr (bldrParseEndpoint eid) BundleBuilder.destination

def source (bldr : BundleBuilder) (eid : Interface) : Go BundleBuilder :=
  setting bldr (bldrParseEndpoint eid) BundleBuilder.source

def reportTo (bldr : BundleBuilder) (eid : Interface) : Go BundleBuilder :=
  setting bldr (bldrParseEndpoint eid) BundleBuilder.reportTo

/-- `Canonical` of an extension block: the flags are the second of two parameters. -/
def canonicalData (bldr : BundleBuilder) (data : ExtensionBlock) : List Interface → BundleBuilder
  | [] => bldr.canonical data 0
  | [.blockControlFlags blockCtrlFlags] => bldr.canonical data blockCtrlFlags
  | [_] => bldr.failed (.text "Canonical received wrong parameter types, true false")
  | _ => bldr.failed (.text "Canonical was called with neither one nor two parameters")

def canonical (bldr : BundleBuilder) (args : List Interface) : Go BundleBuilder :=
  guarded bldr <|
    match args with
    | [] => .ok (bldr.failed (.text "canonical was called with no parameters"))
    | .extensionBlock data :: rest => .ok (canonicalData bldr data rest)
    | .canonicalBlock cb :: _ => (fun typeCode => bldr.put typeCode cb) <$> cb.typeCode
    | _ => .ok (bldr.failed (.text "canonicals received unknown type"))

/-- The flags, and the builder with its error. -/
def canonicalParseFlags (bldr : BundleBuilder) : List Interface → BundleBuilder × BlockControlFlags
  | [_, .blockControlFlags passedFlags] => (bldr, passedFlags)
  | [_, _] => (bldr.failed (.text "second parameter are no BlockControlFlags"), 0)
  | _ => (bldr, 0)

/-- The arguments are handed on as one value, a slice. -/
def withFlags (bldr : BundleBuilder) (args : List Interface) (data : ExtensionBlock) :
    Go BundleBuilder :=
  let parsed := canonicalParseFlags bldr [.slice args]
  canonical parsed.1 [.extensionBlock data, .blockControlFlags (parsed.2 ||| replicateBlock)]

/-- The calls for the three named blocks. After an error they go on with the zero value, but
nothing is added then. -/
def namedBlock (bldr : BundleBuilder) (args : List Interface)
    (block : Interface → Go ExtensionBlock) (zero : ExtensionBlock) : Go BundleBuilder :=
  guarded bldr do
    let first ← Go.deref args.head?
    match ← (block first).attempt with
    | .ok data => withFlags bldr args data
    | .error err => withFlags (bldr.failed err) args zero

/-- `uint8(limit)` keeps the lowest byte. -/
def hopLimit : Interface → Go ExtensionBlock
  | .int limit => .ok (.hopCount limit.toUInt64.toUInt8 0)
  | _ => .error (.error (.text "HopCountBlock received wrong parameter type"))

def previousNode (eid : Interface) : Go ExtensionBlock := .previousNode <$> bldrParseEndpoint eid

def hopCountBlock (bldr : BundleBuilder) (args : List Interface) : Go BundleBuilder :=
  namedBlock bldr args hopLimit (.hopCount 0 0)

def previousNodeBlock (bldr : BundleBuilder) (args : List Interface) : Go BundleBuilder :=
  namedBlock bldr args previousNode (.previousNode ⟨none⟩)

/-- Unlike the others this call does not look for an earlier error first. -/
def payloadBlock (bldr : BundleBuilder) (args : List Interface) : Go BundleBuilder := do
  let first ← Go.deref args.head?
  match ← first.binaryWrite.attempt with
  | .error err => return bldr.failed err
  | .ok data => canonical bldr (.extensionBlock (.payload data) :: args.tail)

section

variable [Numerals]

def bundleAge (age : Interface) : Go ExtensionBlock := .bundleAge <$> bldrParseLifetime age

def lifetime (bldr : BundleBuilder) (duration : Interface) : Go BundleBuilder :=
  setting bldr (bldrParseLifetime duration) BundleBuilder.lifetime

def bundleAgeBlock (bldr : BundleBuilder) (args : List Interface) : Go BundleBuilder :=
  namedBlock bldr args bundleAge (.bundleAge 0)

end

variable {bldr : BundleBuilder}

theorem guarded_of_ready (ready : bldr.err = none) (call : Go BundleBuilder) :
    guarded bldr call = call := by
  simp only [guarded, ready]

theorem guarded_of_failed (failed : bldr.err ≠ none) (call : Go BundleBuilder) :
    guarded bldr call = .ok bldr := by
  cases err : bldr.err with
  | none => exact absurd err failed
  | some cause => simp only [guarded, err]

section

variable {α : Type} {argument : Go α} {set : BundleBuilder → α → BundleBuilder}

theorem setting_of_parsed (ready : bldr.err = none) {value : α} (parsed : argument = .ok value) :
    setting bldr argument set = .ok (set bldr value) := by
  rw [setting, guarded_of_ready ready, parsed]
  rfl

theorem setting_of_refused (ready : bldr.err = none) {cause : GoError}
    (refused : argument = .error (.error cause)) :
    setting bldr argument set = .ok (bldr.failed cause) := by
  rw [setting, guarded_of_ready ready, refused]
  rfl

end

theorem settled_hopLimit (limit : Interface) : Settled (hopLimit limit) := by
  unfold hopLimit
  split
  · exact .ok _
  · exact .error _

variable {data : ExtensionBlock}

theorem hopLimit_eq_ok {limit : Interface} (parsed : hopLimit limit = .ok data) :
    ∃ stored, data = .hopCount stored 0 := by
  unfold hopLimit at parsed
  split at parsed
  · cases parsed
    exact ⟨_, rfl⟩
  · cases parsed

theorem canonical_of_data (ready : bldr.err = none) (data : ExtensionBlock) (rest : List Interface) :
    canonical bldr (.extensionBlock data :: rest) = .ok (canonicalData bldr data rest) :=
  guarded_of_ready ready _

theorem canonical_of_failed (failed : bldr.err ≠ none) (args : List Interface) :
    canonical bldr args = .ok bldr :=
  guarded_of_failed failed _

/-- The flags that were given are not looked at. -/
theorem withFlags_of_ready (ready : bldr.err = none) (args : List Interface)
    (data : ExtensionBlock) : withFlags bldr args data =
      .ok (bldr.put data.blockTypeCode (newCanonicalBlock 0 replicateBlock data)) := by
  have handed : withFlags bldr args data =
      guarded bldr (.ok (bldr.canonical data (0 ||| replicateBlock))) := rfl
  rw [handed, guarded_of_ready ready, canonical_eq_put ready, UInt64.zero_or]

section

variable {block : Interface → Go ExtensionBlock} {first : Interface} {rest : List Interface}
  {zero : ExtensionBlock}

theorem namedBlock_of_parsed (ready : bldr.err = none) (parsed : block first = .ok data) :
    namedBlock bldr (first :: rest) block zero =
      .ok (bldr.put data.blockTypeCode (newCanonicalBlock 0 replicateBlock data)) := by
  rw [namedBlock, guarded_of_ready ready, head?_cons, Go.deref, ok_bind,
    parsed, ← withFlags_of_ready ready]
  rfl

variable {cause : GoError}

theorem namedBlock_of_refused (ready : bldr.err = none)
    (refused : block first = .error (.error cause)) :
    namedBlock bldr (first :: rest) block zero = .ok (bldr.failed cause) := by
  rw [namedBlock, guarded_of_ready ready, head?_cons, Go.deref, ok_bind, refused]
  rfl

/-- A call that leaves no error has parsed its argument. -/
theorem namedBlock_eq_ok {after : BundleBuilder} (settled : Settled (block first))
    (ready : bldr.err = none)
    (ran : namedBlock bldr (first :: rest) block zero = .ok after) (fine : after.err = none) :
    ∃ data, block first = .ok data ∧
      after = bldr.put data.blockTypeCode (newCanonicalBlock 0 replicateBlock data) := by
  cases parsed : block first with
  | ok data =>
    rw [namedBlock_of_parsed ready parsed] at ran
    exact ⟨data, rfl, (Except.ok.inj ran).symm⟩
  | error fault =>
    obtain ⟨cause, rfl⟩ := settled fault parsed
    rw [namedBlock_of_refused ready parsed] at ran
    cases ran
    cases fine

theorem payloadBlock_of_written {data : List UInt8} (written : first.binaryWrite = .ok data) :
    payloadBlock bldr (first :: rest) = canonical bldr (.extensionBlock (.payload data) :: rest) := by
  rw [payloadBlock, head?_cons, Go.deref, ok_bind, written]
  rfl

theorem payloadBlock_of_panicked (panicked : first.binaryWrite = .error .panic) :
    payloadBlock bldr (first :: rest) = .error .panic := by
  rw [payloadBlock, head?_cons, Go.deref, ok_bind, panicked]
  rfl

theorem payloadBlock_of_refused (refused : first.binaryWrite = .error (.error cause)) :
    payloadBlock bldr (first :: rest) = .ok (bldr.failed cause) := by
  rw [payloadBlock, head?_cons, Go.deref, ok_bind, refused]
  rfl

end

end Untyped

end BundleBuilder

end RecDtn.Bpv7
