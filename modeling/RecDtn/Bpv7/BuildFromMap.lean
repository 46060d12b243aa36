import RecDtn.Bpv7.BuilderChain
import RecDtn.Bpv7.RoundTrip
import RecDtn.Lang.Dict
import RecDtn.Lang.Run

/-! Bundles that are built from a map, in whatever order it is visited. -/

namespace RecDtn.Bpv7

open Wire Lang Bpv7.Bundle List Go

/-- The keys that the loop knows. -/
inductive Method where
  | destination
  | source
  | reportTo
  | creationTimestampEpoch
  | creationTimestampNow
  | creationTimestampTime
  | lifetime
  | bundleCtrlFlags
  | canonical
  | bundleAgeBlock
  | hopCountBlock
  | payloadBlock
  | previousNodeBlock
  deriving DecidableEq

namespace Method

def name : Method → List UInt8
  | destination => ascii "destination"
  | source => ascii "source"
  | reportTo => ascii "report_to"
  | creationTimestampEpoch => ascii "creation_timestamp_epoch"
  | creationTimestampNow => ascii "creation_timestamp_now"
  | creationTimestampTime => ascii "creation_timestamp_time"
  | lifetime => ascii "lifetime"
  | bundleCtrlFlags => ascii "bundle_ctrl_flags"
  | canonical => ascii "canonical"
  | bundleAgeBlock => ascii "bundle_age_block"
  | hopCountBlock => ascii "hop_count_block"
  | payloadBlock => ascii "payload_block"
  | previousNodeBlock => ascii "previous_node_block"

def all : List Method :=
  [destination, source, reportTo, creationTimestampEpoch, creationTimestampNow,
    creationTimestampTime, lifetime,
    bundleCtrlFlags, canonical, bundleAgeBlock, hopCountBlock, payloadBlock, previousNodeBlock]

def named (key : List UInt8) : Option Method := all.find? fun method => method.name = key

theorem named_name (method : Method) : named method.name = some method := by
  cases method <;> rfl

theorem name_of_named {key : List UInt8} {method : Method} (found : named key = some method) :
    key = method.name := by
  have same := List.find?_some found
  exact (of_decide_eq_true same).symm

theorem name_injective {first second : Method} (same : first.name = second.name) :
    first = second := by
  have found := congrArg named same
  rw [named_name, named_name] at found
  exact Option.some.inj found

end Method

/-- A key of the map and its value. -/
abbrev Item := List UInt8 × Interface

/-- A text becomes its bytes. -/
def payloadArgument : Interface → Interface
  | .string text => .bytes text
  | args => args

section

/-- `if err == nil { err = bldr.Error() }`, and the end of the loop if there is an error. -/
def checked (called : Go BundleBuilder) : Go BundleBuilder := do
  let bldr ← called
  Go.check bldr.err
  return bldr

variable [Numerals]

open BundleBuilder

/-- The call that a key names. -/
def Item.call (now : Time) (bldr : BundleBuilder) (item : Item) : Go BundleBuilder :=
  match Method.named item.1 with
  | some .destination => Untyped.destination bldr item.2
  | some .source => Untyped.source bldr item.2
  | some .reportTo => Untyped.reportTo bldr item.2
  | some .creationTimestampEpoch => .ok bldr.creationTimestampEpoch
  | some .creationTimestampNow => .ok (bldr.creationTimestampNow now)
  | some .creationTimestampTime =>
    match item.2 with
    | .time t => .ok (bldr.creationTimestampTime t)
    | args =>
      .error (.error (.text s!"creation_timestamp_time needs a time.Time, not {args.typeName}"))
  | some .lifetime => Untyped.lifetime bldr item.2
  | some .bundleCtrlFlags => .error (.error (.text "bundle_ctrl_flags is not yet implemented"))
  | some .canonical => .error (.error (.text "canonical is not impelemtend"))
  | some .bundleAgeBlock => Untyped.bundleAgeBlock bldr [item.2]
  | some .hopCountBlock => Untyped.hopCountBlock bldr [item.2]
  | some .payloadBlock => Untyped.payloadBlock bldr [payloadArgument item.2]
  | some .previousNodeBlock => Untyped.previousNodeBlock bldr [item.2]
  | none =>
    .error (.error (.text s!"method {display item.1} is either not implemented or not existing"))

def Item.round (now : Time) (bldr : BundleBuilder) (item : Item) : Go BundleBuilder :=
  checked (item.call now bldr)

/-- `BuildFromMap`, with the items in the order in which they are visited. -/
def buildFromMap [Cboring] [Crc16] [Ed25519] [GoSort] (now : Time) (visited : List Item) :
    Go Bundle := do
  let bldr ← visited.foldlM (Item.round now) BundleBuilder.new
  bldr.build now

end

/-- What an item sets, if it is accepted. -/
inductive Change where
  | destination (eid : EndpointID)
  | source (eid : EndpointID)
  | reportTo (eid : EndpointID)
  | timestamp (t : DtnTime)
  | lifetime (ms : UInt64)
  | extension (data : ExtensionBlock)
  | payload (data : List UInt8)

namespace Change

def apply (bldr : BundleBuilder) : Change → BundleBuilder
  | destination eid => { bldr with primary := { bldr.primary with destination := eid } }
  | source eid => { bldr with primary := { bldr.primary with sourceNode := eid } }
  | reportTo eid => { bldr with primary := { bldr.primary with reportTo := eid } }
  | timestamp t => { bldr with primary := { bldr.primary with creationTimestamp := ⟨t, 0⟩ } }
  | lifetime ms => { bldr with primary := { bldr.primary with lifetime := ms } }
  | extension data =>
    { bldr with
      canonicalCounter := bldr.canonicalCounter + 1
      canonicals := bldr.canonicals ++
        [newCanonicalBlock bldr.canonicalCounter BlockControlFlags.replicateBlock data] }
  | payload data => { bldr with payload := newCanonicalBlock 1 0 (.payload data) }

theorem err_apply (bldr : BundleBuilder) (change : Change) : (apply bldr change).err = bldr.err := by
  cases change <;> rfl

end Change

section

variable [Numerals]

open BundleBuilder

/-- The change does not depend on the builder, and so not on what came before. -/
def Item.change (now : Time) (item : Item) : Go Change :=
  match Method.named item.1 with
  | some .destination => .destination <$> bldrParseEndpoint item.2
  | some .source => .source <$> bldrParseEndpoint item.2
  | some .reportTo => .reportTo <$> bldrParseEndpoint item.2
  | some .creationTimestampEpoch => .ok (.timestamp 0)
  | some .creationTimestampNow => .ok (.timestamp (dtnTimeFromTime now))
  | some .creationTimestampTime =>
    match item.2 with
    | .time t => .ok (.timestamp (dtnTimeFromTime t))
    | args =>
      .error (.error (.text s!"creation_timestamp_time needs a time.Time, not {args.typeName}"))
  | some .lifetime => .lifetime <$> bldrParseLifetime item.2
  | some .bundleCtrlFlags => .error (.error (.text "bundle_ctrl_flags is not yet implemented"))
  | some .canonical => .error (.error (.text "canonical is not impelemtend"))
  | some .bundleAgeBlock => .extension <$> Untyped.bundleAge item.2
  | some .hopCountBlock => .extension <$> Untyped.hopLimit item.2
  | some .payloadBlock => .payload <$> (payloadArgument item.2).binaryWrite
  | some .previousNodeBlock => .extension <$> Untyped.previousNode item.2
  | none =>
    .error (.error (.text s!"method {display item.1} is either not implemented or not existing"))

end

namespace BundleBuilder

variable {bldr : BundleBuilder} (ready : bldr.err = none)

include ready

theorem checked_of_ready : checked (.ok bldr) = .ok bldr := by
  rw [checked, ok_bind, ready]
  rfl

theorem checked_apply (change : Change) :
    checked (.ok (Change.apply bldr change)) = .ok (Change.apply bldr change) :=
  checked_of_ready ((Change.err_apply bldr change).trans ready)

theorem checked_setting {α : Type} {argument : Go α} (settled : Settled argument)
    {set : BundleBuilder → α → BundleBuilder} {change : α → Change}
    (same : ∀ value, set bldr value = Change.apply bldr (change value)) :
    checked (Untyped.setting bldr argument set) = Change.apply bldr <$> (change <$> argument) := by
  cases parsed : argument with
  | ok value =>
    rw [Untyped.setting_of_parsed ready rfl, same, checked_apply ready]
    rfl
  | error fault =>
    obtain ⟨cause, rfl⟩ := settled fault parsed
    rw [Untyped.setting_of_refused ready rfl]
    rfl

theorem checked_namedBlock {block : Interface → Go ExtensionBlock} {argument : Interface}
    {zero : ExtensionBlock} (settled : Settled (block argument))
    (extension : ∀ data, block argument = .ok data → data.blockTypeCode ≠
    BlockType.payloadBlock) : checked (Untyped.namedBlock bldr [argument] block zero) =
      Change.apply bldr <$> (Change.extension <$> block argument) := by
  cases parsed : block argument with
  | ok data =>
    have placed : bldr.put data.blockTypeCode (newCanonicalBlock 0 BlockControlFlags.replicateBlock data) =
        Change.apply bldr (.extension data) := if_neg (extension data parsed)
    rw [Untyped.namedBlock_of_parsed ready parsed, placed, checked_apply ready]
    rfl
  | error fault =>
    obtain ⟨cause, rfl⟩ := settled fault parsed
    rw [Untyped.namedBlock_of_refused ready parsed]
    rfl

theorem checked_payloadBlock (argument : Interface) : checked (Untyped.payloadBlock bldr [argument]) =
    Change.apply bldr <$> (Change.payload <$> argument.binaryWrite) := by
  rcases argument.binaryWrite_cases with ⟨data, -, written⟩ | ⟨-, panicked⟩ | ⟨-,
    cause, refused⟩
  · have placed : Untyped.canonicalData bldr (.payload data) [] = Change.apply bldr (.payload data) :=
      canonical_eq_put ready (.payload data) 0
    rw [Untyped.payloadBlock_of_written written, Untyped.canonical_of_data ready, placed,
      checked_apply ready, written]
    rfl
  · rw [Untyped.payloadBlock_of_panicked panicked, panicked]
    rfl
  · rw [Untyped.payloadBlock_of_refused refused, refused]
    rfl

end BundleBuilder

/-- The changes that the items of a key make. -/
inductive Change.By : Method → Change → Prop where
  | destination (eid : EndpointID) : By .destination (.destination eid)
  | source (eid : EndpointID) : By .source (.source eid)
  | reportTo (eid : EndpointID) : By .reportTo (.reportTo eid)
  | creationTimestampEpoch : By .creationTimestampEpoch (.timestamp 0)
  | creationTimestampNow (t : DtnTime) : By .creationTimestampNow (.timestamp t)
  | creationTimestampTime (t : DtnTime) : By .creationTimestampTime (.timestamp t)
  | lifetime (ms : UInt64) : By .lifetime (.lifetime ms)
  | bundleAgeBlock (ms : UInt64) : By .bundleAgeBlock (.extension (.bundleAge ms))
  | hopCountBlock (limit : UInt8) : By .hopCountBlock (.extension (.hopCount limit 0))
  | previousNodeBlock (eid : EndpointID) : By .previousNodeBlock (.extension (.previousNode eid))
  | payloadBlock (data : List UInt8) : By .payloadBlock (.payload data)

section

variable [Numerals] {now : Time} {item : Item}

open BundleBuilder

theorem Item.by_of_change {change : Change} (accepted : item.change now = .ok change) :
    ∃ method : Method, item.1 = method.name ∧ Change.By method change := by
  cases key : Method.named item.1 with
  | none =>
    simp only [Item.change, key] at accepted
    cases accepted
  | some method =>
    refine ⟨method, Method.name_of_named key, ?_⟩
    cases method <;> simp only [Item.change, key] at accepted
    case bundleCtrlFlags => cases accepted
    case canonical => cases accepted
    case creationTimestampEpoch =>
      cases accepted
      exact .creationTimestampEpoch
    case creationTimestampNow =>
      cases accepted
      exact .creationTimestampNow _
    case creationTimestampTime =>
      split at accepted
      · cases accepted
        exact .creationTimestampTime _
      · cases accepted
    case hopCountBlock =>
      obtain ⟨data, parsed, rfl⟩ := map_eq_ok.mp accepted
      obtain ⟨stored, rfl⟩ := Untyped.hopLimit_eq_ok parsed
      exact .hopCountBlock stored
    case bundleAgeBlock =>
      obtain ⟨data, parsed, rfl⟩ := map_eq_ok.mp accepted
      obtain ⟨ms, -, rfl⟩ := map_eq_ok.mp parsed
      exact .bundleAgeBlock ms
    case previousNodeBlock =>
      obtain ⟨data, parsed, rfl⟩ := map_eq_ok.mp accepted
      obtain ⟨eid, -, rfl⟩ := map_eq_ok.mp parsed
      exact .previousNodeBlock eid
    all_goals
      obtain ⟨value, -, rfl⟩ := map_eq_ok.mp accepted
      constructor

theorem Item.change_panics {fault : Fault GoError} (failed : item.change now = .error fault) :
    (∃ cause, fault = .error cause) ∨ item = (Method.payloadBlock.name, .nil) := by
  have settled : ∀ {α : Type} {f : α → Change} {call : Go α}, Settled call →
      f <$> call = .error fault → ∃ cause, fault = .error cause := by
    intro α f call ends failed
    exact settled_map ends f fault failed
  cases key : Method.named item.1 with
  | none =>
    simp only [Item.change, key] at failed
    cases failed
    exact .inl ⟨_, rfl⟩
  | some method =>
    cases method <;> simp only [Item.change, key] at failed
    case destination | source | reportTo =>
      exact .inl (settled (settled_bldrParseEndpoint _) failed)
    case lifetime => exact .inl (settled (settled_bldrParseLifetime _) failed)
    case bundleAgeBlock => exact .inl (settled (settled_map (settled_bldrParseLifetime _) _) failed)
    case previousNodeBlock =>
      exact .inl (settled (settled_map (settled_bldrParseEndpoint _) _) failed)
    case creationTimestampEpoch => cases failed
    case creationTimestampNow => cases failed
    case bundleCtrlFlags | canonical =>
      cases failed
      exact .inl ⟨_, rfl⟩
    case creationTimestampTime =>
      split at failed
      · cases failed
      · cases failed
        exact .inl ⟨_, rfl⟩
    case hopCountBlock => exact .inl (settled (Untyped.settled_hopLimit _) failed)
    case payloadBlock =>
      rcases (payloadArgument item.2).binaryWrite_cases with ⟨data, -, written⟩ | ⟨missing, -⟩ | ⟨-, cause, refused⟩
      · rw [written] at failed
        cases failed
      · refine .inr (Prod.ext (Method.name_of_named key) ?_)
        unfold payloadArgument at missing
        split at missing
        · cases missing
        · exact missing
      · rw [refused] at failed
        cases failed
        exact .inl ⟨cause, rfl⟩

theorem Item.round_eq {bldr : BundleBuilder} (ready : bldr.err = none) (item : Item) :
    item.round now bldr = Change.apply bldr <$> item.change now := by
  have stamped : ∀ t, bldr.creationTimestamp t = Change.apply bldr (.timestamp t) :=
    fun t => unlessFailed_of_ready ready _
  have other_bundleAge : BlockType.bundleAgeBlock ≠ BlockType.payloadBlock := by decide
  have other_hopCount : BlockType.hopCountBlock ≠ BlockType.payloadBlock := by decide
  have other_previousNode : BlockType.previousNodeBlock ≠ BlockType.payloadBlock := by decide
  cases key : Method.named item.1 with
  | none =>
    simp only [Item.round, Item.call, Item.change, key]
    rfl
  | some method =>
    cases method <;> simp only [Item.round, Item.call, Item.change, key]
    case destination | source | reportTo =>
      exact checked_setting ready (settled_bldrParseEndpoint _) fun value => unlessFailed_of_ready ready _
    case lifetime =>
      exact checked_setting ready (settled_bldrParseLifetime _) fun value => unlessFailed_of_ready ready _
    case creationTimestampEpoch =>
      rw [creationTimestampEpoch, stamped]
      exact checked_apply ready _
    case creationTimestampNow =>
      rw [creationTimestampNow, stamped]
      exact checked_apply ready _
    case creationTimestampTime =>
      split
      · rw [creationTimestampTime, stamped]
        exact checked_apply ready _
      · rfl
    case bundleCtrlFlags => rfl
    case canonical => rfl
    case payloadBlock => exact checked_payloadBlock ready _
    case bundleAgeBlock =>
      refine checked_namedBlock ready (settled_map (settled_bldrParseLifetime _) _) ?_
      intro data parsed
      obtain ⟨ms, -, rfl⟩ := map_eq_ok.mp parsed
      exact other_bundleAge
    case previousNodeBlock =>
      refine checked_namedBlock ready (settled_map (settled_bldrParseEndpoint _) _) ?_
      intro data parsed
      obtain ⟨eid, -, rfl⟩ := map_eq_ok.mp parsed
      exact other_previousNode
    case hopCountBlock =>
      refine checked_namedBlock ready (Untyped.settled_hopLimit _) ?_
      intro data parsed
      obtain ⟨stored, rfl⟩ := Untyped.hopLimit_eq_ok parsed
      exact other_hopCount

theorem buildFromMap_eq [Cboring] [Crc16] [Ed25519] [GoSort] (visited : List Item) :
    buildFromMap now visited = visited.mapM (Item.change now) >>= fun changes =>
      (changes.foldl Change.apply BundleBuilder.new).build now := by
  have kept : ∀ bldr change, bldr.err = none → (Change.apply bldr change).err = none :=
    fun bldr change ready => (Change.err_apply bldr change).trans ready
  rw [buildFromMap, foldlM_eq_mapM kept (fun _ item ready => Item.round_eq ready item) rfl]
  cases visited.mapM (Item.change now) <;> rfl

end

namespace Change

def destination? : Change → Option EndpointID
  | destination eid => some eid
  | _ => none

def source? : Change → Option EndpointID
  | source eid => some eid
  | _ => none

def reportTo? : Change → Option EndpointID
  | reportTo eid => some eid
  | _ => none

def timestamp? : Change → Option DtnTime
  | timestamp t => some t
  | _ => none

def lifetime? : Change → Option UInt64
  | lifetime ms => some ms
  | _ => none

def extension? : Change → Option ExtensionBlock
  | extension data => some data
  | _ => none

def payload? : Change → Option CanonicalBlock
  | payload data => some (newCanonicalBlock 1 0 (.payload data))
  | _ => none

def Reads {α : Type} (kind : Change → Option α) (make : α → Change) : Prop :=
  ∀ change value, kind change = some value ↔ change = make value

theorem reads_timestamp : Reads timestamp? timestamp := by
  intro change value
  cases change <;> simp [timestamp?]

theorem reads_extension : Reads extension? extension := by
  intro change value
  cases change <;> simp [extension?]

theorem Reads.mem_iff {α : Type} {kind : Change → Option α} {make : α → Change}
    (reads : Reads kind make) {changes : List Change} {value : α} :
    value ∈ changes.filterMap kind ↔ make value ∈ changes := by
  simp only [mem_filterMap, reads _ value, exists_eq_right]

/-- The items of one key, and no others, make the changes of a kind. -/
structure Sole {α : Type} (kind : Change → Option α) (make : α → Change)
    (method : Method) : Prop where
  reads : Reads kind make
  only : ∀ other value, By other (make value) → other = method

theorem Sole.made {α : Type} {kind : Change → Option α} {make : α → Change} {method : Method}
    (sole : Sole kind make method) (other : Method) (change : Change) (value : α)
    (made : By other change) (found : kind change = some value) : other = method := by
  rw [sole.reads] at found
  exact sole.only other value (found ▸ made)

theorem sole_destination : Sole destination? destination .destination := by
  constructor
  · intro change value
    cases change <;> simp [destination?]
  · rintro other value ⟨⟩
    rfl

theorem sole_source : Sole source? source .source := by
  constructor
  · intro change value
    cases change <;> simp [source?]
  · rintro other value ⟨⟩
    rfl

theorem sole_reportTo : Sole reportTo? reportTo .reportTo := by
  constructor
  · intro change value
    cases change <;> simp [reportTo?]
  · rintro other value ⟨⟩
    rfl

theorem sole_lifetime : Sole lifetime? lifetime .lifetime := by
  constructor
  · intro change value
    cases change <;> simp [lifetime?]
  · rintro other value ⟨⟩
    rfl

def last {α : Type} (kind : Change → Option α) (changes : List Change) (start : α) : α :=
  (changes.filterMap kind).getLast?.getD start

theorem last_append {α : Type} (kind : Change → Option α) (changes : List Change)
    (change : Change) (start : α) :
    last kind (changes ++ [change]) start = (kind change).getD (last kind changes start) := by
  cases found : kind change with
  | none => simp [last, filterMap_append, found]
  | some value => simp [last, filterMap_append, found]

/-- Every kind of change has its own place in the builder. -/
def assembled (changes : List Change) : BundleBuilder where
  err := none
  primary := { PrimaryBlock.blank with
    version := dtnVersion
    destination := last destination? changes ⟨none⟩
    sourceNode := last source? changes ⟨none⟩
    reportTo := last reportTo? changes ⟨none⟩
    creationTimestamp := ⟨last timestamp? changes 0, 0⟩
    lifetime := last lifetime? changes 0 }
  canonicals := numberedFrom 2
    ((changes.filterMap extension?).map (newCanonicalBlock 0 BlockControlFlags.replicateBlock))
  canonicalCounter := (2 + (changes.filterMap extension?).length).toUInt64
  payload := last payload? changes .blank
  crcType := CRCType.crcNo

theorem apply_assembled (changes : List Change) (change : Change) :
    apply (assembled changes) change = assembled (changes ++ [change]) := by
  have kept : extension? change = none →
      (changes ++ [change]).filterMap extension? = changes.filterMap extension? := by
    intro other
    simp [filterMap_append, other]
  cases change with
  | destination eid | source eid | reportTo eid | timestamp t | lifetime ms | payload data =>
    simp only [assembled, last_append, kept rfl]
    rfl
  | extension data =>
    have found : (changes ++ [extension data]).filterMap extension? = changes.filterMap extension? ++ [data] :=
      filterMap_append
    have counter : (2 + ((changes.filterMap extension?).length + 1)).toUInt64 =
        (2 + (changes.filterMap extension?).length).toUInt64 + 1 := UInt64.ofNat_add _ 1
    simp only [assembled, last_append, found, map_append, numberedFrom_append, length_map,
      length_append, length_singleton, counter]
    rfl

theorem foldl_apply (changes : List Change) :
    changes.foldl apply BundleBuilder.new = assembled changes := by
  induction changes using List.reverseRecOn with
  | nil => rfl
  | append_singleton changes change ih => rw [foldl_append, ih, ← apply_assembled]; rfl

variable {changes : List Change}

theorem managed_canonicals (made : ∀ change ∈ changes, ∃ method, By method change) :
    ∀ cb ∈ (assembled changes).canonicals, cb.Managed := by
  intro cb member
  obtain ⟨original, inside, numbered⟩ := mem_numberedFrom member
  obtain ⟨data, found, rfl⟩ := mem_map.mp inside
  obtain ⟨method, by_⟩ := made _ (reads_extension.mem_iff.mp found)
  rw [numbered]
  refine ⟨data, rfl, ?_⟩
  cases by_ <;> trivial

/-- What a kind of change has set last is one of the changes, or what was there before. -/
theorem last_cases {α : Type} (kind : Change → Option α) (changes : List Change) (start : α) :
    (changes.filterMap kind = [] ∧ last kind changes start = start) ∨
      last kind changes start ∈ changes.filterMap kind := by
  rw [last]
  cases found : (changes.filterMap kind).getLast? with
  | none => exact .inl ⟨List.getLast?_eq_none_iff.mp found, rfl⟩
  | some value => exact .inr (mem_of_getLast? found)

theorem payload_cases (changes : List Change) :
    ((∀ data, payload data ∉ changes) ∧ (assembled changes).payload = .blank) ∨
      ∃ data, payload data ∈ changes ∧ (assembled changes).payload = newCanonicalBlock 1 0 (.payload data) := by
  rcases last_cases payload? changes .blank with ⟨empty, unset⟩ | member
  · refine .inl ⟨fun data inside => ?_, unset⟩
    have found := filterMap_eq_nil_iff.mp empty _ inside
    cases found
  · obtain ⟨change, inside, found⟩ := mem_filterMap.mp member
    cases change with
    | payload data => exact .inr ⟨data, inside, (Option.some.inj found).symm⟩
    | _ => cases found

theorem managed_payload (present : (assembled changes).payload.Present) :
    (assembled changes).payload.Managed := by
  rcases payload_cases changes with ⟨-, unset⟩ | ⟨data, -, set⟩
  · rw [unset] at present
    obtain ⟨value, held⟩ := present
    cases held
  · rw [set]
    exact ⟨_, rfl, trivial⟩

end Change

open Change (assembled)

section

/-- The map has an endpoint for the key. -/
def Names (m : Dict (List UInt8) Interface) (method : Method) : Prop :=
  ∃ args eid, (method.name, args) ∈ m.items ∧ bldrParseEndpoint args = .ok eid ∧
    eid ≠ ⟨none⟩

variable [Numerals] {now : Time} {visited : List Item} {changes : List Change}

/-- The first call of a new builder would be accepted. -/
def Item.Accepted (now : Time) (item : Item) : Prop :=
  ∃ bldr, item.round now BundleBuilder.new = .ok bldr

theorem Item.accepted_iff {item : Item} :
    item.Accepted now ↔ ∃ change, item.change now = .ok change := by
  rw [Item.Accepted, Item.round_eq rfl]
  constructor
  · rintro ⟨bldr, accepted⟩
    obtain ⟨change, made, -⟩ := map_eq_ok.mp accepted
    exact ⟨change, made⟩
  · rintro ⟨change, made⟩
    exact ⟨_, map_eq_ok.mpr ⟨change, made, rfl⟩⟩

section

variable (all : visited.mapM (Item.change now) = .ok changes)

include all

theorem mem_items_of_change {change : Change}
    (member : change ∈ changes) : ∃ item ∈ visited, item.change now = .ok change := by
  have listed : .ok change ∈ visited.map (Item.change now) := by
    rw [map_of_mapM all]
    exact mem_map_of_mem member
  exact mem_map.mp listed

theorem change_of_mem {item : Item} (member : item ∈ visited) :
    ∃ change ∈ changes, item.change now = .ok change := by
  have listed : item.change now ∈ changes.map Except.ok := by
    rw [← map_of_mapM all]
    exact mem_map_of_mem member
  obtain ⟨change, inside, same⟩ := mem_map.mp listed
  exact ⟨change, inside, same.symm⟩

theorem by_of_mapM :
    ∀ change ∈ changes, ∃ method, Change.By method change := by
  intro change member
  obtain ⟨item, -, accepted⟩ := mem_items_of_change all member
  obtain ⟨method, -, made⟩ := Item.by_of_change accepted
  exact ⟨method, made⟩

theorem managed_sorted [GoSort] :
    ∀ cb ∈ GoSort.sort canonicalBlockLess (assembled changes).canonicals, cb.Managed :=
  fun cb member => Change.managed_canonicals (by_of_mapM all) cb ((GoSort.perm _ _).mem_iff.mp member)

/-- A kind of change that the items of one key make is made once. -/
theorem constant_of_key {α : Type} {kind : Change → Option α}
    (keyed : ∀ item ∈ visited, ∀ other ∈ visited, ∀ change otherChange value otherValue,
      Item.change now item = .ok change → Item.change now other = .ok otherChange →
        kind change = some value → kind otherChange = some otherValue → item.1 = other.1)
    (nodup : (visited.map Prod.fst).Nodup) :
    ∀ first ∈ changes.filterMap kind, ∀ second ∈ changes.filterMap kind, first = second := by
  intro first firstIn second secondIn
  obtain ⟨change, inside, found⟩ := mem_filterMap.mp firstIn
  obtain ⟨otherChange, otherInside, otherFound⟩ := mem_filterMap.mp secondIn
  obtain ⟨item, there, accepted⟩ := mem_items_of_change all inside
  obtain ⟨other, otherThere, otherAccepted⟩ := mem_items_of_change all otherInside
  have key := keyed item there other otherThere change otherChange first second accepted
    otherAccepted found otherFound
  have same : item = other := inj_on_of_nodup_map nodup there otherThere key
  rw [same, otherAccepted] at accepted
  cases accepted
  rw [found] at otherFound
  exact Option.some.inj otherFound

theorem constant_of_method {α : Type} (kind : Change → Option α) (method : Method)
    (only : ∀ other change value, Change.By other change → kind change = some value →
    other = method) (nodup : (visited.map Prod.fst).Nodup) :
    ∀ first ∈ changes.filterMap kind, ∀ second ∈ changes.filterMap kind, first = second := by
  have keyed : ∀ item change value, Item.change now item = .ok change →
      kind change = some value → item.1 = method.name := by
    intro item change value accepted found
    obtain ⟨other, key, made⟩ := Item.by_of_change accepted
    rw [key, only other change value made found]
  refine constant_of_key all ?_ nodup
  intro item _ other _ change otherChange value otherValue accepted otherAccepted found otherFound
  exact (keyed item change value accepted found).trans
    (keyed other otherChange otherValue otherAccepted otherFound).symm

/-- There is a payload exactly if there is a key for it. -/
theorem payload_present_iff :
    (assembled changes).payload.Present ↔ Method.payloadBlock.name ∈ visited.map Prod.fst := by
  rcases Change.payload_cases changes with ⟨missing, unset⟩ | ⟨data, inside, set⟩
  · rw [unset]
    constructor
    · rintro ⟨value, held⟩
      cases held
    · intro keyed
      obtain ⟨item, there, key⟩ := mem_map.mp keyed
      obtain ⟨change, inside, accepted⟩ := change_of_mem all there
      obtain ⟨method, named, made⟩ := Item.by_of_change accepted
      cases Method.name_injective (named.symm.trans key)
      cases made with
      | payloadBlock data => exact absurd inside (missing data)
  · rw [set]
    obtain ⟨item, there, accepted⟩ := mem_items_of_change all inside
    obtain ⟨method, key, made⟩ := Item.by_of_change accepted
    cases made with
    | payloadBlock => exact iff_of_true ⟨_, rfl⟩ (mem_map.mpr ⟨item, there, key⟩)

end

/-- Every item is accepted and both ends are named, but there is no payload. -/
structure LacksPayload (now : Time) (m : Dict (List UInt8) Interface) : Prop where
  accepted : ∀ item ∈ m.items, Item.Accepted now item
  source : Names m .source
  destination : Names m .destination
  absent : Method.payloadBlock.name ∉ m.keys

section

variable {m : Dict (List UInt8) Interface} (same : visited.Perm m.items)

include same

omit [Numerals] in
theorem nodup_visited : (visited.map Prod.fst).Nodup := (same.map Prod.fst).nodup_iff.mpr m.nodup

variable (all : visited.mapM (Item.change now) = .ok changes)

include all

/-- What one key alone sets does not depend on the order. -/
theorem last_eq_of_mem {α : Type} {kind : Change → Option α} {make : α → Change}
    {method : Method}
    (sole : Change.Sole kind make method) (start : α) {value : α}
    (member : make value ∈ changes) : Change.last kind changes start = value := by
  rcases Change.last_cases kind changes start with ⟨empty, -⟩ | last
  · rw [← sole.reads.mem_iff, empty] at member
    cases member
  · exact constant_of_method all kind method sole.made (nodup_visited same) _ last value
      (sole.reads.mem_iff.mpr member)

/-- The endpoint of a key is set, if the map has one for it. -/
theorem last_ne_none_iff {kind : Change → Option EndpointID} {method : Method}
    {make : EndpointID → Change} (sole : Change.Sole kind make method)
    (makes : ∀ args, Item.change now (method.name, args) = make <$> bldrParseEndpoint args) :
    Change.last kind changes ⟨none⟩ ≠ ⟨none⟩ ↔ Names m method := by
  constructor
  · intro set
    rcases Change.last_cases kind changes ⟨none⟩ with ⟨-, unset⟩ | member
    · exact absurd unset set
    · obtain ⟨⟨key, args⟩, there, accepted⟩ := mem_items_of_change all (sole.reads.mem_iff.mp member)
      obtain ⟨other, named, made⟩ := Item.by_of_change accepted
      have keyed : key = method.name := named.trans (congrArg Method.name (sole.only _ _ made))
      rw [keyed] at there accepted
      rw [makes] at accepted
      obtain ⟨eid, parsed, again⟩ := map_eq_ok.mp accepted
      have equal : some (Change.last kind changes ⟨none⟩) = some eid := by
        rw [← (sole.reads _ _).mpr again.symm, (sole.reads _ _).mpr rfl]
      exact ⟨args, eid, same.mem_iff.mp there, parsed, Option.some.inj equal ▸ set⟩
  · rintro ⟨args, eid, there, parsed, set⟩
    obtain ⟨change, inside, made⟩ := change_of_mem all (same.mem_iff.mpr there)
    rw [makes, parsed] at made
    cases made
    rwa [last_eq_of_mem same all sole ⟨none⟩ inside]

theorem sourceNode_iff :
    (assembled changes).primary.sourceNode ≠ ⟨none⟩ ↔ Names m .source :=
  last_ne_none_iff same all Change.sole_source fun _ => rfl

theorem destination_iff :
    (assembled changes).primary.destination ≠ ⟨none⟩ ↔ Names m .destination :=
  last_ne_none_iff same all Change.sole_destination fun _ => rfl

theorem payload_iff : (assembled changes).payload.Present ↔
    Method.payloadBlock.name ∈ m.keys := by
  rw [payload_present_iff all]
  exact (same.map Prod.fst).mem_iff

end

variable [Cboring] [Crc16] [Ed25519] [GoSort]

theorem checkValid_of_buildFromMap {bndl : Bundle} (built : buildFromMap now visited = .ok bndl) :
    bndl.checkValid now = .ok [] := by
  rw [buildFromMap_eq] at built
  obtain ⟨changes, all, built⟩ := bind_eq_ok.mp built
  rw [Change.foldl_apply] at built
  obtain ⟨-, checked, rfl, valid, rfl⟩ := BundleBuilder.build_eq_ok built
  rw [checkValid_setCRCType ?_, valid]
  intro cb member value held publicKey proof signed
  obtain ⟨other, found, managed⟩ := managed_sorted all cb member
  rw [held, signed] at found
  cases found
  exact managed

/-- Build either ends, or there is nothing missing but the payload. -/
theorem settled_build (all : visited.mapM (Item.change now) = .ok changes)
    (complete : (assembled changes).payload.Present ∨
      (assembled changes).primary.sourceNode = ⟨none⟩ ∨ (assembled changes).primary.destination = ⟨none⟩) :
    Settled ((assembled changes).build now) := by
  by_cases unnamed : (assembled changes).primary.sourceNode = ⟨none⟩ ∨
      (assembled changes).primary.destination = ⟨none⟩
  · rw [BundleBuilder.build_of_unnamed rfl now unnamed]
    exact .error _
  · obtain ⟨source, destination⟩ := not_or.mp unnamed
    have payload := complete.resolve_right unnamed
    rw [BundleBuilder.build_of_named rfl now source destination]
    refine settled_bind ?_ fun _ => .ok _
    obtain ⟨causes, checked⟩ := checkValid_total (b := ⟨(assembled changes).primary.reporting,
        GoSort.sort canonicalBlockLess (assembled changes).canonicals, (assembled changes).payload⟩)
      (managed_sorted all) payload now
    rw [ensureValid, checked, ok_bind]
    cases causes with
    | nil => exact .ok _
    | cons cause causes => exact .error _

theorem build_without_payload (all : visited.mapM (Item.change now) = .ok changes)
    (absent : ¬(assembled changes).payload.Present)
    (source : (assembled changes).primary.sourceNode ≠ ⟨none⟩)
    (destination : (assembled changes).primary.destination ≠ ⟨none⟩) :
    (assembled changes).build now = .error .panic := by
  have empty : (assembled changes).payload.value = none := by
    cases held : (assembled changes).payload.value with
    | none => rfl
    | some value => exact absurd ⟨value, held⟩ absent
  rw [BundleBuilder.build_of_named rfl now source destination, ensureValid,
    checkValid_without_payload (fun cb member => (managed_sorted all cb member).present) empty]
  rfl

/-- `BuildFromMap` hands back an error or a valid bundle. -/
def Safe (now : Time) (visited : List Item) : Prop :=
  Settled (buildFromMap now visited) ∧ ∀ bndl, buildFromMap now visited = .ok bndl →
    bndl.checkValid now = .ok []

theorem settled_of_refused {m : Dict (List UInt8) Interface} (same : visited.Perm m.items)
    {fault : Fault GoError} (written : (Method.payloadBlock.name, Interface.nil) ∉ m.items)
    (refused : visited.mapM (Item.change now) = .error fault) :
    Settled (buildFromMap now visited) := by
  obtain ⟨item, there, failed⟩ := mem_map.mp (error_mem_of_mapM refused)
  rcases Item.change_panics failed with ⟨cause, rfl⟩ | missing
  · rw [buildFromMap_eq, refused]
    exact .error cause
  · rw [missing] at there
    exact absurd (same.mem_iff.mp there) written

/-- In every order of the map the call is safe, unless the payload is nil or nothing but the payload
is missing. -/
theorem safe_iff (now : Time) (m : Dict (List UInt8) Interface) :
    (∀ visited : List Item, visited.Perm m.items → Safe now visited) ↔
      (Method.payloadBlock.name, Interface.nil) ∉ m.items ∧ ¬LacksPayload now m := by
  constructor
  · intro safe
    constructor
    · -- The loop may start with this item.
      intro member
      obtain ⟨before, after, split⟩ := append_of_mem member
      have first : ((Method.payloadBlock.name, Interface.nil) :: (before ++ after)).Perm m.items := by
        rw [split]
        exact perm_middle.symm
      have ends := (safe _ first).1
      rw [buildFromMap_eq, mapM_cons] at ends
      obtain ⟨cause, other⟩ := ends .panic rfl
      cases other
    · intro lacks
      obtain ⟨changes, all⟩ := mapM_returns fun item member => Item.accepted_iff.mp (lacks.accepted item member)
      have ends := (safe m.items (.refl _)).1
      rw [buildFromMap_eq, all, ok_bind, Change.foldl_apply, build_without_payload all
        (fun present => lacks.absent ((payload_iff (.refl _) all).mp present))
        ((sourceNode_iff (.refl _) all).mpr lacks.source)
        ((destination_iff (.refl _) all).mpr lacks.destination)] at ends
      obtain ⟨cause, other⟩ := ends .panic rfl
      cases other
  · rintro ⟨written, complete⟩ visited same
    refine ⟨?_, fun bndl built => checkValid_of_buildFromMap built⟩
    cases all : visited.mapM (Item.change now) with
    | error fault => exact settled_of_refused same written all
    | ok changes =>
      rw [buildFromMap_eq, all, ok_bind, Change.foldl_apply]
      apply settled_build all
      by_contra missing
      obtain ⟨noPayload, ends⟩ := not_or.mp missing
      obtain ⟨source, destination⟩ := not_or.mp ends
      refine complete ⟨?_, (sourceNode_iff same all).mp source, (destination_iff same all).mp destination, ?_⟩
      · intro item member
        obtain ⟨change, -, accepted⟩ := change_of_mem all (same.mem_iff.mpr member)
        exact Item.accepted_iff.mpr ⟨change, accepted⟩
      · exact fun keyed => noPayload ((payload_iff same all).mpr keyed)

end

section

open scoped Samples

attribute [local instance] Numerals.withoutTexts

/-- A request of a client that names both ends. -/
def unpaidRequest : Dict (List UInt8) Interface :=
  ⟨[(ascii "source", .string (ascii "dtn://broker/")),
    (ascii "destination", .string (ascii "dtn://executor/"))], by decide⟩

/-- A request with `null` for the payload. -/
def nullRequest : Dict (List UInt8) Interface := ⟨[(ascii "payload_block", .nil)], by decide⟩

theorem requests_not_safe : ¬Safe 0 unpaidRequest.items ∧ ¬Safe 0 nullRequest.items := by
  constructor
  · intro safe
    obtain ⟨cause, other⟩ := safe.1 .panic rfl
    cases other
  · intro safe
    obtain ⟨cause, other⟩ := safe.1 .panic rfl
    cases other

end

end RecDtn.Bpv7
