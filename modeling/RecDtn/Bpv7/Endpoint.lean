import Mathlib.Data.List.Infix
import Mathlib.Data.List.TakeWhile
import RecDtn.Bpv7.Cboring
import RecDtn.Lang.Text

namespace RecDtn.Bpv7

open Wire Lang Cboring Reader List Go

structure DtnEndpoint where
  nodeName : List UInt8
  demux : List UInt8
  isDtnNone : Bool
  deriving DecidableEq

namespace DtnEndpoint

def schemeNo : UInt64 := 1

def slash : UInt8 := 47
def newline : UInt8 := 10

def none : DtnEndpoint := ⟨[], [], true⟩

/-- The class `[\w-._~!$&'()*+,;=]` of the endpoint regexp. -/
def isNodeByte (byte : UInt8) : Bool :=
  isDigit byte || (65 ≤ byte && byte ≤ 90) || (97 ≤ byte && byte ≤ 122) ||
    (ascii "_-.~!$&'()*+,;=").contains byte

/-- What follows `//` name `/` at the start of a text. The name is a maximal
run of node bytes; a slash is none of them. -/
def sspDemux : List UInt8 → Option (List UInt8)
  | first :: second :: text =>
    match text.dropWhile isNodeByte with
    | mark :: demux =>
      if first = slash ∧ second = slash ∧ text.takeWhile isNodeByte ≠ [] ∧ mark = slash then
        some demux
      else Option.none
    | [] => Option.none
  | _ => Option.none

/-- `^` and `$` around the regexp: the dot stops at a newline. -/
def matchesSsp (text : List UInt8) : Bool :=
  match sspDemux text with
  | some demux => !demux.contains newline
  | Option.none => false

/-- The regexp without anchors is found anywhere in the text. -/
def containsSsp (text : List UInt8) : Bool := text.tails.any fun suffix => (sspDemux suffix).isSome

/-- `strings.SplitN(text, "/", 2)`. -/
def splitN (text : List UInt8) : List (List UInt8) :=
  match text.dropWhile (· != slash) with
  | [] => [text]
  | _ :: after => [text.takeWhile (· != slash), after]

def parseDtnSsp (ssp : List UInt8) : Go DtnEndpoint :=
  if ssp = ascii "none" then .ok none
  else if matchesSsp ssp = false then .error (.error (.text "ssp does not match a dtn endpoint"))
  else if ssp.length < 2 then .error .panic
  else
    match splitN (ssp.drop 2) with
    | nodeName :: demux :: _ => .ok ⟨nodeName, demux, false⟩
    | _ => .error .panic

/-- The text `//` node name `/` demux. -/
def ssp (e : DtnEndpoint) : List UInt8 := slash :: slash :: (e.nodeName ++ slash :: e.demux)

def checkValid (e : DtnEndpoint) : Option GoError :=
  if e.isDtnNone then Option.none
  else if containsSsp e.ssp then Option.none
  else some (.text s!"malformed ssp: {display e.ssp}")

def string (e : DtnEndpoint) : List UInt8 :=
  if e.isDtnNone then ascii "dtn:none" else ascii "dtn:" ++ e.ssp

def authority (e : DtnEndpoint) : List UInt8 := if e.isDtnNone then ascii "none" else e.nodeName

/-- What the decoder can produce: the null endpoint without leftovers, or a node
name of node bytes and a demux on one line. -/
def WellFormed (e : DtnEndpoint) : Prop :=
  if e.isDtnNone then e = none
  else e.nodeName ≠ [] ∧ (∀ byte ∈ e.nodeName, isNodeByte byte = true) ∧ newline ∉ e.demux

instance (e : DtnEndpoint) : Decidable e.WellFormed :=
  haveI : Decidable (∀ byte ∈ e.nodeName, isNodeByte byte = true) := List.decidableBAll _ _
  inferInstanceAs (Decidable (if e.isDtnNone then e = none
    else e.nodeName ≠ [] ∧ (∀ byte ∈ e.nodeName, isNodeByte byte = true) ∧
      newline ∉ e.demux))

private theorem takeWhile_name (name : List UInt8) (rest : List UInt8)
    (named : ∀ byte ∈ name, isNodeByte byte = true) :
    (name ++ slash :: rest).takeWhile isNodeByte = name ∧
      (name ++ slash :: rest).dropWhile isNodeByte = slash :: rest := by
  have stop : isNodeByte slash = false := by decide
  constructor
  · rw [takeWhile_append_of_pos named, takeWhile_cons_of_neg (by simp [stop]), append_nil]
  · rw [dropWhile_append_of_pos named, dropWhile_cons_of_neg (by simp [stop])]

variable {text : List UInt8} {e : DtnEndpoint}

theorem sspDemux_eq_some {demux : List UInt8} :
    sspDemux text = some demux ↔ ∃ name, name ≠ [] ∧
      (∀ byte ∈ name, isNodeByte byte = true) ∧
      text = slash :: slash :: (name ++ slash :: demux) := by
  constructor
  · intro found
    match text with
    | [] => cases found
    | [_] => cases found
    | first :: second :: body =>
      simp only [sspDemux] at found
      split at found
      · rename_i mark tail stopped
        split at found
        · rename_i marks
          obtain ⟨rfl, rfl, nonempty, rfl⟩ := marks
          cases found
          refine ⟨body.takeWhile isNodeByte, nonempty, fun _ => mem_takeWhile_imp, ?_⟩
          rw [← stopped, takeWhile_append_dropWhile]
        · cases found
      · cases found
  · rintro ⟨name, nonempty, named, rfl⟩
    obtain ⟨taken, left⟩ := takeWhile_name name demux named
    simp [sspDemux, taken, left, nonempty]

theorem matchesSsp_eq_true :
    matchesSsp text = true ↔ ∃ e :
    DtnEndpoint, e.isDtnNone = false ∧ e.WellFormed ∧ text = e.ssp := by
  constructor
  · intro matched
    unfold matchesSsp at matched
    split at matched
    · rename_i demux found
      obtain ⟨name, nonempty, named, same⟩ := sspDemux_eq_some.mp found
      refine ⟨⟨name, demux, false⟩, rfl, ?_, same⟩
      have single : newline ∉ demux := by simpa using matched
      exact ⟨nonempty, named, single⟩
    · cases matched
  · rintro ⟨e, some, formed, rfl⟩
    simp only [WellFormed, some] at formed
    have found : sspDemux e.ssp = .some e.demux :=
      sspDemux_eq_some.mpr ⟨e.nodeName, formed.1, formed.2.1, rfl⟩
    simpa [matchesSsp, found] using formed.2.2

private theorem splitN_name (name rest : List UInt8)
    (named : ∀ byte ∈ name, isNodeByte byte = true) :
    splitN (name ++ slash :: rest) = [name, rest] := by
  have passes : ∀ byte ∈ name, (byte != slash) = true := by
    intro byte member
    have node := named byte member
    by_contra same
    simp only [bne_iff_ne, ne_eq, not_not] at same
    subst same
    exact absurd node (by decide)
  unfold splitN
  rw [dropWhile_append_of_pos passes, dropWhile_cons_of_neg (by simp),
    takeWhile_append_of_pos passes, takeWhile_cons_of_neg (by simp)]
  simp

theorem parseDtnSsp_ssp (e : DtnEndpoint) (some : e.isDtnNone = false) (formed : e.WellFormed) :
    parseDtnSsp e.ssp = .ok e := by
  have matched : matchesSsp e.ssp = true := matchesSsp_eq_true.mpr ⟨e, some, formed, rfl⟩
  have other : e.ssp ≠ ascii "none" := by
    intro same
    have heads := congrArg List.head? same
    exact absurd heads (by simp [ssp, slash, ascii])
  simp only [WellFormed, some] at formed
  have parts := splitN_name e.nodeName e.demux formed.2.1
  have long : ¬e.ssp.length < 2 := by simp [ssp]
  unfold parseDtnSsp
  rw [if_neg other, if_neg (by simp [matched]), if_neg long]
  simp only [ssp, drop_succ_cons, drop_zero, parts]
  cases e
  simp_all

/-- A text is the null endpoint, no endpoint, or the text of the endpoint it
parses to. The index expressions of the parser are in range. -/
theorem parseDtnSsp_cases (text : List UInt8) :
    (text = ascii "none" ∧ parseDtnSsp text = .ok none) ∨
      (∃ cause, parseDtnSsp text = .error (.error cause)) ∨
      ∃ e : DtnEndpoint, e.isDtnNone = false ∧ e.WellFormed ∧ text = e.ssp ∧ parseDtnSsp text = .ok e := by
  by_cases null : text = ascii "none"
  · exact .inl ⟨null, by simp [parseDtnSsp, null]⟩
  by_cases matched : matchesSsp text = true
  · obtain ⟨e, some, formed, rfl⟩ := matchesSsp_eq_true.mp matched
    exact .inr (.inr ⟨e, some, formed, rfl, parseDtnSsp_ssp e some formed⟩)
  · refine .inr (.inl ⟨.text "ssp does not match a dtn endpoint", ?_⟩)
    simp [parseDtnSsp, null, matched]

theorem settled_parseDtnSsp (text : List UInt8) : Settled (parseDtnSsp text) := by
  rcases parseDtnSsp_cases text with ⟨_, parsed⟩ | ⟨cause, parsed⟩ | ⟨e, _, _, _, parsed⟩
  · rw [parsed]
    exact .ok none
  · rw [parsed]
    exact .error cause
  · rw [parsed]
    exact .ok e

theorem wellFormed_none : none.WellFormed := by decide

theorem wellFormed_of_parseDtnSsp (parsed : parseDtnSsp text = .ok e) : e.WellFormed := by
  rcases parseDtnSsp_cases text with ⟨_, same⟩ | ⟨cause, same⟩ | ⟨found, _,
    formed, _, same⟩
  · rw [same] at parsed
    cases parsed
    exact wellFormed_none
  · rw [same] at parsed
    cases parsed
  · rw [same] at parsed
    cases parsed
    exact formed

theorem newline_notMem_ssp (e : DtnEndpoint) (some : e.isDtnNone = false) (formed : e.WellFormed) :
    newline ∉ e.ssp := by
  simp only [WellFormed, some] at formed
  obtain ⟨-, named, single⟩ := formed
  have inName : newline ∉ e.nodeName := by
    intro member
    exact absurd (named newline member) (by decide)
  have mark : newline ≠ slash := by decide
  simp [ssp, mark, inName, single]

theorem WellFormed.checkValid (formed : e.WellFormed) : e.checkValid = Option.none := by
  unfold DtnEndpoint.checkValid
  by_cases null : e.isDtnNone
  · simp [null]
  · have some : e.isDtnNone = false := by simpa using null
    simp only [WellFormed, some] at formed
    have found : sspDemux e.ssp = .some e.demux :=
      sspDemux_eq_some.mpr ⟨e.nodeName, formed.1, formed.2.1, rfl⟩
    have contained : containsSsp e.ssp = true :=
      any_eq_true.mpr ⟨e.ssp, (mem_tails _ _).mpr suffix_rfl, by simp [found]⟩
    simp [some, contained]

theorem string_injective {other : DtnEndpoint} (formed : e.WellFormed)
    (otherFormed : other.WellFormed) (same : e.string = other.string) : e = other := by
  have marked : ∀ name : DtnEndpoint, ascii "dtn:none" ≠ ascii "dtn:" ++ name.ssp := by
    intro name equal
    exact absurd (congrArg (List.take 5) equal) (by simp [ssp, slash, ascii])
  cases null : e.isDtnNone with
  | true =>
    cases otherNull : other.isDtnNone with
    | true =>
      simp only [WellFormed, null, otherNull, ↓reduceIte] at formed otherFormed
      rw [formed, otherFormed]
    | false => exact absurd (by simpa [string, null, otherNull] using same) (marked other)
  | false =>
    cases otherNull : other.isDtnNone with
    | true => exact absurd (by simpa [string, null, otherNull] using same.symm) (marked e)
    | false =>
      have ssps : e.ssp = other.ssp := by simpa [string, null, otherNull] using same
      have parsed := parseDtnSsp_ssp e null formed
      rw [ssps, parseDtnSsp_ssp other otherNull otherFormed] at parsed
      exact (Except.ok.inj parsed).symm

variable [Cboring]

def marshalCbor (e : DtnEndpoint) : List UInt8 :=
  if e.isDtnNone then writeUInt 0 else writeTextString e.ssp

/-- The switch over the major type `m` of the SSP, with its count `n`. -/
def unmarshalMajor (m : UInt8) (n : Nat) : ByteReader DtnEndpoint :=
  if m = uint then pure none
  else if m = textString then do
    let ssp ← readRawBytes n
    let parsed ← Reader.lift (parseDtnSsp ssp)
    ensure (parsed.isDtnNone = false)
      (.text "DtnEndpoint: byte based SSP represents \"dtn:none\"")
    return parsed
  else fail (.text s!"DtnEndpoint: wrong major type 0x{hexUpper m.toNat} for unmarshalling")

def unmarshalCbor : ByteReader DtnEndpoint := do
  let major ← readMajors
  unmarshalMajor major.1 major.2

theorem reads_marshalCbor (formed : e.WellFormed) : Reads buffer unmarshalCbor e.marshalCbor e := by
  unfold unmarshalCbor marshalCbor
  by_cases null : e.isDtnNone
  · have same : e = none := by simpa [WellFormed, null] using formed
    subst same
    exact .before (reads_majors_uint 0) (.pure _)
  · have some : e.isDtnNone = false := by simpa using null
    rw [if_neg null]
    refine reads_textString e.ssp fun buffer => ?_
    have text : textString ≠ uint := by decide
    simp only [unmarshalMajor, text, ↓reduceIte]
    refine .before (reads_rawBytes e.ssp) ?_
    exact .after (.lift (parseDtnSsp_ssp e some formed)) (.after (.ensure some) (.pure e))

theorem tracks_unmarshalCbor : Tracks unmarshalCbor := by
  refine .bind (.primitive _) fun major => ?_
  unfold unmarshalMajor
  split
  · exact .pure none
  split
  · exact .bind (.primitive _) fun ssp => .bind (.lift (settled_parseDtnSsp ssp)) fun _ =>
      .bind (.ensure _ _) fun _ => .pure _
  · exact .fail _

/-- The decoder only produces well-formed endpoints. -/
theorem unmarshalCbor_wellFormed : Yields unmarshalCbor WellFormed := by
  refine .after fun major => ?_
  unfold unmarshalMajor
  split
  · exact .pure wellFormed_none
  split
  · exact .after fun text => .bind (.lift fun _ => wellFormed_of_parseDtnSsp) fun parsed formed =>
      .after fun _ => .pure formed
  · exact .fail

end DtnEndpoint

structure IpnEndpoint where
  node : UInt64
  service : UInt64
  deriving DecidableEq

namespace IpnEndpoint

def schemeNo : UInt64 := 2

def checkValid (e : IpnEndpoint) : Option GoError :=
  if e.node < 1 ∨ e.service < 1 then
    some (.text "ipn's node and Service number must be >= 1")
  else none

theorem checkValid_eq_none {e : IpnEndpoint} :
    e.checkValid = none ↔ 0 < e.node.toNat ∧ 0 < e.service.toNat := by
  unfold checkValid
  split
  · rename_i small
    simp only [UInt64.lt_iff_toNat_lt, UInt64.toNat_one] at small
    simp only [reduceCtorEq, false_iff]
    omega
  · rename_i large
    simp only [UInt64.lt_iff_toNat_lt, UInt64.toNat_one] at large
    simp only [true_iff]
    omega

def string (e : IpnEndpoint) : List UInt8 :=
  ascii "ipn:" ++ decimal e.node.toNat ++ ascii "." ++ decimal e.service.toNat

def authority (e : IpnEndpoint) : List UInt8 := decimal e.node.toNat

theorem string_injective {e other : IpnEndpoint} (same : e.string = other.string) : e = other := by
  have dotted : field 46 (ascii "ipn:" ++ decimal e.node.toNat) e.service.toNat =
      field 46 (ascii "ipn:" ++ decimal other.node.toNat) other.service.toNat := by
    simpa [string, field, ascii] using same
  obtain ⟨nodes, services⟩ := (field_inj (by decide)).mp dotted
  have numbers := decimal_injective (append_cancel_left nodes)
  cases e
  cases other
  simp_all [UInt64.toNat_inj]

variable [Cboring]

def marshalCbor (e : IpnEndpoint) : List UInt8 :=
  writeArrayLength 2 ++ writeUInt e.node ++ writeUInt e.service

def unmarshalCbor : ByteReader IpnEndpoint :=
  readPair (fun n => .text s!"ipn uri expected array of 2 elements, not {n}") IpnEndpoint.mk

theorem reads_marshalCbor (e : IpnEndpoint) : Reads buffer unmarshalCbor e.marshalCbor e :=
  reads_pair _ _

theorem tracks_unmarshalCbor : Tracks unmarshalCbor := tracks_pair _ _

end IpnEndpoint

/-- The implementers of the `EndpointType` interface. -/
inductive EndpointType where
  | dtn (endpoint : DtnEndpoint)
  | ipn (endpoint : IpnEndpoint)
  deriving DecidableEq

namespace EndpointType

def schemeNo : EndpointType → UInt64
  | dtn _ => DtnEndpoint.schemeNo
  | ipn _ => IpnEndpoint.schemeNo

def schemeName : EndpointType → List UInt8
  | dtn _ => ascii "dtn"
  | ipn _ => ascii "ipn"

def authority : EndpointType → List UInt8
  | dtn endpoint => endpoint.authority
  | ipn endpoint => endpoint.authority

def checkValid : EndpointType → Option GoError
  | dtn endpoint => endpoint.checkValid
  | ipn endpoint => endpoint.checkValid

def string : EndpointType → List UInt8
  | dtn endpoint => endpoint.string
  | ipn endpoint => endpoint.string

def WellFormed : EndpointType → Prop
  | dtn endpoint => endpoint.WellFormed
  | ipn _ => True

instance : (endpoint : EndpointType) → Decidable endpoint.WellFormed
  | dtn endpoint => inferInstanceAs (Decidable endpoint.WellFormed)
  | ipn _ => inferInstanceAs (Decidable True)

variable [Cboring]

def marshalCbor : EndpointType → List UInt8
  | dtn endpoint => endpoint.marshalCbor
  | ipn endpoint => endpoint.marshalCbor

/-- The type map of the endpoint manager: a decoder for each scheme number. -/
def unmarshalCbor (scheme : UInt64) : ByteReader EndpointType :=
  if scheme = DtnEndpoint.schemeNo then dtn <$> DtnEndpoint.unmarshalCbor
  else if scheme = IpnEndpoint.schemeNo then ipn <$> IpnEndpoint.unmarshalCbor
  else fail (.text s!"no URI scheme registered for scheme number {scheme}")

theorem reads_marshalCbor {endpoint : EndpointType} (formed : endpoint.WellFormed) :
    Reads buffer (unmarshalCbor endpoint.schemeNo) endpoint.marshalCbor endpoint := by
  cases endpoint with
  | dtn endpoint => exact (DtnEndpoint.reads_marshalCbor formed).map dtn
  | ipn endpoint => exact (IpnEndpoint.reads_marshalCbor endpoint).map ipn

theorem tracks_unmarshalCbor (scheme : UInt64) : Tracks (unmarshalCbor scheme) := by
  unfold unmarshalCbor
  split
  · exact DtnEndpoint.tracks_unmarshalCbor.map dtn
  split
  · exact IpnEndpoint.tracks_unmarshalCbor.map ipn
  · exact .fail _

theorem unmarshalCbor_wellFormed (scheme : UInt64) : Yields (unmarshalCbor scheme) WellFormed := by
  unfold unmarshalCbor
  split
  · exact .map DtnEndpoint.unmarshalCbor_wellFormed
  split
  · exact .map fun _ _ _ _ => trivial
  · exact .fail

end EndpointType

structure EndpointID where
  endpointType : Option EndpointType
  deriving DecidableEq

namespace EndpointID

def dtnNone : EndpointID := ⟨some (.dtn .none)⟩

def checkValid (eid : EndpointID) : Option GoError :=
  match eid.endpointType with
  | none => some (.text "internal EndpointType is nil")
  | some endpoint => endpoint.checkValid

def string (eid : EndpointID) : List UInt8 :=
  match eid.endpointType with
  | none => DtnEndpoint.none.string
  | some endpoint => endpoint.string

/-- A missing endpoint is on the node of `dtn:none`. -/
def sameNode (eid other : EndpointID) : Bool :=
  match eid.endpointType, other.endpointType with
  | none, none => true
  | none, some endpoint => endpoint = .dtn .none
  | some endpoint, none => endpoint = .dtn .none
  | some first, some second =>
    first.schemeName = second.schemeName ∧ first.authority = second.authority

/-- Every byte of the endpoint survives its encoding. -/
def WellFormed (eid : EndpointID) : Prop := ∃ endpoint ∈ eid.endpointType, endpoint.WellFormed

instance (eid : EndpointID) : Decidable eid.WellFormed :=
  match eid with
  | ⟨none⟩ => isFalse (by simp [WellFormed])
  | ⟨some endpoint⟩ => decidable_of_iff endpoint.WellFormed (by simp [WellFormed])

variable {eid : EndpointID}

theorem string_injective {other : EndpointID} (formed : eid.WellFormed)
    (otherFormed : other.WellFormed) (same : eid.string = other.string) : eid = other := by
  obtain ⟨endpoint⟩ := eid
  obtain ⟨target⟩ := other
  obtain ⟨first, rfl, formed⟩ := formed
  obtain ⟨second, rfl, otherFormed⟩ := otherFormed
  have schemes : ∀ (e : DtnEndpoint) (i : IpnEndpoint), e.string ≠ i.string := by
    intro e i equal
    have heads : e.string.head? = i.string.head? := by rw [equal]
    cases null : e.isDtnNone <;> simp [DtnEndpoint.string, IpnEndpoint.string, null, ascii] at heads
  cases first with
  | dtn e =>
    cases second with
    | dtn f => rw [DtnEndpoint.string_injective formed otherFormed same]
    | ipn i => exact absurd same (schemes e i)
  | ipn i =>
    cases second with
    | dtn e => exact absurd same.symm (schemes e i)
    | ipn j => rw [IpnEndpoint.string_injective same]

variable [Cboring]

def marshalCbor (eid : EndpointID) : Go (List UInt8) := do
  Go.check eid.checkValid
  let endpoint ← Go.deref eid.endpointType
  return writeArrayLength 2 ++ writeUInt endpoint.schemeNo ++ endpoint.marshalCbor

def unmarshalCbor : ByteReader EndpointID := do
  let l ← readArrayLength
  ensure (l = 2) (.text s!"EndpointID expects array of 2 elements, not {l}")
  let scheme ← readUInt
  let endpoint ← EndpointType.unmarshalCbor scheme
  return ⟨some endpoint⟩

/-- Encoding succeeds for exactly the endpoints that pass their check. -/
theorem marshalCbor_eq_ok {written : List UInt8} :
    eid.marshalCbor = .ok written ↔ eid.checkValid = none ∧
      ∃ endpoint, eid.endpointType = some endpoint ∧
      written = writeArrayLength 2 ++ writeUInt endpoint.schemeNo ++ endpoint.marshalCbor := by
  unfold marshalCbor
  constructor
  · intro marshalled
    obtain ⟨_, checked, marshalled⟩ := bind_eq_ok.mp marshalled
    obtain ⟨endpoint, pointed, marshalled⟩ := bind_eq_ok.mp marshalled
    cases marshalled
    exact ⟨check_eq_ok.mp checked, endpoint, deref_eq_ok.mp pointed, rfl⟩
  · rintro ⟨valid, endpoint, present, rfl⟩
    simp [valid, present, Go.check, Go.deref, ok_bind, pure, Except.pure]

theorem reads_marshalCbor (formed : eid.WellFormed) (marshalled : eid.marshalCbor = .ok written) :
    Reads buffer unmarshalCbor written eid := by
  obtain ⟨-, endpoint, present, rfl⟩ := marshalCbor_eq_ok.mp marshalled
  obtain ⟨other, member, formed⟩ := formed
  have same : other = endpoint := by simpa [present] using member.symm
  subst same
  rw [append_assoc]
  refine .bind (reads_arrayLength 2) (.after (.ensure rfl) ?_)
  refine .bind (reads_uint _) (.before (EndpointType.reads_marshalCbor formed) ?_)
  cases eid
  cases present
  exact .pure _

theorem tracks_unmarshalCbor : Tracks unmarshalCbor :=
  .bind (.primitive _) fun _ => .bind (.ensure _ _) fun _ => .bind (.primitive _) fun scheme =>
    .bind (EndpointType.tracks_unmarshalCbor scheme) fun _ => .pure _

theorem unmarshalCbor_wellFormed : Yields unmarshalCbor WellFormed :=
  .after fun _ => .after fun _ => .after fun scheme =>
    .bind (EndpointType.unmarshalCbor_wellFormed scheme) fun endpoint formed =>
      .pure ⟨endpoint, rfl, formed⟩

theorem marshalCbor_of_valid (valid : eid.checkValid = none) :
    ∃ written, eid.marshalCbor = .ok written := by
  cases present : eid.endpointType with
  | none => simp [checkValid, present] at valid
  | some endpoint => exact ⟨_, marshalCbor_eq_ok.mpr ⟨valid, endpoint, present, rfl⟩⟩

end EndpointID

end RecDtn.Bpv7
