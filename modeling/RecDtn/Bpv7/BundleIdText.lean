import RecDtn.Bpv7.BundleId
import RecDtn.Bpv7.EndpointText

namespace RecDtn.Bpv7

open Wire Lang BundleID Go List

/-- `strconv.ParseUint(text, 10, 64)`. It stops at the first byte that is no
digit, or at the first digit that makes the value too large. -/
def parseNumber (text : List UInt8) : Go UInt64 :=
  match parseUint text with
  | some number => .ok number
  | none =>
    let reason :=
      if 2 ^ 64 ≤ decimalValue (text.takeWhile isDigit) then "value out of range" else "invalid syntax"
    .error (.error (.text s!"strconv.ParseUint: parsing \"{display text}\": {reason}"))

def newBundleID (uri : List UInt8) : Go BundleID :=
  let parts := uri.splitOn dash
  if parts.length ≠ 3 ∧ parts.length ≠ 5 then
    .error (.error (.text s!"{display uri} is not a valid BundleID"))
  else
    match parts with
    | endpoint :: time :: sequence :: rest => do
      let sourceNode ← newEndpointID endpoint
      let dtnTime ← parseNumber time
      let sequenceNumber ← parseNumber sequence
      match rest with
      | [offset, length] => do
        let fragmentOffset ← parseNumber offset
        let totalDataLength ← parseNumber length
        return ⟨sourceNode, ⟨dtnTime, sequenceNumber⟩, true, fragmentOffset, totalDataLength⟩
      | _ => return ⟨sourceNode, ⟨dtnTime, sequenceNumber⟩, false, 0, 0⟩
    | _ => .error .panic

theorem parseNumber_decimal (number : UInt64) : parseNumber (decimal number.toNat) = .ok number := by
  unfold parseNumber
  rw [parseUint_decimal, if_pos number.toNat_lt, UInt64.ofNat_toNat]

namespace BundleID

private theorem dash_notMem_decimal (number : Nat) : dash ∉ decimal number := by
  intro member
  exact absurd (isDigit_of_mem_decimal member) (by decide)

theorem length_splitOn_dash (text : List UInt8) :
    (text.splitOn dash).length = text.count dash + 1 := by
  unfold List.splitOn
  induction text with
  | nil => rfl
  | cons byte rest ih =>
    rw [splitOnP_cons_eq_if_modifyHead, count_cons]
    cases byte == dash with
    | true => simp [ih]
    | false => simp [ih]

theorem count_dash_string (bid : BundleID) :
    bid.string.count dash = bid.sourceNode.string.count dash + if bid.isFragment then 4 else 2 := by
  have digits : ∀ number, (decimal number).count dash = 0 :=
    fun number => count_eq_zero.mpr (dash_notMem_decimal number)
  cases fragment : bid.isFragment with
  | true | false => simp [string, creationText, withNumbers, field, fragment, digits]

variable {bid : BundleID}

theorem splitOn_string (clean : dash ∉ bid.sourceNode.string) : bid.string.splitOn dash =
      bid.sourceNode.string :: decimal bid.timestamp.dtnTime.toNat :: decimal bid.timestamp.sequenceNumber.toNat ::
        if bid.isFragment then [decimal bid.fragmentOffset.toNat, decimal bid.totalDataLength.toNat] else [] := by
  have joined : bid.string = [dash].intercalate (bid.sourceNode.string ::
      decimal bid.timestamp.dtnTime.toNat :: decimal bid.timestamp.sequenceNumber.toNat ::
      if bid.isFragment then [decimal bid.fragmentOffset.toNat, decimal bid.totalDataLength.toNat]
      else []) := by
    cases fragment : bid.isFragment with
    | true | false => simp [string, creationText, withNumbers, field, fragment, List.intercalate]
  rw [joined, splitOn_intercalate dash _ (by simp)]
  cases bid.isFragment with
  | true => simp [clean, dash_notMem_decimal]
  | false => simp [clean, dash_notMem_decimal]

/-- The parser returns IDs that their own texts tell, and it tells fragments
from whole bundles by the number of dashes. -/
theorem formed_of_newBundleID {uri : List UInt8} (read : newBundleID uri = .ok bid) :
    bid.WellFormed ∧ uri.count dash = if bid.isFragment then 4 else 2 := by
  have pieces := length_splitOn_dash uri
  unfold newBundleID at read
  dsimp only at read
  split at read
  · cases read
  rename_i counted
  split at read
  · rename_i endpoint time sequence rest parts
    obtain ⟨sourceNode, named, read⟩ := bind_eq_ok.mp read
    obtain ⟨dtnTime, -, read⟩ := bind_eq_ok.mp read
    obtain ⟨sequenceNumber, -, read⟩ := bind_eq_ok.mp read
    have formed := (formed_of_newEndpointID named).1
    rw [parts] at pieces counted
    split at read
    · obtain ⟨fragmentOffset, -, read⟩ := bind_eq_ok.mp read
      obtain ⟨totalDataLength, -, read⟩ := bind_eq_ok.mp read
      cases read
      exact ⟨⟨formed, .inl rfl⟩, by simpa using pieces.symm⟩
    · rename_i other
      cases read
      have three : rest.length = 0 := by
        by_contra more
        have two : rest.length = 2 := by
          simp only [length_cons] at counted
          omega
        obtain ⟨offset, length, same⟩ := length_eq_two.mp two
        exact other offset length same
      refine ⟨⟨formed, .inr ⟨rfl, rfl⟩⟩, ?_⟩
      simpa [three] using pieces.symm
  · cases read

theorem newBundleID_string (valid : bid.sourceNode.checkValid = none)
    (clean : dash ∉ bid.sourceNode.string)
    (formed : bid.WellFormed) : newBundleID bid.string = .ok bid := by
  have source := newEndpointID_string formed.source valid
  have zero := formed.fields
  obtain ⟨sourceNode, ⟨dtnTime, sequenceNumber⟩, isFragment, fragmentOffset,
    totalDataLength⟩ := bid
  unfold newBundleID
  simp only [splitOn_string clean]
  cases isFragment with
  | true => simp [source, parseNumber_decimal]
  | false =>
    obtain ⟨rfl, rfl⟩ : fragmentOffset = 0 ∧ totalDataLength = 0 := by simpa using zero
    simp [source, parseNumber_decimal]

end BundleID

section Bundles

variable [Cboring] [Crc16] [Ed25519]

/-- The ID of a valid bundle comes back from its text exactly if the source has
no dash in its text, its text tells the source, and only fragments have
fragment fields. -/
theorem newBundleID_string_iff {b : Bundle} {now : Time} (valid : b.checkValid now = .ok []) :
    newBundleID b.id.string = .ok b.id ↔ dash ∉ b.id.sourceNode.string ∧ b.id.WellFormed := by
  constructor
  · intro read
    obtain ⟨formed, counted⟩ := formed_of_newBundleID read
    rw [count_dash_string] at counted
    have none : b.id.sourceNode.string.count dash = 0 := by omega
    exact ⟨count_eq_zero.mp none, formed⟩
  · rintro ⟨clean, formed⟩
    have source : b.id.sourceNode.checkValid = none :=
      (PrimaryBlock.checkValid_eq_nil.mp (Bundle.checkValid_eq_nil.mp valid).1).2.2.2.1
    exact newBundleID_string source clean formed

end Bundles

open scoped Samples

/-- A bundle from a node with the given name. -/
def bundleFrom (node : String) : Bundle :=
  { plainBundle with
    primaryBlock := { plainBundle.primaryBlock with sourceNode := nodeEndpoint node } }

theorem bundleFrom_broker_survives : (bundleFrom "broker").checkValid 0 = .ok [] ∧
    newBundleID (bundleFrom "broker").id.string = .ok (bundleFrom "broker").id :=
  ⟨rfl, (newBundleID_string_iff (by rfl : (bundleFrom "broker").checkValid 0 = .ok [])).mpr
    ⟨by decide, by decide, by decide⟩⟩

/-- The dash in the name makes a fourth part. -/
theorem bundleFrom_dashed_rejected : (bundleFrom "node-1").checkValid 0 = .ok [] ∧
    newBundleID (bundleFrom "node-1").id.string =
      .error (.error (.text "dtn://node-1/-1-0 is not a valid BundleID")) :=
  ⟨rfl, rfl⟩

end RecDtn.Bpv7
