import RecDtn.Bpv7.Checking
import RecDtn.Lang.Source

/-! Partial parsing: the first extension blocks of the wanted types. -/

namespace RecDtn.Bpv7

open Wire Lang Cboring PrimaryBlock Go Reader

namespace CanonicalBlock

variable [Cboring]

/-- The fields of a block in front of its data. The block has no value yet. -/
structure Head where
  blockLen : UInt64
  blockType : UInt64
  block : CanonicalBlock

def unmarshalLength : ByteReader UInt64 := do
  let blockLen ← readArrayLength
  Reader.ensure (blockLen = 5 ∨ blockLen = 6)
    (.text s!"expected array with length 5 or 6, got {blockLen}")
  return blockLen

def unmarshalNumbers (blockLen : UInt64) : ByteReader Head := do
  let blockType ← readUInt
  let blockNumber ← readUInt
  let blockControlFlags ← readUInt
  let crcType ← readUInt
  return ⟨blockLen, blockType, ⟨blockNumber, blockControlFlags, crcType, [], none⟩⟩

/-- The CRC buffer in front of the fields: the array head of a block with a CRC
is replayed. -/
def crcBuff (blockLen : UInt64) : List UInt8 :=
  if blockLen = 6 then writeArrayLength blockLen else []

/-- Up to the data. What is read behind the array head goes to the CRC buffer. -/
def unmarshalHead (input : List UInt8) : EStateM.Result (Fault GoError) (Stream UInt8) Head :=
  match unmarshalLength.run input with
  | .error fault rest => .error fault ⟨rest, []⟩
  | .ok blockLen rest => unmarshalNumbers blockLen ⟨rest, crcBuff blockLen⟩

/-- What `UnmarshalWantedBlock` hands back, the block as far as it was filled
in, and the place of the reader. -/
structure Unmarshalled where
  wanted : Bool
  ended : Go Unit
  block : CanonicalBlock
  place : Place

/-- A block that is not wanted: its data are skipped and its CRC is read, not compared. -/
def skipData (source : Source) (head : Head) (place : Place) (input : List UInt8) : Unmarshalled :=
  match readByteStringLen.run input with
  | .error fault rest => ⟨false, .error fault, head.block, place.left rest⟩
  | .ok length rest =>
    match source.skip length (place.left rest) with
    | .error fault => ⟨false, .error fault, head.block, place.left rest⟩
    | .ok next =>
      let cb := { head.block with value := some (.generic [] head.blockType) }
      if head.blockLen = 6 then
        match readByteString.run next.pending with
        | .error fault rest => ⟨false, .error fault, cb, next.left rest⟩
        | .ok _ rest => ⟨false, .ok (), cb, next.left rest⟩
      else ⟨false, .ok (), cb, next⟩

/-- `ReadBlock` with the error it gets here. -/
def readData (head : Head) : ByteReader ExtensionBlock :=
  Reader.mapError (.wrapped s!"unmarshalling block type {head.blockType} failed")
    (ExtensionBlock.readBlock head.blockType)

variable [Crc16]

/-- A block that is wanted: its data are decoded and its CRC is compared. -/
def takeData (head : Head) (place : Place) (stream : Stream UInt8) : Unmarshalled :=
  match readData head stream with
  | .error fault rest => ⟨true, .error fault, head.block, place.left rest.pending⟩
  | .ok value stream =>
    let cb := { head.block with value := some value }
    if head.blockLen = 6 then
      match checkCRC cb.crcType stream with
      | .error fault rest => ⟨true, .error fault, cb, place.left rest.pending⟩
      | .ok crc rest => ⟨true, .ok (), { cb with crc := crc }, place.left rest.pending⟩
    else ⟨true, .ok (), cb, place.left stream.pending⟩

/-- `UnmarshalWantedBlock`. The numbers of a head that cannot be read to its
end are left out: all that is asked of such a block is its value. -/
def unmarshalWantedBlock (source : Source) (wantedBlocks : List UInt64) (place : Place) :
    Unmarshalled :=
  match unmarshalHead place.pending with
  | .error fault rest => ⟨false, .error fault, blank, place.left rest.pending⟩
  | .ok head stream =>
    if wantedBlocks.contains head.blockType then takeData head place stream
    else skipData source head place stream.pending

end CanonicalBlock

structure PartialBundle where
  primaryBlock : PrimaryBlock
  extensionBlocks : List CanonicalBlock
  deriving DecidableEq

namespace PartialBundle

/-- How a round of the loop ends: with a block that is kept or without one, and
with `break` or with the types that are still wanted. -/
inductive Round where
  | leave (kept : Option CanonicalBlock)
  | next (kept : Option CanonicalBlock) (wanted : List UInt64) (place : Place)

/-- A finished block: the first one of a wanted type is kept, and the last type
that is found ends the loop. -/
def keep (wanted : List UInt64) (typeCode : UInt64) (read : CanonicalBlock.Unmarshalled) : Round :=
  if read.wanted ∧ wanted.contains typeCode then
    let wanted := wanted.erase typeCode
    if wanted.isEmpty then .leave (some read.block) else .next (some read.block) wanted read.place
  else .next none wanted read.place

/-- What the loop makes of a block. The type code of a block without a value
panics, unless the break code has been found. -/
def judge (wanted : List UInt64) (read : CanonicalBlock.Unmarshalled) : Go Round := do
  match ← Go.errorOf read.ended with
  | some .flagBreakCode => return .leave none
  | err =>
    let typeCode ← read.block.typeCode
    if typeCode = BlockType.payloadBlock then return .leave none
    match err with
    | some cause => .error (.error (.wrapped "CanonicalBlock failed" cause))
    | none => return keep wanted typeCode read

variable [Cboring] [Crc16]

def round (source : Source) (wanted : List UInt64) (place : Place) : Go Round :=
  judge wanted (CanonicalBlock.unmarshalWantedBlock source wanted place)

/-- The loop over the canonical blocks. A seek can lead back, so the input does
not bound the number of rounds. -/
def unmarshalBlocks (source : Source) : Nat → List UInt64 → Place → Go (List CanonicalBlock)
  | 0, _, _ => .error .spin
  | fuel + 1, wanted, place => do
    match ← round source wanted place with
    | .leave kept => return kept.toList
    | .next kept wanted place =>
      let later ← unmarshalBlocks source fuel wanted place
      return kept.toList ++ later

def unmarshalPrimary : ByteReader PrimaryBlock := do
  readExpect indefiniteArray
  Reader.mapError (.wrapped "PrimaryBlock failed") unmarshalCbor

/-- `if err := ...CheckValid(); err != nil { return nil, err }`. -/
def check (causes : Go (List GoError)) : Go Unit :=
  match Bundle.verdict causes with
  | none => .ok ()
  | some fault => .error fault

def checkBlocks : List CanonicalBlock → Go Unit
  | [] => .ok ()
  | cb :: rest => do
    check cb.checkValid
    checkBlocks rest

/-- `ParsePartialBundle`. -/
def parsePartialBundle (source : Source) (fuel : Nat) (wanted : List UInt64) (input : List UInt8) :
    Go PartialBundle :=
  match unmarshalPrimary.run input with
  | .error fault _ => .error fault
  | .ok primary rest => do
    let blocks ← unmarshalBlocks source fuel wanted ((Place.start input).left rest)
    check (.ok primary.checkValid)
    checkBlocks blocks
    return ⟨primary, blocks⟩

end PartialBundle

namespace CanonicalBlock

variable [Cboring] {source : Source} {wanted : List UInt64} {place : Place} {head : Head}
  {stream : Stream UInt8} {input : List UInt8}

theorem tracks_unmarshalLength : Tracks unmarshalLength :=
  .bind (.primitive _) fun _ => .bind (.ensure _ _) fun _ => .pure _

theorem tracks_unmarshalNumbers (blockLen : UInt64) : Tracks (unmarshalNumbers blockLen) :=
  .bind (.primitive _) fun _ => .bind (.primitive _) fun _ => .bind (.primitive _) fun _ =>
    .bind (.primitive _) fun _ => .pure _

theorem unmarshalHead_eq_ok : unmarshalHead input = .ok head stream ↔
    ∃ blockLen rest, unmarshalLength.run input = .ok blockLen rest ∧
      unmarshalNumbers blockLen ⟨rest, crcBuff blockLen⟩ = .ok head stream := by
  unfold unmarshalHead
  cases unmarshalLength.run input with
  | ok blockLen rest => simp
  | error fault rest => simp

theorem unmarshalHead_fails (failed : unmarshalHead input = .error fault stream) :
    ∃ cause, fault = .error cause := by
  unfold unmarshalHead at failed
  rcases tracks_unmarshalLength.run_cases input with ⟨blockLen, _, rest, -,
    read⟩ | ⟨cause, rest, read⟩
  · rw [read] at failed
    exact (tracks_unmarshalNumbers blockLen).of_error failed
  · rw [read] at failed
    cases failed
    exact ⟨cause, rfl⟩

theorem unmarshalHead_takes (read : unmarshalHead input = .ok head stream) :
    ∃ used, input = used ++ stream.pending ∧ 0 < used.length := by
  obtain ⟨blockLen, rest, first, numbers⟩ := unmarshalHead_eq_ok.mp read
  obtain ⟨buffer, first⟩ := run_eq_ok.mp first
  obtain ⟨used, split, -⟩ := tracks_unmarshalLength.of_ok first
  obtain ⟨more, splitAgain, -⟩ := (tracks_unmarshalNumbers blockLen).of_ok numbers
  obtain ⟨length, middle, arrayHead, first⟩ := bind_eq_ok.mp first
  obtain ⟨_, _, ensured, first⟩ := bind_eq_ok.mp first
  obtain ⟨-, rfl⟩ := ensure_eq_ok.mp ensured
  obtain ⟨-, rfl⟩ := pure_eq_ok.mp first
  have shorter := readArrayLength_shortens arrayHead
  simp only at split splitAgain shorter
  refine ⟨used ++ more, by rw [split, splitAgain, List.append_assoc], ?_⟩
  rw [split, List.length_append] at shorter
  rw [List.length_append]
  omega

theorem unmarshalHead_bare (read : unmarshalHead input = .ok head stream) :
    head.block.value = none := by
  obtain ⟨blockLen, rest, -, read⟩ := unmarshalHead_eq_ok.mp read
  have bare : Yields (unmarshalNumbers blockLen) fun head => head.block.value = none :=
    .after fun _ => .after fun _ => .after fun _ => .after fun _ => .pure rfl
  exact bare read

theorem tracks_readData (head : Head) : Tracks (readData head) :=
  .mapError (ExtensionBlock.tracks_readBlock _) _

/-- A block of a type that is not wanted: its data begin at `start`, and reading
goes on at `next`. -/
def Skips (source : Source) (wanted : List UInt64) (place start next : Place) : Prop :=
  ∃ head stream length rest, unmarshalHead place.pending = .ok head stream ∧
    head.blockType ∉ wanted ∧
    readByteStringLen.run stream.pending = .ok length rest ∧ start = place.left rest ∧
    source.skip length start = .ok next

/-- The block can be read up to its value, or a break code stands in its head.
The data of a wanted type decode, those of another type are covered. -/
inductive Decodable (source : Source) (wanted : List UInt64) (place : Place) : Prop where
  | broken {rest : Stream UInt8} (head : unmarshalHead place.pending =
    .error (.error .flagBreakCode) rest)
  | taken {head : Head} {stream rest : Stream UInt8} {value : ExtensionBlock}
      (read : unmarshalHead place.pending = .ok head stream) (listed : head.blockType ∈ wanted)
      (data : readData head stream = .ok value rest)
  | cut {head : Head} {stream : Stream UInt8} {rest : List UInt8}
      (read : unmarshalHead place.pending = .ok head stream) (unlisted : head.blockType ∉ wanted)
      (data : readByteStringLen.run stream.pending = .error (.error .flagBreakCode) rest)
  | skipped {head : Head} {stream : Stream UInt8} {length : UInt64} {rest : List UInt8}
      (read : unmarshalHead place.pending = .ok head stream) (unlisted : head.blockType ∉ wanted)
      (data : readByteStringLen.run stream.pending = .ok length rest)
      (covers : source.Covers length (place.left rest))

theorem takeData_of_read [Crc16] {value : ExtensionBlock}
    (data : readData head stream = .ok value rest) :
    (takeData head place stream).block.value = some value ∧
      Settled (takeData head place stream).ended ∧
      ∃ used last, rest.pending = used ++ last ∧ (takeData head place stream).place = place.left last := by
  simp only [takeData, data]
  split
  · obtain ⟨used, last, split, outcome⟩ := tracks_checkCRC head.block.crcType rest
    rcases outcome with ⟨crc, checked⟩ | ⟨cause, failed⟩
    · rw [checked]
      exact ⟨rfl, .ok (), used, last, split, rfl⟩
    · rw [failed]
      exact ⟨rfl, .error cause, used, last, split, rfl⟩
  · exact ⟨rfl, .ok (), [], rest.pending, rfl, rfl⟩

theorem skipData_of_skip (length : readByteStringLen.run input = .ok count rest)
    (skipped : source.skip count (place.left rest) = .ok next) :
    (skipData source head place input).block.value = some (.generic [] head.blockType) ∧
      Settled (skipData source head place input).ended ∧
      (skipData source head place input).place.pending.length ≤ next.pending.length := by
  simp only [skipData, length, skipped]
  split
  · have tracks : Tracks readByteString := .primitive _
    obtain ⟨used, last, split, outcome⟩ := tracks ⟨next.pending, []⟩
    simp only [List.nil_append] at split outcome
    have shorter : (next.left last).pending.length ≤ next.pending.length := by
      rw [Place.pending_left split, split, List.length_append]
      omega
    rcases outcome with ⟨crc, read⟩ | ⟨cause, failed⟩
    · have field : readByteString.run next.pending = .ok crc last := run_eq_ok.mpr ⟨_, read⟩
      rw [field]
      exact ⟨rfl, .ok (), shorter⟩
    · have field : readByteString.run next.pending = .error (.error cause) last := by
        simp only [Reader.run, failed]
      rw [field]
      exact ⟨rfl, .error cause, shorter⟩
  · exact ⟨rfl, .ok (), Nat.le_refl _⟩

variable [Crc16]

/-- The block was left without a value, and for another reason than a break code. -/
def Unmarshalled.Stuck (read : Unmarshalled) : Prop :=
  read.block.value = none ∧ ∃ cause, read.ended = .error (.error cause) ∧
    cause ≠ .flagBreakCode

theorem unmarshalWantedBlock_of_listed (read : unmarshalHead place.pending = .ok head stream)
    (listed : head.blockType ∈ wanted) :
    unmarshalWantedBlock source wanted place = takeData head place stream := by
  simp only [unmarshalWantedBlock, read, List.contains_iff_mem.mpr listed, ↓reduceIte]

theorem unmarshalWantedBlock_of_unlisted (read : unmarshalHead place.pending = .ok head stream)
    (unlisted : head.blockType ∉ wanted) :
    unmarshalWantedBlock source wanted place = skipData source head place stream.pending := by
  simp only [unmarshalWantedBlock, read, List.contains_iff_mem, unlisted, ↓reduceIte]

/-- A block that can be read ends in a break code, or it has a value and brings
the reader closer to the end of its input. -/
theorem Decodable.outcome (decodable : Decodable source wanted place) :
    (unmarshalWantedBlock source wanted place).ended = .error (.error .flagBreakCode) ∨
      (∃ value, (unmarshalWantedBlock source wanted place).block.value = some value) ∧
        Settled (unmarshalWantedBlock source wanted place).ended ∧
        (unmarshalWantedBlock source wanted place).place.pending.length < place.pending.length := by
  cases decodable with
  | broken head => exact .inl (by simp only [unmarshalWantedBlock, head])
  | taken read listed data =>
    rw [unmarshalWantedBlock_of_listed read listed]
    obtain ⟨present, settled, used, last, split, moved⟩ :=
      @takeData_of_read _ place _ _ _ _ _ data
    obtain ⟨front, headSplit, positive⟩ := unmarshalHead_takes read
    obtain ⟨middle, dataSplit, -⟩ := (tracks_readData _).of_ok data
    have whole : place.pending = (front ++ (middle ++ used)) ++ last := by
      rw [headSplit, dataSplit, split]
      simp
    refine .inr ⟨⟨_, present⟩, settled, ?_⟩
    rw [moved, Place.pending_left whole, whole]
    simp only [List.length_append]
    omega
  | cut read unlisted data =>
    rw [unmarshalWantedBlock_of_unlisted read unlisted]
    exact .inl (by simp only [skipData, data])
  | @skipped head stream length rest read unlisted data covers =>
    rw [unmarshalWantedBlock_of_unlisted read unlisted]
    obtain ⟨next, skipped, onward⟩ := Source.covers_iff_skip_forward.mp covers
    obtain ⟨present, settled, shorter⟩ := @skipData_of_skip _ _ _ head _ _ _ _ data skipped
    obtain ⟨front, headSplit, positive⟩ := unmarshalHead_takes read
    obtain ⟨_, lengthRead⟩ := run_eq_ok.mp data
    obtain ⟨middle, dataSplit, -⟩ := (Tracks.primitive _).of_ok lengthRead
    have whole : place.pending = (front ++ middle) ++ rest := by
      rw [headSplit, dataSplit, List.append_assoc]
    have bound := Source.pending_of_skip skipped onward
    rw [Place.pending_left whole] at bound
    refine .inr ⟨⟨_, present⟩, settled, Nat.lt_of_le_of_lt (Nat.le_trans shorter bound) ?_⟩
    rw [whole]
    simp only [List.length_append]
    omega

omit [Crc16] in
/-- A block that can be read is not skipped backwards. -/
theorem Decodable.forward (decodable : Decodable source wanted place)
    (skips : Skips source wanted place start next) : start.position ≤ next.position := by
  obtain ⟨head, stream, length, rest, read, unlisted, data, rfl, skipped⟩ := skips
  cases decodable with
  | broken failed =>
    rw [read] at failed
    cases failed
  | taken again listed _ =>
    rw [read] at again
    cases again
    exact absurd listed unlisted
  | cut again _ failed =>
    rw [read] at again
    cases again
    rw [data] at failed
    cases failed
  | skipped again _ dataAgain covers =>
    rw [read] at again
    cases again
    rw [data] at dataAgain
    cases dataAgain
    obtain ⟨other, same, onward⟩ := Source.covers_iff_skip_forward.mp covers
    rw [skipped] at same
    cases same
    exact onward

/-- The error of undecodable data is a new one, so it is never the break code. -/
theorem stuck_takeData (bare : head.block.value = none)
    (data : readData head stream = .error fault rest) : (takeData head place stream).Stuck := by
  obtain ⟨cause, rfl⟩ := (tracks_readData head).of_error data
  refine ⟨by simpa only [takeData, data] using bare, cause, by simp only [takeData, data], ?_⟩
  rintro rfl
  unfold readData Reader.mapError at data
  split at data
  · cases data
  · rename_i other
    obtain ⟨cause, same⟩ := (ExtensionBlock.tracks_readBlock _).of_error data
    exact other _ _ (same ▸ data)

omit [Crc16] in
theorem stuck_skipData (bare : head.block.value = none)
    (length : readByteStringLen.run input = .ok count rest)
    (failed : source.skip count (place.left rest) = .error fault) :
    (skipData source head place input).Stuck := by
  obtain ⟨message, rfl⟩ := Source.skip_eq_error failed
  refine ⟨by simpa only [skipData, length, failed] using bare, .text message,
    by simp only [skipData, length, failed], ?_⟩
  intro same
  cases same

/-- Any other block gets stuck, or the reader is moved backwards. -/
theorem stuck_of_not_decodable (undecodable : ¬Decodable source wanted place) :
    (unmarshalWantedBlock source wanted place).Stuck ∨
      ∃ start next, Skips source wanted place start next ∧ next.position < start.position := by
  cases read : unmarshalHead place.pending with
  | error fault rest =>
    obtain ⟨cause, rfl⟩ := unmarshalHead_fails read
    refine .inl ⟨by simp only [unmarshalWantedBlock, read, blank], cause,
      by simp only [unmarshalWantedBlock, read], ?_⟩
    rintro rfl
    exact undecodable (.broken read)
  | ok head stream =>
    have bare := unmarshalHead_bare read
    by_cases listed : head.blockType ∈ wanted
    · rw [unmarshalWantedBlock_of_listed read listed]
      cases data : readData head stream with
      | ok value rest => exact absurd (.taken read listed data) undecodable
      | error fault rest => exact .inl (stuck_takeData bare data)
    · rw [unmarshalWantedBlock_of_unlisted read listed]
      have tracks : Tracks readByteStringLen := .primitive _
      rcases tracks.run_cases stream.pending with
        ⟨length, _, rest, -, data⟩ | ⟨cause, rest, data⟩
      · cases skipped : source.skip length (place.left rest) with
        | error fault => exact .inl (stuck_skipData bare data skipped)
        | ok next =>
          refine .inr ⟨_, next, ⟨head, stream, length, rest, read, listed, data, rfl, skipped⟩, ?_⟩
          by_contra onward
          exact undecodable (.skipped read listed data
            (Source.covers_iff_skip_forward.mpr ⟨next, skipped, Nat.le_of_not_lt onward⟩))
      · refine .inl ⟨?_, cause, ?_, ?_⟩
        · simpa only [skipData, data] using bare
        · simp only [skipData, data]
        · rintro rfl
          exact undecodable (.cut read listed data)

end CanonicalBlock

namespace PartialBundle

section Judging

variable {wanted : List UInt64} {read : CanonicalBlock.Unmarshalled} {value : ExtensionBlock}

theorem judge_of_break (broken : read.ended = .error (.error .flagBreakCode)) :
    judge wanted read = .ok (.leave none) := by
  simp only [judge, broken, Go.errorOf, ok_bind]
  rfl

theorem judge_of_error (failed : read.ended = .error (.error cause))
    (other : cause ≠ .flagBreakCode) : judge wanted read = read.block.typeCode >>= fun typeCode =>
      if typeCode = BlockType.payloadBlock then .ok (.leave none)
      else .error (.error (.wrapped "CanonicalBlock failed" cause)) := by
  simp only [judge, failed, Go.errorOf, ok_bind]
  cases cause with
  | flagBreakCode => exact absurd rfl other
  | text message => rfl
  | wrapped label cause => rfl
  | multi causes => rfl

theorem judge_of_stuck (stuck : read.Stuck) : judge wanted read = .error .panic := by
  obtain ⟨missing, cause, failed, other⟩ := stuck
  simp only [judge_of_error failed other, CanonicalBlock.typeCode, missing, Go.deref, error_bind]

theorem judge_of_finished (present : read.block.value = some value) (finished : read.ended = .ok ()) :
    judge wanted read = .ok (if value.blockTypeCode = BlockType.payloadBlock then .leave none
      else keep wanted value.blockTypeCode read) := by
  simp only [judge, finished, Go.errorOf, ok_bind, CanonicalBlock.typeCode_of_present present,
    pure, Except.pure]
  split <;> rfl

theorem judge_of_failed (present : read.block.value = some value)
    (failed : read.ended = .error (.error cause)) (other : cause ≠ .flagBreakCode) :
    judge wanted read = if value.blockTypeCode = BlockType.payloadBlock then .ok (.leave none)
      else .error (.error (.wrapped "CanonicalBlock failed" cause)) := by
  rw [judge_of_error failed other, CanonicalBlock.typeCode_of_present present, ok_bind]

theorem settled_judge (present : read.block.value = some value) (settled : Settled read.ended) :
    Settled (judge wanted read) := by
  cases ended : read.ended with
  | ok _ =>
    rw [judge_of_finished present ended]
    exact .ok _
  | error fault =>
    obtain ⟨cause, rfl⟩ := settled fault ended
    by_cases broken : cause = .flagBreakCode
    · rw [judge_of_break (broken ▸ ended)]
      exact .ok _
    · rw [judge_of_failed present ended broken]
      split
      · exact .ok _
      · exact .error _

def Round.kept : Round → Option CanonicalBlock
  | .leave kept => kept
  | .next kept _ _ => kept

/-- A round without an error ends the loop with nothing, or it had a value to look at. -/
theorem judge_eq_ok (judged : judge wanted read = .ok ended) :
    ended = .leave none ∨ ∃ value, read.block.value = some value ∧
      ended = keep wanted value.blockTypeCode read := by
  unfold judge at judged
  obtain ⟨err, -, judged⟩ := bind_eq_ok.mp judged
  split at judged
  · cases judged
    exact .inl rfl
  · obtain ⟨typeCode, found, judged⟩ := bind_eq_ok.mp judged
    obtain ⟨value, present, same⟩ := bind_eq_ok.mp found
    cases same
    split at judged
    · cases judged
      exact .inl rfl
    · cases err with
      | some cause => cases judged
      | none =>
        cases judged
        exact .inr ⟨value, deref_eq_ok.mp present, rfl⟩

theorem keep_of_listed (taken : read.wanted = true) (listed : typeCode ∈ wanted) :
    keep wanted typeCode read = if (wanted.erase typeCode).isEmpty then .leave (some read.block)
      else .next (some read.block) (wanted.erase typeCode) read.place :=
  if_pos ⟨taken, List.contains_iff_mem.mpr listed⟩

theorem keep_of_skipped (skipped : read.wanted = false) :
    keep wanted typeCode read = .next none wanted read.place :=
  if_neg (by simp [skipped])

theorem keep_place (kept : keep wanted typeCode read = .next block left place) :
    read.place = place := by
  unfold keep at kept
  split at kept
  · simp only at kept
    split at kept <;> cases kept
    rfl
  · cases kept
    rfl

theorem keep_kept : (keep wanted typeCode read).kept = none ∨
    (keep wanted typeCode read).kept = some read.block := by
  unfold keep
  split
  · refine .inr ?_
    simp only
    split <;> rfl
  · exact .inl rfl

/-- Only blocks with a value are kept. -/
theorem judge_kept (judged : judge wanted read = .ok ended) (member : cb ∈ ended.kept) :
    cb.Present := by
  rcases judge_eq_ok judged with rfl | ⟨value, present, rfl⟩
  · cases member
  · rcases @keep_kept wanted read value.blockTypeCode with none | some
    · rw [none] at member
      cases member
    · rw [some] at member
      cases member
      exact ⟨value, present⟩

theorem settled_check (causes : List GoError) : Settled (check (.ok causes)) := by
  cases causes with
  | nil => exact .ok ()
  | cons cause rest => exact .error _

theorem settled_checkBlocks (present : ∀ cb ∈ blocks, cb.Present) :
    Settled (checkBlocks blocks) := by
  induction blocks with
  | nil => exact .ok ()
  | cons cb rest ih =>
    obtain ⟨value, held⟩ := present cb List.mem_cons_self
    obtain ⟨causes, checked⟩ := CanonicalBlock.checkValid_of_present held
    refine settled_bind ?_ fun _ => ih fun other member =>
      present other (List.mem_cons_of_mem cb member)
    rw [checked]
    exact settled_check causes

end Judging

variable [Cboring] [Crc16] {source : Source} {wanted : List UInt64} {place : Place}

/-- The loop goes on from one place and list of wanted types to the next. -/
def Continues (source : Source) (here there : List UInt64 × Place) : Prop :=
  ∃ kept, round source here.1 here.2 = .ok (.next kept there.1 there.2)

def Reaches (source : Source) : List UInt64 × Place → List UInt64 × Place → Prop :=
  Relation.ReflTransGen (Continues source)

theorem round_of_decodable (decodable : CanonicalBlock.Decodable source wanted place) :
    Settled (round source wanted place) ∧ ∀ kept left next, round source wanted place =
        .ok (.next kept left next) → next.pending.length < place.pending.length := by
  rcases decodable.outcome with broken | ⟨⟨value, present⟩, settled, shorter⟩
  · rw [round, judge_of_break broken]
    refine ⟨.ok _, ?_⟩
    intro kept left next same
    cases same
  · refine ⟨settled_judge present settled, ?_⟩
    intro kept left next same
    rcases judge_eq_ok same with impossible | ⟨_, -, same⟩
    · cases impossible
    · rwa [← keep_place same.symm]

/-- A loop that can read every block it reaches ends, and it keeps blocks with
values only. The induction is on what is still to be read. -/
theorem unmarshalBlocks_returns
    (decodable : ∀ left next, Reaches source (wanted, place) (left, next) →
      CanonicalBlock.Decodable source left next) :
    ∃ fuel, Settled (unmarshalBlocks source fuel wanted place) := by
  induction size : place.pending.length using Nat.strong_induction_on generalizing wanted place with
  | _ size ih =>
    obtain ⟨settled, shorter⟩ := round_of_decodable (decodable wanted place .refl)
    cases ended : round source wanted place with
    | error fault =>
      obtain ⟨cause, rfl⟩ := settled fault ended
      refine ⟨1, ?_⟩
      simp only [unmarshalBlocks, ended, error_bind]
      exact .error cause
    | ok outcome =>
      cases outcome with
      | leave kept =>
        refine ⟨1, ?_⟩
        simp only [unmarshalBlocks, ended, ok_bind]
        exact .ok _
      | next kept left next =>
        have smaller := shorter kept left next ended
        obtain ⟨fuel, settled⟩ := ih _ (size ▸ smaller) (fun other there reached =>
          decodable other there (.head ⟨kept, ended⟩ reached)) rfl
        refine ⟨fuel + 1, ?_⟩
        simp only [unmarshalBlocks, ended, ok_bind]
        exact settled_bind settled fun _ => .ok _

theorem unmarshalBlocks_present (read : unmarshalBlocks source fuel wanted place = .ok blocks) :
    ∀ cb ∈ blocks, cb.Present := by
  induction fuel generalizing wanted place blocks with
  | zero => cases read
  | succ fuel ih =>
    obtain ⟨outcome, ended, read⟩ := bind_eq_ok.mp read
    intro cb member
    cases outcome with
    | leave kept =>
      cases read
      exact judge_kept ended (Option.mem_toList.mp member)
    | next kept left next =>
      obtain ⟨later, tail, read⟩ := bind_eq_ok.mp read
      cases read
      rcases List.mem_append.mp member with front | back
      · exact judge_kept ended (Option.mem_toList.mp front)
      · exact ih tail cb back

/-- A loop that reaches a block it gets stuck in has no result, however long it
may run. The induction is on the way to that block. -/
theorem not_settled_of_panic (reached : Reaches source here there)
    (panics : round source there.1 there.2 = .error .panic) (fuel : Nat) :
    ¬Settled (unmarshalBlocks source fuel here.1 here.2) := by
  induction reached using Relation.ReflTransGen.head_induction_on generalizing fuel with
  | refl =>
    cases fuel with
    | zero => exact not_settled_spin
    | succ fuel =>
      simp only [unmarshalBlocks, panics, error_bind]
      exact not_settled_panic
  | head step _ ih =>
    obtain ⟨kept, ended⟩ := step
    cases fuel with
    | zero => exact not_settled_spin
    | succ fuel =>
      intro settled
      simp only [unmarshalBlocks, ended, ok_bind] at settled
      exact ih fuel (settled_of_bind settled)

/-- The loop comes to this place with these types still wanted. -/
def Visits (source : Source) (wanted : List UInt64) (input : List UInt8) (left : List UInt64)
    (place : Place) : Prop :=
  ∃ primary rest, unmarshalPrimary.run input = .ok primary rest ∧
    Reaches source (wanted, (Place.start input).left rest) (left, place)

/-- `ParsePartialBundle` ends in a partial bundle or an error. -/
def Returns (source : Source) (wanted : List UInt64) (input : List UInt8) : Prop :=
  ∃ fuel, Settled (parsePartialBundle source fuel wanted input)

/-- No block that is skipped moves the reader backwards. -/
def SkipsForward (source : Source) (wanted : List UInt64) (input : List UInt8) : Prop :=
  ∀ left place, Visits source wanted input left place → ∀ start next,
    CanonicalBlock.Skips source left place start next → start.position ≤ next.position

theorem tracks_unmarshalPrimary : Tracks unmarshalPrimary :=
  .bind (.primitive _) fun _ => .mapError tracks_unmarshalCbor _

theorem returns_of_decodable {input : List UInt8}
    (decodable : ∀ left place, Visits source wanted input left place →
      CanonicalBlock.Decodable source left place) : Returns source wanted input := by
  unfold Returns parsePartialBundle
  rcases tracks_unmarshalPrimary.run_cases input with ⟨primary, _, rest, -,
    read⟩ | ⟨cause, rest, failed⟩
  · obtain ⟨fuel, settled⟩ := unmarshalBlocks_returns fun left place reached =>
      decodable left place ⟨primary, rest, read, reached⟩
    refine ⟨fuel, ?_⟩
    simp only [read]
    refine settled_bind_of_ok settled fun blocks found => ?_
    refine settled_bind (settled_check _) fun _ => ?_
    exact settled_bind (settled_checkBlocks (unmarshalBlocks_present found)) fun _ => .ok _
  · refine ⟨0, ?_⟩
    simp only [failed]
    exact .error cause

/-- Partial parsing ends in a partial bundle or an error and skips no block
backwards exactly if every block it comes to can be read up to its value, or has
a break code in its head. -/
theorem parsePartialBundle_returns_iff {input : List UInt8} :
    Returns source wanted input ∧ SkipsForward source wanted input ↔
      ∀ left place, Visits source wanted input left place →
        CanonicalBlock.Decodable source left place := by
  constructor
  · rintro ⟨⟨fuel, settled⟩, onward⟩ left place visited
    by_contra undecodable
    rcases CanonicalBlock.stuck_of_not_decodable undecodable with stuck | ⟨start,
      next, skips, back⟩
    · obtain ⟨primary, rest, read, reached⟩ := visited
      simp only [parsePartialBundle, read] at settled
      exact not_settled_of_panic reached (judge_of_stuck stuck) fuel (settled_of_bind settled)
    · exact absurd (onward left place visited start next skips) (Nat.not_le_of_lt back)
  · intro decodable
    refine ⟨returns_of_decodable decodable, ?_⟩
    intro left place visited start next skips
    exact (decodable left place visited).forward skips

end PartialBundle

open PartialBundle

attribute [local instance] standardCbor x25

/-- A primary block, and a block that ends after its array head. -/
def truncatedBlock : List UInt8 :=
  [0x9f, 0x88, 7, 4, 0, 0x82, 1, 0, 0x82, 1, 0, 0x82, 1, 0, 0x82, 0, 0, 0, 0x85]

/-- A primary block, and a block of type 10 that announces `2 ^ 64 - 14` bytes
of data. Its head takes 14 bytes. -/
def rewindingBlock : List UInt8 :=
  [0x9f, 0x88, 7, 4, 0, 0x82, 1, 0, 0x82, 1, 0, 0x82, 1, 0, 0x82, 0, 0, 0,
    0x85, 10, 2, 0, 0, 0x5b, 0xff, 0xff, 0xff, 0xff, 0xff, 0xff, 0xff, 0xf2]

/-- A block that is cut off makes the loop ask for the type of a value that is
not there. A seek to the block's own start makes it read that block for ever. -/
theorem parsePartialBundle_not_returning :
    (∀ source fuel, parsePartialBundle source (fuel + 1) [] truncatedBlock = .error .panic) ∧
      (∀ source, ¬Returns source [] truncatedBlock) ∧
      ¬Returns (.seekable (2 ^ 63 - 1)) [] rewindingBlock := by
  have truncated : ∀ source fuel, parsePartialBundle source (fuel + 1) [] truncatedBlock =
      .error .panic :=
    fun source fuel => rfl
  have rewinds : ∀ fuel, unmarshalBlocks (.seekable (2 ^ 63 - 1)) fuel []
      ⟨rewindingBlock, 18⟩ = .error .spin := by
    intro fuel
    have again : round (.seekable (2 ^ 63 - 1)) [] ⟨rewindingBlock, 18⟩ =
        .ok (.next none [] ⟨rewindingBlock, 18⟩) := rfl
    induction fuel with
    | zero => rfl
    | succ fuel ih =>
      simp only [unmarshalBlocks, again, ok_bind, ih]
      rfl
  refine ⟨truncated, ?_, ?_⟩
  · rintro source ⟨fuel, settled⟩
    cases fuel with
    | zero => exact not_settled_spin settled
    | succ fuel =>
      rw [truncated] at settled
      exact not_settled_panic settled
  · rintro ⟨fuel, settled⟩
    have unfolded : parsePartialBundle (.seekable (2 ^ 63 - 1)) fuel [] rewindingBlock =
        unmarshalBlocks (.seekable (2 ^ 63 - 1)) fuel [] ⟨rewindingBlock, 18⟩ >>= _ := rfl
    rw [unfolded, rewinds] at settled
    exact not_settled_spin settled

end RecDtn.Bpv7
