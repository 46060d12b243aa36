import RecDtn.Bpv7.Lifetime
import RecDtn.Bpv7.RoundTrip

/-! What the parser makes of the encoding of any bundle. -/

namespace RecDtn.Bpv7

open Wire Lang BlockType CanonicalBlock Cboring ExtensionBlock Reader List

variable [Cboring]

variable {rest written : List UInt8} {buffer : List UInt8} {age : UInt64}

namespace DtnEndpoint

omit [Cboring] in
theorem ssp_ne_none (e : DtnEndpoint) : e.ssp ≠ ascii "none" := by
  intro same
  have heads := congrArg List.head? same
  exact absurd heads (by simp [ssp, slash, ascii])

theorem matchesSsp_of_unmarshalCbor {e parsed : DtnEndpoint} (some : e.isDtnNone = false)
    (read : unmarshalCbor ⟨e.marshalCbor ++ rest, buffer⟩ = .ok parsed final) :
    matchesSsp e.ssp = true := by
  obtain ⟨head, written, taken⟩ := readMajors_writeTextString e.ssp
  have text : textString ≠ uint := by decide
  have major : Reads buffer readMajors head (textString, e.ssp.length) := .primitive taken
  rw [marshalCbor, if_neg (by simp [some]), written, append_assoc, unmarshalCbor, major.bind_apply,
    unmarshalMajor, if_neg text, if_pos rfl, (reads_rawBytes e.ssp).bind_apply] at read
  obtain ⟨found, _, lifted, -⟩ := bind_eq_ok.mp read
  have result := (lift_eq_ok.mp lifted).1
  by_contra unmatched
  rw [parseDtnSsp, if_neg e.ssp_ne_none, if_pos (by simpa using unmatched)] at result
  cases result

end DtnEndpoint

namespace EndpointID

/-- The decoder takes the text of a `dtn` endpoint. -/
def Readable (eid : EndpointID) : Prop :=
  ∀ e, eid.endpointType = some (.dtn e) → e.isDtnNone = true ∨
    DtnEndpoint.matchesSsp e.ssp = true

variable {eid : EndpointID}

theorem Readable.twin (readable : eid.Readable) (marshalled : eid.marshalCbor = .ok written) :
    ∃ twin : EndpointID, twin.WellFormed ∧ twin.marshalCbor = .ok written := by
  obtain ⟨-, endpoint, present, rfl⟩ := marshalCbor_eq_ok.mp marshalled
  cases endpoint with
  | ipn e => exact ⟨eid, ⟨.ipn e, present, trivial⟩, marshalled⟩
  | dtn e =>
    cases null : e.isDtnNone with
    | true =>
      refine ⟨dtnNone, ⟨_, rfl, DtnEndpoint.wellFormed_none⟩, marshalCbor_eq_ok.mpr ⟨rfl, _, rfl, ?_⟩⟩
      simp [EndpointType.schemeNo, EndpointType.marshalCbor, DtnEndpoint.marshalCbor, null, DtnEndpoint.none]
    | false =>
      have matched : DtnEndpoint.matchesSsp e.ssp = true := (readable e present).resolve_left (by simp [null])
      obtain ⟨other, named, formed, same⟩ := DtnEndpoint.matchesSsp_eq_true.mp matched
      refine ⟨⟨some (.dtn other)⟩, ⟨_, rfl, formed⟩, marshalCbor_eq_ok.mpr ⟨formed.checkValid, _, rfl, ?_⟩⟩
      simp [EndpointType.schemeNo, EndpointType.marshalCbor, DtnEndpoint.marshalCbor, null, named, same]

theorem readable_of_unmarshalCbor {value : EndpointID} (marshalled : eid.marshalCbor = .ok written)
    (read : unmarshalCbor ⟨written ++ rest, buffer⟩ = .ok value final) : eid.Readable := by
  obtain ⟨-, endpoint, present, rfl⟩ := marshalCbor_eq_ok.mp marshalled
  intro e held
  obtain rfl : endpoint = .dtn e := by simpa [held] using present.symm
  cases null : e.isDtnNone with
  | true => exact .inl rfl
  | false =>
    rw [append_assoc, append_assoc, unmarshalCbor, (reads_arrayLength 2).bind_apply,
      (Reads.ensure rfl).after_apply, (reads_uint _).bind_apply] at read
    obtain ⟨found, _, decoded, -⟩ := bind_eq_ok.mp read
    obtain ⟨parsed, decoded, -⟩ := map_eq_ok.mp
      (decoded : (EndpointType.dtn <$> DtnEndpoint.unmarshalCbor : ByteReader EndpointType) _ = _)
    exact .inr (DtnEndpoint.matchesSsp_of_unmarshalCbor null decoded)

/-- The next endpoint is read to its end, or it stops whoever fills in a record. -/
theorem filler_cases {σ : Type} (encoded : eid.marshalCbor = .ok written)
    (more buffer : List UInt8) :
    (∃ found, eid.Readable ∧
      ∀ (record : σ) (after : EndpointID → Filler UInt8 GoError σ Unit),
      (.read (.mapError (.wrapped "EndpointID failed") unmarshalCbor) >>= after)
        (⟨written ++ more, buffer⟩, record) = after found (⟨more, buffer ++ written⟩, record)) ∨
      ¬eid.Readable ∧ ∃ cause stream, ∀ (record : σ) (after : EndpointID → Filler UInt8 GoError σ Unit),
        (.read (.mapError (.wrapped "EndpointID failed") unmarshalCbor) >>= after)
          (⟨written ++ more, buffer⟩, record) = .error (.error cause) (stream, record) := by
  by_cases readable : eid.Readable
  · obtain ⟨twin, formed, same⟩ := readable.twin encoded
    exact .inl ⟨twin, readable, fun record after =>
      Filler.read_of_reads (.mapError (reads_marshalCbor formed same)) more⟩
  · have tracks := tracks_unmarshalCbor.mapError (.wrapped "EndpointID failed")
    obtain ⟨used, final, -, ⟨value, done⟩ | ⟨cause, failed⟩⟩ :=
      tracks ⟨written ++ more, buffer⟩
    · exact absurd (readable_of_unmarshalCbor encoded (mapError_eq_ok.mp done)) readable
    · exact .inr ⟨readable, cause, _, fun record after => Filler.read_of_error failed⟩

end EndpointID

namespace PrimaryBlock

/-- The decoder takes all three endpoints. -/
def Readable (pb : PrimaryBlock) : Prop :=
  pb.destination.Readable ∧ pb.sourceNode.Readable ∧ pb.reportTo.Readable

variable [Crc16] {pb left : PrimaryBlock}

/-- The times of a primary block that can be decoded come back. -/
theorem Readable.reads (readable : pb.Readable) (marshalled : pb.marshalCbor = .ok (written, left)) :
    ∃ twin : PrimaryBlock, twin.creationTimestamp = pb.creationTimestamp ∧
      twin.lifetime = pb.lifetime ∧ ∀ buffer, Reads buffer unmarshalCbor written twin := by
  obtain ⟨fields, crc, first, sealed, rfl⟩ := marshalCbor_eq_ok.mp marshalled
  obtain ⟨_, _, _, destination, sourceNode, reportTo, rfl⟩ := marshalFields_eq_ok.mp first
  obtain ⟨toDestination, formedDestination, sameDestination⟩ := readable.1.twin destination
  obtain ⟨toSource, formedSource, sameSource⟩ := readable.2.1.twin sourceNode
  obtain ⟨toReport, formedReport, sameReport⟩ := readable.2.2.twin reportTo
  let twin : PrimaryBlock := { pb with
    version := dtnVersion, destination := toDestination, sourceNode :=
      toSource, reportTo := toReport }
  have fields : twin.marshalFields = .ok _ :=
    marshalFields_eq_ok.mpr ⟨_, _, _, sameDestination, sameSource, sameReport, rfl⟩
  have same : twin.marshalCbor = .ok (written, { twin with crc := crc.getD twin.crc }) :=
    marshalCbor_eq_ok.mpr ⟨_, crc, fields, sealed, rfl⟩
  refine ⟨({ twin with crc := crc.getD twin.crc } : PrimaryBlock).announced.fresh, rfl, rfl, ?_⟩
  intro buffer
  exact reads_marshalCbor ⟨formedDestination, formedSource, formedReport⟩ rfl same

/-- An endpoint that cannot be decoded stops the decoder in front of the times. -/
theorem unmarshalInto_of_unreadable (marshalled : pb.marshalCbor = .ok (written, left))
    (unreadable : ¬pb.Readable) (rest : List UInt8) : ∃ filled cause final,
      unmarshalInto.run blank (written ++ rest) = (filled, some (.error cause), final) ∧
        filled.creationTimestamp.isZeroTime = true := by
  obtain ⟨fields, crc, first, sealed, -⟩ := marshalCbor_eq_ok.mp marshalled
  obtain ⟨destination, sourceNode, reportTo, toDestination, toSource, toReport, rfl⟩ :=
    marshalFields_eq_ok.mp first
  obtain ⟨tail, rfl⟩ := fields_of_appendCRC sealed
  have length : 8 ≤ pb.blockLen ∧ pb.blockLen ≤ 11 := by
    unfold blockLen
    split <;> decide
  simp only [append_assoc, Filler.run]
  rw [unmarshalInto, Filler.read_of_reads (reads_arrayLength _),
    Filler.read_of_nothing (.ensure length), Filler.read_of_reads (reads_uint _),
    Filler.read_of_nothing (.ensure rfl), Filler.set_apply,
    Filler.read_of_reads (reads_uint _), Filler.set_apply,
    Filler.read_of_reads (reads_uint _), Filler.set_apply]
  rcases EndpointID.filler_cases toDestination _ _ with ⟨found, readable, read⟩ | ⟨-, cause,
    stream, stopped⟩
  · rw [read, Filler.set_apply]
    rcases EndpointID.filler_cases toSource _ _ with ⟨found, also, read⟩ | ⟨-, cause,
      stream, stopped⟩
    · rw [read, Filler.set_apply]
      rcases EndpointID.filler_cases toReport _ _ with ⟨_, last, -⟩ | ⟨-, cause, stream, stopped⟩
      · exact absurd ⟨readable, also, last⟩ unreadable
      · rw [stopped]
        exact ⟨_, cause, _, rfl, rfl⟩
    · rw [stopped]
      exact ⟨_, cause, _, rfl, rfl⟩
  · rw [stopped]
    exact ⟨_, cause, _, rfl, rfl⟩

end PrimaryBlock

namespace CanonicalBlock

def decoded (cb : CanonicalBlock) : Option ExtensionBlock :=
  match cb.value with
  | none => none
  | some value =>
    match value.marshalData with
    | .error _ => none
    | .ok data => (unmarshalData value.blockTypeCode data).toOption

variable {cb : CanonicalBlock} {read : ExtensionBlock}

theorem decoded_eq_some :
    cb.decoded = some read ↔ ∃ value data, cb.value = some value ∧
      value.marshalData = .ok data ∧ unmarshalData value.blockTypeCode data = .ok read := by
  unfold decoded
  cases cb.value with
  | none => simp
  | some value =>
    cases marshalled : value.marshalData with
    | error fault => simp [marshalled]
    | ok data =>
      cases unmarshalled : unmarshalData value.blockTypeCode data with
      | error fault | ok block => simp [marshalled, unmarshalled, Except.toOption]

theorem ofType_of_decoded (decodes : cb.decoded = some read) (blockType : UInt64) :
    cb.ofType blockType = true ↔ read.blockTypeCode = blockType := by
  obtain ⟨value, data, held, -, unmarshalled⟩ := decoded_eq_some.mp decodes
  simp [ofType, held, (unmarshalData_created unmarshalled).1]

theorem decoded_bundleAge (held : cb.value = some (.bundleAge age)) :
    cb.decoded = some (.bundleAge age) :=
  decoded_eq_some.mpr ⟨_, _, held, rfl, unmarshalData_marshalData trivial trivial rfl⟩

/-- The fields in front of the data can always be read, so the data are what is
reported. -/
private theorem unmarshalFields_of_undecoded (cb : CanonicalBlock) {typeCode : UInt64}
    {data : List UInt8}
    {cause : GoError} (failed : unmarshalData typeCode data = .error (.error cause))
    (rest buffer : List UInt8) :
    ∃ label final, unmarshalFields ⟨writeUInt typeCode ++ (writeUInt cb.blockNumber ++
      (writeUInt cb.blockControlFlags ++ (writeUInt cb.crcType ++
        (writeByteString data ++ rest)))), buffer⟩ = .error (.error (.wrapped label cause)) final := by
  have block : ∀ buffer, readBlock typeCode ⟨writeByteString data ++ rest, buffer⟩ =
      .error (.error cause) ⟨rest, buffer ++ writeByteString data⟩ := by
    intro buffer
    rw [readBlock, (reads_byteString data).bind_apply, failed]
    rfl
  rw [unmarshalFields, (reads_uint _).bind_apply, (reads_uint _).bind_apply,
    (reads_uint _).bind_apply, (reads_uint _).bind_apply, bind_apply,
    mapError, block]
  exact ⟨_, _, rfl⟩

variable [Crc16]

theorem unmarshalCbor_of_undecoded {left : CanonicalBlock}
    (marshalled : cb.marshalCbor = .ok (written, left))
    (undecoded : cb.decoded = none) (rest : List UInt8) :
    ∃ label cause final, unmarshalCbor.run (written ++ rest) =
      .error (.error (.wrapped label cause)) final := by
  obtain ⟨fields, crc, first, sealed, -⟩ := marshalCbor_eq_ok.mp marshalled
  obtain ⟨value, bytes, held, block, rfl⟩ := marshalFields_eq_ok.mp first
  obtain ⟨data, encoded, rfl⟩ := writeBlock_eq_ok.mp block
  obtain ⟨cause, failed⟩ : ∃ cause, unmarshalData value.blockTypeCode data =
      .error (.error cause) := by
    cases result : unmarshalData value.blockTypeCode data with
    | ok read =>
      rw [decoded_eq_some.mpr ⟨value, data, held, encoded, result⟩] at undecoded
      cases undecoded
    | error fault =>
      obtain ⟨cause, rfl⟩ := settled_unmarshalData _ _ fault result
      exact ⟨cause, rfl⟩
  rcases appendCRC_eq_ok.mp sealed with ⟨no, rfl, -⟩ | ⟨some, crcVal, -, rfl, -⟩
  · have plain : cb.hasCRC = false := by simp [hasCRC, no]
    simp only [plain, Bool.false_eq_true, ↓reduceIte, append_assoc]
    obtain ⟨label, final, stopped⟩ := unmarshalFields_of_undecoded cb failed rest
      ([] ++ writeArrayLength 5)
    refine ⟨label, cause, final.pending, ?_⟩
    rw [Reader.run, unmarshalCbor, (reads_arrayLength 5).bind_apply,
      (Reads.ensure (.inl rfl)).after_apply, if_neg (by decide), stopped]
  · have checked : cb.hasCRC = true := by simpa [hasCRC] using some
    simp only [checked, ↓reduceIte, append_assoc]
    obtain ⟨label, final, stopped⟩ := unmarshalFields_of_undecoded cb failed
      (writeByteString crcVal ++ rest) (writeArrayLength 6)
    refine ⟨label, cause, final.pending, ?_⟩
    rw [Reader.run, unmarshalCbor, (reads_arrayLength 6).bind_apply,
      (Reads.ensure (.inr rfl)).after_apply, if_pos rfl, withTee, bind_apply, stopped]

end CanonicalBlock

namespace Bundle

/-- The canonical blocks in the order in which they are written. -/
def canonicalBlocks (b : Bundle) : List CanonicalBlock := b.extensionBlocks ++ [b.payloadBlock]

/-- What the blocks decode to, up to the first that cannot be decoded. -/
def decodedBlocks : List CanonicalBlock → List ExtensionBlock
  | [] => []
  | cb :: rest =>
    match cb.decoded with
    | none => []
    | some read => read :: decodedBlocks rest

variable {cb : CanonicalBlock} {read : ExtensionBlock} {blocks : List CanonicalBlock}

theorem decodedBlocks_cons (decodes : cb.decoded = some read) (rest : List CanonicalBlock) :
    decodedBlocks (cb :: rest) = read :: decodedBlocks rest := by
  rw [decodedBlocks, decodes]

theorem exists_of_mem_decodedBlocks (member : read ∈ decodedBlocks blocks) :
    ∃ cb ∈ blocks, cb.decoded = some read := by
  induction blocks with
  | nil => cases member
  | cons cb rest ih =>
    cases decodes : cb.decoded with
    | none =>
      rw [decodedBlocks, decodes] at member
      cases member
    | some first =>
      rw [decodedBlocks_cons decodes] at member
      rcases mem_cons.mp member with rfl | member
      · exact ⟨cb, by simp, decodes⟩
      · obtain ⟨other, inside, same⟩ := ih member
        exact ⟨other, by simp [inside], same⟩

theorem mem_decodedBlocks (all : ∀ cb ∈ blocks, cb.decoded ≠ none) (member : cb ∈ blocks)
    (decodes : cb.decoded = some read) : read ∈ decodedBlocks blocks := by
  induction blocks with
  | nil => cases member
  | cons first rest ih =>
    obtain ⟨other, found⟩ := Option.ne_none_iff_exists'.mp (all first (by simp))
    rw [decodedBlocks_cons found]
    rcases mem_cons.mp member with rfl | member
    · obtain rfl : read = other := by simpa [decodes] using found
      exact mem_cons_self
    · exact mem_cons_of_mem _ (ih (fun block inside => all block (by simp [inside])) member)

/-- Blocks that can all be decoded do not hide those behind them. -/
theorem decodedBlocks_append (front back : List CanonicalBlock) :
    (decodedBlocks (front ++ back) = decodedBlocks front ++ decodedBlocks back ∧ ∀ cb ∈
    front, cb.decoded ≠ none) ∨ decodedBlocks (front ++ back) = decodedBlocks front := by
  induction front with
  | nil => exact .inl ⟨rfl, by simp⟩
  | cons cb rest ih =>
    cases decodes : cb.decoded with
    | none => exact .inr (by simp [decodedBlocks, decodes])
    | some read =>
      rw [cons_append, decodedBlocks_cons decodes, decodedBlocks_cons decodes]
      rcases ih with ⟨both, all⟩ | hidden
      · refine .inl ⟨by rw [both, cons_append], ?_⟩
        intro other member
        rcases mem_cons.mp member with rfl | member
        · simp [decodes]
        · exact all other member
      · exact .inr (by rw [hidden])

variable [Crc16]

/-- A bundle that was read as far as the blocks of another can be decoded. -/
structure ReadBack (b loaded : Bundle) : Prop where
  creation : loaded.primaryBlock.creationTimestamp = b.primaryBlock.creationTimestamp
  lifetime : loaded.primaryBlock.lifetime = b.primaryBlock.lifetime
  values : loaded.extensionBlocks.map CanonicalBlock.value =
    ((decodedBlocks b.canonicalBlocks).filter (·.blockTypeCode != BlockType.payloadBlock)).map some

/-- What the loop makes of a bundle on the way through blocks. It ends at the
break code, or with an error at the first block that cannot be decoded. -/
structure ReadThrough (b : Bundle) (blocks : List CanonicalBlock) (parsed : Parsed) : Prop where
  primary : parsed.bundle.primaryBlock = b.primaryBlock
  values : parsed.bundle.extensionBlocks.map CanonicalBlock.value =
    b.extensionBlocks.map CanonicalBlock.value ++
      ((decodedBlocks blocks).filter (·.blockTypeCode != BlockType.payloadBlock)).map some
  complete : (∀ cb ∈ blocks, cb.decoded ≠ none) → parsed.err = none ∧
    (parsed.bundle.payloadBlock.Present ↔ b.payloadBlock.Present ∨
      ∃ cb ∈ blocks, cb.isPayload = true)
  stopped : (∃ cb ∈ blocks, cb.decoded = none) → ∃ cause, parsed.err = some (.error cause)

section

omit [Crc16]

theorem readThrough_nil (b : Bundle) (rest : List UInt8) : b.ReadThrough [] ⟨b, none, rest⟩ :=
  ⟨rfl, by simp [decodedBlocks], by simp, by simp⟩

/-- A block that cannot be decoded hides those behind it. -/
theorem readThrough_undecoded (undecoded : cb.decoded = none) (b : Bundle)
    (blocks : List CanonicalBlock)
    (cause : GoError) (rest : List UInt8) :
    b.ReadThrough (cb :: blocks) ⟨b, some (.error cause), rest⟩ := by
  refine ⟨rfl, by simp [decodedBlocks, undecoded], ?_, fun _ => ⟨cause, rfl⟩⟩
  intro all
  exact absurd undecoded (all cb mem_cons_self)

theorem readThrough_placed {block : CanonicalBlock} {b : Bundle} {parsed : Parsed}
    (decodes : cb.decoded = some read)
    (held : block.value = some read)
    (later : ReadThrough (if block.isPayload then { b with payloadBlock := block }
      else { b with extensionBlocks := b.extensionBlocks ++ [block] }) blocks parsed) :
    b.ReadThrough (cb :: blocks) parsed := by
  obtain ⟨primary, values, complete, stopped⟩ := later
  have code := ofType_of_decoded decodes BlockType.payloadBlock
  have kind : block.isPayload = cb.isPayload := by
    rw [Bool.eq_iff_iff, isPayload, isPayload, code]
    simp [ofType, held]
  refine ⟨?_, ?_, ?_, ?_⟩
  · rw [primary]
    split <;> rfl
  · rw [values, decodedBlocks_cons decodes]
    cases payload : cb.isPayload with
    | true =>
      have same : read.blockTypeCode = BlockType.payloadBlock := code.mp payload
      simp [kind, payload, same]
    | false =>
      have other : read.blockTypeCode ≠ BlockType.payloadBlock := by
        intro same
        rw [isPayload, code.mpr same] at payload
        cases payload
      simp [kind, payload, other, held]
  · intro all
    obtain ⟨finished, present⟩ :=
      complete fun other member => all other (mem_cons_of_mem cb member)
    refine ⟨finished, present.trans ?_⟩
    cases payload : cb.isPayload with
    | true => simp [kind, payload, CanonicalBlock.Present, held]
    | false => simp [kind, payload]
  · rintro ⟨other, member, undecoded⟩
    rcases mem_cons.mp member with rfl | member
    · rw [decodes] at undecoded
      cases undecoded
    · exact stopped ⟨other, member, undecoded⟩

end

variable {left : List CanonicalBlock} {bytes : List UInt8}

/-- The loop over the blocks of an encoding. The induction is on the blocks. -/
theorem unmarshalBlocks_of_marshalBlocks (marshalled : marshalBlocks blocks = .ok (bytes, left))
    (suffix : List UInt8)
    (fuel : Nat) (b : Bundle) (enough : (bytes ++ breakCode :: suffix).length < fuel) :
    b.ReadThrough blocks (unmarshalBlocks fuel b (bytes ++ breakCode :: suffix)) := by
  induction blocks generalizing bytes left fuel b with
  | nil =>
    cases marshalled
    cases fuel with
    | zero => cases enough
    | succ fuel =>
      have broken : unmarshalCbor.run (breakCode :: suffix) =
          .error (.error .flagBreakCode) suffix := by
        have head : readArrayLength ⟨breakCode :: suffix, []⟩ = _ :=
          readArrayLength_of_break suffix
        simp only [Reader.run, unmarshalCbor, bind_apply, head]
      simp only [nil_append, unmarshalBlocks, broken]
      exact readThrough_nil b suffix
  | cons cb rest ih =>
    obtain ⟨first, sealed, later, others, head, middle, rfl, rfl⟩ :=
      marshalBlocks_cons.mp marshalled
    cases fuel with
    | zero => cases enough
    | succ fuel =>
      rw [append_assoc] at enough ⊢
      cases decodes : cb.decoded with
      | none =>
        obtain ⟨label, cause, final, stopped⟩ := unmarshalCbor_of_undecoded head decodes
          (later ++ breakCode :: suffix)
        simp only [unmarshalBlocks, stopped]
        exact readThrough_undecoded decodes b rest _ final
      | some read =>
        obtain ⟨value, data, held, encoded, unmarshalled⟩ := decoded_eq_some.mp decodes
        have accepted := (reads_decoded held encoded unmarshalled head).run
          (later ++ breakCode :: suffix)
        have shorter := unmarshalCbor_shortens accepted
        have placed : b.place { sealed.fresh with value := some read } = .ok _ := place_of_present ⟨read, rfl⟩
        simp only [unmarshalBlocks, accepted, placed]
        exact readThrough_placed decodes rfl
          (ih middle fuel _ (Nat.lt_of_lt_of_le shorter (Nat.le_of_lt_succ enough)))

private theorem marshalBlocks_concat {sealed : CanonicalBlock} {last : List UInt8}
    (front : marshalBlocks blocks = .ok (bytes, left)) (back : cb.marshalCbor = .ok (last, sealed)) :
    marshalBlocks (blocks ++ [cb]) = .ok (bytes ++ last, left ++ [sealed]) := by
  induction blocks generalizing bytes left with
  | nil =>
    cases front
    exact marshalBlocks_cons.mpr ⟨last, sealed, [], [], back, rfl, by simp, rfl⟩
  | cons first rest ih =>
    obtain ⟨start, other, later, others, head, middle, rfl, rfl⟩ := marshalBlocks_cons.mp front
    exact marshalBlocks_cons.mpr ⟨start, other, _, _, head, ih middle, by simp, rfl⟩

variable [Ed25519] {b sent : Bundle} {written : List UInt8}

/-- The parser comes as far as the check only with blocks that can all be
decoded, and the check panics if none of them is a payload block. -/
def PayloadFound (b : Bundle) : Prop :=
  b.primaryBlock.Readable → (∀ cb ∈ b.canonicalBlocks, cb.decoded ≠ none) →
    ∃ cb ∈ b.canonicalBlocks, cb.isPayload = true

/-- What is left to do behind the primary block. -/
private theorem parseBundle_after (now : Time) {input afterMark next : List UInt8}
    {primary : PrimaryBlock} (mark : (readExpect indefiniteArray).run input = .ok () afterMark)
    (read : PrimaryBlock.unmarshalCbor.run afterMark = .ok primary next) :
    (parseBundle now input).bundle =
        (unmarshalBlocks (next.length + 1) ⟨primary, [], .blank⟩ next).bundle ∧ (parseBundle now input).err =
        match (unmarshalBlocks (next.length + 1) ⟨primary, [], .blank⟩ next).err with
        | some fault => some fault
        | none => verdict ((unmarshalBlocks (next.length + 1) ⟨primary, [], .blank⟩ next).bundle.checkValid now) := by
  simp only [parseBundle, mark, PrimaryBlock.unmarshalInto_of_ok read]
  cases ended : (unmarshalBlocks (next.length + 1) ⟨primary, [], .blank⟩ next).err with
  | none => exact ⟨rfl, rfl⟩
  | some fault => exact ⟨rfl, ended⟩

theorem parseBundle_of_unreadable (marshalled : b.marshalCbor = .ok (written, sent))
    (unreadable : ¬b.primaryBlock.Readable) (now : Time) : (parseBundle now written).Returns ∧
      ∃ filled, filled.creationTimestamp.isZeroTime = true ∧
        (parseBundle now written).bundle = ⟨filled, [], .blank⟩ := by
  obtain ⟨primary, extensions, payload, head, -, -, rfl⟩ := marshalCbor_eq_ok.mp marshalled
  have expected : Reads [] (readExpect indefiniteArray) [indefiniteArray] () :=
    reads_expect _
  have mark := expected.run (primary ++ (extensions ++ (payload ++ [breakCode])))
  rw [singleton_append] at mark
  obtain ⟨filled, cause, final, stopped, zero⟩ :=
    PrimaryBlock.unmarshalInto_of_unreadable head unreadable
    (extensions ++ (payload ++ [breakCode]))
  simp only [parseBundle, mark, stopped]
  exact ⟨.inr ⟨_, rfl⟩, filled, zero, rfl⟩

theorem parseBundle_of_readable (marshalled : b.marshalCbor = .ok (written, sent))
    (readable : b.primaryBlock.Readable) (now : Time) :
    b.ReadBack (parseBundle now written).bundle ∧
      ((parseBundle now written).Returns ↔ b.PayloadFound) := by
  obtain ⟨primary, extensions, payload, head, middle, tail, rfl⟩ :=
    marshalCbor_eq_ok.mp marshalled
  have expected : Reads [] (readExpect indefiniteArray) [indefiniteArray] () :=
    reads_expect _
  have mark := expected.run (primary ++ (extensions ++ payload ++ [breakCode]))
  rw [singleton_append] at mark
  obtain ⟨twin, creation, lifetime, reads⟩ := readable.reads head
  have primaryRead := (reads []).run (extensions ++ payload ++ [breakCode])
  obtain ⟨same, values, complete, stopped⟩ := unmarshalBlocks_of_marshalBlocks
    (marshalBlocks_concat middle tail) [] _ ⟨twin, [], .blank⟩ (Nat.lt_succ_self _)
  obtain ⟨bundle, err⟩ := parseBundle_after now mark primaryRead
  rw [← append_assoc extensions]
  have start : ∀ cb ∈ (⟨twin, [], .blank⟩ : Bundle).extensionBlocks, cb.Faithful := by simp
  have faithful : ∀ cb ∈ (unmarshalBlocks ((extensions ++ payload ++ [breakCode]).length + 1)
      ⟨twin, [], .blank⟩ (extensions ++ payload ++ [breakCode])).bundle.extensionBlocks,
      cb.Faithful := unmarshalBlocks_faithful start
  generalize unmarshalBlocks _ _ _ = looped at *
  constructor
  · rw [bundle]
    exact ⟨by rw [same, creation], by rw [same, lifetime], values⟩
  rw [Parsed.Returns, err]
  by_cases all : ∀ cb ∈ b.canonicalBlocks, cb.decoded ≠ none
  · obtain ⟨finished, present⟩ := complete all
    have found : looped.bundle.payloadBlock.Present ↔ b.PayloadFound := by
      rw [present]
      constructor
      · rintro (blank | found) - -
        · obtain ⟨value, held⟩ := blank
          cases held
        · exact found
      · intro found
        exact .inr (found readable all)
    rw [finished, ← found]
    exact Parsed.returns_iff faithful now looped.rest
  · have partly : ∃ cb ∈ b.canonicalBlocks, cb.decoded = none := by simpa using all
    obtain ⟨cause, failed⟩ := stopped partly
    rw [failed]
    exact iff_of_true (.inr ⟨cause, rfl⟩) fun _ whole => absurd whole all

/-- What says how long the bundle lives can be read back: its times, and without
a creation time exactly one Bundle Age Block. -/
def LifeKept (b : Bundle) : Prop :=
  b.primaryBlock.Readable ∧ (b.primaryBlock.creationTimestamp.dtnTime ≠ 0 ∨
    ((decodedBlocks b.canonicalBlocks).filter (·.blockTypeCode == bundleAgeBlock)).length = 1)

variable {loaded : Bundle} {checked : Time}

omit [Crc16] [Ed25519] in
private theorem decoded_age {aged : CanonicalBlock}
    (only : b.extensionBlocks.filter (ofType bundleAgeBlock) = [aged])
    (held : aged.value = some (.bundleAge age)) (single : ((decodedBlocks b.canonicalBlocks).filter
      (·.blockTypeCode == bundleAgeBlock)).length = 1) :
    (decodedBlocks b.canonicalBlocks).filter (·.blockTypeCode == bundleAgeBlock) =
      [.bundleAge age] := by
  obtain ⟨read, alone⟩ := length_eq_one_iff.mp single
  have decodes := decoded_bundleAge held
  have listed : aged ∈ b.extensionBlocks.filter (ofType bundleAgeBlock) := by
    simp [only]
  rcases decodedBlocks_append b.extensionBlocks [b.payloadBlock] with ⟨both, all⟩ | hidden
  · have member : .bundleAge age ∈ (decodedBlocks b.canonicalBlocks).filter
        (·.blockTypeCode == bundleAgeBlock) := by
      refine mem_filter.mpr ⟨?_, rfl⟩
      rw [canonicalBlocks, both]
      exact mem_append_left _ (mem_decodedBlocks all (mem_of_mem_filter listed) decodes)
    rw [alone] at member
    rw [alone, mem_singleton.mp member]
  · have member : read ∈ (decodedBlocks b.canonicalBlocks).filter
        (·.blockTypeCode == bundleAgeBlock) := by
      simp [alone]
    obtain ⟨inside, code⟩ := mem_filter.mp member
    rw [canonicalBlocks, hidden] at inside
    obtain ⟨cb, extension, found⟩ := exists_of_mem_decodedBlocks inside
    have typed : cb.ofType bundleAgeBlock = true :=
      (ofType_of_decoded found _).mpr (by simpa using code)
    have same : cb = aged := by
      have among : cb ∈ b.extensionBlocks.filter (ofType bundleAgeBlock) :=
        mem_filter.mpr ⟨extension, typed⟩
      rw [only] at among
      exact mem_singleton.mp among
    subst same
    rw [alone, Option.some.inj (found.symm.trans decodes)]

omit [Cboring] [Crc16] [Ed25519] in
private theorem filter_age (values : List ExtensionBlock) :
    (values.filter (·.blockTypeCode != BlockType.payloadBlock)).filter
    (·.blockTypeCode == bundleAgeBlock) = values.filter (·.blockTypeCode == bundleAgeBlock) := by
  rw [filter_filter]
  congr 1
  funext value
  by_cases age : value.blockTypeCode = bundleAgeBlock
  · have other : bundleAgeBlock ≠ BlockType.payloadBlock := by decide
    simp [age, other]
  · simp [age]

omit [Crc16] [Ed25519] in
theorem ReadBack.isLifetimeExceeded_of_nonzero (back : b.ReadBack loaded)
    (nonzero : b.primaryBlock.creationTimestamp.dtnTime ≠ 0) (now : Time) :
    loaded.isLifetimeExceeded now = .ok (decide (b.expiry < now)) := by
  rw [Bundle.isLifetimeExceeded_of_nonzero (by rwa [back.creation]), expiry, expiry,
    back.creation, back.lifetime]

/-- A bundle without a creation time is as old as it was, or it has lost its age
and counts as too old. -/
theorem ReadBack.isLifetimeExceeded_of_zero (back : b.ReadBack loaded)
    (valid : b.checkValid checked = .ok [])
    (readable : b.primaryBlock.Readable) (zero : b.primaryBlock.creationTimestamp.dtnTime = 0)
    (now : Time) : (b.LifeKept ∧ loaded.isLifetimeExceeded now = .ok false) ∨
      (¬b.LifeKept ∧ loaded.isLifetimeExceeded now = .ok true) := by
  have timeless : loaded.primaryBlock.creationTimestamp.dtnTime = 0 := by rw [back.creation, zero]
  rw [Bundle.isLifetimeExceeded_of_zero timeless back.values now, filter_age]
  have young := (checkValid_eq_nil.mp valid).2.2.2.2.2
  have present : ∀ cb ∈ b.extensionBlocks, cb.Present :=
    fun cb member => present_of_checkValid valid cb member
  obtain ⟨aged, age, only, held, below⟩ := age_of_lifetime present (decide_eq_true zero) young
  by_cases kept : b.LifeKept
  · have single := kept.2.resolve_left (by simp [zero])
    rw [decoded_age only held single, back.lifetime]
    exact .inl ⟨kept, by simpa using below⟩
  · have several : ((decodedBlocks b.canonicalBlocks).filter
        (·.blockTypeCode == bundleAgeBlock)).length ≠ 1 :=
      fun single => kept ⟨readable, .inr single⟩
    refine .inr ⟨kept, ?_⟩
    generalize (decodedBlocks b.canonicalBlocks).filter (·.blockTypeCode == bundleAgeBlock) =
      found at several ⊢
    cases found with
    | nil => rfl
    | cons value others =>
      cases others with
      | nil => exact absurd rfl several
      | cons other rest => cases value <;> rfl

end Bundle

end RecDtn.Bpv7
