import RecDtn.Bpv7.Alike
import RecDtn.Bpv7.Parsing

namespace RecDtn.Bpv7

open Wire Lang CanonicalBlock Cboring Go

namespace Bundle

variable [Cboring] [Crc16]

/-- What the parser can produce: blocks of the kinds the manager creates, with
endpoints that survive their encoding, and the payload in its own slot. -/
structure Faithful (b : Bundle) : Prop where
  version : b.primaryBlock.version = dtnVersion
  endpoints : b.primaryBlock.EndpointsWellFormed
  extensions : ∀ cb ∈ b.extensionBlocks, cb.Faithful ∧ cb.isPayload = false
  payload : b.payloadBlock.Faithful ∧ b.payloadBlock.isPayload = true

/-- The bundle as it comes back from its encoding. -/
def returned (sent : Bundle) : Bundle :=
  ⟨sent.primaryBlock.announced.fresh, sent.extensionBlocks.map fresh,
    sent.payloadBlock.fresh⟩

section

variable {cb : CanonicalBlock} {blocks left : List CanonicalBlock} {b sent : Bundle}

theorem marshalBlocks_cons {bytes : List UInt8} :
    marshalBlocks (cb :: blocks) = .ok (bytes, left) ↔ ∃ first sealed later others,
      cb.marshalCbor = .ok (first, sealed) ∧ marshalBlocks blocks = .ok (later, others) ∧
        bytes = first ++ later ∧ left = sealed :: others := by
  rw [marshalBlocks]
  constructor
  · intro marshalled
    obtain ⟨⟨first, sealed⟩, wrapped, marshalled⟩ := bind_eq_ok.mp marshalled
    obtain ⟨⟨later, others⟩, rest, marshalled⟩ := bind_eq_ok.mp marshalled
    cases marshalled
    exact ⟨first, sealed, later, others, wrap_eq_ok.mp wrapped, rest, rfl, rfl⟩
  · rintro ⟨first, sealed, later, others, head, rest, rfl, rfl⟩
    exact bind_eq_ok.mpr ⟨_, wrap_eq_ok.mpr head, bind_eq_ok.mpr ⟨_, rest, rfl⟩⟩

theorem marshalBlocks_of_each
    (each : ∀ cb ∈ blocks, ∃ written left, cb.marshalCbor = .ok (written, left)) :
    ∃ bytes left, marshalBlocks blocks = .ok (bytes, left) := by
  induction blocks with
  | nil => exact ⟨[], [], rfl⟩
  | cons cb rest ih =>
    obtain ⟨first, sealed, head⟩ := each cb List.mem_cons_self
    obtain ⟨later, others, tail⟩ :=
      ih fun other member => each other (List.mem_cons_of_mem cb member)
    exact ⟨_, _, marshalBlocks_cons.mpr ⟨first, sealed, later, others, head, tail, rfl, rfl⟩⟩

theorem marshalCbor_eq_ok {written : List UInt8} :
    b.marshalCbor = .ok (written, sent) ↔ ∃ primary extensions payload,
      b.primaryBlock.marshalCbor = .ok (primary, sent.primaryBlock) ∧
      marshalBlocks b.extensionBlocks = .ok (extensions, sent.extensionBlocks) ∧
      b.payloadBlock.marshalCbor = .ok (payload, sent.payloadBlock) ∧
      written = indefiniteArray :: (primary ++ (extensions ++ (payload ++ [breakCode]))) := by
  unfold marshalCbor
  constructor
  · intro marshalled
    obtain ⟨⟨primary, first⟩, head, marshalled⟩ := bind_eq_ok.mp marshalled
    obtain ⟨⟨extensions, others⟩, middle, marshalled⟩ := bind_eq_ok.mp marshalled
    obtain ⟨⟨payload, last⟩, tail, marshalled⟩ := bind_eq_ok.mp marshalled
    cases marshalled
    exact ⟨primary, extensions, payload, wrap_eq_ok.mp head, middle, wrap_eq_ok.mp tail, rfl⟩
  · rintro ⟨primary, extensions, payload, head, middle, tail, rfl⟩
    exact bind_eq_ok.mpr ⟨_, wrap_eq_ok.mpr head, bind_eq_ok.mpr ⟨_, middle,
      bind_eq_ok.mpr ⟨_, wrap_eq_ok.mpr tail, rfl⟩⟩⟩

private theorem isPayload_fresh {sealed : CanonicalBlock}
    (marshalled : cb.marshalCbor = .ok (written, sealed)) :
    sealed.fresh.isPayload = cb.isPayload := by
  obtain ⟨_, _, -, -, rfl⟩ := CanonicalBlock.marshalCbor_eq_ok.mp marshalled
  unfold fresh
  split <;> rfl

private theorem blockRun_of_marshalBlocks
    (faithful : ∀ cb ∈ blocks, cb.Faithful ∧ cb.isPayload = false)
    (marshalled : marshalBlocks blocks = .ok (bytes, left)) (later : BlockRun next tail rest) :
    ∃ placed, BlockRun (bytes ++ next) (placed ++ tail) rest ∧
      placed.map Placed.block = left.map fresh ∧ ∀ entry ∈ placed, entry.block.isPayload = false := by
  induction blocks generalizing bytes left with
  | nil =>
    cases marshalled
    exact ⟨[], later, rfl, by simp⟩
  | cons cb blocks ih =>
    obtain ⟨first, sealed, others, leftover, head, middle, rfl, rfl⟩ :=
      marshalBlocks_cons.mp marshalled
    obtain ⟨kind, extension⟩ := faithful cb (by simp)
    obtain ⟨placed, run, same, none⟩ :=
      ih (fun other member => faithful other (by simp [member])) middle
    have read := (reads_marshalCbor kind head).run (others ++ next)
    rw [← List.append_assoc] at read
    refine ⟨⟨first ++ others ++ next, sealed.fresh⟩ :: placed,
      .block read run, by simp [same], ?_⟩
    intro entry member
    rcases List.mem_cons.mp member with rfl | member
    · exact (isPayload_fresh head).trans extension
    · exact none entry member

/-- An encoding has a layout whatever follows it, and the layout's bundle is
the one that was encoded. -/
theorem layout_of_marshalCbor (faithful : b.Faithful)
    (marshalled : b.marshalCbor = .ok (written, sent)) (suffix : List UInt8) :
    ∃ layout, Layout.Of layout (written ++ suffix) suffix ∧ layout.bundle = sent.returned := by
  obtain ⟨primary, extensions, payload, head, middle, tail, rfl⟩ :=
    marshalCbor_eq_ok.mp marshalled
  have stop : BlockRun (breakCode :: suffix) [] suffix := by
    refine .stop ?_
    have broken : readArrayLength ⟨breakCode :: suffix, []⟩ = _ :=
      readArrayLength_of_break suffix
    simp only [Reader.run, unmarshalCbor, Reader.bind_apply, broken]
  obtain ⟨payloadKind, isPayload⟩ := faithful.payload
  have payloadRead := (reads_marshalCbor payloadKind tail).run (breakCode :: suffix)
  obtain ⟨placed, run, same, none⟩ := blockRun_of_marshalBlocks faithful.extensions middle
    (.block payloadRead stop)
  have expected : Reads [] (readExpect indefiniteArray) [indefiniteArray] () :=
    reads_expect _
  have mark := expected.run (primary ++ (extensions ++ (payload ++ (breakCode :: suffix))))
  have primaryRead := (PrimaryBlock.reads_marshalCbor faithful.endpoints faithful.version head).run
    (extensions ++ (payload ++ (breakCode :: suffix)))
  refine ⟨⟨_, sent.primaryBlock.announced.fresh, _⟩,
    ⟨by simpa using mark, _, primaryRead, run⟩, ?_⟩
  have last : sent.payloadBlock.fresh.isPayload = true := (isPayload_fresh tail).trans isPayload
  have extensionsOnly : placed.filter (fun entry => !entry.block.isPayload) = placed :=
    List.filter_eq_self.mpr fun entry member => by simp [none entry member]
  have noPayload : placed.filter (fun entry => entry.block.isPayload) = [] :=
    List.filter_eq_nil_iff.mpr fun entry member => by simp [none entry member]
  simp [Layout.bundle, Layout.extensions, Layout.payload, returned,
    List.filter_append, extensionsOnly, noPayload, last, same]

end

variable [Ed25519]

theorem parseBundle_marshalCbor {b sent : Bundle} (faithful : b.Faithful)
    (marshalled : b.marshalCbor = .ok (written, sent)) (now : Time) (suffix : List UInt8) :
    parseBundle now (written ++ suffix) =
      ⟨sent.returned, verdict (sent.returned.checkValid now), suffix⟩ := by
  obtain ⟨layout, of, same⟩ := layout_of_marshalCbor faithful marshalled suffix
  rw [of.parseBundle now, same]

end Bundle

end RecDtn.Bpv7
