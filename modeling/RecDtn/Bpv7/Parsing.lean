import RecDtn.Bpv7.Checking

/-! What `ParseBundle` does with an arbitrary input. -/

namespace RecDtn.Bpv7

open Wire Lang CanonicalBlock Cboring

namespace Bundle

theorem place_of_present {b : Bundle} {cb : CanonicalBlock} (present : cb.Present) :
    b.place cb = .ok (if cb.isPayload then { b with payloadBlock := cb }
      else { b with extensionBlocks := b.extensionBlocks ++ [cb] }) := by
  obtain ⟨value, held⟩ := present
  simp [place, typeCode_of_present held, isPayload, ofType, held, pure, Except.pure]

end Bundle

/-- A block together with the input at which it starts. -/
structure Placed where
  start : List UInt8
  block : CanonicalBlock

section

private theorem verdict_ok (causes : List GoError) :
    Bundle.verdict (.ok causes) = none ∨
      ∃ cause, Bundle.verdict (.ok causes) = some (.error cause) := by
  cases causes with
  | nil => exact .inl rfl
  | cons cause rest => exact .inr ⟨.multi (cause :: rest), rfl⟩

variable [Cboring] [Crc16]

/-- Blocks read one after the other up to a break code. -/
inductive BlockRun : List UInt8 → List Placed → List UInt8 → Prop where
  | stop : unmarshalCbor.run input = .error (.error .flagBreakCode) rest →
      BlockRun input [] rest
  | block : unmarshalCbor.run start = .ok cb next → BlockRun next blocks rest →
      BlockRun start (⟨start, cb⟩ :: blocks) rest

namespace BlockRun

theorem accepted (run : BlockRun input blocks rest) :
    ∀ placed ∈ blocks, ∃ next, unmarshalCbor.run placed.start = .ok placed.block next := by
  induction run with
  | stop ended => simp
  | block read later ih =>
    intro placed member
    rcases List.mem_cons.mp member with rfl | member
    · exact ⟨_, read⟩
    · exact ih placed member

end BlockRun

/-- What the loop makes of blocks read in this order. -/
def Bundle.gather (b : Bundle) (blocks : List Placed) : Bundle :=
  ⟨b.primaryBlock,
    b.extensionBlocks ++ (blocks.filter fun placed => !placed.block.isPayload).map Placed.block,
    ((blocks.filter fun placed => placed.block.isPayload).getLast?.map Placed.block).getD
      b.payloadBlock⟩

omit [Cboring] [Crc16] in
private theorem gather_cons (b : Bundle) (placed : Placed) (blocks : List Placed) :
    b.gather (placed :: blocks) =
      (if placed.block.isPayload then { b with payloadBlock := placed.block }
        else { b with extensionBlocks := b.extensionBlocks ++ [placed.block] } :
    Bundle).gather blocks := by
  by_cases payload : placed.block.isPayload = true
  · simp only [Bundle.gather, payload, ↓reduceIte, List.filter_cons, Bool.not_true,
      Bool.false_eq_true, List.getLast?_cons, Option.map_some, Option.getD_some]
    cases (blocks.filter fun other => other.block.isPayload).getLast? <;> rfl
  · simp [Bundle.gather, payload]

/-- A run of blocks is what the loop reads, if the fuel lasts for the input. -/
theorem Bundle.unmarshalBlocks_of_run (run : BlockRun input blocks rest) :
    ∀ fuel (b : Bundle), input.length < fuel →
      unmarshalBlocks fuel b input = ⟨b.gather blocks, none, rest⟩ := by
  induction run with
  | stop ended =>
    intro fuel b enough
    cases fuel with
    | zero => cases enough
    | succ fuel => simp [unmarshalBlocks, ended, gather]
  | @block start cb next blocks rest read later ih =>
    intro fuel b enough
    cases fuel with
    | zero => cases enough
    | succ fuel =>
      have shorter := unmarshalCbor_shortens read
      have present := (unmarshalCbor_faithful read).present
      simp only [unmarshalBlocks, read, place_of_present present]
      rw [ih fuel _ (Nat.lt_of_lt_of_le shorter (Nat.le_of_lt_succ enough)), gather_cons b ⟨start, cb⟩]

theorem Bundle.unmarshalBlocks_cases (fuel : Nat) (b : Bundle) (input : List UInt8)
    (enough : input.length < fuel) : (∃ blocks rest, BlockRun input blocks rest) ∨
      ∃ left cause rest, unmarshalBlocks fuel b input = ⟨left, some (.error cause), rest⟩ := by
  induction fuel generalizing b input with
  | zero => cases enough
  | succ fuel ih =>
    rcases tracks_unmarshalCbor.run_cases input with
      ⟨cb, used, rest, -, read⟩ | ⟨cause, rest, failed⟩
    · have shorter := unmarshalCbor_shortens read
      have present := (unmarshalCbor_faithful read).present
      rcases ih _ rest (Nat.lt_of_lt_of_le shorter (Nat.le_of_lt_succ enough)) with
        ⟨blocks, final, run⟩ | ⟨left, cause, final, failed⟩
      · exact .inl ⟨_, final, .block read run⟩
      · refine .inr ⟨left, cause, final, ?_⟩
        simpa only [unmarshalBlocks, read, place_of_present present] using failed
    · cases cause with
      | flagBreakCode => exact .inl ⟨[], rest, .stop failed⟩
      | text message =>
        exact .inr ⟨b, .wrapped "CanonicalBlock failed" (.text message), rest, by simp only [unmarshalBlocks, failed]⟩
      | wrapped label cause =>
        exact .inr ⟨b, .wrapped "CanonicalBlock failed" (.wrapped label cause), rest,
          by simp only [unmarshalBlocks, failed]⟩
      | multi causes =>
        exact .inr ⟨b, .wrapped "CanonicalBlock failed" (.multi causes), rest, by simp only [unmarshalBlocks, failed]⟩

/-- Where the blocks of a bundle start in the input, and what they decode to. -/
structure Layout where
  primaryStart : List UInt8
  primary : PrimaryBlock
  blocks : List Placed

namespace Layout

/-- The input starts with blocks laid out like this and leaves `rest`. -/
def Of (layout : Layout) (input rest : List UInt8) : Prop :=
  (readExpect indefiniteArray).run input = .ok () layout.primaryStart ∧
    ∃ next, PrimaryBlock.unmarshalCbor.run layout.primaryStart = .ok layout.primary next ∧
      BlockRun next layout.blocks rest

def extensions (layout : Layout) : List Placed :=
  layout.blocks.filter fun placed => !placed.block.isPayload

/-- Of several payload blocks the last one counts. -/
def payload (layout : Layout) : Option Placed :=
  (layout.blocks.filter fun placed => placed.block.isPayload).getLast?

/-- The canonical blocks that end up in the bundle. -/
def kept (layout : Layout) : List Placed := layout.extensions ++ layout.payload.toList

def bundle (layout : Layout) : Bundle :=
  ⟨layout.primary, layout.extensions.map Placed.block,
    (layout.payload.map Placed.block).getD .blank⟩

omit [Cboring] [Crc16] in
theorem kept_subset {layout : Layout} : ∀ placed ∈ layout.kept, placed ∈ layout.blocks := by
  intro placed member
  rcases List.mem_append.mp member with member | member
  · exact List.mem_of_mem_filter member
  · have last : layout.payload = some placed := by simpa using member
    exact List.mem_of_mem_filter (List.mem_of_getLast? last)

variable {layout : Layout} {input rest : List UInt8} (of : layout.Of input rest)

include of

theorem Of.accepted : ∀ placed ∈ layout.kept,
    ∃ next, unmarshalCbor.run placed.start = .ok placed.block next := by
  obtain ⟨-, next, -, run⟩ := of
  exact fun placed member => run.accepted placed (kept_subset placed member)

theorem Of.faithful : ∀ cb ∈ layout.bundle.extensionBlocks, cb.Faithful := by
  intro cb member
  obtain ⟨placed, listed, rfl⟩ := List.mem_map.mp member
  obtain ⟨next, read⟩ := of.accepted placed (List.mem_append_left _ listed)
  exact unmarshalCbor_faithful read

theorem Of.payload_faithful {placed : Placed} (held : layout.payload = some placed) :
    layout.bundle.payloadBlock = placed.block ∧ placed.block.Faithful := by
  obtain ⟨next, read⟩ := of.accepted placed (List.mem_append_right _ (by simp [held]))
  exact ⟨by simp [bundle, held], unmarshalCbor_faithful read⟩

/-- An input with a layout is parsed to the bundle of that layout, up to the check. -/
theorem Of.parseBundle [Ed25519] (now : Time) :
    Bundle.parseBundle now input = ⟨layout.bundle,
      Bundle.verdict (layout.bundle.checkValid now), rest⟩ := by
  obtain ⟨mark, next, primary, run⟩ := of
  have loop := Bundle.unmarshalBlocks_of_run run (next.length + 1) ⟨layout.primary, [], .blank⟩
    (Nat.lt_succ_self _)
  simp only [Bundle.parseBundle, mark, PrimaryBlock.unmarshalInto_of_ok primary, loop]
  rfl

end Layout

theorem Bundle.parseBundle_cases [Ed25519] (now : Time) (input : List UInt8) :
    (∃ layout rest, Layout.Of layout input rest) ∨
      ∃ cause, (parseBundle now input).err = some (.error cause) := by
  rcases (Tracks.primitive (readExpectFrom indefiniteArray)).run_cases input with
    ⟨⟨⟩, _, afterMark, -, mark⟩ | ⟨cause, rest, failed⟩
  · have marked : (readExpect indefiniteArray).run input = .ok () afterMark := mark
    rcases PrimaryBlock.tracks_unmarshalCbor.run_cases afterMark with
      ⟨primary, _, next, -, read⟩ | ⟨cause, rest, failed⟩
    · have filled := PrimaryBlock.unmarshalInto_of_ok read
      rcases unmarshalBlocks_cases (next.length + 1) ⟨primary, [], .blank⟩ next (Nat.lt_succ_self _) with
        ⟨blocks, rest, run⟩ | ⟨left, cause, rest, failed⟩
      · exact .inl ⟨⟨afterMark, primary, blocks⟩, rest, marked, next, read, run⟩
      · exact .inr ⟨cause, by simp only [parseBundle, marked, filled, failed]⟩
    · obtain ⟨left, stopped⟩ := PrimaryBlock.unmarshalInto_of_error failed
      exact .inr ⟨_, by simp only [parseBundle, marked, stopped]; rfl⟩
  · have unmarked : (readExpect indefiniteArray).run input = .error (.error cause) rest := failed
    exact .inr ⟨cause, by simp only [parseBundle, unmarked]⟩

theorem Bundle.unmarshalBlocks_faithful {fuel : Nat} {b : Bundle} {input : List UInt8}
    (faithful : ∀ cb ∈ b.extensionBlocks, cb.Faithful) :
    ∀ cb ∈ (unmarshalBlocks fuel b input).bundle.extensionBlocks, cb.Faithful := by
  induction fuel generalizing b input with
  | zero => exact faithful
  | succ fuel ih =>
    rw [unmarshalBlocks]
    split
    · exact faithful
    · exact faithful
    · exact faithful
    · rename_i cb rest read
      have own := unmarshalCbor_faithful read
      rw [place_of_present own.present]
      refine ih ?_
      intro other member
      split at member
      · exact faithful other member
      · rcases List.mem_append.mp member with old | added
        · exact faithful other old
        · exact List.mem_singleton.mp added ▸ own

/-- The parser leaves a primary block as far as it came, or one that it has decoded
with what the loop makes of the rest. -/
theorem Bundle.parseBundle_bundle [Ed25519] (now : Time) (input : List UInt8) :
    (∃ filled, (parseBundle now input).bundle = ⟨filled, [], .blank⟩) ∨
      ∃ start primary next, PrimaryBlock.unmarshalCbor.run start = .ok primary next ∧
        (parseBundle now input).bundle =
          (unmarshalBlocks (next.length + 1) ⟨primary, [], .blank⟩ next).bundle := by
  unfold parseBundle
  split
  · exact .inl ⟨.blank, rfl⟩
  rename_i afterMark mark
  rcases PrimaryBlock.tracks_unmarshalCbor.run_cases afterMark with
    ⟨primary, _, next, -, read⟩ | ⟨cause, rest, failed⟩
  · refine .inr ⟨afterMark, primary, next, read, ?_⟩
    simp only [PrimaryBlock.unmarshalInto_of_ok read]
    split <;> rfl
  · obtain ⟨left, stopped⟩ := PrimaryBlock.unmarshalInto_of_error failed
    rw [stopped]
    exact .inl ⟨left, rfl⟩

/-- Whatever comes of an input, the manager has created the values of the blocks. -/
theorem Bundle.parseBundle_faithful [Ed25519] (now : Time) (input : List UInt8) :
    ∀ cb ∈ (parseBundle now input).bundle.extensionBlocks, cb.Faithful := by
  have none : ∀ cb ∈ ([] : List CanonicalBlock), cb.Faithful := fun cb member => by cases member
  rcases parseBundle_bundle now input with ⟨filled, bare⟩ | ⟨_, _, _, -, same⟩
  · rw [bare]
    exact none
  · rw [same]
    exact unmarshalBlocks_faithful none

/-- The call hands back a bundle or an error. -/
def Bundle.Parsed.Returns (parsed : Bundle.Parsed) : Prop :=
  parsed.err = none ∨ ∃ cause, parsed.err = some (.error cause)

/-- The input is an indefinite array with a primary block and further blocks up
to the break code, and none of them is a payload block. -/
def MissingPayload (input : List UInt8) : Prop :=
  ∃ layout rest, Layout.Of layout input rest ∧
    ∀ placed ∈ layout.blocks, placed.block.isPayload = false

namespace Layout

omit [Cboring] [Crc16] in
theorem payload_eq_none {layout : Layout} :
    layout.payload = none ↔ ∀ placed ∈ layout.blocks, placed.block.isPayload = false := by
  simp [payload]

/-- The check of a laid out bundle panics without a payload block, and finishes
with one. -/
theorem Of.verdict_cases [Ed25519] {layout : Layout} (of : layout.Of input rest) (now : Time) :
    (layout.payload = none ∧ Bundle.verdict (layout.bundle.checkValid now) = some .panic) ∨
      (∃ placed, layout.payload = some placed) ∧ ∃ causes, layout.bundle.checkValid now = .ok causes := by
  cases held : layout.payload with
  | none =>
    have absent : layout.bundle.payloadBlock.value = none := by simp [bundle, held, blank]
    exact .inl ⟨rfl, by rw [Bundle.checkValid_without_payload
      (fun cb member => (of.faithful cb member).present) absent]; rfl⟩
  | some placed =>
    obtain ⟨same, faithful⟩ := of.payload_faithful held
    obtain ⟨value, present⟩ := faithful.present
    rw [← same] at present
    exact .inr ⟨⟨placed, rfl⟩,
      Bundle.checkValid_total (fun cb member => (of.faithful cb member).managed) ⟨_, present⟩ now⟩

end Layout

variable [Ed25519]

/-- With blocks that the decoder made, the check at the end of parsing returns
exactly if there is a payload block. -/
theorem Bundle.Parsed.returns_iff {b : Bundle}
    (faithful : ∀ cb ∈ b.extensionBlocks, cb.Faithful) (now : Time)
    (rest : List UInt8) : Returns ⟨b, verdict (b.checkValid now), rest⟩ ↔
      b.payloadBlock.Present := by
  constructor
  · intro returns
    cases absent : b.payloadBlock.value with
    | some value => exact ⟨value, absent⟩
    | none =>
      rw [checkValid_without_payload (fun cb member => (faithful cb member).present) absent] at returns
      rcases returns with none | ⟨cause, error⟩
      · cases none
      · cases error
  · intro held
    obtain ⟨causes, checked⟩ :=
      checkValid_total (fun cb member => (faithful cb member).managed) held now
    rw [checked]
    exact verdict_ok causes

/-- Parsing ends in a bundle or an error, except on an input whose blocks end
without a payload block. -/
theorem parseBundle_returns_iff (now : Time) (input : List UInt8) :
    (Bundle.parseBundle now input).Returns ↔ ¬MissingPayload input := by
  constructor
  · rintro returns ⟨layout, rest, of, missing⟩
    have absent := Layout.payload_eq_none.mpr missing
    rw [of.parseBundle now, Bundle.Parsed.returns_iff of.faithful] at returns
    obtain ⟨value, held⟩ := returns
    simp [Layout.bundle, absent, blank] at held
  · intro complete
    rcases Bundle.parseBundle_cases now input with ⟨layout, rest, of⟩ | ⟨cause, failed⟩
    · rw [of.parseBundle now, Bundle.Parsed.returns_iff of.faithful]
      cases held : layout.payload with
      | none => exact absurd ⟨layout, rest, of, Layout.payload_eq_none.mp held⟩ complete
      | some placed =>
        obtain ⟨same, faithful⟩ := of.payload_faithful held
        exact same ▸ faithful.present
    · exact .inr ⟨cause, failed⟩

end

open scoped Samples

/-- A primary block from `dtn:none` to `dtn:none`, without CRC and without any
further block. -/
def primaryOnly : List UInt8 :=
  [0x9f, 0x88, 7, 4, 0, 0x82, 1, 0, 0x82, 1, 0, 0x82, 1, 0, 0x82, 0, 0, 0, 0xff]

theorem parseBundle_primaryOnly_panics : (Bundle.parseBundle 0 primaryOnly).err = some .panic := rfl

end RecDtn.Bpv7
