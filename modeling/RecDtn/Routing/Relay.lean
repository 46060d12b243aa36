import Mathlib.Data.Multiset.Defs
import Mathlib.Logic.Relation
import RecDtn.Routing.SprayRewriting

/-! What is left of a bundle after any number of nodes. -/

namespace RecDtn.Routing

open Wire Lang Bpv7 BlockType Bundle CanonicalBlock List PrimaryBlock

def others (blocks : List CanonicalBlock) : List CanonicalBlock :=
  (blocks.filter fun cb => !cb.ofType previousNodeBlock).map CanonicalBlock.stripCRC

/-- A bundle without its Previous Node Blocks, the CRC values and the order of the
blocks. -/
def core (b : Bundle) : PrimaryBlock × Multiset CanonicalBlock × CanonicalBlock :=
  (b.primaryBlock.essence, others b.extensionBlocks, b.payloadBlock.stripCRC)

theorem others_map (recode : CanonicalBlock → CanonicalBlock)
    (kept : ∀ cb, (recode cb).stripCRC = cb.stripCRC)
    (blocks : List CanonicalBlock) : others (blocks.map recode) = others blocks := by
  have types (cb : CanonicalBlock) (blockType : UInt64) :
      (recode cb).ofType blockType = cb.ofType blockType :=
    (congrArg (ofType blockType) (kept cb) :)
  simp [others, filter_map, Function.comp_def, kept, types]

theorem core_stripCRC (b : Bundle) : core b.stripCRC = core b := by
  simp only [core, Bundle.stripCRC, others_map CanonicalBlock.stripCRC fun _ => rfl]
  rfl

theorem core_returned (b : Bundle) : core b.returned = core b := by
  have primary : b.primaryBlock.announced.fresh.essence = b.primaryBlock.essence := by
    cases fragment : b.primaryBlock.bundleControlFlags.has BundleControlFlags.isFragment <;>
      simp [essence, announced, PrimaryBlock.fresh, PrimaryBlock.stripCRC,
        hasFragmentation, fragment]
  simp only [core, returned, others_map CanonicalBlock.fresh fun _ => rfl, primary]
  rfl

theorem core_of_replaced [GoSort] {b sent : Bundle} (faithful : b.Faithful) (orderly : Orderly b)
    (formed : ownNodeID.WellFormed) (replaced : replacePreviousNode ownNodeID b = .ok sent) :
    sent.Faithful ∧ core sent = core b := by
  obtain ⟨primary, payload, number, blocks⟩ := perm_of_replaced orderly replaced
  refine ⟨⟨primary ▸ faithful.version, primary ▸ faithful.endpoints, ?_,
    payload ▸ faithful.payload⟩, ?_⟩
  · intro cb member
    rcases mem_append.mp (blocks.mem_iff.mp member) with old | new
    · exact faithful.extensions cb (mem_filter.mp old).1
    · rw [mem_singleton.mp new]
      exact ⟨⟨_, rfl, trivial, formed⟩, rfl⟩
  · have kept := (blocks.filter fun cb => !cb.ofType previousNodeBlock).map CanonicalBlock.stripCRC
    have same : (others sent.extensionBlocks).Perm (others b.extensionBlocks) := by
      simpa [others, filter_filter, plainBlock, ofType, ExtensionBlock.blockTypeCode] using kept
    rw [core, primary, payload, Multiset.coe_eq_coe.mpr same, core]

section

variable [Cboring] [Crc16] [Ed25519]

/-- A bundle is written to a file or a connection and read there. -/
def reread (now : Time) (b : Bundle) : Option Bundle := do
  let result ← b.marshalCbor.toOption
  let parsed := parseBundle now result.1
  if parsed.err.isNone then some parsed.bundle else none

theorem orderly_of_accepted (accepted : (parseBundle now input).err = none) :
    (parseBundle now input).bundle.Faithful ∧ Orderly (parseBundle now input).bundle := by
  obtain ⟨layout, rest, of, same, valid, placed, held⟩ := layout_of_accepted accepted
  rw [same]
  exact ⟨of.bundle_faithful held, orderly_of_checkValid of.faithful valid⟩

theorem core_of_reread (faithful : b.Faithful) (again : reread now b = some later) :
    core later = core b ∧ later.Faithful ∧ Orderly later := by
  cases marshalled : b.marshalCbor with
  | error fault => simp [reread, marshalled, Except.toOption] at again
  | ok result =>
    obtain ⟨written, sent⟩ := result
    obtain ⟨accepted, rfl⟩ : (parseBundle now written).err = none ∧
        (parseBundle now written).bundle = later := by
      simpa [reread, marshalled, Except.toOption] using again
    have parsed := parseBundle_marshalCbor faithful marshalled now []
    rw [append_nil] at parsed
    refine ⟨?_, orderly_of_accepted accepted⟩
    rw [parsed, core_returned, ← core_stripCRC, marshalCbor_stripCRC marshalled, core_stripCRC]

variable [GoSort]

inductive Passes (b later : Bundle) : Prop
  | stored (again : reread now b = some later)
  | forwarded (formed : ownNodeID.WellFormed)
      (replaced : replacePreviousNode ownNodeID b = .ok sent) (again : reread now sent = some later)

theorem Passes.core_eq (passes : Passes b later) (faithful : b.Faithful) (orderly : Orderly b) :
    core later = core b ∧ later.Faithful ∧ Orderly later := by
  cases passes with
  | stored again => exact core_of_reread faithful again
  | forwarded formed replaced again =>
    obtain ⟨kept, same⟩ := core_of_replaced faithful orderly formed replaced
    exact (core_of_reread kept again).imp_left fun next => next.trans same

/-- After any number of nodes, a bundle that was accepted differs in nothing but its
Previous Node Block. -/
theorem core_of_passed (accepted : (parseBundle now input).err = none)
    (passed : Relation.ReflTransGen Passes (parseBundle now input).bundle later) :
    core later = core (parseBundle now input).bundle := by
  suffices core later = core (parseBundle now input).bundle ∧ later.Faithful ∧
      Orderly later from this.1
  induction passed with
  | refl => exact ⟨rfl, orderly_of_accepted accepted⟩
  | tail _ passes ih =>
    obtain ⟨same, faithful, orderly⟩ := ih
    exact (passes.core_eq faithful orderly).imp_left fun next => next.trans same

end

open scoped Samples

def relayedBytes : List UInt8 := (relayedBundle.marshalCbor.toOption.map Prod.fst).getD []

theorem relayedBytes_core : ∃ later, Passes (parseBundle 0 relayedBytes).bundle later ∧
    core later = core (parseBundle 0 relayedBytes).bundle := by
  have accepted : (parseBundle 0 relayedBytes).err = none := by decide +kernel
  obtain ⟨sent, replaced⟩ := replacePreviousNode_total (orderly_of_accepted accepted).2
    (by decide +kernel) (nodeEndpoint "broker")
  have hop : ((replacePreviousNode (nodeEndpoint "broker")
      (parseBundle 0 relayedBytes).bundle).toOption.bind (reread 0)).isSome = true := by
    decide +kernel
  rw [replaced] at hop
  obtain ⟨later, again⟩ := Option.isSome_iff_exists.mp hop
  have passes := Passes.forwarded (by decide) replaced again
  exact ⟨later, passes, core_of_passed accepted (.single passes)⟩

end RecDtn.Routing
