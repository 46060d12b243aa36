import RecDtn.Lang.Go

namespace RecDtn.Bpv7

open Lang

abbrev BundleControlFlags := UInt64

namespace BundleControlFlags

def isFragment : BundleControlFlags := 0x000001
def administrativeRecordPayload : BundleControlFlags := 0x000002
def mustNotFragmented : BundleControlFlags := 0x000004
def requestStatusTime : BundleControlFlags := 0x000040
def statusRequestReception : BundleControlFlags := 0x004000
def statusRequestForward : BundleControlFlags := 0x010000
def statusRequestDelivery : BundleControlFlags := 0x020000
def statusRequestDeletion : BundleControlFlags := 0x040000

def has (flags flag : BundleControlFlags) : Bool := flags &&& flag != 0

/-- No status report of any kind is requested. -/
def requestsNoStatus (flags : BundleControlFlags) : Bool :=
  !flags.has statusRequestReception && !flags.has statusRequestForward &&
    !flags.has statusRequestDelivery && !flags.has statusRequestDeletion

def checkValid (flags : BundleControlFlags) : List GoError :=
  (if flags.has isFragment && flags.has mustNotFragmented then
    [.text ("BundleControlFlags: both 'bundle is a fragment' and " ++
      "'bundle must not be fragmented' flags are set")] else []) ++
  (if !flags.has administrativeRecordPayload || flags.requestsNoStatus then [] else
    [.text ("BundleControlFlags: \"payload is administrative record => " ++
      "no status report request flags\" failed")])

theorem clear_set_isFragment (flags : BundleControlFlags) (whole : flags.has isFragment = false) :
    (flags ||| isFragment) &&& ~~~isFragment = flags := by
  have low : flags &&& isFragment = 0 := by simpa [has] using whole
  apply UInt64.toBitVec_inj.mp
  have lowBits := congrArg UInt64.toBitVec low
  ext position bound
  have bit := congrArg (fun bits => bits.getLsbD position) lowBits
  simp only [UInt64.toBitVec_and, UInt64.toBitVec_or, UInt64.toBitVec_not, BitVec.getElem_and,
    BitVec.getElem_or, BitVec.getElem_not, BitVec.getLsbD_and, UInt64.toBitVec_ofNat,
    BitVec.getLsbD_zero] at bit ⊢
  cases upper : flags.toBitVec[position] <;> cases mark : isFragment.toBitVec[position] <;>
    simp_all

theorem has_set_isFragment (flags : BundleControlFlags) :
    has (flags ||| isFragment) isFragment = true := by
  have kept : (flags ||| isFragment) &&& isFragment = isFragment := by
    apply UInt64.toBitVec_inj.mp
    ext position bound
    simp only [UInt64.toBitVec_or, UInt64.toBitVec_and, BitVec.getElem_or, BitVec.getElem_and]
    cases isFragment.toBitVec[position] <;> simp
  rw [has, kept]
  decide

end BundleControlFlags

abbrev BlockControlFlags := UInt64

namespace BlockControlFlags

def replicateBlock : BlockControlFlags := 0x01
def statusReportBlock : BlockControlFlags := 0x02

def has (flags flag : BlockControlFlags) : Bool := flags &&& flag != 0

/-- Unknown bits are no faults, so there is nothing to check. -/
def checkValid (_ : BlockControlFlags) : List GoError := []

end BlockControlFlags

end RecDtn.Bpv7
