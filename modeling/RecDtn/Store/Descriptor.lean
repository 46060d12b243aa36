import Mathlib.Data.List.AList
import RecDtn.Bpv7.BundleId
import RecDtn.Lang.Runtime

namespace RecDtn.Store

open Lang Bpv7

abbrev Constraint := UInt8

namespace Constraint

def dispatchPending : Constraint := 0
def forwardPending : Constraint := 1
def reassemblyPending : Constraint := 2

def string (constraint : Constraint) : String :=
  if constraint = dispatchPending then "dispatch pending"
  else if constraint = forwardPending then "forwarding pending"
  else if constraint = reassemblyPending then "reassembly pending"
  else "unknown"

def valid (constraint : Constraint) : Bool := constraint ≤ reassemblyPending

end Constraint

def noSuchBundleError (bid : BundleID) : GoError :=
  .text s!"No bundle with id {display bid.string} in store"

def bundleDeletedError (bid : BundleID) : GoError :=
  .text s!"Bundle {display bid.string} has been deleted"

def invalidConstraint (constraint : Constraint) : GoError :=
  .text s!"{constraint} is not a valid retention constraint"

def hasConstraintsError (constraints : List Constraint) : GoError :=
  .text ("Bundle still has constraints: [" ++
    String.intercalate " " (constraints.map Constraint.string) ++ "]")

variable [Sha256]

/-- The name of the file of a bundle with this text as its ID. -/
def fileName (idString : List UInt8) : String := hexBytes (Sha256.sum256 idString)

/-- The text of the ID and the name of the file are stored with the ID they
belong to. The only miscellaneous value that the daemon stores is a counter. -/
structure BundleMetadata where
  id : BundleID
  source : EndpointID
  destination : EndpointID
  reportTo : EndpointID
  isAdministrativeRecord : Bool
  miscellaneousData : AList fun _ : String => UInt64
  idString : List UInt8
  knownHolders : List EndpointID
  expires : Time
  serialisedFileName : String
  idString_eq : idString = id.string
  serialisedFileName_eq : serialisedFileName = fileName idString

structure BundleDescriptor where
  metadata : BundleMetadata
  retentionConstraints : List Constraint
  retain : Bool
  dispatch : Bool
  deleted : Bool
  shouldDelete : Bool

/-- What a call on a descriptor leaves behind: its error, the descriptor, and
the argument of the `deleteBundle` goroutine if it started one. -/
structure Answer where
  err : Option GoError
  descriptor : BundleDescriptor
  spawned : Option BundleMetadata

namespace BundleDescriptor

def new (metadata : BundleMetadata) : BundleDescriptor where
  metadata := metadata
  retentionConstraints := [Constraint.dispatchPending]
  retain := true
  dispatch := true
  deleted := false
  shouldDelete := false

variable (bd : BundleDescriptor)

def answer (err : Option GoError) : Answer := ⟨err, bd, none⟩

/-- The answer to most calls on a deleted descriptor. -/
def gone : Answer := bd.answer (some (bundleDeletedError bd.metadata.id))

/-- The first phase of a deletion. The second one is left to a goroutine with
a copy of the metadata. -/
def unsafeDelete : Answer :=
  if bd.deleted then bd.gone else ⟨none, { bd with deleted := true }, some bd.metadata⟩

def addConstraint (constraint : Constraint) : Answer :=
  if bd.deleted then bd.gone
  else if constraint.valid = false then bd.answer (some (invalidConstraint constraint))
  else
    { bd with
      retentionConstraints := bd.retentionConstraints ++ [constraint]
      retain := true
      dispatch := if constraint = Constraint.forwardPending then false else bd.dispatch : BundleDescriptor
    }.answer none

/-- The descriptor with these constraints left. -/
def withConstraints (constraints : List Constraint) : BundleDescriptor :=
  { bd with
    retentionConstraints := constraints
    retain := !constraints.isEmpty
    dispatch := !constraints.contains Constraint.forwardPending }

/-- A deletion that had to wait for the constraints; its error is dropped. -/
def deleteIfMarked : Answer :=
  if bd.retain = false ∧ bd.shouldDelete = true then { bd.unsafeDelete with err := none }
  else bd.answer none

def removeConstraint (constraint : Constraint) : Answer :=
  if bd.deleted then bd.gone
  else (bd.withConstraints (bd.retentionConstraints.filter (· != constraint))).deleteIfMarked

def resetConstraints : Answer :=
  if bd.deleted then bd.gone else (bd.withConstraints []).deleteIfMarked

def delete (markIfConstraint : Bool) : Answer :=
  if bd.retentionConstraints = [] then bd.unsafeDelete
  else if markIfConstraint then { bd with shouldDelete := true : BundleDescriptor }.answer none
  else bd.answer (some (hasConstraintsError bd.retentionConstraints))

def hasConstraint (constraint : Constraint) : Except GoError Bool :=
  if bd.deleted then .error (bundleDeletedError bd.metadata.id)
  else .ok (bd.retentionConstraints.contains constraint)

/-- `Dispatch`, which is false for a deleted bundle. -/
def dispatchable : Bool := bd.dispatch && !bd.deleted

/-- `Retain`, which is false for a deleted bundle. -/
def retained : Bool := bd.retain && !bd.deleted

def expired (now : Time) : Bool := bd.metadata.expires < now

end BundleDescriptor

/-- The calls that change the state of a descriptor, but not its metadata. -/
inductive Operation where
  | addConstraint (constraint : Constraint)
  | removeConstraint (constraint : Constraint)
  | resetConstraints
  | delete (markIfConstraint : Bool)

def BundleDescriptor.perform (bd : BundleDescriptor) : Operation → Answer
  | .addConstraint constraint => bd.addConstraint constraint
  | .removeConstraint constraint => bd.removeConstraint constraint
  | .resetConstraints => bd.resetConstraints
  | .delete markIfConstraint => bd.delete markIfConstraint

/-- Nothing is deleted, or the call deletes the descriptor and hands its
metadata to a goroutine. -/
structure Answer.Of (answer : Answer) (bd : BundleDescriptor) : Prop where
  metadata : answer.descriptor.metadata = bd.metadata
  deletion : (answer.descriptor.deleted = bd.deleted ∧ answer.spawned = none) ∨
    (bd.deleted = false ∧ answer.descriptor.deleted = true ∧ answer.spawned = some bd.metadata)

namespace BundleDescriptor

variable {bd changed : BundleDescriptor}

section

variable (metadata : changed.metadata = bd.metadata) (deleted : changed.deleted = bd.deleted)

include metadata deleted

theorem answer_of (err : Option GoError) : (changed.answer err).Of bd :=
  ⟨metadata, .inl ⟨deleted, rfl⟩⟩

theorem unsafeDelete_of : changed.unsafeDelete.Of bd := by
  unfold unsafeDelete
  split
  · exact answer_of metadata deleted _
  · rename_i live
    refine ⟨metadata, .inr ⟨?_, rfl, by rw [metadata]⟩⟩
    rw [← deleted]
    simpa using live

theorem deleteIfMarked_of : changed.deleteIfMarked.Of bd := by
  unfold deleteIfMarked
  split
  · exact ⟨(unsafeDelete_of metadata deleted).metadata,
      (unsafeDelete_of metadata deleted).deletion⟩
  · exact answer_of metadata deleted none

end

theorem perform_of (bd : BundleDescriptor) (operation : Operation) :
    (bd.perform operation).Of bd := by
  cases operation with
  | addConstraint constraint =>
    change (bd.addConstraint constraint).Of bd
    unfold addConstraint
    split
    · apply answer_of <;> rfl
    split
    · apply answer_of <;> rfl
    · apply answer_of <;> rfl
  | removeConstraint constraint =>
    change (bd.removeConstraint constraint).Of bd
    unfold removeConstraint
    split
    · apply answer_of <;> rfl
    · apply deleteIfMarked_of <;> rfl
  | resetConstraints =>
    change (bd.resetConstraints).Of bd
    unfold resetConstraints
    split
    · apply answer_of <;> rfl
    · apply deleteIfMarked_of <;> rfl
  | delete markIfConstraint =>
    change (bd.delete markIfConstraint).Of bd
    unfold delete
    split
    · apply unsafeDelete_of <;> rfl
    split
    · apply answer_of <;> rfl
    · apply answer_of <;> rfl

end BundleDescriptor

end RecDtn.Store
