import RecDtn.Lang.Run
import RecDtn.Store.Descriptor

/-! The life of one descriptor, from its creation to its deletion. -/

namespace RecDtn.Store

open Lang Bpv7

variable [Sha256]

/-- A descriptor, and the arguments of the `deleteBundle` goroutines that its
calls have started. -/
structure Life where
  descriptor : BundleDescriptor
  started : List BundleMetadata

namespace Life

def new (metadata : BundleMetadata) : Life := ⟨.new metadata, []⟩

/-- The descriptor after a call, with one goroutine more if the call started one. -/
def after (life : Life) (answer : Answer) : Life :=
  ⟨answer.descriptor, life.started ++ answer.spawned.toList⟩

def step (life : Life) (operation : Operation) : Life :=
  life.after (life.descriptor.perform operation)

structure Consistent (life : Life) : Prop where
  retain : life.descriptor.retain = true ↔ life.descriptor.retentionConstraints ≠ []
  dispatch : life.descriptor.dispatch = true ↔
    Constraint.forwardPending ∉ life.descriptor.retentionConstraints
  deleted : life.descriptor.deleted = true → life.descriptor.retentionConstraints = []
  marked : life.descriptor.shouldDelete = true → life.descriptor.retentionConstraints = [] →
    life.descriptor.deleted = true
  started : life.started = if life.descriptor.deleted then [life.descriptor.metadata] else []

theorem consistent_new (metadata : BundleMetadata) : (new metadata).Consistent where
  retain := by simp [new, BundleDescriptor.new]
  dispatch := by simp [new, BundleDescriptor.new, Constraint.forwardPending,
    Constraint.dispatchPending]
  deleted gone := by cases gone
  marked mark := by cases mark
  started := rfl

variable {life : Life}

theorem after_answer (life : Life) (err : Option GoError) :
    life.after (life.descriptor.answer err) = life := by
  simp [after, BundleDescriptor.answer]

section

variable (consistent : life.Consistent)

include consistent

/-- A deleted descriptor refuses every call. -/
theorem Consistent.step_of_deleted (gone : life.descriptor.deleted = true) (operation : Operation) :
    life.step operation = life := by
  have refused : life.descriptor.perform operation = life.descriptor.gone := by
    cases operation with
    | delete markIfConstraint =>
      change life.descriptor.delete markIfConstraint = _
      rw [BundleDescriptor.delete, if_pos (consistent.deleted gone), BundleDescriptor.unsafeDelete, if_pos gone]
    | _ => exact if_pos gone
  rw [step, refused]
  exact life.after_answer _

section

variable (live : life.descriptor.deleted = false)

include live

theorem Consistent.not_started : life.started = [] := by
  rw [consistent.started, live]
  rfl

/-- The first phase of the deletion, once there are no constraints. -/
theorem Consistent.unsafeDelete (free : life.descriptor.retentionConstraints = []) :
    (life.after life.descriptor.unsafeDelete).Consistent := by
  have once := consistent.not_started live
  rw [BundleDescriptor.unsafeDelete, live]
  exact ⟨consistent.retain, consistent.dispatch, fun _ => free,
    fun _ _ => rfl, by simp [after, once]⟩

/-- Other constraints, and the deletion that has waited for them to go. -/
theorem Consistent.withConstraints (constraints : List Constraint) :
    (life.after (life.descriptor.withConstraints constraints).deleteIfMarked).Consistent := by
  have once := consistent.not_started live
  have stillLive : (life.descriptor.withConstraints constraints).deleted = false := live
  unfold BundleDescriptor.deleteIfMarked
  split
  · rename_i due
    have free : constraints = [] := by simpa [BundleDescriptor.withConstraints] using due.1
    rw [BundleDescriptor.unsafeDelete, stillLive]
    subst free
    exact ⟨by simp [after, BundleDescriptor.withConstraints], by simp [after,
      BundleDescriptor.withConstraints], fun _ => rfl, fun _ _ => rfl, by simp [after, once]⟩
  · rename_i kept
    refine ⟨by simp [after, BundleDescriptor.answer, BundleDescriptor.withConstraints],
      by simp [after, BundleDescriptor.answer, BundleDescriptor.withConstraints], ?_, ?_, ?_⟩
    · intro gone
      rw [after, BundleDescriptor.answer, stillLive] at gone
      cases gone
    · intro mark free
      refine absurd ⟨?_, mark⟩ kept
      have free : constraints = [] := free
      simp [BundleDescriptor.withConstraints, free]
    · simp [after, BundleDescriptor.answer, once, stillLive]

theorem Consistent.addConstraint (constraint : Constraint) :
    (life.after (life.descriptor.addConstraint constraint)).Consistent := by
  have once := consistent.not_started live
  rw [BundleDescriptor.addConstraint, live, if_neg Bool.false_ne_true]
  split
  · rw [life.after_answer]
    exact consistent
  · refine ⟨by simp [after, BundleDescriptor.answer], ?_, ?_, ?_, ?_⟩
    · by_cases forward : constraint = Constraint.forwardPending
      · simp [after, BundleDescriptor.answer, forward]
      · simp [after, BundleDescriptor.answer, forward, Ne.symm forward, consistent.dispatch]
    · intro gone
      cases gone
    · intro mark free
      simp [after, BundleDescriptor.answer] at free
    · simp [after, BundleDescriptor.answer, once]

theorem Consistent.delete (markIfConstraint : Bool) :
    (life.after (life.descriptor.delete markIfConstraint)).Consistent := by
  unfold BundleDescriptor.delete
  split
  · rename_i free
    exact consistent.unsafeDelete live free
  · rename_i constrained
    split
    · refine ⟨consistent.retain, consistent.dispatch, consistent.deleted, ?_, ?_⟩
      · intro mark free
        exact absurd free constrained
      · simp [after, BundleDescriptor.answer, consistent.not_started live, live]
    · rw [life.after_answer]
      exact consistent

end

theorem Consistent.step (operation : Operation) : (life.step operation).Consistent := by
  cases live : life.descriptor.deleted with
  | true =>
    rw [consistent.step_of_deleted live]
    exact consistent
  | false =>
    cases operation with
    | addConstraint constraint => exact consistent.addConstraint live constraint
    | removeConstraint constraint =>
      rw [Life.step, BundleDescriptor.perform, BundleDescriptor.removeConstraint, live, if_neg Bool.false_ne_true]
      exact consistent.withConstraints live _
    | resetConstraints =>
      rw [Life.step, BundleDescriptor.perform, BundleDescriptor.resetConstraints, live, if_neg Bool.false_ne_true]
      exact consistent.withConstraints live []
    | delete markIfConstraint => exact consistent.delete live markIfConstraint

theorem Consistent.run (operations : List Operation) :
    (run Life.step life operations).Consistent := by
  induction operations generalizing life with
  | nil => exact consistent
  | cons operation rest ih => exact ih (consistent.step operation)

theorem Consistent.run_of_deleted (gone : life.descriptor.deleted = true)
    (operations : List Operation) : Lang.run Life.step life operations = life := by
  induction operations with
  | nil => rfl
  | cons operation rest ih => rw [run_cons, consistent.step_of_deleted gone, ih]

end

/-- After every call the marks say what the constraints say, and a deletion is
final and has started its goroutine once. -/
theorem consistent_throughout (metadata : BundleMetadata) (operations : List Operation) :
    Throughout step Consistent (new metadata) operations ∧
      ∀ before later, operations = before ++ later →
        (Lang.run step (new metadata) before).descriptor.deleted = true →
          Lang.run step (new metadata) operations = Lang.run step (new metadata) before := by
  refine ⟨?_, ?_⟩
  · intro before later _
    exact (consistent_new metadata).run before
  · intro before later split gone
    rw [split, run_append]
    exact ((consistent_new metadata).run before).run_of_deleted gone later

end Life

end RecDtn.Store
