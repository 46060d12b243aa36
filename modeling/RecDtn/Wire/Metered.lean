import RecDtn.Wire.Reader

/-! Readers that tell the lengths of the slices they have asked the runtime for. -/

namespace RecDtn.Wire

open List Reader

variable {τ ε α β : Type}

/-- A loop of `count` reads. Each of them knows its position. -/
def Reader.repeated (read : Nat → Reader τ ε α) (position : Nat) : Nat → Reader τ ε (List α)
  | 0 => pure []
  | count + 1 => do
    let value ← read position
    let later ← repeated read (position + 1) count
    return value :: later

theorem Tracks.repeated {read : Nat → Reader τ ε α} (each : ∀ position, Tracks (read position))
    (position count : Nat) : Tracks (Reader.repeated read position count) := by
  induction count generalizing position with
  | zero => exact .pure []
  | succ count ih =>
    exact .bind (each position) fun _ => .bind (ih (position + 1)) fun _ => .pure _

theorem Reads.repeated {read : Nat → Reader τ ε α} {write : α → List τ} {values : List α}
    (each : ∀ value ∈ values, ∀ position buffer,
    Reads buffer (read position) (write value) value) (position : Nat) (buffer : List τ) :
    Reads buffer (Reader.repeated read position values.length) (values.flatMap write) values := by
  induction values generalizing position buffer with
  | nil => exact .pure []
  | cons first rest ih =>
    have later := ih (fun value member => each value (mem_cons_of_mem _ member)) (position + 1)
    exact .bind (each first mem_cons_self position buffer) (.before (later _) (.pure _))

/-- A reader, and the lengths of the slices it asks for on an input. -/
structure Metered (τ ε α : Type) where
  reader : Reader τ ε α
  asked : Stream τ → List Int

namespace Metered

/-- A reader that makes no slice of its own. -/
def read (reader : Reader τ ε α) : Metered τ ε α := ⟨reader, fun _ => []⟩

/-- `make` of a slice of `length` elements of `size` bytes. It panics if the
length is negative or the slice exceeds the heap. -/
def make (heap size : Nat) (length : Int) : Metered τ ε Unit where
  reader := if 0 ≤ length ∧ length * size ≤ heap then pure () else throw .panic
  asked := fun _ => [length]

def mapError (change : ε → ε) (metered : Metered τ ε α) : Metered τ ε α :=
  ⟨metered.reader.mapError change, metered.asked⟩

instance : Monad (Metered τ ε) where
  pure value := read (pure value)
  bind first next :=
    { reader := first.reader >>= fun value => (next value).reader
      asked := fun stream => first.asked stream ++
        match first.reader stream with
        | .ok value rest => (next value).asked rest
        | .error _ _ => [] }

@[simp] theorem reader_read (reader : Reader τ ε α) : (read reader).reader = reader := rfl

@[simp] theorem reader_bind (first : Metered τ ε α) (next : α → Metered τ ε β) :
    (first >>= next).reader = first.reader >>= fun value => (next value).reader := rfl

/-- The lengths asked for on an input that nobody tees. -/
def askedOn (metered : Metered τ ε α) (input : List τ) : List Int := metered.asked ⟨input, []⟩

/-- The run ends in an answer or an error, and no slice it asks for has more
elements than the input. -/
def Frugal (metered : Metered τ ε α) (input : List τ) : Prop :=
  Settled (metered.reader.runOn input) ∧
    ∀ length ∈ metered.askedOn input, length ≤ input.length

/-- Read a head, make a slice of the length it declares, and fill it. -/
def sized (heap size : Nat) (head : Reader τ ε α) (length : α → Int)
    (body : α → Reader τ ε β) : Metered τ ε β := do
  let declared ← read head
  make heap size (length declared)
  read (body declared)

section

variable {heap size : Nat} {head : Reader τ ε α} {length : α → Int}
  {body : α → Reader τ ε β}

/-- A slice of this length can be made, and the input has a token for each element. -/
def Backed (heap size : Nat) (input : List τ) (length : Int) : Prop :=
  0 ≤ length ∧ length * size ≤ heap ∧ length ≤ input.length

variable {declared : α} {input : List τ} {final : Stream τ}

/-- A head and a body that are read back make a decoder that reads them back, if
the slice can be made. -/
theorem reads_sized {buffer written later : List τ} {value : β}
    (front : Reads buffer head written declared)
    (fits : 0 ≤ length declared ∧ length declared * size ≤ heap)
    (back : Reads (buffer ++ written) (body declared) later value) :
    Reads buffer (sized heap size head length body).reader (written ++ later) value := by
  have made : Reads (buffer ++ written)
      (make heap size (length declared) : Metered τ ε Unit).reader [] () := by
    rw [make, if_pos fits]
    exact .pure ()
  exact .bind front (.after made back)

/-- Without a head nothing is asked for. -/
private theorem frugal_of_failed {cause : ε}
    (failed : head ⟨input, []⟩ = .error (.error cause) final) :
    (sized heap size head length body).Frugal input := by
  have stopped : (sized heap size head length body).reader ⟨input, []⟩ =
      .error (.error cause) final := by
    simp only [sized, reader_bind, reader_read, bind_apply, failed]
  constructor
  · simp only [Reader.runOn, Reader.run, stopped]
    exact .error cause
  · intro asked member
    simp [sized, askedOn, bind, read, failed] at member

section

variable (done : head ⟨input, []⟩ = .ok declared final)

include done

private theorem askedOn_sized : (sized heap size head length body).askedOn input =
    [length declared] := by
  simp only [sized, askedOn, bind, read, make, done, nil_append]
  split <;> rfl

private theorem panic_of_unmade
    (large : ¬(0 ≤ length declared ∧ length declared * size ≤ heap)) :
    (sized heap size head length body).reader.runOn input = .error .panic := by
  have panicked : (sized heap size head length body).reader ⟨input, []⟩ =
      .error .panic final := by
    simp only [sized, reader_bind, reader_read, bind_apply, done, make, if_neg large]
    rfl
  simp only [Reader.runOn, Reader.run, panicked]

/-- A slice that is made is filled as far as the input goes. -/
private theorem settled_of_made (tracks : Tracks (body declared))
    (fits : 0 ≤ length declared ∧ length declared * size ≤ heap) :
    Settled ((sized heap size head length body).reader.runOn input) := by
  have filled : (sized heap size head length body).reader ⟨input, []⟩ = body declared final := by
    simp only [sized, reader_bind, reader_read, bind_apply, done, make, if_pos fits]
    rfl
  obtain ⟨used, rest, -, outcome⟩ := tracks final
  rcases outcome with ⟨value, answered⟩ | ⟨cause, failed⟩
  · simp only [Reader.runOn, Reader.run, filled, answered]
    exact .ok value
  · simp only [Reader.runOn, Reader.run, filled, failed]
    exact .error cause

end

/-- Such a decoder is frugal exactly on the inputs that back the length they
declare. -/
theorem frugal_sized_iff (tracksHead : Tracks head)
    (tracksBody : ∀ declared, Tracks (body declared)) :
    (sized heap size head length body).Frugal input ↔
      ∀ declared rest, head.run input = .ok declared rest → Backed heap size input (length declared) := by
  obtain ⟨used, rest, split, outcome⟩ := tracksHead ⟨input, []⟩
  rcases outcome with ⟨declared, done⟩ | ⟨cause, failed⟩
  · have ran : head.run input = .ok declared rest := run_eq_ok.mpr ⟨_, done⟩
    have only : (∀ other left, head.run input = .ok other left →
        Backed heap size input (length other)) ↔ Backed heap size input (length declared) := by
      rw [ran]
      simp
    rw [only, Frugal, askedOn_sized done]
    constructor
    · rintro ⟨settled, bounded⟩
      have made : 0 ≤ length declared ∧ length declared * size ≤ heap := by
        by_contra large
        rw [panic_of_unmade done large] at settled
        exact not_settled_panic settled
      exact ⟨made.1, made.2, bounded _ (mem_singleton_self _)⟩
    · rintro ⟨positive, fits, bounded⟩
      refine ⟨settled_of_made done (tracksBody declared) ⟨positive, fits⟩, ?_⟩
      intro asked member
      rw [mem_singleton.mp member]
      exact bounded
  · have ran : head.run input = .error (.error cause) rest := by
      simp only [Reader.run, failed]
    constructor
    · intro _ declared left impossible
      rw [ran] at impossible
      cases impossible
    · intro _
      exact frugal_of_failed failed

end

end Metered

end RecDtn.Wire
