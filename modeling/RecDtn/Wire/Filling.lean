import RecDtn.Wire.Reader

/-! Decoding in place: what was set stays when a later read fails. -/

namespace RecDtn.Wire

variable {τ ε σ α β : Type}

/-- Change the error of a fault; a panic stays one. -/
def Fault.mapError (change : ε → ε) : Fault ε → Fault ε
  | error cause => error (change cause)
  | other => other

/-- A reader that changes a record on its way. -/
abbrev Filler (τ ε σ α : Type) := EStateM (Fault ε) (Stream τ × σ) α

namespace Filler

def read (reader : Reader τ ε α) : Filler τ ε σ α := fun state =>
  match reader state.1 with
  | .ok value rest => .ok value (rest, state.2)
  | .error fault rest => .error fault (rest, state.2)

def set (change : σ → σ) : Filler τ ε σ Unit := fun state => .ok () (state.1, change state.2)

/-- What is in the record at the end, the fault if there is one, and the input
that is left. -/
def run (filler : Filler τ ε σ Unit) (record : σ) (input : List τ) :
    σ × Option (Fault ε) × List τ :=
  match filler (⟨input, []⟩, record) with
  | .ok () state => (state.2, none, state.1.pending)
  | .error fault state => (state.2, some fault, state.1.pending)

variable {record : σ} {filler : Filler τ ε σ Unit} {reader : Reader τ ε α}
  {next : α → Filler τ ε σ β}

theorem bind_apply (first : Filler τ ε σ α) (state : Stream τ × σ) : (first >>= next) state =
    match first state with
    | .ok value rest => next value rest
    | .error fault rest => .error fault rest := by
  simp only [bind, EStateM.bind]
  cases first state <;> rfl

/-- The input starts with what is to be read. -/
theorem read_of_reads {buffer written : List τ} {value : α}
    (reads : Reads buffer reader written value)
    (rest : List τ) : (read reader >>= next) (⟨written ++ rest, buffer⟩, record) =
      next value (⟨rest, buffer ++ written⟩, record) := by
  simp only [bind_apply, read, reads rest]

theorem read_of_nothing {buffer : List τ} {value : α} (reads : Reads buffer reader [] value)
    (input : List τ) : (read reader >>= next) (⟨input, buffer⟩, record) =
      next value (⟨input, buffer⟩, record) := by
  simpa using read_of_reads reads input

theorem read_of_error {stream left : Stream τ} {fault : Fault ε}
    (failed : reader stream = .error fault left) :
    (read reader >>= next) (stream, record) = .error fault (left, record) := by
  simp only [bind_apply, read, failed]

theorem set_apply {next : Unit → Filler τ ε σ β} (change : σ → σ) (stream : Stream τ) :
    (set change >>= next) (stream, record) = next () (stream, change record) := rfl

/-- Filling in the record from here on comes to what the reader answers, or fails
as it does. -/
def Mirrors (filler : Filler τ ε σ Unit) (record : σ) (reader : Reader τ ε σ) : Prop :=
  ∀ stream,
    (∃ value rest, reader stream = .ok value rest ∧ filler (stream, record) =
      .ok () (rest, value)) ∨ ∃ fault rest left, reader stream = .error fault rest ∧
        filler (stream, record) = .error fault (rest, left)

namespace Mirrors

theorem pure (record : σ) : Mirrors (pure () : Filler τ ε σ Unit) record (pure record) :=
  fun stream => .inl ⟨record, stream, rfl, rfl⟩

theorem read {next : α → Filler τ ε σ Unit} {after : α → Reader τ ε σ}
    (back : ∀ value, Mirrors (next value) record (after value)) :
    Mirrors (Filler.read reader >>= next) record (reader >>= after) := by
  intro stream
  simp only [bind_apply, Reader.bind_apply, Filler.read]
  cases reader stream with
  | ok value rest => exact back value rest
  | error fault rest => exact .inr ⟨fault, rest, record, rfl, rfl⟩

theorem set {next : Unit → Filler τ ε σ Unit} {reader : Reader τ ε σ} {change : σ → σ}
    (back : Mirrors (next ()) (change record) reader) :
    Mirrors (Filler.set change >>= next) record reader := back

theorem last (record : σ) (change : σ → σ) :
    Mirrors (Filler.set change : Filler τ ε σ Unit) record (Pure.pure (change record)) :=
  fun stream => .inl ⟨change record, stream, rfl, rfl⟩

variable {reader : Reader τ ε σ} {input rest : List τ} (mirrors : Mirrors filler record reader)

include mirrors

theorem run_of_ok {value : σ} (done : reader.run input = .ok value rest) :
    filler.run record input = (value, none, rest) := by
  obtain ⟨buffer, done⟩ := Reader.run_eq_ok.mp done
  rcases mirrors ⟨input, []⟩ with ⟨_, _, same, filled⟩ | ⟨_, _, _, same, -⟩
  · rw [done] at same
    cases same
    simp only [run, filled]
  · rw [done] at same
    cases same

theorem run_of_error {fault : Fault ε} (failed : reader.run input = .error fault rest) :
    ∃ left, filler.run record input = (left, some fault, rest) := by
  rw [Reader.run] at failed
  rcases mirrors ⟨input, []⟩ with ⟨_, _, same, -⟩ | ⟨_, _, left, same, stopped⟩
  · rw [same] at failed
    cases failed
  · rw [same] at failed
    cases failed
    exact ⟨left, by simp only [run, stopped]⟩

end Mirrors

end Filler

end RecDtn.Wire
