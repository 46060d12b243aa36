import RecDtn.Wire.Reader

namespace RecDtn.Lang

open Wire

/-- An error value. The break code of the CBOR package is compared by identity,
so it stays apart from errors that only carry a text. -/
inductive GoError where
  | flagBreakCode
  | text (message : String)
  | wrapped (label : String) (cause : GoError)
  | multi (causes : List GoError)

/-- `io.EOF`. -/
@[match_pattern] def GoError.eof : GoError := .text "EOF"

/-- A call that reads no input. -/
abbrev Go (α : Type) := Except (Fault GoError) α

abbrev ByteReader (α : Type) := Reader UInt8 GoError α

namespace Go

variable {α β : Type} {result : β}

/-- A method call through a pointer or an interface, which may be nil. -/
def deref : Option α → Go α
  | some value => .ok value
  | none => .error .panic

/-- `if err := ...; err != nil { return err }`. -/
def check : Option GoError → Go Unit
  | none => .ok ()
  | some cause => .error (.error cause)

/-- A call that hands back a value and an error, and does not panic. -/
def ofExcept : Except GoError α → Go α
  | .ok value => .ok value
  | .error cause => .error (.error cause)

/-- `fmt.Errorf("label: %v", err)` around a call; panics pass through. -/
def wrap (label : String) : Go α → Go α
  | .error (.error cause) => .error (.error (.wrapped label cause))
  | result => result

/-- Look at the error a call handed back; panics pass through. -/
def attempt : Go α → Go (Except GoError α)
  | .ok value => .ok (.ok value)
  | .error (.error cause) => .ok (.error cause)
  | .error fault => .error fault

/-- The error a call handed back, if any. -/
def errorOf : Go α → Go (Option GoError)
  | .ok _ => .ok none
  | .error (.error cause) => .ok (some cause)
  | .error fault => .error fault

variable {call first : Go α} {value : α} {next : α → Go β}

theorem wrap_eq_ok {label : String} : wrap label call = .ok value ↔ call = .ok value := by
  unfold wrap
  split <;> simp_all

theorem bind_eq_ok : (first >>= next) = .ok result ↔ ∃ value, first = .ok value ∧
    next value = .ok result := by
  cases first with
  | ok value => simp [bind, Except.bind]
  | error fault => simp [bind, Except.bind]

theorem map_eq_ok {f : α → β} {result : β} :
    f <$> call = .ok result ↔ ∃ value, call = .ok value ∧ f value = result := by
  cases call with
  | ok value => simp [Functor.map, Except.map]
  | error fault => simp [Functor.map, Except.map]

theorem toBool_iff {ε : Type} {call : Except ε α} :
    call.toBool = true ↔ ∃ value, call = .ok value := by
  cases call <;> simp [Except.toBool]

theorem toOption_map_eq_some {f : α → β} :
    call.toOption.map f = some result ↔ ∃ value, call = .ok value ∧ f value = result := by
  cases call <;> simp [Except.toOption]

theorem attempt_eq_ok : attempt call = .ok (.ok value) ↔ call = .ok value := by
  unfold attempt
  split <;> simp_all

@[simp] theorem ok_bind (value : α) (next : α → Go β) :
    ((.ok value : Go α) >>= next) = next value := rfl

@[simp] theorem error_bind (fault : Fault GoError) (next : α → Go β) :
    ((.error fault : Go α) >>= next) = .error fault := rfl

theorem deref_eq_ok {pointer : Option α} : deref pointer = .ok value ↔ pointer = some value := by
  cases pointer with
  | none => simp [deref]
  | some target => simp [deref]

theorem check_eq_ok {verdict : Option GoError} : check verdict = .ok () ↔ verdict = none := by
  cases verdict with
  | none => simp [check]
  | some cause => simp [check]

theorem ofExcept_eq_ok {computed : Except GoError α} :
    ofExcept computed = .ok value ↔ computed = .ok value := by
  cases computed with
  | ok found => simp [ofExcept]
  | error cause => simp [ofExcept]

theorem settled_check (verdict : Option GoError) : Settled (check verdict) := by
  cases verdict with
  | none => exact .ok ()
  | some cause => exact .error cause

theorem settled_ofExcept (computed : Except GoError α) : Settled (ofExcept computed) := by
  cases computed with
  | ok found => exact .ok found
  | error cause => exact .error cause

theorem errorOf_of_settled (settled : Settled call) : ∃ verdict, errorOf call = .ok verdict := by
  cases call with
  | ok value => exact ⟨none, rfl⟩
  | error fault =>
    obtain ⟨cause, rfl⟩ := settled fault rfl
    exact ⟨some cause, rfl⟩

theorem attempt_of_settled (settled : Settled call) : ∃ outcome, attempt call = .ok outcome := by
  cases call with
  | ok value => exact ⟨.ok value, rfl⟩
  | error fault =>
    obtain ⟨cause, rfl⟩ := settled fault rfl
    exact ⟨.error cause, rfl⟩

theorem settled_bind_of_ok (settled : Settled first)
    (later : ∀ value, first = .ok value → Settled (next value)) : Settled (first >>= next) := by
  cases first with
  | ok value => exact later value rfl
  | error fault =>
    intro other failed
    cases failed
    exact settled fault rfl

theorem settled_bind (settled : Settled first) (later : ∀ value, Settled (next value)) :
    Settled (first >>= next) :=
  settled_bind_of_ok settled fun value _ => later value

theorem settled_map (settled : Settled call) (f : α → β) : Settled (f <$> call) := by
  cases call with
  | ok value => exact .ok (f value)
  | error fault =>
    intro other failed
    cases failed
    exact settled fault rfl

/-- What ends in an answer or an error also does so at its first step. -/
theorem settled_of_bind (settled : Settled (first >>= next)) : Settled first := by
  cases first with
  | ok value => exact .ok value
  | error fault =>
    intro other failed
    cases failed
    exact settled fault rfl

theorem settled_wrap (settled : Settled call) (label : String) : Settled (wrap label call) := by
  cases call with
  | ok value => exact .ok value
  | error fault =>
    obtain ⟨cause, rfl⟩ := settled fault rfl
    intro other failed
    cases failed
    exact ⟨_, rfl⟩

end Go

end RecDtn.Lang
