import Mathlib.Data.List.Basic

/-! Readers over a finite input, with a tee buffer for checksums. -/

namespace RecDtn.Wire

open List

variable {τ ε α β : Type}

/-- How a call ends without its result: it hands back an error, it panics, or
its loop is still running when the fuel is used up. -/
inductive Fault (ε : Type) where
  | error (cause : ε)
  | panic
  | spin

/-- Input still to be read, and the buffer that receives what is read. -/
structure Stream (τ : Type) where
  pending : List τ
  teed : List τ

abbrev Reader (τ ε α : Type) := EStateM (Fault ε) (Stream τ) α

/-- A read supplied from outside: its answer on an input and the number of
tokens it took. It can neither panic nor put tokens back. -/
abbrev Primitive (τ ε α : Type) := List τ → Except ε α × Nat

def Stream.advance (stream : Stream τ) (count : Nat) : Stream τ :=
  ⟨stream.pending.drop count, stream.teed ++ stream.pending.take count⟩

variable {cause : ε} {computed : Except (Fault ε) α} {read : Primitive τ ε α}
  {condition : Prop} {change : ε → ε} {rest : List τ}

namespace Reader

def primitive (read : Primitive τ ε α) : Reader τ ε α := fun stream =>
  match read stream.pending with
  | (.ok value, count) => .ok value (stream.advance count)
  | (.error cause, count) => .error (.error cause) (stream.advance count)

def fail (cause : ε) : Reader τ ε α := throw (.error cause)

def ensure (condition : Prop) [Decidable condition] (cause : ε) : Reader τ ε Unit :=
  if condition then pure () else fail cause

/-- Run a computation that reads nothing. -/
def lift (result : Except (Fault ε) α) : Reader τ ε α :=
  match result with
  | .ok value => pure value
  | .error fault => throw fault

/-- The contents of the tee buffer. -/
def teed : Reader τ ε (List τ) := fun stream => .ok stream.teed stream

/-- Read through a fresh tee buffer that already holds `start`. The outer
buffer still receives everything that is read. -/
def withTee (start : List τ) (reader : Reader τ ε α) : Reader τ ε α := fun stream =>
  match reader ⟨stream.pending, start⟩ with
  | .ok value inner => .ok value ⟨inner.pending, stream.teed ++ inner.teed.drop start.length⟩
  | .error fault inner =>
    .error fault ⟨inner.pending, stream.teed ++ inner.teed.drop start.length⟩

/-- Change the error a reader hands back; panics pass through. -/
def mapError (change : ε → ε) (reader : Reader τ ε α) : Reader τ ε α := fun stream =>
  match reader stream with
  | .error (.error cause) rest => .error (.error (change cause)) rest
  | result => result

/-- Read from a source that nobody tees. -/
def run (reader : Reader τ ε α) (input : List τ) : EStateM.Result (Fault ε) (List τ) α :=
  match reader ⟨input, []⟩ with
  | .ok value rest => .ok value rest.pending
  | .error fault rest => .error fault rest.pending

/-- Read from a buffer of its own; what is left over is dropped. -/
def runOn (reader : Reader τ ε α) (input : List τ) : Except (Fault ε) α :=
  match reader.run input with
  | .ok value _ => .ok value
  | .error fault _ => .error fault

theorem bind_apply (first : Reader τ ε α) (next : α → Reader τ ε β) (stream : Stream τ) :
      (first >>= next) stream = match first stream with
      | .ok value rest => next value rest
      | .error fault rest => .error fault rest := by
  simp only [bind, EStateM.bind]
  cases first stream <;> rfl

theorem mapError_bind (change : ε → ε) (first : Reader τ ε α)
    (next : α → Reader τ ε β) : mapError change (first >>= next) =
      mapError change first >>= fun value => mapError change (next value) := by
  funext stream
  simp only [mapError, bind_apply]
  cases first stream with
  | ok value rest => rfl
  | error fault rest => cases fault <;> rfl

theorem run_withTee (reader : Reader τ ε α) (input : List τ) :
    (withTee [] reader).run input = reader.run input := by
  simp only [run, withTee]
  cases reader ⟨input, []⟩ <;> rfl

section Inversion

variable {stream final : Stream τ} {result : α}

theorem bind_eq_ok {first : Reader τ ε β} {next : β → Reader τ ε α} :
    (first >>= next) stream = .ok result final ↔
      ∃ value rest, first stream = .ok value rest ∧ next value rest = .ok result final := by
  rw [bind_apply]
  cases first stream with
  | ok value rest => simp
  | error fault rest => simp

theorem pure_eq_ok {value : α} :
    (pure value : Reader τ ε α) stream = .ok result final ↔ value = result ∧
      stream = final := by
  change EStateM.Result.ok value stream = .ok result final ↔ _
  simp

theorem ensure_eq_ok [Decidable condition] :
    ensure condition cause stream = .ok () final ↔ condition ∧ stream = final := by
  by_cases holds : condition
  · simp only [ensure, holds, ↓reduceIte, true_and]
    exact pure_eq_ok.trans (by simp)
  · simp only [ensure, holds, ↓reduceIte, false_and, iff_false]
    intro impossible
    cases impossible

theorem map_eq_ok {reader : Reader τ ε β} {f : β → α} :
    (f <$> reader) stream = .ok result final ↔
      ∃ value, reader stream = .ok value final ∧ f value = result := by
  simp only [Functor.map, EStateM.map]
  cases reader stream with
  | ok value rest => simp [and_comm]
  | error fault rest => simp

theorem fail_ne_ok : (fail cause : Reader τ ε α) stream ≠ .ok result final := by
  intro impossible
  cases impossible

theorem lift_eq_ok : lift computed stream = .ok result final ↔ computed = .ok result ∧
    stream = final := by
  cases computed with
  | ok value => exact pure_eq_ok.trans (by simp)
  | error fault =>
    simp only [reduceCtorEq, false_and, iff_false]
    intro impossible
    cases impossible

theorem teed_eq_ok {buffer : List τ} : (teed : Reader τ ε (List τ)) stream =
      .ok buffer final ↔ stream.teed = buffer ∧ stream = final := by
  change EStateM.Result.ok stream.teed stream = .ok buffer final ↔ _
  simp

theorem primitive_eq_ok : primitive read stream = .ok result final ↔
      ∃ count, read stream.pending = (.ok result, count) ∧ final = stream.advance count := by
  unfold primitive
  cases observed : read stream.pending with
  | mk answer count =>
    cases answer with
    | ok value => simp [eq_comm]
    | error cause => simp

variable {reader : Reader τ ε α}

theorem mapError_eq_ok : mapError change reader stream = .ok result final ↔
    reader stream = .ok result final := by
  unfold mapError
  split <;> simp_all

theorem withTee_eq_ok {start : List τ} : withTee start reader stream = .ok result final ↔
      ∃ inner, reader ⟨stream.pending, start⟩ = .ok result inner ∧
        final = ⟨inner.pending, stream.teed ++ inner.teed.drop start.length⟩ := by
  unfold withTee
  cases reader ⟨stream.pending, start⟩ with
  | ok value inner => simp [eq_comm]
  | error fault inner => simp

variable {input : List τ}

theorem run_eq_ok :
    reader.run input = .ok result rest ↔
      ∃ buffer, reader ⟨input, []⟩ = .ok result ⟨rest, buffer⟩ := by
  unfold run
  cases reader ⟨input, []⟩ with
  | ok value last =>
    cases last
    simp
  | error fault last => simp

/-- What a supplied read answers does not depend on the tee. -/
theorem primitive_run (done : primitive read stream = .ok result final) :
    (primitive read).run stream.pending = .ok result final.pending := by
  obtain ⟨count, answered, rfl⟩ := primitive_eq_ok.mp done
  exact run_eq_ok.mpr ⟨_, primitive_eq_ok.mpr ⟨count, answered, rfl⟩⟩

theorem runOn_eq_ok : reader.runOn input = .ok result ↔
    ∃ rest, reader.run input = .ok result rest := by
  unfold runOn
  cases reader.run input with
  | ok value last => simp
  | error fault last => simp

end Inversion

end Reader

/-- Every answer of the reader has the property. -/
def Yields (reader : Reader τ ε α) (post : α → Prop) : Prop :=
  ∀ ⦃stream final result⦄, reader stream = .ok result final → post result

namespace Yields

variable {post : α → Prop} {inner : β → Prop} {first : Reader τ ε β}
  {next : β → Reader τ ε α}

theorem pure {value : α} (holds : post value) : Yields (pure value : Reader τ ε α) post :=
  fun _ _ _ read =>
  (Reader.pure_eq_ok.mp read).1 ▸ holds

theorem bind (front : Yields first inner)
    (back : ∀ value, inner value → Yields (next value) post) :
    Yields (first >>= next) post := by
  intro stream final result read
  obtain ⟨value, rest, done, later⟩ := Reader.bind_eq_ok.mp read
  exact back value (front done) later

/-- What the first reader answers does not matter. -/
theorem after (back : ∀ value, Yields (next value) post) : Yields (first >>= next) post :=
  bind (fun _ _ _ _ => trivial : Yields first fun _ => True) fun value _ => back value

theorem fail : Yields (Reader.fail cause : Reader τ ε α) post :=
  fun _ _ _ read => absurd read Reader.fail_ne_ok

theorem lift (holds : ∀ value, computed = .ok value → post value) :
    Yields (Reader.lift computed : Reader τ ε α) post :=
  fun _ _ _ read => holds _ (Reader.lift_eq_ok.mp read).1

theorem mapError {reader : Reader τ ε α} (yields : Yields reader post) :
    Yields (Reader.mapError change reader) post :=
  fun _ _ _ read => yields (Reader.mapError_eq_ok.mp read)

theorem map {f : β → α} (yields : Yields first fun value => post (f value)) :
    Yields (f <$> first) post := by
  intro stream final result read
  obtain ⟨value, done, rfl⟩ := Reader.map_eq_ok.mp read
  exact yields done

theorem runOn {reader : Reader τ ε α} (yields : Yields reader post)
    {input : List τ} {result : α} (read : reader.runOn input = .ok result) : post result := by
  obtain ⟨rest, ran⟩ := Reader.runOn_eq_ok.mp read
  obtain ⟨buffer, ran⟩ := Reader.run_eq_ok.mp ran
  exact yields ran

end Yields

/-- With `buffer` in the tee, the reader takes exactly `written` off any input
that starts with it and answers `value`. -/
def Reads (buffer : List τ) (reader : Reader τ ε α) (written : List τ) (value : α) : Prop :=
  ∀ rest, reader ⟨written ++ rest, buffer⟩ = .ok value ⟨rest, buffer ++ written⟩

namespace Reads

variable {buffer start written later : List τ} {value : α} {result : β}

theorem pure (value : α) : Reads buffer (pure value : Reader τ ε α) [] value := by
  intro rest
  simp [Pure.pure, EStateM.pure]

variable {first reader : Reader τ ε α} {next : α → Reader τ ε β}

theorem bind (front : Reads buffer first written value)
    (back : Reads (buffer ++ written) (next value) later result) :
    Reads buffer (first >>= next) (written ++ later) result := by
  intro rest
  rw [Reader.bind_apply, append_assoc, front]
  simp only [back rest, append_assoc]

theorem bind_apply (front : Reads buffer first written value) (rest : List τ) :
    (first >>= next) ⟨written ++ rest, buffer⟩ = next value ⟨rest, buffer ++ written⟩ := by
  rw [Reader.bind_apply, front]

theorem after_apply (front : Reads buffer first [] value) (input : List τ) :
    (first >>= next) ⟨input, buffer⟩ = next value ⟨input, buffer⟩ := by
  simpa using front.bind_apply input

theorem after (front : Reads buffer first [] value)
    (back : Reads buffer (next value) written result) :
    Reads buffer (first >>= next) written result := by
  simpa using front.bind (by simpa using back)

theorem before (front : Reads buffer first written value)
    (back : Reads (buffer ++ written) (next value) [] result) :
    Reads buffer (first >>= next) written result := by
  simpa using front.bind back

theorem ensure [Decidable condition] (holds : condition) :
    Reads buffer (Reader.ensure condition cause : Reader τ ε Unit) [] () := by
  simpa [Reader.ensure, holds] using Reads.pure ()

theorem lift (same : computed = .ok value) :
    Reads buffer (Reader.lift computed : Reader τ ε α) [] value := by
  subst same
  exact Reads.pure value

theorem teed : Reads buffer (Reader.teed : Reader τ ε (List τ)) [] buffer := by
  intro rest
  simp [Reader.teed]

theorem primitive (taken : ∀ rest, read (written ++ rest) = (.ok value, written.length)) :
    Reads buffer (Reader.primitive read) written value := by
  intro rest
  simp [Reader.primitive, taken rest, Stream.advance]

theorem withTee (inner : Reads start reader written value) :
    Reads buffer (Reader.withTee start reader) written value := by
  intro rest
  simp [Reader.withTee, inner rest]

theorem mapError (inner : Reads buffer reader written value) :
    Reads buffer (Reader.mapError change reader) written value := by
  intro rest
  simp [Reader.mapError, inner rest]

theorem map (inner : Reads buffer reader written value) (f : α → β) :
    Reads buffer (f <$> reader) written (f value) := by
  intro rest
  simp [Functor.map, EStateM.map, inner rest]

theorem run (inner : Reads [] reader written value) (rest : List τ) :
    reader.run (written ++ rest) = .ok value rest :=
  Reader.run_eq_ok.mpr ⟨written, inner rest⟩

theorem runOn (inner : Reads [] reader written value) : reader.runOn written = .ok value :=
  Reader.runOn_eq_ok.mpr ⟨[], by simpa using inner.run []⟩

/-- One input does not start with two values. -/
theorem unique {other : α} {left : List τ} (first : Reads [] reader written value)
    (second : Reads [] reader later other) (same : written ++ rest = later ++ left) :
    value = other ∧ rest = left := by
  have read := first.run rest
  rw [same, second.run left] at read
  cases read
  exact ⟨rfl, rfl⟩

end Reads

/-- A computation that ends in its result or in an error, never in a panic. -/
def Settled (computed : Except (Fault ε) α) : Prop :=
  ∀ fault, computed = .error fault → ∃ cause, fault = .error cause

theorem Settled.ok (value : α) : Settled (.ok value : Except (Fault ε) α) := by
  intro fault failed
  cases failed

theorem Settled.error (cause : ε) : Settled (.error (.error cause) : Except (Fault ε) α) := by
  intro fault failed
  cases failed
  exact ⟨cause, rfl⟩

theorem not_settled_panic : ¬Settled (.error .panic : Except (Fault ε) α) := by
  intro settled
  obtain ⟨cause, same⟩ := settled .panic rfl
  cases same

theorem not_settled_spin : ¬Settled (.error .spin : Except (Fault ε) α) := by
  intro settled
  obtain ⟨cause, same⟩ := settled .spin rfl
  cases same

/-- The reader ends in an answer or an error. It only takes a prefix of the
pending input, and the tee receives exactly that prefix. -/
def Tracks (reader : Reader τ ε α) : Prop :=
  ∀ stream, ∃ used rest, stream.pending = used ++ rest ∧
    ((∃ value, reader stream = .ok value ⟨rest, stream.teed ++ used⟩) ∨
      ∃ cause, reader stream = .error (.error cause) ⟨rest, stream.teed ++ used⟩)

namespace Tracks

theorem pure (value : α) : Tracks (pure value : Reader τ ε α) := fun stream =>
  ⟨[], stream.pending, rfl, .inl ⟨value, by simp [Pure.pure, EStateM.pure]⟩⟩

theorem fail (cause : ε) : Tracks (Reader.fail cause : Reader τ ε α) := fun stream =>
  ⟨[], stream.pending, rfl, .inr ⟨cause, by rw [append_nil]; rfl⟩⟩

theorem bind {first : Reader τ ε α} {next : α → Reader τ ε β}
    (front : Tracks first) (back : ∀ value, Tracks (next value)) : Tracks (first >>= next) := by
  intro stream
  obtain ⟨used, rest, split, outcome⟩ := front stream
  rcases outcome with ⟨value, done⟩ | ⟨cause, failed⟩
  · obtain ⟨more, final, splitAgain, later⟩ := back value ⟨rest, stream.teed ++ used⟩
    simp only at splitAgain
    refine ⟨used ++ more, final, by rw [split, splitAgain, append_assoc], ?_⟩
    simp only [Reader.bind_apply, done]
    simpa only [append_assoc] using later
  · exact ⟨used, rest, split, .inr ⟨cause, by simp only [Reader.bind_apply, failed]⟩⟩

theorem ensure (condition : Prop) [Decidable condition] (cause : ε) :
    Tracks (Reader.ensure condition cause : Reader τ ε Unit) := by
  unfold Reader.ensure
  split
  · exact pure ()
  · exact fail cause

theorem lift (settled : Settled computed) : Tracks (Reader.lift computed : Reader τ ε α) := by
  cases computed with
  | ok value => exact pure value
  | error fault =>
    obtain ⟨cause, rfl⟩ := settled fault rfl
    exact fail cause

theorem teed : Tracks (Reader.teed : Reader τ ε (List τ)) := fun stream =>
  ⟨[], stream.pending, rfl, .inl ⟨stream.teed, by simp [Reader.teed]⟩⟩

theorem primitive (read : Primitive τ ε α) : Tracks (Reader.primitive read) := by
  intro stream
  cases observed : read stream.pending with
  | mk answer count =>
    refine ⟨stream.pending.take count, stream.pending.drop count, by simp, ?_⟩
    cases answer with
    | ok value => exact .inl ⟨value, by simp [Reader.primitive, observed, Stream.advance]⟩
    | error cause => exact .inr ⟨cause, by simp [Reader.primitive, observed, Stream.advance]⟩

variable {reader : Reader τ ε α}

theorem withTee (inner : Tracks reader) (start : List τ) : Tracks (Reader.withTee start reader) := by
  intro stream
  obtain ⟨used, rest, split, outcome⟩ := inner ⟨stream.pending, start⟩
  refine ⟨used, rest, split, ?_⟩
  rcases outcome with ⟨value, done⟩ | ⟨cause, failed⟩
  · exact .inl ⟨value, by simp [Reader.withTee, done]⟩
  · exact .inr ⟨cause, by simp [Reader.withTee, failed]⟩

theorem mapError (inner : Tracks reader) (change : ε → ε) :
    Tracks (Reader.mapError change reader) := by
  intro stream
  obtain ⟨used, rest, split, outcome⟩ := inner stream
  refine ⟨used, rest, split, ?_⟩
  rcases outcome with ⟨value, done⟩ | ⟨cause, failed⟩
  · exact .inl ⟨value, by simp [Reader.mapError, done]⟩
  · exact .inr ⟨change cause, by simp [Reader.mapError, failed]⟩

theorem map (inner : Tracks reader) (f : α → β) : Tracks (f <$> reader) := by
  intro stream
  obtain ⟨used, rest, split, outcome⟩ := inner stream
  refine ⟨used, rest, split, ?_⟩
  rcases outcome with ⟨value, done⟩ | ⟨cause, failed⟩
  · exact .inl ⟨f value, by simp [Functor.map, EStateM.map, done]⟩
  · exact .inr ⟨cause, by simp [Functor.map, EStateM.map, failed]⟩

/-- After a success, the bytes taken are what the tee gained. -/
theorem of_ok (tracks : Tracks reader) (done : reader stream = .ok value final) :
    ∃ used, stream.pending = used ++ final.pending ∧ final.teed = stream.teed ++ used := by
  obtain ⟨used, rest, split, outcome⟩ := tracks stream
  rcases outcome with ⟨other, same⟩ | ⟨cause, failed⟩
  · rw [done] at same
    cases same
    exact ⟨used, split, rfl⟩
  · rw [done] at failed
    cases failed

theorem of_error (tracks : Tracks reader) (failed : reader stream = .error fault final) :
    ∃ cause, fault = .error cause := by
  obtain ⟨used, rest, -, outcome⟩ := tracks stream
  rcases outcome with ⟨value, done⟩ | ⟨cause, same⟩
  · rw [failed] at done
    cases done
  · rw [failed] at same
    cases same
    exact ⟨cause, rfl⟩

/-- Reading from a source takes a prefix of it and ends in an answer or an error. -/
theorem run_cases (tracks : Tracks reader) (input : List τ) :
    (∃ value used rest, input = used ++ rest ∧ reader.run input = .ok value rest) ∨
      ∃ cause rest, reader.run input = .error (.error cause) rest := by
  obtain ⟨used, rest, split, outcome⟩ := tracks ⟨input, []⟩
  rcases outcome with ⟨value, done⟩ | ⟨cause, failed⟩
  · exact .inl ⟨value, used, rest, split, by simp [Reader.run, done]⟩
  · exact .inr ⟨cause, rest, by simp [Reader.run, failed]⟩

theorem runOn (tracks : Tracks reader) (input : List τ) : Settled (reader.runOn input) := by
  intro fault failed
  rcases tracks.run_cases input with ⟨value, used, rest, -, done⟩ | ⟨cause, rest, same⟩
  · simp [Reader.runOn, done] at failed
  · simp only [Reader.runOn, same, Except.error.injEq] at failed
    exact ⟨cause, failed.symm⟩

end Tracks

end RecDtn.Wire
