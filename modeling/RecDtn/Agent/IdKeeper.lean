import Mathlib.Data.List.AList
import RecDtn.Bpv7.Builder
import RecDtn.Bpv7.BundleId
import RecDtn.Bpv7.Lifetime
import RecDtn.Lang.Run

/-! Counters that number the bundles of a source with the same creation time. -/

namespace RecDtn.Agent

open Lang Bpv7 List

structure IdTuple where
  source : EndpointID
  time : DtnTime
  deriving DecidableEq

def newIdTuple (bndl : Bundle) : IdTuple :=
  ⟨bndl.primaryBlock.sourceNode, bndl.primaryBlock.creationTimestamp.dtnTime⟩

structure IdKeeper where
  data : AList fun _ : IdTuple => UInt64

/-- An hour in nanoseconds. -/
def hour : Int := 3600000000000

namespace IdKeeper

def new : IdKeeper := ⟨∅⟩

variable (idk : IdKeeper)

/-- The number that the next bundle of the tuple gets. -/
def next (tpl : IdTuple) : UInt64 :=
  match idk.data.lookup tpl with
  | some state => state + 1
  | none => 0

def update (bndl : Bundle) : IdKeeper × Bundle :=
  let tpl := newIdTuple bndl
  (⟨idk.data.insert tpl (idk.next tpl)⟩,
    { bndl with primaryBlock := { bndl.primaryBlock with
        creationTimestamp := ⟨bndl.primaryBlock.creationTimestamp.dtnTime, idk.next tpl⟩ } })

/-- Forget the tuples from before the last hour. The epoch is before it, too. -/
def clean (now : Time) : IdKeeper :=
  let threshold := dtnTimeFromTime (now - hour)
  ⟨idk.data.keys.foldl (fun data tpl => if tpl.time < threshold then data.erase tpl
    else data) idk.data⟩

variable {idk}

theorem lookup_clean (now : Time) (tpl : IdTuple) : (idk.clean now).data.lookup tpl =
    if tpl.time < dtnTimeFromTime (now - hour) then none else idk.data.lookup tpl := by
  have loop : ∀ (keys : List IdTuple) (data : AList fun _ : IdTuple => UInt64),
      (keys.foldl (fun data tpl => if tpl.time < dtnTimeFromTime (now - hour)
        then data.erase tpl else data) data).lookup tpl =
      if tpl ∈ keys ∧ tpl.time < dtnTimeFromTime (now - hour) then none else data.lookup tpl := by
    intro keys
    induction keys with
    | nil => simp
    | cons key rest ih =>
      intro data
      rw [foldl_cons, ih]
      by_cases same : tpl = key
      · subst same
        by_cases old : tpl.time < dtnTimeFromTime (now - hour)
        · simp [old, AList.lookup_erase]
        · simp [old]
      · by_cases old : key.time < dtnTimeFromTime (now - hour)
        · simp [old, same, AList.lookup_erase_ne same]
        · simp [old, same]
  rw [clean, loop]
  by_cases known : tpl ∈ idk.data.keys
  · simp [known]
  · have absent : idk.data.lookup tpl = none :=
      AList.lookup_eq_none.mpr fun member => known (AList.mem_keys.mp member)
    simp [absent]

end IdKeeper

/-- The creation time is the epoch, or at most an hour ago. -/
def Recent (time : DtnTime) (now : Time) : Prop :=
  time = 0 ∨ now - Bundle.clock time.toNat ≤ hour

instance (time : DtnTime) (now : Time) : Decidable (Recent time now) :=
  inferInstanceAs (Decidable (_ ∨ _))

theorem Recent.before {time : DtnTime} {now later : Time} (recent : Recent time later)
    (ordered : now ≤ later) : Recent time now := by
  rcases recent with epoch | young
  · exact .inl epoch
  · exact .inr (Int.le_trans (Int.sub_le_sub_right ordered _) young)

/-- Within the range of `UnixNano`, and from the year 2000 on, nothing wraps. -/
theorem toNat_dtnTimeFromTime {time : Int} (start : Bundle.clock 0 ≤ time) (bound : time < 2 ^ 63) :
    ((dtnTimeFromTime time).toNat : Int) = time / 1000000 - 946684800000 := by
  have late : (946684800000000000 : Int) ≤ time := start
  have nanos : (Int64.ofInt time).toInt = time := Int64.toInt_ofInt_of_le (by omega) bound
  have factor : (1000000 : Int64).toInt = 1000000 := by decide
  have shift : DtnTime.milliseconds1970To2k.toInt = 946684800000 := by decide
  have millis : (Int64.ofInt time / 1000000 - DtnTime.milliseconds1970To2k).toInt =
      time / 1000000 - 946684800000 := by
    have whole : (time / 1000000).bmod (2 ^ 64) = time / 1000000 :=
      Int.bmod_eq_of_le (by omega) (by omega)
    rw [Int64.toInt_sub, Int64.toInt_div, nanos, factor, shift,
      Int.tdiv_eq_ediv_of_nonneg (by omega), whole]
    exact Int.bmod_eq_of_le (by omega) (by omega)
  have nonneg : 0 ≤ Int64.ofInt time / 1000000 - DtnTime.milliseconds1970To2k := by
    have zero : (0 : Int64).toInt = 0 := rfl
    rw [Int64.le_iff_toInt_le, millis]
    omega
  rw [dtnTimeFromTime, Int64.toNat_toUInt64_of_le nonneg, Int64.toNatClampNeg, millis]
  omega

/-- A counter that a recent bundle may still need is forgotten exactly if it
belongs to the epoch. -/
theorem IdKeeper.lookup_clean_of_recent {idk : IdKeeper} {now later : Int} {tpl : IdTuple}
    (start : Bundle.clock 3600001 ≤ now) (bound : now - hour < 2 ^ 63) (ordered : now ≤ later)
    (recent : Recent tpl.time later) :
    (idk.clean now).data.lookup tpl = if tpl.time = 0 then none else idk.data.lookup tpl := by
  have hourly : hour = 3600000000000 := rfl
  have late : (946688400001000000 : Int) ≤ now := start
  have after : (946684800000000000 : Int) ≤ now - hour := by omega
  have threshold := toNat_dtnTimeFromTime after bound
  have older : tpl.time < dtnTimeFromTime (now - hour) ↔ tpl.time = 0 := by
    rw [UInt64.lt_iff_toNat_lt]
    constructor
    · intro old
      by_contra created
      have young : later - (tpl.time.toNat + 946684800000) * 1000000 ≤ hour := recent.resolve_left created
      omega
    · intro epoch
      have zero : (0 : UInt64).toNat = 0 := rfl
      rw [epoch]
      omega
  rw [lookup_clean]
  simp only [older]

/-- Source, creation time and sequence number. -/
abbrev Stamp := EndpointID × CreationTimestamp

def Stamp.tuple (stamp : Stamp) : IdTuple := ⟨stamp.1, stamp.2.dtnTime⟩

/-- The keeper, the last reading of the clock, and what has been assigned to
bundles that were recent then. -/
structure Keeping where
  keeper : IdKeeper
  clock : Time
  assigned : List Stamp

variable {clock : Time} {events : List Event}

namespace Keeping

def new (clock : Time) : Keeping := ⟨.new, clock, []⟩

/-- The calls of the keeper, with the time at which they are made. -/
inductive Event where
  | update (bndl : Bundle) (now : Time)
  | clean (now : Time)

def Event.time : Event → Time
  | .update _ now => now
  | .clean now => now

def update (keeping : Keeping) (bndl : Bundle) (now : Time) : Keeping :=
  let updated := keeping.keeper.update bndl
  ⟨updated.1, now,
    if Recent bndl.primaryBlock.creationTimestamp.dtnTime now then
      keeping.assigned ++ [(updated.2.id.sourceNode, updated.2.id.timestamp)]
    else keeping.assigned⟩

def step (keeping : Keeping) : Event → Keeping
  | .update bndl now => keeping.update bndl now
  | .clean now => ⟨keeping.keeper.clean now, now, keeping.assigned⟩

/-- No two of the bundles have got the same stamp. -/
def Distinct (keeping : Keeping) : Prop := keeping.assigned.Nodup

/-- The clock does not go back. -/
def Forward (keeping : Keeping) (event : Event) : Prop := keeping.clock ≤ event.time

/-- A recent bundle finds the counter of its tuple and room in it; without a
counter, no bundle of the tuple has been numbered before. -/
def Counted (keeping : Keeping) : Event → Prop
  | .update bndl now => Recent bndl.primaryBlock.creationTimestamp.dtnTime now →
      (∀ state, keeping.keeper.data.lookup (newIdTuple bndl) = some state →
      state ≠ 18446744073709551615) ∧ (keeping.keeper.data.lookup (newIdTuple bndl) = none →
        ∀ stamp ∈ keeping.assigned, Stamp.tuple stamp ≠ newIdTuple bndl)
  | .clean _ => True

/-- As long as a tuple is recent, its counter has not fallen behind; and a tuple
that has been numbered has got the first number. -/
structure Tallied (keeping : Keeping) : Prop where
  below : ∀ stamp ∈ keeping.assigned, Recent stamp.2.dtnTime keeping.clock →
    ∀ state, keeping.keeper.data.lookup (Stamp.tuple stamp) = some state →
      stamp.2.sequenceNumber.toNat ≤ state.toNat
  first : ∀ stamp ∈ keeping.assigned, (stamp.1, ⟨stamp.2.dtnTime, 0⟩) ∈ keeping.assigned
  started : ∀ tpl state, keeping.keeper.data.lookup tpl = some state →
    Recent tpl.time keeping.clock → (tpl.source, ⟨tpl.time, 0⟩) ∈ keeping.assigned

theorem tallied_new (clock : Time) : (new clock).Tallied where
  below _ member := by cases member
  first _ member := by cases member
  started _ _ found := by cases found

variable {keeping : Keeping} {bndl : Bundle} {now : Time}

/-- The stamp of the next bundle with this source and creation time. -/
def stamp (keeping : Keeping) (bndl : Bundle) : Stamp :=
  ((newIdTuple bndl).source, ⟨(newIdTuple bndl).time, keeping.keeper.next (newIdTuple bndl)⟩)

theorem assigned_update_of_recent (recent : Recent (newIdTuple bndl).time now) :
    (keeping.update bndl now).assigned = keeping.assigned ++ [keeping.stamp bndl] :=
  if_pos recent

theorem assigned_update_of_old (old : ¬Recent (newIdTuple bndl).time now) :
    (keeping.update bndl now).assigned = keeping.assigned :=
  if_neg old

theorem lookup_update (tpl : IdTuple) : (keeping.update bndl now).keeper.data.lookup tpl =
    if tpl = newIdTuple bndl then some (keeping.keeper.next (newIdTuple bndl))
    else keeping.keeper.data.lookup tpl := by
  by_cases same : tpl = newIdTuple bndl
  · rw [if_pos same, same]
    exact AList.lookup_insert _
  · rw [if_neg same]
    exact AList.lookup_insert_ne same

private theorem toNat_succ {state : UInt64} (room : state ≠ 18446744073709551615) :
    (state + 1).toNat = state.toNat + 1 := by
  have bound := state.toNat_lt
  have short : state.toNat ≠ 18446744073709551615 := by
    intro full
    exact room (UInt64.toNat_inj.mp full)
  have one : (1 : UInt64).toNat = 1 := rfl
  rw [UInt64.toNat_add, one]
  omega

section

variable (tallied : keeping.Tallied)

include tallied

/-- The next stamp is a new one exactly if the counter was kept and has room. -/
theorem Tallied.stamp_new_iff (forward : keeping.clock ≤ now)
    (recent : Recent (newIdTuple bndl).time now) :
    keeping.stamp bndl ∉ keeping.assigned ↔ keeping.Counted (.update bndl now) := by
  have young := recent.before forward
  cases found : keeping.keeper.data.lookup (newIdTuple bndl) with
  | some state =>
    have number : keeping.keeper.next (newIdTuple bndl) = state + 1 := by
      rw [IdKeeper.next, found]
    constructor
    · intro fresh _
      refine ⟨?_, fun none => absurd (found.symm.trans none) (by simp)⟩
      intro counter same full
      cases found.symm.trans same
      apply fresh
      rw [stamp, number, full]
      exact tallied.started _ _ found young
    · intro counted used
      have room := (counted recent).1 state found
      have below : (keeping.keeper.next (newIdTuple bndl)).toNat ≤ state.toNat :=
        tallied.below _ used young state found
      rw [number, toNat_succ room] at below
      omega
  | none =>
    have number : keeping.keeper.next (newIdTuple bndl) = 0 := by
      rw [IdKeeper.next, found]
    constructor
    · intro fresh _
      refine ⟨fun counter same => absurd (found.symm.trans same) (by simp), ?_⟩
      intro _ earlier member same
      apply fresh
      rw [stamp, number, ← same]
      exact tallied.first earlier member
    · intro counted used
      exact (counted recent).2 found _ used rfl

theorem Tallied.update_of_recent (forward : keeping.clock ≤ now)
    (recent : Recent (newIdTuple bndl).time now)
    (counted : keeping.Counted (.update bndl now)) : (keeping.update bndl now).Tallied := by
  have young := recent.before forward
  have started : ((newIdTuple bndl).source, ⟨(newIdTuple bndl).time, 0⟩) ∈
      keeping.assigned ++ [keeping.stamp bndl] := by
    cases found : keeping.keeper.data.lookup (newIdTuple bndl) with
    | some state => exact mem_append_left _ (tallied.started _ state found young)
    | none =>
      apply mem_append_right
      rw [stamp, IdKeeper.next, found]
      exact mem_singleton_self _
  constructor
  · intro earlier member later state found
    rw [assigned_update_of_recent recent] at member
    rw [lookup_update] at found
    rcases mem_append.mp member with old | new
    · by_cases same : Stamp.tuple earlier = newIdTuple bndl
      · -- The counter of this tuple goes up.
        rw [if_pos same] at found
        cases found
        cases before : keeping.keeper.data.lookup (newIdTuple bndl) with
        | none => exact absurd same ((counted recent).2 before earlier old)
        | some state =>
          have below := tallied.below earlier old (later.before forward) state (by rw [same, before])
          have after := toNat_succ ((counted recent).1 state before)
          rw [IdKeeper.next, before]
          simp only
          omega
      · rw [if_neg same] at found
        exact tallied.below earlier old (later.before forward) state found
    · cases mem_singleton.mp new
      have own : Stamp.tuple (keeping.stamp bndl) = newIdTuple bndl := rfl
      rw [if_pos own] at found
      cases found
      exact Nat.le_refl _
  · intro earlier member
    rw [assigned_update_of_recent recent] at member ⊢
    rcases mem_append.mp member with old | new
    · exact mem_append_left _ (tallied.first earlier old)
    · cases mem_singleton.mp new
      exact started
  · intro tpl state found later
    rw [assigned_update_of_recent recent]
    rw [lookup_update] at found
    by_cases same : tpl = newIdTuple bndl
    · rw [same]
      exact started
    · rw [if_neg same] at found
      exact mem_append_left _ (tallied.started tpl state found (later.before forward))

/-- The counters of tuples that are not recent do not matter any more. -/
theorem Tallied.update_of_old (forward : keeping.clock ≤ now)
    (old : ¬Recent (newIdTuple bndl).time now) : (keeping.update bndl now).Tallied := by
  constructor
  · intro earlier member later state found
    rw [assigned_update_of_old old] at member
    have other : Stamp.tuple earlier ≠ newIdTuple bndl := by
      intro same
      rw [← same] at old
      exact old later
    rw [lookup_update, if_neg other] at found
    exact tallied.below earlier member (later.before forward) state found
  · rw [assigned_update_of_old old]
    exact tallied.first
  · intro tpl state found later
    rw [assigned_update_of_old old]
    have other : tpl ≠ newIdTuple bndl := by
      rintro rfl
      exact old later
    rw [lookup_update, if_neg other] at found
    exact tallied.started tpl state found (later.before forward)

theorem Tallied.clean (forward : keeping.clock ≤ now) : (keeping.step (.clean now)).Tallied := by
  have kept : ∀ {tpl state}, (keeping.keeper.clean now).data.lookup tpl = some state →
      keeping.keeper.data.lookup tpl = some state := by
    intro tpl state found
    rw [IdKeeper.lookup_clean] at found
    split at found
    · cases found
    · exact found
  constructor
  · intro earlier member later state found
    exact tallied.below earlier member (later.before forward) state (kept found)
  · exact tallied.first
  · intro tpl state found later
    exact tallied.started tpl state (kept found) (later.before forward)

variable {event : Event} {calls : Nat}

theorem distinct_step_iff (distinct : keeping.Distinct) (forward : keeping.Forward event) :
    (keeping.step event).Distinct ↔ keeping.Counted event := by
  cases event with
  | clean now => exact iff_of_true distinct trivial
  | update bndl now =>
    by_cases recent : Recent (newIdTuple bndl).time now
    · have ahead : keeping.clock ≤ now := forward
      rw [← tallied.stamp_new_iff ahead recent, step, Distinct, assigned_update_of_recent recent,
        ← concat_eq_append, nodup_concat]
      exact and_iff_left distinct
    · refine iff_of_true ?_ (fun young => absurd young recent)
      rw [step, Distinct, assigned_update_of_old recent]
      exact distinct

theorem tallied_step (distinct : (keeping.step event).Distinct) (forward : keeping.Forward event) :
    (keeping.step event).Tallied := by
  cases event with
  | clean now => exact tallied.clean forward
  | update bndl now =>
    by_cases recent : Recent (newIdTuple bndl).time now
    · refine tallied.update_of_recent forward recent ((tallied.stamp_new_iff forward recent).mp ?_)
      rw [step, Distinct, assigned_update_of_recent recent, ← concat_eq_append, nodup_concat] at distinct
      exact distinct.1
    · exact tallied.update_of_old forward recent

end

/-- A bundle comes from a node with a clock; and when the counters are cleaned, the
year 2000 began more than an hour ago, and `UnixNano` has room. -/
def Timely (keeping : Keeping) (event : Event) : Prop :=
  keeping.Forward event ∧ match event with
    | .update bndl _ => (newIdTuple bndl).time ≠ 0
    | .clean now => Bundle.clock 3600001 ≤ now ∧ now - hour < 2 ^ 63

/-- What is known of the counters after so many calls. -/
structure Remembers (keeping : Keeping) (calls : Nat) : Prop where
  below : ∀ tpl state, keeping.keeper.data.lookup tpl = some state → state.toNat < calls
  timed : ∀ stamp ∈ keeping.assigned, (Stamp.tuple stamp).time ≠ 0
  known : ∀ stamp ∈ keeping.assigned, Recent (Stamp.tuple stamp).time keeping.clock →
    keeping.keeper.data.lookup (Stamp.tuple stamp) ≠ none

theorem Remembers.update (remembers : keeping.Remembers calls)
    (timely : keeping.Timely (.update bndl now)) :
    (keeping.update bndl now).Remembers (calls + 1) := by
  have added : ∀ stamp ∈ (keeping.update bndl now).assigned,
      stamp ∈ keeping.assigned ∨ Stamp.tuple stamp = newIdTuple bndl := by
    intro stamp member
    by_cases recent : Recent (newIdTuple bndl).time now
    · rw [assigned_update_of_recent recent, mem_append, mem_singleton] at member
      exact member.imp_right fun same => by rw [same]; rfl
    · rw [assigned_update_of_old recent] at member
      exact .inl member
  refine ⟨?_, ?_, ?_⟩
  · intro tpl state found
    rw [lookup_update] at found
    split at found
    · cases found
      unfold IdKeeper.next
      split
      · rename_i state before
        have less := remembers.below _ _ before
        have one : (1 : UInt64).toNat = 1 := rfl
        rw [UInt64.toNat_add, one]
        omega
      · exact Nat.succ_pos _
    · exact Nat.lt_succ_of_lt (remembers.below _ _ found)
  · intro stamp member
    rcases added stamp member with old | same
    · exact remembers.timed stamp old
    · rw [same]
      exact timely.2
  · intro stamp member recent
    rw [lookup_update]
    split
    · exact Option.some_ne_none _
    · rename_i other
      exact remembers.known stamp ((added stamp member).resolve_right other) (recent.before timely.1)

theorem Remembers.clean (remembers : keeping.Remembers calls)
    (timely : keeping.Timely (.clean now)) : (keeping.step (.clean now)).Remembers (calls + 1) := by
  refine ⟨?_, remembers.timed, ?_⟩
  · intro tpl state found
    rw [step, IdKeeper.lookup_clean] at found
    split at found
    · cases found
    · exact Nat.lt_succ_of_lt (remembers.below _ _ found)
  · intro stamp member recent
    rw [step, IdKeeper.lookup_clean_of_recent timely.2.1 timely.2.2 (Int.le_refl now) recent,
      if_neg (remembers.timed stamp member)]
    exact remembers.known stamp member (recent.before timely.1)

theorem remembers_run (timely : Guarded step Timely (new clock) events) :
    (run step (new clock) events).Remembers events.length := by
  induction events using List.reverseRecOn with
  | nil => exact ⟨fun _ _ found => (nomatch found), fun _ member => (nomatch member), fun _ member => (nomatch member)⟩
  | append_singleton events event ih =>
    rw [run_append, length_append]
    have remembers := ih timely.before
    cases event with
    | update bndl now => exact remembers.update timely.last
    | clean now => exact remembers.clean timely.last

end Keeping

open Keeping in
/-- With a clock that never goes back, recent bundles get different stamps
exactly if each of them finds a counter with room, or is the first one of its
source and creation time. -/
theorem distinct_throughout_iff {clock : Time} {events : List Event}
    (forward : Guarded step Forward (new clock) events) :
    Throughout step Distinct (new clock) events ↔ Guarded step Counted (new clock) events := by
  refine throughout_iff_guarded_among Tallied ?_ ?_ forward (tallied_new clock) nodup_nil
  · intro keeping event ahead tallied distinct
    exact tallied_step tallied distinct ahead
  · intro keeping event ahead tallied distinct
    exact distinct_step_iff tallied distinct ahead

open Keeping in
/-- Among bundles from nodes with a clock, recent ones get different stamps
whenever the counters are cleaned. -/
theorem distinct_of_timely (timely : Guarded step Timely (new clock) events)
    (few : events.length < 2 ^ 64) : Throughout step Distinct (new clock) events := by
  have forward : Guarded step Forward (new clock) events :=
    fun before event after same => (timely before event after same).1
  refine (throughout_iff_guarded_among Tallied
    (fun _ _ ahead tallied distinct => tallied_step tallied distinct ahead)
    (fun _ _ ahead tallied distinct => distinct_step_iff tallied distinct ahead) forward
      (tallied_new clock)
    nodup_nil).mpr ?_
  rintro before (⟨bndl, now⟩ | ⟨now⟩) after rfl
  · intro recent
    have remembers := remembers_run timely.before
    rw [length_append, length_cons] at few
    refine ⟨?_, ?_⟩
    · rintro state found rfl
      have below : 18446744073709551615 < before.length := remembers.below _ _ found
      omega
    · intro forgotten stamp member same
      have ahead := (timely before (.update bndl now) after rfl).1
      refine remembers.known stamp member ?_ (by rw [same, forgotten])
      rw [same]
      exact Recent.before recent ahead
  · trivial

open Keeping in
theorem clockless_distinct : Throughout step Distinct (new (Bundle.clock 86400000))
    [.update clocklessBundle (Bundle.clock 86400000),
      .update clocklessBundle (Bundle.clock 86400000)] := by
  refine (distinct_throughout_iff ?_).mpr ?_
  · simp only [guarded_cons, guarded_nil, and_true]
    exact ⟨Int.le_refl _, Int.le_refl _⟩
  · simp only [guarded_cons, guarded_nil, and_true]
    refine ⟨fun _ => ⟨?_, ?_⟩, fun _ => ⟨?_, ?_⟩⟩
    · intro state found
      cases found
    · intro _ stamp used
      cases used
    · intro state found
      cases found
      decide
    · intro forgotten
      cases forgotten

open Keeping in
/-- The counter is forgotten between two bundles. -/
theorem clockless_cleaned_not_distinct : ¬Throughout step Distinct (new (Bundle.clock 86400000))
    [.update clocklessBundle (Bundle.clock 86400000), .clean (Bundle.clock 86400000),
      .update clocklessBundle (Bundle.clock 86400000)] := by
  intro throughout
  have distinct := throughout _ [] (append_nil _).symm
  unfold Distinct at distinct
  exact absurd distinct (by decide +kernel)

open Keeping in
/-- An hour later it gets a second stamp. -/
theorem timedBundle_distinct : Throughout step Distinct (new (Bundle.clock 3600001))
    [.update plainBundle (Bundle.clock 3600001), .clean (Bundle.clock 3600001),
      .update plainBundle (Bundle.clock 3600001)] := by
  refine distinct_of_timely ?_ (by decide)
  simp only [guarded_cons, guarded_nil, and_true]
  exact ⟨⟨Int.le_refl _, by decide⟩, ⟨Int.le_refl _, by decide⟩, Int.le_refl _, by decide⟩

end RecDtn.Agent
