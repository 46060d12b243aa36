import RecDtn.Lang.Run

/-! The manager of the convergence layer adapters. -/

namespace RecDtn.Cla

open Lang List

/-- An adapter: one object, with an address that need not be its own. -/
structure Convergence where
  object : Nat
  address : List UInt8
  isReceiver : Bool
  isSender : Bool
  deriving DecidableEq

inductive Role where
  | receiver
  | sender

/-- Whether the type assertion for the role succeeds. -/
def Convergence.plays (cla : Convergence) : Role → Bool
  | .receiver => cla.isReceiver
  | .sender => cla.isSender

structure Manager where
  receivers : List Convergence
  senders : List Convergence
  pendingStart : List Convergence
  pendingRemoval : List (List UInt8)

variable {succeeded : Bool}

namespace Manager

def new : Manager := ⟨[], [], [], []⟩

def listed (manager : Manager) : Role → List Convergence
  | .receiver => manager.receivers
  | .sender => manager.senders

def checkPresent (manager : Manager) (cla : Convergence) : Bool :=
  (manager.pendingStart.any fun pending => cla.address = pending.address) ||
    (cla.isReceiver && manager.receivers.any fun registered => cla.address = registered.address) ||
    (cla.isSender && manager.senders.any fun registered => cla.address = registered.address)

/-- `registerAsync`, and whether it starts `activateCLA`. -/
def registerAsync (manager : Manager) (cla : Convergence) : Bool × Manager :=
  if manager.checkPresent cla = true then (false, manager)
  else (true, { manager with pendingStart := manager.pendingStart ++ [cla] })

/-- The part of `activateCLA` after `Activate`. -/
def activateCLA (manager : Manager) (cla : Convergence) (succeeded : Bool) : Manager :=
  { manager with
    pendingStart := manager.pendingStart.filter fun pending => cla.address ≠ pending.address
    receivers := if succeeded = true ∧
      cla.isReceiver = true then manager.receivers ++ [cla] else manager.receivers
    senders := if succeeded = true ∧
      cla.isSender = true then manager.senders ++ [cla] else manager.senders }

/-- `NotifyDisconnect` goes on, unless a removal is pending for the address. -/
def markRemoval (manager : Manager) (cla : Convergence) : Bool × Manager :=
  if cla.address ∈ manager.pendingRemoval then (false, manager)
  else (true, { manager with pendingRemoval := cla.address :: manager.pendingRemoval })

/-- The part of `NotifyDisconnect` with the lists. -/
def notifyDisconnect (manager : Manager) (cla : Convergence) : Manager :=
  { manager with
    receivers :=
      if cla.isReceiver = true then manager.receivers.filter fun registered => cla.address ≠ registered.address
      else manager.receivers
    senders :=
      if cla.isSender = true then manager.senders.filter fun registered => cla.address ≠ registered.address
      else manager.senders }

def clearRemoval (manager : Manager) (cla : Convergence) : Manager :=
  { manager with pendingRemoval := manager.pendingRemoval.filter fun address => cla.address ≠ address }

variable {manager : Manager} {cla other : Convergence} {role : Role}

theorem mem_listed_activateCLA : other ∈ (manager.activateCLA cla succeeded).listed role ↔
      other ∈ manager.listed role ∨ succeeded = true ∧ cla.plays role = true ∧ other = cla := by
  have appended : ∀ {list : List Convergence} {plays : Bool},
      other ∈ (if succeeded = true ∧ plays = true then list ++ [cla] else list) ↔
        other ∈ list ∨ succeeded = true ∧ plays = true ∧ other = cla := by
    intro list plays
    split
    · rename_i both
      simp [both]
    · rename_i not
      constructor
      · exact .inl
      · rintro (before | ⟨done, plays, -⟩)
        · exact before
        · exact absurd ⟨done, plays⟩ not
  cases role with
  | receiver => exact appended
  | sender => exact appended

theorem mem_listed_notifyDisconnect : other ∈ (manager.notifyDisconnect cla).listed role ↔
    other ∈ manager.listed role ∧ (cla.plays role = true → other.address ≠ cla.address) := by
  have filtered : ∀ {list : List Convergence} {plays : Bool},
      other ∈ (if plays = true then list.filter fun registered => cla.address ≠ registered.address else list) ↔
        other ∈ list ∧ (plays = true → other.address ≠ cla.address) := by
    intro list plays
    split
    · rename_i plays
      rw [mem_filter, decide_eq_true_eq]
      exact and_congr_right fun _ => ⟨fun different _ => different.symm, fun different => (different plays).symm⟩
    · rename_i not
      simp [not]
  cases role with
  | receiver => exact filtered
  | sender => exact filtered

end Manager

/-- The manager, the calls at work on it, and the adapters that are live: their
`Activate` has succeeded, and `NotifyDisconnect` has not been called since. -/
structure Calls where
  manager : Manager
  /-- Calls of `registerAsync` before the state lock. -/
  registering : List Convergence
  /-- Calls of `Activate`. -/
  activating : List Convergence
  /-- Calls of `activateCLA` before the state lock, and how `Activate` went. -/
  activated : List (Convergence × Bool)
  /-- Calls of `NotifyDisconnect` before they look for a pending removal. -/
  reporting : List Convergence
  /-- Calls of `NotifyDisconnect` before the state lock. -/
  marked : List Convergence
  /-- The call of `NotifyDisconnect` that has changed the lists, and still has
  the state lock. -/
  removing : Option Convergence
  live : List Convergence

inductive ManagerEvent where
  | register (cla : Convergence)
  | enter (position : Nat)
  | activate (position : Nat) (succeeded : Bool)
  | enlist (position : Nat)
  | disconnect (cla : Convergence)
  | mark (position : Nat)
  | remove (position : Nat)
  | unmark

namespace Calls

def start : Calls := ⟨.new, [], [], [], [], [], none, []⟩

/-- A call that needs the state lock, if the lock is free. -/
def locked {α : Type} (calls : Calls) (waiting : List α) (position : Nat) : Option α :=
  match calls.removing with
  | none => waiting[position]?
  | some _ => none

def step (calls : Calls) : ManagerEvent → Calls
  | .register cla => { calls with registering := calls.registering ++ [cla] }
  | .enter position =>
    match calls.locked calls.registering position with
    | none => calls
    | some cla =>
      let registered := calls.manager.registerAsync cla
      { calls with
        manager := registered.2
        registering := calls.registering.eraseIdx position
        activating := if registered.1 = true then calls.activating ++ [cla] else calls.activating }
  | .activate position succeeded =>
    match calls.activating[position]? with
    | none => calls
    | some cla =>
      { calls with
        activating := calls.activating.eraseIdx position
        activated := calls.activated ++ [(cla, succeeded)]
        live := if succeeded = true then cla :: calls.live else calls.live }
  | .enlist position =>
    match calls.locked calls.activated position with
    | none => calls
    | some (cla, succeeded) =>
      { calls with
        manager := calls.manager.activateCLA cla succeeded
        activated := calls.activated.eraseIdx position }
  | .disconnect cla =>
    { calls with
      reporting := calls.reporting ++ [cla]
      live := calls.live.filter fun other => other ≠ cla }
  | .mark position =>
    match calls.reporting[position]? with
    | none => calls
    | some cla =>
      let marking := calls.manager.markRemoval cla
      { calls with
        manager := marking.2
        reporting := calls.reporting.eraseIdx position
        marked := if marking.1 = true then calls.marked ++ [cla] else calls.marked }
  | .remove position =>
    match calls.locked calls.marked position with
    | none => calls
    | some cla =>
      { calls with
        manager := calls.manager.notifyDisconnect cla
        marked := calls.marked.eraseIdx position
        removing := some cla }
  | .unmark =>
    match calls.removing with
    | none => calls
    | some cla => { calls with manager := calls.manager.clearRemoval cla, removing := none }

/-- No call is at work. -/
structure Quiescent (calls : Calls) : Prop where
  registering : calls.registering = []
  activating : calls.activating = []
  activated : calls.activated = []
  reporting : calls.reporting = []
  marked : calls.marked = []
  removing : calls.removing = none

/-- The lists have the adapters that are live, and no other ones. -/
def ListsLive (calls : Calls) : Prop :=
  ∀ role cla, cla ∈ calls.manager.listed role ↔ cla.plays role = true ∧ cla ∈ calls.live

/-- A call of `NotifyDisconnect` is going to take what has this address from
the list. -/
def Leaving (calls : Calls) (role : Role) (address : List UInt8) : Prop :=
  ∃ cla ∈ calls.reporting ++ calls.marked, cla.address = address ∧ cla.plays role = true

/-- An adapter that has disconnected before it is listed is going to be removed.
A removal does not hit a live adapter. A call that gives way to a pending removal
leaves nothing for itself to do. -/
def DisconnectGuard (calls : Calls) : ManagerEvent → Prop
  | .enlist position => ∀ cla, calls.locked calls.activated position = some (cla, true) →
      cla ∈ calls.live ∨ ∀ role, cla.plays role = true → calls.Leaving role cla.address
  | .remove position => ∀ cla, calls.locked calls.marked position = some cla →
      ∀ role, cla.plays role = true → ∀ other ∈ calls.manager.listed role,
        other.address = cla.address → other ∉ calls.live
  | .mark position => ∀ cla, calls.reporting[position]? = some cla →
      ∀ other ∈ calls.marked ++ calls.removing.toList, other.address = cla.address →
        ∀ role, cla.plays role = true → other.plays role = true
  | _ => True

/-- Whoever is listed is live or is going to be removed. Whoever is live is
listed or is going to be. -/
structure Accounted (calls : Calls) : Prop where
  listed : ∀ role, ∀ cla ∈ calls.manager.listed role,
    cla.plays role = true ∧ (cla ∈ calls.live ∨ calls.Leaving role cla.address)
  live : ∀ role, ∀ cla ∈ calls.live, cla.plays role = true →
    cla ∈ calls.manager.listed role ∨ (cla, true) ∈ calls.activated
  removed : ∀ cla, calls.removing = some cla → ∀ role, cla.plays role = true →
    ∀ other ∈ calls.manager.listed role, other.address ≠ cla.address
  pending : ∀ address ∈ calls.manager.pendingRemoval,
    ∃ cla ∈ calls.marked ++ calls.removing.toList, cla.address = address

theorem accounted_start : start.Accounted := by
  refine ⟨?_, ?_, ?_, ?_⟩
  · intro role cla member
    cases role <;> cases member
  · intro role cla member
    cases member
  · intro cla removing
    cases removing
  · intro address member
    cases member

variable {calls : Calls}

theorem Accounted.listsLive (accounted : calls.Accounted) (quiescent : calls.Quiescent) :
    calls.ListsLive := by
  intro role cla
  constructor
  · intro member
    obtain ⟨plays, live | ⟨other, leaving, -⟩⟩ := accounted.listed role cla member
    · exact ⟨plays, live⟩
    · rw [quiescent.reporting, quiescent.marked] at leaving
      cases leaving
  · rintro ⟨plays, live⟩
    rcases accounted.live role cla live plays with listed | waiting
    · exact listed
    · rw [quiescent.activated] at waiting
      cases waiting

variable {α : Type} {position : Nat} {activating : List Convergence}

theorem mem_of_getElem? {items : List α} {item other : α} (there : items[position]? = some item) :
    other ∈ items ↔ other = item ∨ other ∈ items.eraseIdx position := by
  rw [(perm_of_getElem? there).mem_iff, mem_cons]

theorem locked_eq_some {waiting : List α} {call : α} :
    calls.locked waiting position = some call ↔ calls.removing = none ∧
      waiting[position]? = some call := by
  unfold locked
  cases calls.removing with
  | none => simp
  | some cla => simp

variable {cla : Convergence}

section

variable (accounted : calls.Accounted)

include accounted

/-- The calls that look at neither the lists nor the removals. -/
theorem Accounted.registers {manager : Manager} {registering : List Convergence}
    (listed : ∀ role, manager.listed role = calls.manager.listed role)
    (pending : manager.pendingRemoval = calls.manager.pendingRemoval) :
    Accounted { calls with manager, registering, activating } := by
  refine ⟨?_, ?_, ?_, ?_⟩
  · intro role cla member
    rw [listed] at member
    exact accounted.listed role cla member
  · intro role cla live plays
    rw [listed]
    exact accounted.live role cla live plays
  · intro cla removing role plays
    rw [listed]
    exact accounted.removed cla removing role plays
  · intro address member
    rw [pending] at member
    exact accounted.pending address member

theorem Accounted.enter (position : Nat) : (calls.step (.enter position)).Accounted := by
  unfold step
  simp only
  split
  · exact accounted
  · rename_i cla waiting
    apply accounted.registers
    · intro role
      unfold Manager.registerAsync
      split <;> cases role <;> rfl
    · unfold Manager.registerAsync
      split <;> rfl

theorem Accounted.activates (succeeded : Bool) : Accounted { calls with
      activating
      activated := calls.activated ++ [(cla, succeeded)]
      live := if succeeded = true then cla :: calls.live else calls.live } := by
  refine ⟨?_, ?_, accounted.removed, accounted.pending⟩
  · intro role other member
    obtain ⟨plays, live | leaving⟩ := accounted.listed role other member
    · refine ⟨plays, .inl ?_⟩
      cases succeeded with
      | false => exact live
      | true => exact mem_cons_of_mem _ live
    · exact ⟨plays, .inr leaving⟩
  · intro role other live plays
    have before : other ∈ calls.live → other ∈ calls.manager.listed role ∨
        (other, true) ∈ calls.activated ++ [(cla, succeeded)] := by
      intro earlier
      rcases accounted.live role other earlier plays with listed | waiting
      · exact .inl listed
      · exact .inr (mem_append_left _ waiting)
    cases succeeded with
    | false => exact before live
    | true =>
      rcases mem_cons.mp live with rfl | earlier
      · exact .inr (by simp)
      · exact before earlier

theorem Accounted.enlists (free : calls.removing = none)
    (there : calls.activated[position]? = some (cla, succeeded))
    (guard : succeeded = true → cla ∈ calls.live ∨ ∀ role, cla.plays role = true →
    calls.Leaving role cla.address) : Accounted { calls with
      manager := calls.manager.activateCLA cla succeeded
      activated := calls.activated.eraseIdx position } := by
  refine ⟨?_, ?_, ?_, accounted.pending⟩
  · intro role other member
    rcases Manager.mem_listed_activateCLA.mp member with before | ⟨done, plays, rfl⟩
    · exact accounted.listed role other before
    · refine ⟨plays, ?_⟩
      rcases guard done with live | leaving
      · exact .inl live
      · exact .inr (leaving role plays)
  · intro role other live plays
    rcases accounted.live role other live plays with listed | waiting
    · exact .inl (Manager.mem_listed_activateCLA.mpr (.inl listed))
    · rcases (mem_of_getElem? there).mp waiting with own | later
      · obtain ⟨rfl, rfl⟩ := Prod.mk.inj own
        exact .inl (Manager.mem_listed_activateCLA.mpr (.inr ⟨rfl, plays, rfl⟩))
      · exact .inr later
  · intro other removing
    cases free.symm.trans removing

theorem Accounted.disconnect (cla : Convergence) : (calls.step (.disconnect cla)).Accounted := by
  refine ⟨?_, ?_, accounted.removed, accounted.pending⟩
  · intro role other member
    obtain ⟨plays, live | ⟨leaving, called, same⟩⟩ := accounted.listed role other member
    · refine ⟨plays, ?_⟩
      by_cases own : other = cla
      · subst own
        exact .inr ⟨other, by simp [step], rfl, plays⟩
      · exact .inl (by simpa [step, own] using live)
    · refine ⟨plays, .inr ⟨leaving, ?_, same⟩⟩
      rcases mem_append.mp called with reporting | marked
      · simp [step, reporting]
      · simp [step, marked]
  · intro role other live plays
    exact accounted.live role other (mem_filter.mp live).1 plays

theorem Accounted.gives_way (there : calls.reporting[position]? = some cla)
    (pending : cla.address ∈ calls.manager.pendingRemoval)
    (guard : calls.DisconnectGuard (.mark position)) :
    Accounted { calls with reporting := calls.reporting.eraseIdx position } := by
  refine ⟨?_, accounted.live, accounted.removed, accounted.pending⟩
  intro role other member
  obtain ⟨plays, live | ⟨leaving, called, same, covers⟩⟩ := accounted.listed role other member
  · exact ⟨plays, .inl live⟩
  · refine ⟨plays, .inr ?_⟩
    rcases mem_append.mp called with reporting | marked
    · rcases (mem_of_getElem? there).mp reporting with rfl | later
      · obtain ⟨first, ahead, address⟩ := accounted.pending leaving.address pending
        have covered := guard leaving there first ahead address role covers
        rcases mem_append.mp ahead with marked | removing
        · exact ⟨first, mem_append_right _ marked, address.trans same, covered⟩
        · -- The lists have just been cleared of this address.
          have gone := accounted.removed first (Option.mem_toList.mp removing) role covered other member
          exact absurd (address.trans same).symm gone
      · exact ⟨leaving, mem_append_left _ later, same, covers⟩
    · exact ⟨leaving, mem_append_right _ marked, same, covers⟩

theorem Accounted.marks (there : calls.reporting[position]? = some cla) : Accounted { calls with
      manager := { calls.manager with pendingRemoval := cla.address :: calls.manager.pendingRemoval }
      reporting := calls.reporting.eraseIdx position
      marked := calls.marked ++ [cla] } := by
  refine ⟨?_, ?_, ?_, ?_⟩
  · intro role other member
    obtain ⟨plays, live | ⟨leaving, called, same⟩⟩ :=
      accounted.listed role other (by cases role <;> exact member)
    · exact ⟨plays, .inl live⟩
    · refine ⟨plays, .inr ⟨leaving, ?_, same⟩⟩
      rcases mem_append.mp called with reporting | marked
      · rcases (mem_of_getElem? there).mp reporting with rfl | later
        · simp
        · exact mem_append_left _ later
      · simp [marked]
  · intro role other live plays
    cases role <;> exact accounted.live _ other live plays
  · intro first removing role plays
    cases role <;> exact accounted.removed first removing _ plays
  · intro address member
    rcases mem_cons.mp member with rfl | earlier
    · exact ⟨cla, by simp, rfl⟩
    · obtain ⟨first, ahead, same⟩ := accounted.pending address earlier
      refine ⟨first, ?_, same⟩
      rcases mem_append.mp ahead with marked | removing
      · simp [marked]
      · exact mem_append_right _ removing

theorem Accounted.mark (guard : calls.DisconnectGuard (.mark position)) :
    (calls.step (.mark position)).Accounted := by
  unfold step
  simp only
  split
  · exact accounted
  · rename_i cla there
    unfold Manager.markRemoval
    by_cases pending : cla.address ∈ calls.manager.pendingRemoval
    · simpa [pending] using accounted.gives_way there pending guard
    · simpa [pending] using accounted.marks there

theorem Accounted.removes (free : calls.removing = none) (there : calls.marked[position]? = some cla)
    (guard : ∀ role, cla.plays role = true → ∀ other ∈ calls.manager.listed role,
      other.address = cla.address → other ∉ calls.live) : Accounted { calls with
        manager := calls.manager.notifyDisconnect cla
        marked := calls.marked.eraseIdx position
        removing := some cla } := by
  refine ⟨?_, ?_, ?_, ?_⟩
  · intro role other member
    obtain ⟨before, kept⟩ := Manager.mem_listed_notifyDisconnect.mp member
    obtain ⟨plays, live | ⟨leaving, called, same, covers⟩⟩ :=
      accounted.listed role other before
    · exact ⟨plays, .inl live⟩
    · refine ⟨plays, .inr ⟨leaving, ?_, same, covers⟩⟩
      rcases mem_append.mp called with reporting | marked
      · exact mem_append_left _ reporting
      · rcases (mem_of_getElem? there).mp marked with rfl | later
        · exact absurd same.symm (kept covers)
        · exact mem_append_right _ later
  · intro role other live plays
    rcases accounted.live role other live plays with listed | waiting
    · refine .inl (Manager.mem_listed_notifyDisconnect.mpr ⟨listed, ?_⟩)
      intro hits same
      exact guard role hits other listed same live
    · exact .inr waiting
  · intro first removing role plays other member
    obtain rfl := Option.some.inj removing
    exact (Manager.mem_listed_notifyDisconnect.mp member).2 plays
  · intro address member
    obtain ⟨first, ahead, same⟩ := accounted.pending address member
    rw [free, Option.toList_none, append_nil] at ahead
    refine ⟨first, ?_, same⟩
    rcases (mem_of_getElem? there).mp ahead with rfl | later
    · simp
    · exact mem_append_left _ later

theorem Accounted.unmarks (removing : calls.removing = some cla) :
    Accounted { calls with manager := calls.manager.clearRemoval cla, removing := none } := by
  refine ⟨?_, ?_, ?_, ?_⟩
  · intro role other member
    cases role <;> exact accounted.listed _ other member
  · intro role other live plays
    cases role <;> exact accounted.live _ other live plays
  · intro first impossible
    cases impossible
  · intro address member
    obtain ⟨member, different⟩ := mem_filter.mp member
    obtain ⟨first, ahead, same⟩ := accounted.pending address member
    refine ⟨first, ?_, same⟩
    rw [removing] at ahead
    rcases mem_append.mp ahead with marked | own
    · exact mem_append_left _ marked
    · obtain rfl : first = cla := by simpa using own
      exact absurd same (by simpa using different)

theorem Accounted.step {event : ManagerEvent} (guard : calls.DisconnectGuard event) :
    (calls.step event).Accounted := by
  cases event with
  | register cla => exact accounted.registers (fun _ => rfl) rfl
  | enter position => exact accounted.enter position
  | activate position succeeded =>
    simp only [Calls.step]
    split
    · exact accounted
    · exact accounted.activates succeeded
  | enlist position =>
    simp only [Calls.step]
    split
    · exact accounted
    · rename_i cla succeeded next
      obtain ⟨free, there⟩ := locked_eq_some.mp next
      apply accounted.enlists free there
      rintro rfl
      exact guard cla next
  | disconnect cla => exact accounted.disconnect cla
  | mark position => exact accounted.mark guard
  | remove position =>
    simp only [Calls.step]
    split
    · exact accounted
    · rename_i cla next
      obtain ⟨free, there⟩ := locked_eq_some.mp next
      exact accounted.removes free there (guard cla next)
  | unmark =>
    simp only [Calls.step]
    split
    · exact accounted
    · rename_i cla removing
      exact accounted.unmarks removing

end

/-- If disconnects respect the condition, the lists are right whenever all calls
have come to their end. -/
theorem listsLive_of_guarded {events : List ManagerEvent}
    (guarded : Guarded step DisconnectGuard start events)
    (quiescent : (run step start events).Quiescent) : (run step start events).ListsLive := by
  apply Accounted.listsLive _ quiescent
  apply run_invariant Accounted accounted_start _ guarded
  intro calls event accounted guard
  exact accounted.step guard

end Calls

def firstEndpoint : Convergence := ⟨1, [49], true, true⟩

def secondEndpoint : Convergence := ⟨2, [49], true, true⟩

/-- The adapter is registered, started and listed. -/
def connection (cla : Convergence) : List ManagerEvent :=
  [.register cla, .enter 0, .activate 0 true, .enlist 0]

def disconnection (cla : Convergence) : List ManagerEvent :=
  [.disconnect cla, .mark 0, .remove 0, .unmark]

theorem reconnection_listsLive : secondEndpoint ∈ (run Calls.step .start
      (connection firstEndpoint ++ disconnection firstEndpoint ++ connection secondEndpoint)).live ∧
    (run Calls.step .start
      (connection firstEndpoint ++ disconnection firstEndpoint ++ connection secondEndpoint)).ListsLive := by
  refine ⟨by decide, Calls.listsLive_of_guarded ?_ ⟨rfl, rfl, rfl, rfl, rfl, rfl⟩⟩
  simp only [connection, disconnection, cons_append, nil_append, guarded_cons, guarded_nil]
  refine ⟨trivial, trivial, trivial, ?_, trivial, ?_, ?_, trivial, trivial, trivial,
    trivial, ?_, trivial⟩
  · intro cla next
    obtain rfl : firstEndpoint = cla := congrArg Prod.fst (Option.some.inj next)
    exact .inl mem_cons_self
  · intro cla there other ahead
    exact absurd ahead not_mem_nil
  · intro cla next role plays other listed same live
    exact absurd live not_mem_nil
  · intro cla next
    obtain rfl : secondEndpoint = cla := congrArg Prod.fst (Option.some.inj next)
    exact .inl mem_cons_self

/-- The disconnect is reported before `activateCLA` has the lock. -/
def earlyDisconnect : List ManagerEvent :=
  [.register firstEndpoint, .enter 0, .activate 0 true] ++ disconnection firstEndpoint ++ [.enlist 0]

/-- The disconnect of the first adapter is reported twice, the second time when
another one has its address. -/
def lateDisconnect : List ManagerEvent :=
  connection firstEndpoint ++ disconnection firstEndpoint ++ connection secondEndpoint ++
    disconnection firstEndpoint

theorem disconnects_not_listsLive :
    (run Calls.step .start earlyDisconnect).Quiescent ∧
      ¬(run Calls.step .start earlyDisconnect).ListsLive ∧
      (run Calls.step .start lateDisconnect).Quiescent ∧ ¬(run Calls.step .start lateDisconnect).ListsLive := by
  refine ⟨⟨rfl, rfl, rfl, rfl, rfl, rfl⟩, ?_, ⟨rfl, rfl, rfl, rfl, rfl, rfl⟩, ?_⟩
  · intro exact
    have live := ((exact .sender firstEndpoint).mp (by decide)).2
    exact absurd live (by decide)
  · intro exact
    have listed := (exact .sender secondEndpoint).mpr ⟨rfl, by decide⟩
    exact absurd listed (by decide)

end RecDtn.Cla
