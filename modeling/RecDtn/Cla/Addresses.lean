import RecDtn.Cla.Manager

/-! No two adapters of one address are listed. -/

namespace RecDtn.Cla

open Lang List

namespace Manager

variable {manager : Manager} {cla : Convergence}

/-- What has been checked when an adapter is taken in. -/
theorem checkPresent_eq_false : manager.checkPresent cla = false ↔
    (∀ pending ∈ manager.pendingStart, pending.address ≠ cla.address) ∧
      ∀ role, cla.plays role = true → ∀ other ∈ manager.listed role, other.address ≠ cla.address := by
  have absent : ∀ {list : List Convergence},
      (list.any fun registered => cla.address = registered.address) = false ↔
      ∀ other ∈ list, other.address ≠ cla.address := by
    intro list
    simp only [any_eq_false, decide_eq_true_eq, @eq_comm _ cla.address, ne_eq]
  have clear : ∀ {list : List Convergence} {plays : Bool},
      (plays && list.any fun registered => cla.address = registered.address) = false ↔
        (plays = true → ∀ other ∈ list, other.address ≠ cla.address) := by
    intro list plays
    rw [Bool.and_eq_false_imp, absent]
  rw [checkPresent, Bool.or_eq_false_iff, Bool.or_eq_false_iff, absent, clear, clear, and_assoc]
  refine and_congr_right fun _ => ?_
  constructor
  · rintro ⟨receiver, sender⟩ role
    cases role with
    | receiver => exact receiver
    | sender => exact sender
  · intro both
    exact ⟨both .receiver, both .sender⟩

theorem listed_activateCLA (manager : Manager) (cla : Convergence)
    (succeeded : Bool) (role : Role) : (manager.activateCLA cla succeeded).listed role =
      if succeeded = true ∧ cla.plays role = true then manager.listed role ++ [cla] else manager.listed role := by
  cases role <;> rfl

theorem listed_notifyDisconnect (manager : Manager) (cla : Convergence) (role : Role) :
    ((manager.notifyDisconnect cla).listed role).Sublist (manager.listed role) := by
  have shorter : ∀ {list : List Convergence} {plays : Bool}, List.Sublist
      (if plays = true then list.filter fun registered => cla.address ≠ registered.address else list) list := by
    intro list plays
    split
    · exact filter_sublist
    · exact List.Sublist.refl _
  cases role with
  | receiver => exact shorter
  | sender => exact shorter

end Manager

namespace Calls

/-- The adapters between their check and the update of the lists. -/
def starting (calls : Calls) : List Convergence := calls.activating ++ calls.activated.map Prod.fst

/-- Each address is being started once. Until this is over it is marked as
pending, and not listed in a role of the adapter. -/
structure Distinct (calls : Calls) : Prop where
  starting : (calls.starting.map Convergence.address).Nodup
  marked : ∀ cla ∈ calls.starting, ∃ pending ∈
    calls.manager.pendingStart, pending.address = cla.address
  listed : ∀ role, ((calls.manager.listed role).map Convergence.address).Nodup
  apart : ∀ role, ∀ cla ∈ calls.starting, cla.plays role = true →
    ∀ other ∈ calls.manager.listed role, other.address ≠ cla.address

theorem distinct_start : start.Distinct := by
  refine ⟨nodup_nil, by simp [Calls.starting, start], ?_, by simp [Calls.starting, start]⟩
  intro role
  cases role <;> exact nodup_nil

variable {calls next : Calls} {cla : Convergence}

section

variable (distinct : calls.Distinct)

include distinct

/-- Most calls start nothing, and at most shorten the lists. -/
theorem Distinct.keep (same : next.starting.Perm calls.starting)
    (pending : next.manager.pendingStart = calls.manager.pendingStart)
    (fewer : ∀ role, (next.manager.listed role).Sublist (calls.manager.listed role)) :
    next.Distinct := by
  refine ⟨?_, ?_, ?_, ?_⟩
  · exact (same.map _).nodup_iff.mpr distinct.starting
  · intro cla member
    rw [pending]
    exact distinct.marked cla (same.mem_iff.mp member)
  · intro role
    exact ((fewer role).map _).nodup (distinct.listed role)
  · intro role cla member plays other listed
    exact distinct.apart role cla (same.mem_iff.mp member) plays other ((fewer role).subset listed)

/-- An adapter that passes the check has an address that nobody is starting. -/
theorem Distinct.enters {registering : List Convergence}
    (absent : calls.manager.checkPresent cla = false) : Distinct { calls with
      manager := { calls.manager with pendingStart := calls.manager.pendingStart ++ [cla] }
      registering
      activating := calls.activating ++ [cla] } := by
  obtain ⟨unmarked, unlisted⟩ := Manager.checkPresent_eq_false.mp absent
  have fresh : cla.address ∉ calls.starting.map Convergence.address := by
    intro taken
    obtain ⟨other, member, same⟩ := mem_map.mp taken
    obtain ⟨pending, mark, address⟩ := distinct.marked other member
    exact unmarked pending mark (address.trans same)
  have added : ((calls.activating ++ [cla]) ++ calls.activated.map Prod.fst).Perm
      (cla :: calls.starting) := by
    rw [append_assoc]
    exact perm_middle
  refine ⟨?_, ?_, ?_, ?_⟩
  · exact (added.map _).nodup_iff.mpr (nodup_cons.mpr ⟨fresh, distinct.starting⟩)
  · intro other member
    rcases mem_cons.mp (added.mem_iff.mp member) with rfl | earlier
    · exact ⟨other, by simp, rfl⟩
    · obtain ⟨pending, mark, address⟩ := distinct.marked other earlier
      exact ⟨pending, mem_append_left _ mark, address⟩
  · intro role
    cases role with
    | receiver => exact distinct.listed .receiver
    | sender => exact distinct.listed .sender
  · intro role other member plays registered listed
    have before : registered ∈ calls.manager.listed role := by
      cases role <;> exact listed
    rcases mem_cons.mp (added.mem_iff.mp member) with rfl | earlier
    · exact unlisted role plays registered before
    · exact distinct.apart role other earlier plays registered before

/-- The end of an activation takes away the mark of its own address only. -/
theorem Distinct.enlists {position : Nat} {succeeded : Bool}
    (there : calls.activated[position]? = some (cla, succeeded)) : Distinct { calls with
      manager := calls.manager.activateCLA cla succeeded
      activated := calls.activated.eraseIdx position } := by
  have split : calls.starting.Perm
      (cla :: (calls.activating ++ (calls.activated.eraseIdx position).map Prod.fst)) :=
    (((perm_of_getElem? there).map Prod.fst).append_left calls.activating).trans perm_middle
  have addresses := (split.map Convergence.address).nodup_iff.mp distinct.starting
  obtain ⟨alone, others⟩ := nodup_cons.mp addresses
  have different : ∀ other ∈ calls.activating ++ (calls.activated.eraseIdx position).map Prod.fst,
      other ∈ calls.starting ∧ other.address ≠ cla.address := by
    intro other member
    refine ⟨split.mem_iff.mpr (mem_cons_of_mem _ member), ?_⟩
    intro same
    exact alone (same ▸ mem_map_of_mem member)
  have own : cla ∈ calls.starting := split.mem_iff.mpr mem_cons_self
  refine ⟨others, ?_, ?_, ?_⟩
  · intro other member
    obtain ⟨earlier, apart⟩ := different other member
    obtain ⟨pending, mark, address⟩ := distinct.marked other earlier
    refine ⟨pending, mem_filter.mpr ⟨mark, ?_⟩, address⟩
    simpa [address] using apart.symm
  · intro role
    change (((calls.manager.activateCLA cla succeeded).listed role).map _).Nodup
    rw [Manager.listed_activateCLA]
    split
    · rename_i appended
      rw [map_append, map_singleton]
      refine (perm_append_singleton _ _).nodup_iff.mpr (nodup_cons.mpr ⟨?_, distinct.listed role⟩)
      intro taken
      obtain ⟨other, listed, same⟩ := mem_map.mp taken
      exact distinct.apart role cla own appended.2 other listed same
    · exact distinct.listed role
  · intro role other member plays registered listed
    obtain ⟨earlier, apart⟩ := different other member
    rcases Manager.mem_listed_activateCLA.mp listed with before | ⟨-, -, rfl⟩
    · exact distinct.apart role other earlier plays registered before
    · exact apart.symm

theorem Distinct.step (event : ManagerEvent) : (calls.step event).Distinct := by
  cases event with
  | register cla => exact distinct.keep (List.Perm.refl _) rfl fun _ => List.Sublist.refl _
  | enter position =>
    simp only [Calls.step]
    split
    · exact distinct
    · rename_i cla next
      unfold Manager.registerAsync
      cases absent : calls.manager.checkPresent cla with
      | true => exact distinct.keep (List.Perm.refl _) rfl fun _ => List.Sublist.refl _
      | false => exact distinct.enters absent
  | activate position succeeded =>
    simp only [Calls.step]
    split
    · exact distinct
    · rename_i cla there
      refine distinct.keep ?_ rfl fun _ => List.Sublist.refl _
      -- The adapter goes from the end of one list to the end of the other.
      have moved := (perm_of_getElem? there).append_right (calls.activated.map Prod.fst)
      simp only [Calls.starting, map_append, map_singleton]
      rw [← append_assoc]
      exact (perm_append_singleton _ _).trans moved.symm
  | enlist position =>
    simp only [Calls.step]
    split
    · exact distinct
    · rename_i cla succeeded next
      exact distinct.enlists (locked_eq_some.mp next).2
  | disconnect cla => exact distinct.keep (List.Perm.refl _) rfl fun _ => List.Sublist.refl _
  | mark position =>
    simp only [Calls.step]
    split
    · exact distinct
    · rename_i cla there
      unfold Manager.markRemoval
      split
      · exact distinct.keep (List.Perm.refl _) rfl fun _ => List.Sublist.refl _
      · refine distinct.keep (List.Perm.refl _) rfl fun role => ?_
        cases role <;> exact List.Sublist.refl _
  | remove position =>
    simp only [Calls.step]
    split
    · exact distinct
    · rename_i cla next
      exact distinct.keep (List.Perm.refl _) rfl (calls.manager.listed_notifyDisconnect cla)
  | unmark =>
    simp only [Calls.step]
    split
    · exact distinct
    · refine distinct.keep (List.Perm.refl _) rfl fun role => ?_
      cases role <;> exact List.Sublist.refl _

theorem Distinct.run (events : List ManagerEvent) : (Lang.run Calls.step calls events).Distinct := by
  induction events generalizing calls with
  | nil => exact distinct
  | cons event rest ih => exact ih (distinct.step event)

end

/-- Whatever has happened, each list has an address at most once. -/
theorem addresses_nodup (events : List ManagerEvent) :
    ((Lang.run step start events).manager.senders.map Convergence.address).Nodup ∧
      ((Lang.run step start events).manager.receivers.map Convergence.address).Nodup := by
  have distinct := distinct_start.run events
  exact ⟨distinct.listed .sender, distinct.listed .receiver⟩

end Calls

end RecDtn.Cla
