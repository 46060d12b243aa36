import Mathlib.Data.List.Nodup
import Mathlib.Logic.Relation

/-! Tickets for keys, which are taken back in two phases. -/

namespace RecDtn.Lang

open List

/-- The ticket that answers for each key, the key of every ticket handed out so
far with its revocation, and the keys that wait for being freed. -/
structure Registry (Key : Type) where
  index : Key → Option Nat
  tickets : List (Key × Bool)
  dying : List Key

namespace Registry

variable {Key : Type} [DecidableEq Key]

def empty : Registry Key := ⟨fun _ => none, [], []⟩

/-- A new ticket for a key. -/
def issued (r : Registry Key) (key : Key) : Registry Key :=
  ⟨fun other => if other = key then some r.tickets.length else r.index other,
    r.tickets ++ [(key, false)], r.dying⟩

/-- The first phase: the ticket is revoked, and its key has to wait. -/
def revoked (r : Registry Key) (ticket : Nat) (key : Key) : Registry Key :=
  ⟨r.index, r.tickets.set ticket (key, true), r.dying ++ [key]⟩

/-- The second phase: a key stops waiting and is free again. -/
def cleared (r : Registry Key) (position : Nat) (key : Key) : Registry Key :=
  ⟨fun other => if other = key then none else r.index other, r.tickets, r.dying.eraseIdx position⟩

/-- The ticket is valid. -/
def Live (r : Registry Key) (ticket : Nat) (key : Key) : Prop :=
  r.tickets[ticket]? = some (key, false)

def Revoked (r : Registry Key) (ticket : Nat) (key : Key) : Prop :=
  r.tickets[ticket]? = some (key, true)

/-- What can happen to a registry. -/
inductive Step : Registry Key → Registry Key → Prop where
  | issue {r : Registry Key} (key : Key) (free : r.index key = none) : Step r (r.issued key)
  | revoke {r : Registry Key} (ticket : Nat) (key : Key) (live : r.Live ticket key) :
      Step r (r.revoked ticket key)
  | clear {r : Registry Key} (position : Nat) (key : Key)
      (waiting : r.dying[position]? = some key) : Step r (r.cleared position key)

/-- Any number of steps. -/
def Leads (r s : Registry Key) : Prop := Relation.ReflTransGen Step r s

/-- A key is answered for by a ticket of its own, live tickets answer for their
keys, and a key waits at most once and for the end of a revoked ticket. -/
structure Sound (r : Registry Key) : Prop where
  own : ∀ key ticket, r.index key = some ticket → r.Live ticket key ∨ r.Revoked ticket key
  live : ∀ ticket key, r.Live ticket key → r.index key = some ticket
  waiting : ∀ key ∈ r.dying, ∃ ticket, r.index key = some ticket ∧ r.Revoked ticket key
  once : r.dying.Nodup

omit [DecidableEq Key] in
theorem sound_empty : (empty : Registry Key).Sound := by
  refine ⟨?_, ?_, ?_, .nil⟩
  · intro key ticket found
    cases found
  · intro ticket key live
    cases live
  · intro key member
    cases member

variable {r s : Registry Key} {ticket : Nat} {key other : Key}

omit [DecidableEq Key] in
theorem Live.not_revoked (live : r.Live ticket key) : ¬r.Revoked ticket other := by
  intro gone
  cases live.symm.trans gone

omit [DecidableEq Key] in
theorem Live.key_eq (live : r.Live ticket key) (same : r.Live ticket other) : key = other := by
  cases live.symm.trans same
  rfl

private theorem getElem_issued {entry : Key × Bool} (found : r.tickets[ticket]? = some entry) :
    (r.issued key).tickets[ticket]? = some entry :=
  (List.getElem?_append_left (List.getElem?_eq_some_iff.mp found).1).trans found

theorem live_issued : (r.issued key).Live r.tickets.length key := by
  simp [Live, issued]

theorem Live.issued (live : r.Live ticket other) : (r.issued key).Live ticket other :=
  getElem_issued live

/-- A ticket is the new one or an older one. -/
theorem live_of_issued (live : (r.issued key).Live ticket other) :
    r.Live ticket other ∨ ticket = r.tickets.length ∧ other = key := by
  rcases Nat.lt_or_ge ticket r.tickets.length with issued | later
  · left
    exact (List.getElem?_append_left issued).symm.trans live
  · right
    have entry : [(key, false)][ticket - r.tickets.length]? = some (other, false) :=
      (List.getElem?_append_right later).symm.trans live
    obtain ⟨bound, equal⟩ := List.getElem?_eq_some_iff.mp entry
    rw [List.length_singleton] at bound
    refine ⟨by omega, ?_⟩
    simp only [getElem_singleton, Prod.mk.injEq, and_true] at equal
    exact equal.symm

theorem Sound.issued (sound : r.Sound) (free : r.index key = none) : (r.issued key).Sound := by
  have kept : ∀ {other ticket}, r.index other = some ticket →
      (r.issued key).index other = some ticket := by
    intro other ticket found
    have different : other ≠ key := by
      rintro rfl
      rw [free] at found
      cases found
    exact (if_neg different).trans found
  refine ⟨?_, ?_, ?_, sound.once⟩
  · intro other ticket found
    by_cases same : other = key
    · subst same
      obtain rfl : r.tickets.length = ticket := Option.some.inj ((if_pos rfl).symm.trans found)
      exact .inl live_issued
    · rcases sound.own other ticket ((if_neg same).symm.trans found) with live | gone
      · exact .inl (getElem_issued live)
      · exact .inr (getElem_issued gone)
  · intro ticket other live
    rcases live_of_issued live with older | ⟨rfl, rfl⟩
    · exact kept (sound.live ticket other older)
    · exact if_pos rfl
  · intro other member
    obtain ⟨ticket, found, gone⟩ := sound.waiting other member
    exact ⟨ticket, kept found, getElem_issued gone⟩

section

omit [DecidableEq Key]

variable {found : Nat}

private theorem getElem_revoked_ne (different : found ≠ ticket) :
    (r.revoked ticket key).tickets[found]? = r.tickets[found]? :=
  getElem?_set_ne (Ne.symm different)

theorem revoked_revoked (live : r.Live ticket key) : (r.revoked ticket key).Revoked ticket key := by
  have bound : ticket < r.tickets.length := (List.getElem?_eq_some_iff.mp live).1
  simp [Revoked, revoked, bound]

theorem Revoked.revoked (gone : r.Revoked found other) (live : r.Live ticket key) :
    (r.revoked ticket key).Revoked found other := by
  have different : found ≠ ticket := by
    rintro rfl
    exact live.not_revoked gone
  exact (getElem_revoked_ne different).trans gone

theorem live_of_revoked (revoked : r.Live ticket key)
    (live : (r.revoked ticket key).Live found other) : found ≠ ticket ∧ r.Live found other := by
  have different : found ≠ ticket := by
    rintro rfl
    exact live.not_revoked (revoked_revoked revoked)
  exact ⟨different, (getElem_revoked_ne different).symm.trans live⟩

theorem Sound.revoked (sound : r.Sound) (live : r.Live ticket key) :
    (r.revoked ticket key).Sound := by
  refine ⟨?_, ?_, ?_, ?_⟩
  · intro other found index
    by_cases same : found = ticket
    · subst same
      rcases sound.own other found index with alive | gone
      · rw [alive.key_eq live]
        exact .inr (revoked_revoked live)
      · exact absurd gone live.not_revoked
    · rcases sound.own other found index with alive | gone
      · exact .inl ((getElem_revoked_ne same).trans alive)
      · exact .inr (gone.revoked live)
  · intro found other alive
    exact sound.live found other (live_of_revoked live alive).2
  · intro other member
    rcases mem_append.mp member with member | member
    · obtain ⟨found, index, gone⟩ := sound.waiting other member
      exact ⟨found, index, gone.revoked live⟩
    · obtain rfl := mem_singleton.mp member
      exact ⟨ticket, sound.live ticket other live, revoked_revoked live⟩
  · apply nodup_append.mpr
    refine ⟨sound.once, nodup_singleton key, ?_⟩
    intro other member last appended
    obtain rfl := mem_singleton.mp appended
    rintro rfl
    -- A key that already waits belongs to a revoked ticket.
    obtain ⟨found, index, gone⟩ := sound.waiting other member
    obtain rfl : ticket = found := Option.some.inj ((sound.live ticket other live).symm.trans index)
    exact live.not_revoked gone

end

theorem Sound.cleared {position : Nat} (sound : r.Sound) (waiting : r.dying[position]? = some key) :
    (r.cleared position key).Sound := by
  obtain ⟨bound, there⟩ := List.getElem?_eq_some_iff.mp waiting
  have absent : key ∉ r.dying.eraseIdx position := by
    rw [← there, ← sound.once.erase_getElem position bound]
    exact sound.once.not_mem_erase
  obtain ⟨old, oldIndex, gone⟩ := sound.waiting key (mem_of_getElem? waiting)
  refine ⟨?_, ?_, ?_, sound.once.eraseIdx position⟩
  · intro other ticket found
    by_cases same : other = key
    · cases (if_pos same).symm.trans found
    · exact sound.own other ticket ((if_neg same).symm.trans found)
  · intro ticket other live
    have index := sound.live ticket other live
    have different : other ≠ key := by
      rintro rfl
      obtain rfl : old = ticket := Option.some.inj (oldIndex.symm.trans index)
      exact Live.not_revoked live gone
    exact (if_neg different).trans index
  · intro other member
    obtain ⟨ticket, index, revoked⟩ := sound.waiting other (mem_of_mem_eraseIdx member)
    have different : other ≠ key := by
      rintro rfl
      exact absent member
    exact ⟨ticket, (if_neg different).trans index, revoked⟩

theorem Sound.step (sound : r.Sound) (step : Step r s) : s.Sound := by
  cases step with
  | issue key free => exact sound.issued free
  | revoke ticket key live => exact sound.revoked live
  | clear position key waiting => exact sound.cleared waiting

theorem Sound.leads (sound : r.Sound) (leads : r.Leads s) : s.Sound := by
  induction leads with
  | refl => exact sound
  | tail _ step ih => exact ih.step step

/-- Tickets stay what they are or are revoked; nothing brings one back. -/
theorem Revoked.leads (gone : r.Revoked ticket key) (leads : r.Leads s) : s.Revoked ticket key := by
  induction leads with
  | refl => exact gone
  | tail _ step ih =>
    cases step with
    | issue other free => exact getElem_issued ih
    | revoke found other live => exact ih.revoked live
    | clear position other waiting => exact ih

theorem Live.leads (live : r.Live ticket key) (leads : r.Leads s) :
    s.Live ticket key ∨ s.Revoked ticket key := by
  induction leads with
  | refl => exact .inl live
  | @tail middle last _ step ih =>
    rcases ih with alive | gone
    · cases step with
      | issue other free => exact .inl (getElem_issued alive)
      | revoke found other revoked =>
        by_cases same : ticket = found
        · subst same
          rw [alive.key_eq revoked]
          exact .inr (revoked_revoked revoked)
        · exact .inl ((getElem_revoked_ne same).trans alive)
      | clear position other waiting => exact .inl alive
    · exact .inr (gone.leads (.single step))

theorem Leads.length_le (leads : r.Leads s) : r.tickets.length ≤ s.tickets.length := by
  induction leads with
  | refl => exact Nat.le_refl _
  | tail _ step ih =>
    apply Nat.le_trans ih
    cases step with
    | issue other free => simp [Registry.issued]
    | revoke found other live => simp [Registry.revoked]
    | clear position other waiting => exact Nat.le_refl _

/-- The ticket that answers for a key did so before, or it is a later one. -/
theorem Leads.index (leads : r.Leads s) (found : s.index key = some ticket) :
    r.index key = some ticket ∨ r.tickets.length ≤ ticket := by
  induction leads with
  | refl => exact .inl found
  | tail earlier step ih =>
    cases step with
    | issue other free =>
      by_cases same : key = other
      · obtain rfl := Option.some.inj ((if_pos same).symm.trans found)
        exact .inr (Leads.length_le earlier)
      · exact ih ((if_neg same).symm.trans found)
    | revoke revoked other live => exact ih found
    | clear position other waiting =>
      by_cases same : key = other
      · cases (if_pos same).symm.trans found
      · exact ih ((if_neg same).symm.trans found)

omit [DecidableEq Key] in
theorem Sound.index_lt (sound : r.Sound) (found : r.index key = some ticket) :
    ticket < r.tickets.length := by
  rcases sound.own key ticket found with live | gone
  · exact (List.getElem?_eq_some_iff.mp live).1
  · exact (List.getElem?_eq_some_iff.mp gone).1

omit [DecidableEq Key] in
theorem Sound.index_inj (sound : r.Sound) (found : r.index key = some ticket)
    (also : r.index other = some ticket) : key = other := by
  have entry : ∀ {key}, r.index key = some ticket →
      ∃ state, r.tickets[ticket]? = some (key, state) := by
    intro key found
    rcases sound.own key ticket found with live | gone
    · exact ⟨false, live⟩
    · exact ⟨true, gone⟩
  obtain ⟨state, first⟩ := entry found
  obtain ⟨_, second⟩ := entry also
  cases first.symm.trans second
  rfl

end Registry

end RecDtn.Lang
