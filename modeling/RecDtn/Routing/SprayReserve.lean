import RecDtn.Routing.SprayCounters

namespace RecDtn.Routing

open Wire Lang Bpv7 Store List Option

variable [Sha256] [Badgerhold] {ref : Ref}

/-- The copies that a run has read, and is about to write half of. -/
def claim (ref : Ref) (run : SprayRun) : Nat :=
  match run.stage with
  | .counted copies => if run.ref = ref then copies.toNat else 0
  | _ => 0

/-- Whether a run is between its reading of the counter and its writing. -/
def claims (ref : Ref) (run : SprayRun) : Nat :=
  match run.stage with
  | .counted _ => if run.ref = ref then 1 else 0
  | _ => 0

/-- The run is not between its reading of the counter and its writing. -/
def RunStage.Calm (stage : RunStage) : Prop :=
  stage ≠ .uncounted ∧ ∀ copies, stage ≠ .counted copies

section

omit [Sha256] [Badgerhold]

@[simp] theorem claim_counted (ref other : Ref) (copies : UInt64) :
    claim other ⟨ref, .counted copies⟩ = if ref = other then copies.toNat else 0 := rfl

@[simp] theorem claims_counted (ref other : Ref) (copies : UInt64) :
    claims other ⟨ref, .counted copies⟩ = if ref = other then 1 else 0 := rfl

theorem tally_claim_eq_zero {runs : List SprayRun} (nobody : tally (claims ref) runs = 0) :
    tally (claim ref) runs = 0 := by
  apply tally_eq_zero.mpr
  intro run member
  have none := tally_eq_zero.mp nobody run member
  obtain ⟨other, stage⟩ := run
  cases stage with
  | counted copies =>
    rw [claims_counted] at none
    rw [claim_counted]
    split
    · rename_i same
      rw [if_pos same] at none
      cases none
    · rfl
  | _ => rfl

theorem claim_of_calm {stage : RunStage} (calm : stage.Calm) (ref other : Ref) :
    claim other ⟨ref, stage⟩ = 0 ∧ claims other ⟨ref, stage⟩ = 0 := by
  cases stage with
  | counted copies => exact absurd rfl (calm.2 copies)
  | _ => exact ⟨rfl, rfl⟩

theorem calm_none : ∀ stage ∈ (none : Option RunStage), stage.Calm := by
  intro stage listed
  cases listed

theorem calm_some {next : RunStage} (calm : next.Calm) : ∀ stage ∈ some next, stage.Calm := by
  intro stage listed
  cases listed
  exact calm

end

/-- The copies that are recorded when the router is notified. -/
def Arrival.copies (router : SprayAndWait) (arrival : Arrival) : Nat :=
  if arrival.notified then 0 else if arrival.new then router.copies.toNat else carried arrival.bundle

def due (router : SprayAndWait) (ref : Ref) (arrival : Arrival) : Nat :=
  if arrival.ref = ref then arrival.copies router else 0

namespace Node

/-- Counted are the copies that are stored, or those that a run takes them to
be, and the copies that are about to be recorded. -/
def amount (node : Node) (ref : Ref) : Nat :=
  max (copiesAt node.store ref) (tally (claim ref) node.runs) +
    tally (due node.router ref) node.arrivals

/-- What a node may still give away of a bundle. -/
def reserve (node : Node) (bid : BundleID) : Nat :=
  match node.store.bundles.lookup bid with
  | none => 0
  | some ref => node.amount ref

/-- No run has found a counter missing, and no two runs are about to write the
same counter. -/
structure Sound (node : Node) : Prop where
  indexed : Indexed node.store
  runs : ∀ run ∈ node.runs, (idAt node.store run.ref).isSome ∧ run.stage ≠ .uncounted
  arrivals : ∀ arrival ∈ node.arrivals, (idAt node.store arrival.ref).isSome
  exclusive : ∀ ref, tally (claims ref) node.runs ≤ 1

/-- The node that is left is sound, and what it may give away and has sent could be given away
before. -/
structure Follows (node left : Node) (sent : List Transmission) : Prop where
  sound : left.Sound
  reserve : ∀ bid, left.reserve bid + tally (owed bid) sent ≤ node.reserve bid

/-- The descriptors are kept, and those of the runs and the arrivals are among them. -/
structure Keeps (node left : Node) : Prop where
  bundles : left.store.bundles = node.store.bundles
  ids : ∀ ref, idAt left.store ref = idAt node.store ref
  runs : ∀ run ∈ left.runs, (idAt node.store run.ref).isSome ∧ run.stage ≠ .uncounted
  arrivals : ∀ arrival ∈ left.arrivals, (idAt node.store arrival.ref).isSome
  exclusive : ∀ ref, tally (claims ref) left.runs ≤ 1

theorem held_le_reserve (node : Node) (bid : BundleID) : node.held bid ≤ node.reserve bid := by
  unfold held reserve
  cases node.store.bundles.lookup bid with
  | none => exact Nat.le_refl 0
  | some ref => exact Nat.le_trans (Nat.le_max_left _ _) (Nat.le_add_right _ _)

variable {node left : Node} {sent : List Transmission} {bid : BundleID}

namespace Keeps

variable (keeps : node.Keeps left) (sound : node.Sound)

include keeps sound

theorem sound_left : left.Sound where
  indexed := by
    intro bid ref
    rw [keeps.bundles, keeps.ids]
    exact sound.indexed bid ref
  runs := by
    intro run member
    rw [keeps.ids]
    exact keeps.runs run member
  arrivals := by
    intro arrival member
    rw [keeps.ids]
    exact keeps.arrivals arrival member
  exclusive := keeps.exclusive

/-- The reserve changes as the amounts of the descriptors do. -/
theorem reserve_le (gained : BundleID → Nat)
    (known : ∀ transmission ∈ sent, ∃ ref, idAt node.store ref = some transmission.bid)
    (amounts : ∀ ref bid, idAt node.store ref = some bid →
      left.amount ref + tally (owed bid) sent ≤ node.amount ref + gained bid) (bid : BundleID) :
    left.reserve bid + tally (owed bid) sent ≤ node.reserve bid + gained bid := by
  unfold reserve
  rw [keeps.bundles]
  cases found : node.store.bundles.lookup bid with
  | none =>
    have nothing : tally (owed bid) sent = 0 := by
      apply tally_eq_zero.mpr
      intro transmission member
      obtain ⟨ref, stored⟩ := known transmission member
      refine if_neg ?_
      rintro rfl
      cases found.symm.trans ((sound.indexed _ ref).mpr stored)
    simp [nothing]
  | some ref => exact amounts ref bid ((sound.indexed bid ref).mp found)

theorem follows (known : ∀ transmission ∈ sent, ∃ ref, idAt node.store ref =
    some transmission.bid) (amounts : ∀ ref bid, idAt node.store ref = some bid →
      left.amount ref + tally (owed bid) sent ≤ node.amount ref) : node.Follows left sent :=
  ⟨keeps.sound_left sound, keeps.reserve_le sound (fun _ => 0) known amounts⟩

/-- Nothing is sent. -/
theorem follows_silently (amounts : ∀ ref, left.amount ref ≤ node.amount ref) :
    node.Follows left [] :=
  keeps.follows sound (fun _ member => absurd member not_mem_nil) fun ref _ _ => amounts ref

end Keeps

def ofStage (amount : SprayRun → Nat) (ref : Ref) : Option RunStage → Nat
  | none => 0
  | some stage => amount ⟨ref, stage⟩

variable {position : Nat} {run : SprayRun} {current : RunStage} {next : Option RunStage}
  {copies kept : UInt64} {faults : Faults} {store : BundleStore}

theorem tally_withRun (held : node.runs[position]? = some run)
    (amount : SprayRun → Nat) (ref : Ref) (next : Option RunStage) :
    tally amount (node.withRun position ref next).runs + amount run =
      tally amount node.runs + ofStage amount ref next := by
  cases next with
  | none => exact tally_eraseIdx held
  | some stage => exact tally_set held

/-- A run that goes on at a calm stage, or ends, claims nothing any more. -/
theorem tally_withRun_of_calm (held : node.runs[position]? = some ⟨ref, current⟩)
    (calm : ∀ stage ∈ next, stage.Calm) (other : Ref) :
    tally (claims other) (node.withRun position ref next).runs + claims other ⟨ref, current⟩ =
      tally (claims other) node.runs ∧
      tally (claim other) (node.withRun position ref next).runs + claim other ⟨ref, current⟩ = tally (claim other) node.runs := by
  have quiet : ofStage (claim other) ref next = 0 ∧ ofStage (claims other) ref next = 0 := by
    cases next with
    | none => exact ⟨rfl, rfl⟩
    | some stage => exact claim_of_calm (calm stage rfl) ref other
  have count := tally_withRun held (claims other) ref next
  have sum := tally_withRun held (claim other) ref next
  rw [quiet.2] at count
  rw [quiet.1] at sum
  exact ⟨count, sum⟩

theorem mem_withRun (member : run ∈ (node.withRun position ref next).runs) :
    run ∈ node.runs ∨ ∃ stage, next = some stage ∧ run = ⟨ref, stage⟩ := by
  cases next with
  | none => exact .inl (mem_of_mem_eraseIdx member)
  | some stage =>
    rcases mem_or_eq_of_mem_set member with old | new
    · exact .inl old
    · exact .inr ⟨stage, rfl, new⟩

theorem amount_withRun (node : Node) (store : BundleStore) (position : Nat) (ref : Ref)
    (next : Option RunStage)
    (other : Ref) : ({ node with store := store }.withRun position ref next).amount other =
      max (copiesAt store other) (tally (claim other) (node.withRun position ref next).runs) +
        tally (due node.router other) node.arrivals := by
  cases next with
  | none => rfl
  | some stage => rfl

theorem le_tally_claim (held : node.runs[position]? = some ⟨ref, .counted copies⟩) :
    copies.toNat ≤ tally (claim ref) node.runs := by
  have own : claim ref ⟨ref, .counted copies⟩ ≤ tally (claim ref) node.runs :=
    le_tally (mem_of_getElem? held)
  rw [claim_counted, if_pos rfl] at own
  exact own

omit [Sha256] [Badgerhold] in
theorem tally_owed_le (bid : BundleID) (sent : List Transmission) :
    tally (owed bid) sent ≤ tally (fun transmission => carried transmission.bundle) sent := by
  apply tally_le
  intro transmission _
  unfold owed
  split
  · exact Nat.le_refl _
  · exact Nat.zero_le _

namespace Sound

variable (sound : node.Sound)

include sound

theorem follows_self : node.Follows node [] := ⟨sound, fun _ => Nat.le_refl _⟩

theorem keeps_withRun (held : node.runs[position]? = some ⟨ref, current⟩)
    (bundles : store.bundles = node.store.bundles)
    (ids : ∀ ref, idAt store ref = idAt node.store ref)
    (counted : ∀ stage ∈ next, stage ≠ .uncounted)
    (exclusive : ∀ other, tally (claims other) (node.withRun position ref next).runs ≤ 1) :
    node.Keeps ({ node with store := store }.withRun position ref next) := by
  have runs : ∀ other ∈ (node.withRun position ref next).runs,
      (idAt node.store other.ref).isSome ∧ other.stage ≠ .uncounted := by
    intro other member
    rcases mem_withRun member with old | ⟨stage, listed, rfl⟩
    · exact sound.runs other old
    · exact ⟨(sound.runs _ (mem_of_getElem? held)).1, counted stage listed⟩
  cases next with
  | none | some stage => exact ⟨bundles, ids, runs, sound.arrivals, exclusive⟩

theorem moves (held : node.runs[position]? = some ⟨ref, current⟩)
    (same : SameCounters node.store store) (calm : ∀ stage ∈ next, stage.Calm) :
    node.Follows ({ node with store := store }.withRun position ref next) [] := by
  have settled := tally_withRun_of_calm held calm
  refine (sound.keeps_withRun held same.bundles same.ids (fun stage listed => (calm stage listed).1)
    ?_).follows_silently sound ?_
  · intro other
    have before := sound.exclusive other
    have count := (settled other).1
    omega
  · intro other
    have sum := (settled other).2
    rw [amount_withRun, copiesAt, same.counters, ← copiesAt, amount]
    omega

theorem constrain (held : node.runs[position]? = some ⟨ref, current⟩) (operation : Operation)
    (calm : ∀ stage ∈ next, stage.Calm) :
    node.Follows (node.constrain position ref operation next) [] := by
  refine sound.moves held (sameCounters_perform ..) ?_
  intro stage listed
  exact calm stage (mem_filter_iff.mp listed).1

theorem spawn (known : (idAt node.store ref).isSome) : node.Follows (node.spawn ref) [] := by
  refine Keeps.follows_silently ⟨rfl, fun _ => rfl, ?_, sound.arrivals, ?_⟩ sound ?_
  · intro run member
    rcases mem_append.mp member with old | new
    · exact sound.runs run old
    · cases mem_singleton.mp new
      exact ⟨known, nofun⟩
  · intro other
    have before := sound.exclusive other
    change tally (claims other) (node.runs ++ [⟨ref, .spawned⟩]) ≤ 1
    rw [tally_append]
    exact before
  · intro other
    change max _ (tally (claim other) (node.runs ++ [⟨ref, .spawned⟩])) + _ ≤ _
    rw [tally_append]
    exact Nat.le_refl _

/-- A run reads a counter that nobody else is about to write. -/
theorem reads (held : node.runs[position]? = some ⟨ref, .released⟩)
    (found : getSprayCopies node.store ref = some copies)
    (alone : ∀ run ∈ node.runs, run.ref = ref → ∀ copies, run.stage ≠ .counted copies) :
    node.Follows (node.withRun position ref (some (.counted copies))) [] := by
  have nobody : tally (claims ref) node.runs = 0 := by
    apply tally_eq_zero.mpr
    intro run member
    have others := alone run member
    obtain ⟨other, stage⟩ := run
    cases stage with
    | counted copies =>
      rw [claims_counted]
      exact if_neg fun same => others same copies rfl
    | _ => rfl
  refine (sound.keeps_withRun held rfl (fun _ => rfl) (fun stage listed => by cases listed; nofun)
    ?_).follows_silently sound ?_
  · intro other
    have count : _ + 0 = _ + claims other ⟨ref, .counted copies⟩ :=
      tally_withRun held (claims other) ref (some (.counted copies))
    have before := sound.exclusive other
    rw [claims_counted] at count
    split at count
    · rename_i same
      rw [← same] at count ⊢
      omega
    · omega
  · intro other
    have count : _ + 0 = _ + claim other ⟨ref, .counted copies⟩ :=
      tally_withRun held (claim other) ref (some (.counted copies))
    rw [claim_counted] at count
    rw [amount_withRun, amount]
    split at count
    · rename_i same
      have counter : copiesAt node.store other = copies.toNat := by
        rw [copiesAt, ← same, found]
        rfl
      have nothing := tally_claim_eq_zero nobody
      rw [← same] at count counter ⊢
      omega
    · omega

/-- Setting the counter to what an arrival brings does not add to the amount. -/
theorem record {arrival : Arrival} (held : node.arrivals[position]? = some arrival)
    (bound : copies.toNat ≤ arrival.copies node.router) :
    node.Follows (node.record position arrival
      (setSprayCopies faults node.store arrival.ref copies)) [] := by
  have stored := sound.arrivals arrival (mem_of_getElem? held)
  obtain ⟨own, known⟩ := isSome_iff_exists.mp stored
  refine Keeps.follows_silently ⟨bundles_setSprayCopies ..,
    (idAt_setSprayCopies faults node.store arrival.ref · copies),
    sound.runs, ?_, sound.exclusive⟩ sound ?_
  · intro other member
    rcases mem_or_eq_of_mem_set member with old | rfl
    · exact sound.arrivals other old
    · exact stored
  · intro other
    have count : _ + due node.router other arrival = _ + due node.router other { arrival with notified := true } :=
      tally_set held
    have noted : due node.router other { arrival with notified := true } = 0 := ite_self 0
    change max (copiesAt (setSprayCopies faults node.store arrival.ref copies) other) (tally (claim other) node.runs) +
      tally (due node.router other) (node.arrivals.set position { arrival with notified := true }) ≤ node.amount other
    rw [copiesAt_setSprayCopies known, amount]
    split
    · rename_i same
      have brought : due node.router other arrival = arrival.copies node.router := if_pos same.symm
      omega
    · omega

theorem tally_owed_eq_zero {other : Ref} (different : other ≠ ref)
    (own : ∀ transmission ∈ sent, idAt node.store ref = some transmission.bid)
    (stored : idAt node.store other = some bid) : tally (owed bid) sent = 0 := by
  apply tally_eq_zero.mpr
  intro transmission member
  refine if_neg ?_
  rintro rfl
  have first := (sound.indexed _ ref).mpr (own transmission member)
  have second := (sound.indexed _ other).mpr stored
  exact different (Option.some.inj (second.symm.trans first))

theorem spends (held : node.runs[position]? = some ⟨ref, .counted copies⟩)
    (calm : ∀ stage ∈ next, stage.Calm)
    (own : ∀ transmission ∈ sent, idAt node.store ref = some transmission.bid)
    (bound : kept.toNat + tally (fun transmission => carried transmission.bundle) sent ≤
      copies.toNat) :
    node.Follows ({ node with store := setSprayCopies faults node.store ref kept }.withRun position
      ref next) sent := by
  obtain ⟨id, known⟩ := isSome_iff_exists.mp (sound.runs _ (mem_of_getElem? held)).1
  have settled := tally_withRun_of_calm held calm
  simp only [claims_counted, claim_counted] at settled
  refine (sound.keeps_withRun held (bundles_setSprayCopies ..)
    (idAt_setSprayCopies faults node.store ref · kept)
    (fun stage listed => (calm stage listed).1) ?_).follows sound
    (fun transmission member => ⟨ref, own transmission member⟩) ?_
  · intro other
    have before := sound.exclusive other
    have count := (settled other).1
    omega
  · intro other bid stored
    rw [amount_withRun, amount, copiesAt_setSprayCopies known]
    by_cases same : other = ref
    · subst same
      -- The run was the only one to claim anything, and does so no longer.
      have before := sound.exclusive other
      have count := (settled other).1
      rw [if_pos rfl] at count
      have nothing := tally_claim_eq_zero (by omega : tally (claims other) (node.withRun position other next).runs = 0)
      have claimed := le_tally_claim held
      have less := tally_owed_le bid sent
      rw [if_pos rfl, nothing]
      omega
    · have others := sound.tally_owed_eq_zero same own stored
      have sum := (settled other).2
      rw [if_neg (Ne.symm same)] at sum
      rw [if_neg same, others]
      omega

/-- The counter has been written when a panic stops the run. -/
theorem crashes (held : node.runs[position]? = some ⟨ref, .counted copies⟩)
    (fewer : kept.toNat ≤ copies.toNat) :
    node.Follows { node with store := setSprayCopies faults node.store ref kept, crashed := true }
      [] := by
  obtain ⟨id, known⟩ := isSome_iff_exists.mp (sound.runs _ (mem_of_getElem? held)).1
  refine Keeps.follows_silently ⟨bundles_setSprayCopies ..,
    (idAt_setSprayCopies faults node.store ref · kept),
    sound.runs, sound.arrivals, sound.exclusive⟩ sound ?_
  intro other
  have claimed := le_tally_claim held
  change max (copiesAt (setSprayCopies faults node.store ref kept) other)
      (tally (claim other) node.runs) +
    tally (due node.router other) node.arrivals ≤ node.amount other
  rw [copiesAt_setSprayCopies known, amount]
  split
  · rename_i same
    subst same
    omega
  · omega

/-- Only the counters and who is known to have a bundle matter. -/
theorem stores (same : SameCounters node.store left.store) (router : left.router = node.router)
    (arrivals : left.arrivals = node.arrivals) (runs : left.runs = node.runs) :
    node.Follows left [] := by
  refine Keeps.follows_silently ⟨same.bundles, same.ids, runs ▸ sound.runs,
    arrivals ▸ sound.arrivals, runs ▸ sound.exclusive⟩ sound ?_
  intro ref
  rw [amount, amount, copiesAt, same.counters, router, arrivals, runs]
  exact Nat.le_refl _

theorem leaves (position : Nat) :
    node.Follows { node with arrivals := node.arrivals.eraseIdx position } [] := by
  refine Keeps.follows_silently ⟨rfl, fun _ => rfl, sound.runs,
    fun arrival member => sound.arrivals arrival (mem_of_mem_eraseIdx member),
      sound.exclusive⟩ sound ?_
  intro other
  have fewer : tally (due node.router other) (node.arrivals.eraseIdx position) ≤
      tally (due node.router other) node.arrivals :=
    tally_sublist (eraseIdx_sublist _ _)
  exact Nat.add_le_add_left fewer _

theorem arrives (arrival : Arrival) (same : SameCounters node.store left.store)
    (router : left.router = node.router) (arrivals : left.arrivals = node.arrivals ++ [arrival])
    (runs : left.runs = node.runs) (known : idAt node.store arrival.ref = some bid) :
    left.Sound ∧ ∀ other, left.reserve other ≤
      node.reserve other + if bid = other then arrival.copies node.router else 0 := by
  have keeps : node.Keeps left := by
    refine ⟨same.bundles, same.ids, runs ▸ sound.runs, ?_, runs ▸ sound.exclusive⟩
    intro other member
    rw [arrivals] at member
    rcases mem_append.mp member with old | new
    · exact sound.arrivals other old
    · cases mem_singleton.mp new
      rw [known]
      rfl
  refine ⟨keeps.sound_left sound,
    keeps.reserve_le sound (fun other => if bid = other then arrival.copies node.router else 0)
    (fun _ member => absurd member not_mem_nil) ?_⟩
  intro ref other stored
  rw [amount, amount, copiesAt, same.counters, router, arrivals, runs, tally_append, tally_cons,
    tally_nil, tally_nil]
  have brought : due node.router ref arrival ≤ if bid = other
      then arrival.copies node.router else 0 := by
    unfold due
    split
    · rename_i here
      subst here
      rw [known] at stored
      rw [if_pos (Option.some.inj stored)]
    · exact Nat.zero_le _
  change max (copiesAt node.store ref) _ + _ + 0 ≤ _
  omega

/-- Nothing is counted for a descriptor that no run and no arrival can have. -/
theorem amount_eq_zero (unknown : idAt node.store ref = none) : node.amount ref = 0 := by
  have elsewhere : ∀ other, (idAt node.store other).isSome → other ≠ ref := by
    rintro other known rfl
    rw [unknown] at known
    cases known
  have counter : copiesAt node.store ref = 0 := by
    rw [copiesAt, getSprayCopies, map_eq_none_iff.mp unknown]
    rfl
  have unclaimed : tally (claim ref) node.runs = 0 := by
    apply tally_eq_zero.mpr
    intro run member
    have other := elsewhere _ (sound.runs run member).1
    unfold claim
    split
    · exact if_neg other
    · rfl
  have unbrought : tally (due node.router ref) node.arrivals = 0 := by
    apply tally_eq_zero.mpr
    intro arrival member
    exact if_neg (elsewhere _ (sound.arrivals arrival member))
  rw [amount, counter, unclaimed, unbrought]
  rfl

/-- A bundle that was not known gets a descriptor. -/
theorem adds (arrival : Arrival) {metadata : BundleMetadata}
    (extended : Extended node.store left.store metadata)
    (router : left.router = node.router) (arrivals : left.arrivals = node.arrivals ++ [arrival])
    (here : arrival.ref = node.store.descriptors.length) (runs : left.runs = node.runs) :
    left.Sound ∧ ∀ bid, left.reserve bid ≤
      node.reserve bid + if metadata.id = bid then arrival.copies node.router else 0 := by
  have amounts : ∀ ref, left.amount ref = node.amount ref + due node.router ref arrival := by
    intro ref
    rw [amount, amount, extended.copiesAt, runs, router, arrivals, tally_append,
      tally_cons, tally_nil]
    omega
  refine ⟨⟨extended.indexed sound.indexed, ?_, ?_, runs ▸ sound.exclusive⟩, ?_⟩
  · intro run member
    rw [runs] at member
    exact (sound.runs run member).imp_left extended.keeps
  · intro other member
    rw [arrivals] at member
    rcases mem_append.mp member with old | new
    · exact extended.keeps (sound.arrivals other old)
    · cases mem_singleton.mp new
      rw [extended.ids, if_pos here]
      rfl
  · intro bid
    unfold reserve
    rw [extended.bundles]
    by_cases same : bid = metadata.id
    · subst same
      rw [AList.lookup_insert, extended.unknown, if_pos rfl]
      dsimp only
      rw [amounts, sound.amount_eq_zero extended.outside, due, if_pos here]
    · rw [AList.lookup_insert_ne same]
      cases found : node.store.bundles.lookup bid with
      | none => exact Nat.zero_le _
      | some ref =>
        have stored := (sound.indexed bid ref).mp found
        have elsewhere : arrival.ref ≠ ref := by
          rintro rfl
          rw [here, extended.outside] at stored
          cases stored
        dsimp only
        rw [amounts, due, if_neg elsewhere]
        exact Nat.le_add_right _ _

theorem insert [Cboring] [Crc16] (faults : Faults) (bundle : Bundle) (new : Bool) :
    (node.insert faults bundle new).Sound ∧
      ∀ bid, (node.insert faults bundle new).reserve bid ≤ node.reserve bid +
        if bundle.id = bid then (if new then node.router.copies.toNat else carried bundle) else 0 := by
  have counters := insertBundle_counters node.store faults bundle
  unfold Node.insert
  generalize node.store.insertBundle faults bundle = result at counters
  obtain ⟨outcome, store⟩ := result
  rcases counters with ⟨same, found⟩ | ⟨metadata, id, answered, extended⟩
  · have silent : ∀ left : Node, node.Follows left [] →
        left.Sound ∧ ∀ bid, left.reserve bid ≤ node.reserve bid +
          if bundle.id = bid then (if new then node.router.copies.toNat else carried bundle) else 0 := by
      rintro left ⟨still, less⟩
      exact ⟨still, fun bid => Nat.le_trans (less bid) (Nat.le_add_right _ _)⟩
    split
    · rename_i ref store done
      cases done
      exact sound.arrives ⟨ref, bundle, new, false⟩ same rfl rfl rfl ((sound.indexed _ _).mp (found ref rfl))
    · rename_i cause store done
      cases done
      exact silent _ (sound.stores same rfl rfl rfl)
    · rename_i fault store _ done
      cases done
      exact silent _ (sound.stores same rfl rfl rfl)
  · cases answered
    rw [← id]
    exact sound.adds ⟨_, bundle, new, false⟩ extended rfl rfl rfl rfl

end Sound

theorem lookup_start (router : SprayAndWait) (nodeID : EndpointID) (bid : BundleID) :
    (Node.start router nodeID).store.bundles.lookup bid = none := AList.lookup_empty bid

theorem sound_start (router : SprayAndWait) (nodeID : EndpointID) :
    (Node.start router nodeID).Sound where
  indexed := by
    intro bid ref
    rw [lookup_start]
    change none = some ref ↔ none = some bid
    exact iff_of_false nofun nofun
  runs := by
    intro run member
    cases member
  arrivals := by
    intro arrival member
    cases member
  exclusive := fun _ => Nat.zero_le 1

theorem reserve_start (router : SprayAndWait) (nodeID : EndpointID) (bid : BundleID) :
    (Node.start router nodeID).reserve bid = 0 := by
  rw [reserve, lookup_start]

end Node

end RecDtn.Routing
