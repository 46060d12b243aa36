import Mathlib.Data.List.Nodup
import RecDtn.Lang.Run
import RecDtn.Rec.Node

/-! What a bad bundle does to the other bundles of the same reply. -/

namespace RecDtn.Rec

open Python List

section

theorem count_range_eq_one {length : Nat} :
    (List.range' 0 length).count position = 1 ↔ position < length := by
  constructor
  · intro once
    have member := count_pos_iff.mp (once ▸ Nat.one_pos)
    exact (mem_range'_1.mp member).2.trans_eq (Nat.zero_add _)
  · intro bound
    exact count_eq_one_of_mem nodup_range' (mem_range'_1.mpr ⟨Nat.zero_le _, by omega⟩)

variable [Unicode] {σ : Type}

/-- What becomes of one bundle by itself: it cannot be made, its handler raises,
or its handler returns replies. -/
inductive Outcome where
  | malformed (err : PyError)
  | raised (err : PyError)
  | replied (replies : List BundleData)

namespace Outcome

def replies : Outcome → List BundleData
  | malformed _ => []
  | raised _ => []
  | replied replies => replies

def IsMalformed (outcome : Outcome) : Prop := ∃ err, outcome = malformed err

/-- The bundle is well formed and its handler succeeds. -/
def IsGood (outcome : Outcome) : Prop := ∃ replies, outcome = replied replies

theorem replies_of_not_isGood {outcome : Outcome} (bad : ¬outcome.IsGood) :
    outcome.replies = [] := by
  cases outcome with
  | malformed err => rfl
  | raised err => rfl
  | replied replies => exact absurd ⟨replies, rfl⟩ bad

end Outcome

/-- Every bundle takes its turn, whatever has become of the ones before it. -/
def turns (handler : Handler σ) : σ → List (Py BundleData) → List Outcome
  | _, [] => []
  | state, .error err :: rest => .malformed err :: turns handler state rest
  | state, .ok bundle :: rest =>
    match handler state bundle with
    | (next, .error err) => .raised err :: turns handler next rest
    | (next, .ok replies) => .replied replies :: turns handler next rest

def outcomes (handler : Handler σ) (state : σ) (data : FetchReplyDict) : List Outcome :=
  turns handler state (data.bundles.map BundleData.fromDict)

/-- Every good bundle of the reply is handled exactly once, and all replies of
the good bundles are sent. -/
def Isolated (handler : Handler σ) (state : σ) (data : FetchReplyDict) : Prop :=
  (∀ position replies, (outcomes handler state data)[position]? = some (.replied replies) →
    (receiveOnce handler state data).handled.count position = 1) ∧
  ((outcomes handler state data).flatMap Outcome.replies).Subperm
    (receiveOnce handler state data).sent

/-- A bundle that cannot be made, or a reply without success, comes with no good
bundle. After a bundle whose handler raises there is no good one either, and the
ones before it have no replies. -/
def Harmless (success : Bool) (outcomes : List Outcome) : Prop :=
  (success = false ∨ (∃ outcome ∈ outcomes, outcome.IsMalformed) →
    ∀ outcome ∈ outcomes, ¬outcome.IsGood) ∧
  ∀ before err after, outcomes = before ++ .raised err :: after →
    (∀ outcome ∈ before, outcome.replies = []) ∧ ∀ outcome ∈ after, ¬outcome.IsGood

variable {handler : Handler σ} {state next : σ} {bundle : BundleData} {err : PyError}

theorem turns_of_raised {rest : List (Py BundleData)}
    (result : handler state bundle = (next, .error err)) :
    turns handler state (.ok bundle :: rest) = .raised err :: turns handler next rest := by
  simp only [turns, result]

variable {replies bundles : List BundleData} {position : Nat} {before after : List Outcome}

theorem turns_of_replied {rest : List (Py BundleData)}
    (result : handler state bundle = (next, .ok replies)) :
    turns handler state (.ok bundle :: rest) = .replied replies :: turns handler next rest := by
  simp only [turns, result]

theorem handleBundles_cons_of_raised {rest : List BundleData}
    (result : handler state bundle = (next, .error err)) :
    handleBundles handler position state (bundle :: rest) = ⟨next, [position], .error err⟩ := by
  simp only [handleBundles, result]

theorem handleBundles_cons_of_replied {rest : List BundleData}
    (result : handler state bundle = (next, .ok replies)) :
    handleBundles handler position state (bundle :: rest) =
      ⟨(handleBundles handler (position + 1) next rest).state,
        position :: (handleBundles handler (position + 1) next rest).handled,
        (replies ++ ·) <$> (handleBundles handler (position + 1) next rest).replies⟩ := by
  simp only [handleBundles, result]

theorem malformed_mem_turns {made : List (Py BundleData)} (failed : .error err ∈ made) :
    .malformed err ∈ turns handler state made := by
  induction made generalizing state with
  | nil => cases failed
  | cons first rest ih =>
    cases first with
    | error cause =>
      rcases mem_cons.mp failed with same | later
      · cases same
        exact mem_cons_self
      · exact mem_cons_of_mem _ (ih later)
    | ok bundle =>
      have later : .error err ∈ rest := by simpa using failed
      rcases result : handler state bundle with ⟨next, cause | replies⟩
      · rw [turns_of_raised result]
        exact mem_cons_of_mem _ (ih later)
      · rw [turns_of_replied result]
        exact mem_cons_of_mem _ (ih later)

theorem malformed_not_mem_turns : .malformed err ∉ turns handler state (bundles.map .ok) := by
  induction bundles generalizing state with
  | nil => exact not_mem_nil
  | cons bundle rest ih =>
    intro member
    rw [map_cons] at member
    rcases result : handler state bundle with ⟨next, cause | replies⟩
    · rw [turns_of_raised result] at member
      rcases mem_cons.mp member with same | later
      · cases same
      · exact ih later
    · rw [turns_of_replied result] at member
      rcases mem_cons.mp member with same | later
      · cases same
      · exact ih later

theorem length_turns {made : List (Py BundleData)} :
    (turns handler state made).length = made.length := by
  induction made generalizing state with
  | nil => rfl
  | cons first rest ih =>
    cases first with
    | error cause => exact congrArg (· + 1) ih
    | ok bundle =>
      rcases result : handler state bundle with ⟨next, cause | replies⟩
      · rw [turns_of_raised result]
        exact congrArg (· + 1) ih
      · rw [turns_of_replied result]
        exact congrArg (· + 1) ih

/-- Without an exception all bundles are handled, and all replies come back. -/
theorem handleBundles_of_quiet
    (quiet : ∀ cause, .raised cause ∉ turns handler state (bundles.map .ok)) :
    (handleBundles handler position state bundles).handled = List.range' position bundles.length ∧
      (handleBundles handler position state bundles).replies =
        .ok ((turns handler state (bundles.map .ok)).flatMap Outcome.replies) := by
  induction bundles generalizing state position with
  | nil => exact ⟨rfl, rfl⟩
  | cons bundle rest ih =>
    rw [map_cons] at quiet ⊢
    rcases result : handler state bundle with ⟨next, cause | replies⟩
    · rw [turns_of_raised result] at quiet
      exact absurd mem_cons_self (quiet cause)
    · rw [turns_of_replied result] at quiet ⊢
      obtain ⟨positions, all⟩ := @ih next (position + 1) fun cause member =>
        quiet cause (mem_cons_of_mem _ member)
      rw [handleBundles_cons_of_replied result, positions, all]
      exact ⟨rfl, rfl⟩

/-- The first exception ends the handling, and takes the replies with it. -/
theorem handleBundles_of_raised (quiet : ∀ cause, .raised cause ∉ before)
    (parts : turns handler state (bundles.map .ok) = before ++ .raised err :: after) :
    (handleBundles handler position state bundles).handled =
      List.range' position (before.length + 1) ∧
      (handleBundles handler position state bundles).replies = .error err := by
  induction bundles generalizing state position before with
  | nil => cases before <;> cases parts
  | cons bundle rest ih =>
    rw [map_cons] at parts
    rcases result : handler state bundle with ⟨next, cause | replies⟩
    · rw [turns_of_raised result] at parts
      rw [handleBundles_cons_of_raised result]
      cases before with
      | nil =>
        cases parts
        exact ⟨rfl, rfl⟩
      | cons first before =>
        obtain ⟨rfl, -⟩ := List.cons.inj parts
        exact absurd mem_cons_self (quiet cause)
    · rw [turns_of_replied result] at parts
      rw [handleBundles_cons_of_replied result]
      cases before with
      | nil => cases (List.cons.inj parts).1
      | cons first before =>
        obtain ⟨positions, failed⟩ := @ih next (position + 1) before
          (fun cause member => quiet cause (mem_cons_of_mem _ member)) (List.cons.inj parts).2
        rw [positions, failed]
        exact ⟨rfl, rfl⟩

/-- The exceptions of a list start somewhere, if there are any. -/
theorem quiet_or_first_raised (outcomes : List Outcome) : (∀ cause, .raised cause ∉ outcomes) ∨
    ∃ before err after, outcomes = before ++ .raised err :: after ∧
      ∀ cause, .raised cause ∉ before := by
  induction outcomes with
  | nil => exact .inl fun _ => not_mem_nil
  | cons first rest ih =>
    by_cases raises : ∃ err, first = .raised err
    · obtain ⟨err, rfl⟩ := raises
      exact .inr ⟨[], err, rest, rfl, fun _ => not_mem_nil⟩
    · have calm : ∀ {cause others}, .raised cause ∉ others → .raised cause ∉ first :: others := by
        intro cause others absent member
        rcases mem_cons.mp member with same | later
        · exact raises ⟨cause, same.symm⟩
        · exact absent later
      rcases ih with quiet | ⟨before, err, after, rfl, quiet⟩
      · exact .inl fun cause => calm (quiet cause)
      · exact .inr ⟨first :: before, err, after, rfl, fun cause => calm (quiet cause)⟩

variable {data : FetchReplyDict}

theorem receiveOnce_of_malformed (failed : data.bundles.mapM BundleData.fromDict = .error err) :
    receiveOnce handler state data = ⟨state, [], []⟩ := by
  simp [receiveOnce, FetchReply.fromDict, failed]

section Made

variable {bundles : List BundleData} (made : data.bundles.mapM BundleData.fromDict = .ok bundles)

include made

theorem outcomes_of_made : outcomes handler state data = turns handler state (bundles.map .ok) := by
  rw [outcomes, Lang.map_of_mapM made]

theorem receiveOnce_of_failure (failure : data.success = false) :
    receiveOnce handler state data = ⟨state, [], []⟩ := by
  simp [receiveOnce, FetchReply.fromDict, made, failure]

theorem receiveOnce_of_replies (success : data.success = true)
    (all : (handleBundles handler 0 state bundles).replies = .ok replies) :
    receiveOnce handler state data = ⟨(handleBundles handler 0 state bundles).state,
      (handleBundles handler 0 state bundles).handled, replies⟩ := by
  simp [receiveOnce, FetchReply.fromDict, made, success, all]

theorem receiveOnce_of_raised (success : data.success = true)
    (failed : (handleBundles handler 0 state bundles).replies = .error err) :
    receiveOnce handler state data = ⟨(handleBundles handler 0 state bundles).state,
      (handleBundles handler 0 state bundles).handled, []⟩ := by
  simp [receiveOnce, FetchReply.fromDict, made, success, failed]

end Made

/-- If nothing is handled, nothing good may have been there. -/
theorem isolated_of_idle (idle : (receiveOnce handler state data).handled = [])
    (silent : (receiveOnce handler state data).sent = []) :
    Isolated handler state data ↔
      ∀ outcome ∈ outcomes handler state data, ¬outcome.IsGood := by
  unfold Isolated
  rw [idle, silent]
  constructor
  · rintro ⟨once, -⟩ outcome member ⟨replies, rfl⟩
    obtain ⟨position, found⟩ := mem_iff_getElem?.mp member
    have counted := once position replies found
    rw [count_nil] at counted
    cases counted
  · intro none
    constructor
    · intro position replies found
      exact absurd ⟨replies, rfl⟩ (none _ (mem_of_getElem? found))
    · have nothing : (outcomes handler state data).flatMap Outcome.replies = [] :=
        flatMap_eq_nil_iff.mpr fun outcome member => Outcome.replies_of_not_isGood (none outcome member)
      rw [nothing]

theorem harmless_of_lost {success : Bool} {results : List Outcome}
    (lost : success = false ∨ ∃ outcome ∈ results, outcome.IsMalformed) :
    Harmless success results ↔ ∀ outcome ∈ results, ¬outcome.IsGood := by
  constructor
  · intro harmless
    exact harmless.1 lost
  · intro none
    refine ⟨fun _ => none, ?_⟩
    rintro before err after rfl
    constructor
    · intro outcome member
      exact Outcome.replies_of_not_isGood (none outcome (mem_append_left _ member))
    · intro outcome member
      exact none outcome (mem_append_right _ (mem_cons_of_mem _ member))

theorem isolated_of_quiet (made : data.bundles.mapM BundleData.fromDict = .ok bundles)
    (success : data.success = true)
    (quiet : ∀ cause, .raised cause ∉ turns handler state (bundles.map .ok)) :
    Isolated handler state data := by
  obtain ⟨positions, all⟩ := @handleBundles_of_quiet _ _ handler state bundles 0 quiet
  unfold Isolated
  rw [receiveOnce_of_replies made success all, outcomes_of_made made, positions]
  constructor
  · intro position replies found
    apply count_range_eq_one.mpr
    have bound := (List.getElem?_eq_some_iff.mp found).1
    rwa [length_turns, length_map] at bound
  · exact List.Subperm.refl _

/-- What the first exception takes with it: the replies of the bundles before
it, and all bundles after it. -/
theorem isolated_of_raised (made : data.bundles.mapM BundleData.fromDict = .ok bundles)
    (success : data.success = true)
    (parts : turns handler state (bundles.map .ok) = before ++ .raised err :: after)
    (quiet : ∀ cause, .raised cause ∉ before) : Isolated handler state data ↔
      (∀ outcome ∈ before, outcome.replies = []) ∧ ∀ outcome ∈ after, ¬outcome.IsGood := by
  obtain ⟨positions, failed⟩ :=
    @handleBundles_of_raised _ _ handler state err bundles 0 before after quiet parts
  unfold Isolated
  rw [receiveOnce_of_raised made success failed, outcomes_of_made made, positions, parts]
  constructor
  · rintro ⟨once, sent⟩
    have nothing := flatMap_eq_nil_iff.mp (subperm_nil.mp sent)
    refine ⟨fun outcome member => nothing outcome (mem_append_left _ member), ?_⟩
    rintro outcome member ⟨replies, rfl⟩
    obtain ⟨offset, found⟩ := mem_iff_getElem?.mp member
    have late := count_range_eq_one.mp (once (before.length + (offset + 1)) replies (by
      rw [getElem?_append_right (Nat.le_add_right _ _), Nat.add_sub_cancel_left,
        getElem?_cons_succ, found]))
    omega
  · rintro ⟨silent, none⟩
    constructor
    · intro position replies found
      apply count_range_eq_one.mpr
      by_contra late
      rw [getElem?_append_right (by omega), show position - before.length =
        position - before.length - 1 + 1 by omega, getElem?_cons_succ] at found
      exact none _ (mem_of_getElem? found) ⟨replies, rfl⟩
    · apply subperm_nil.mpr
      apply flatMap_eq_nil_iff.mpr
      intro outcome member
      rcases mem_append.mp member with early | late
      · exact silent outcome early
      · rcases mem_cons.mp late with rfl | later
        · rfl
        · exact Outcome.replies_of_not_isGood (none outcome later)

/-- The first exception says it for all of them. -/
theorem harmless_of_raised (quiet : ∀ cause, .raised cause ∉ before)
    (formed : ¬∃ outcome ∈ before ++ .raised err :: after, outcome.IsMalformed) :
    Harmless true (before ++ .raised err :: after) ↔
      (∀ outcome ∈ before, outcome.replies = []) ∧ ∀ outcome ∈ after, ¬outcome.IsGood := by
  constructor
  · intro harmless
    exact harmless.2 before err after rfl
  · rintro ⟨silent, none⟩
    refine ⟨fun lost => absurd lost (by simpa using formed), ?_⟩
    intro early cause late parts
    rcases append_eq_append_iff.mp parts with ⟨between, rfl, rest⟩ | ⟨between, rfl, rest⟩
    · cases between with
      | nil =>
        cases rest
        simpa using And.intro silent none
      | cons first between =>
        obtain ⟨rfl, rfl⟩ := List.cons.inj rest
        constructor
        · intro outcome member
          simp only [mem_append, mem_cons] at member
          rcases member with first | rfl | later
          · exact silent outcome first
          · rfl
          · exact Outcome.replies_of_not_isGood (none outcome (mem_append_left _ later))
        · intro outcome member
          exact none outcome (mem_append_right _ (mem_cons_of_mem _ member))
    · cases between with
      | nil =>
        cases rest
        simpa using And.intro silent none
      | cons first between =>
        obtain ⟨rfl, -⟩ := List.cons.inj rest
        exact absurd (mem_append_right _ mem_cons_self) (quiet cause)

theorem isolated_iff_harmless (handler : Handler σ) (state : σ) (data : FetchReplyDict) :
    Isolated handler state data ↔ Harmless data.success (outcomes handler state data) := by
  cases made : data.bundles.mapM BundleData.fromDict with
  | error err =>
    have idle := @receiveOnce_of_malformed _ _ handler state err data made
    rw [isolated_of_idle (by rw [idle]) (by rw [idle]), harmless_of_lost]
    exact .inr ⟨_, malformed_mem_turns (Lang.error_mem_of_mapM made), err, rfl⟩
  | ok bundles =>
    cases success : data.success with
    | false =>
      have idle := @receiveOnce_of_failure _ _ handler state data bundles made success
      rw [isolated_of_idle (by rw [idle]) (by rw [idle]), harmless_of_lost (.inl rfl)]
    | true =>
      have formed : ¬∃ outcome ∈ outcomes handler state data, outcome.IsMalformed := by
        rw [outcomes_of_made made]
        rintro ⟨outcome, member, err, rfl⟩
        exact malformed_not_mem_turns member
      rcases quiet_or_first_raised (turns handler state (bundles.map .ok)) with
        quiet | ⟨before, err, after, parts, quiet⟩
      · refine iff_of_true (isolated_of_quiet made success quiet) ⟨fun lost => ?_, ?_⟩
        · exact absurd lost (by simpa using formed)
        · intro before err after parts
          rw [outcomes_of_made made] at parts
          exact absurd (parts ▸ mem_append_right _ mem_cons_self) (quiet err)
      · rw [outcomes_of_made made, parts] at formed ⊢
        rw [isolated_of_raised made success parts quiet, harmless_of_raised quiet formed]

end

open scoped Samples

def listeningNode : Node where
  nodeId := sampleExecutor
  nodeType := NodeType.executor

def announcementDict : BundleDict where
  type := some BundleType.brokerAnnounce
  source := some (str "dtn://broker/")
  destination := some (str "dtn://rec.all/~")
  nodeType := some NodeType.broker

def namelessDict : BundleDict where
  type := some BundleType.ndataGet
  source := some (str "dtn://store/")
  destination := some (str "dtn://executor/")

/-- The announcement is not answered, because of the bundle that comes with it. -/
theorem announcementWithNameless_not_isolated :
    ¬Isolated Node.handleDiscovery listeningNode ⟨true, [],
      [announcementDict, namelessDict]⟩ := by
  intro isolated
  have once := isolated.1 0 _ rfl
  have idle : (receiveOnce Node.handleDiscovery listeningNode
      ⟨true, [], [announcementDict, namelessDict]⟩).handled = [] := rfl
  rw [idle] at once
  cases once

end RecDtn.Rec
