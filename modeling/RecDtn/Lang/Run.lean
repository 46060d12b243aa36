import Mathlib.Data.List.Induction
import Mathlib.Data.List.Perm.Basic

namespace RecDtn.Lang

open List

variable {σ α : Type} {step : σ → α → σ}

/-- The state that the actions lead to. -/
def run (step : σ → α → σ) (start : σ) (actions : List α) : σ := actions.foldl step start

@[simp] theorem run_nil (start : σ) : run step start [] = start := rfl

@[simp] theorem run_cons (start : σ) (action : α) (rest : List α) :
    run step start (action :: rest) = run step (step start action) rest := rfl

@[simp] theorem run_append (start : σ) (first second : List α) :
    run step start (first ++ second) = run step (run step start first) second :=
  foldl_append

/-- Every action of the run is taken in a state in which the guard allows it. -/
def Guarded (step : σ → α → σ) (guard : σ → α → Prop) (start : σ)
    (actions : List α) : Prop :=
  ∀ before action after, actions = before ++ action :: after →
    guard (run step start before) action

variable {guard : σ → α → Prop} {start : σ}

theorem guarded_nil : Guarded step guard start [] := by
  intro before action after same
  cases before <;> cases same

variable {action : α} {actions : List α} {property : σ → Prop} {rest first others : List α}

theorem guarded_cons : Guarded step guard start (action :: rest) ↔
    guard start action ∧ Guarded step guard (step start action) rest := by
  constructor
  · intro guarded
    refine ⟨guarded [] action rest rfl, ?_⟩
    intro before next after same
    exact guarded (action :: before) next after (by rw [same, cons_append])
  · rintro ⟨first, later⟩ before next after same
    cases before with
    | nil =>
      cases same
      exact first
    | cons head before =>
      cases same
      exact later before next after rfl

theorem Guarded.before {second : List α} (guarded : Guarded step guard start (first ++ second)) :
    Guarded step guard start first := by
  intro before action after same
  apply guarded before action (after ++ second)
  rw [same, append_assoc, cons_append]

theorem Guarded.last (guarded : Guarded step guard start (first ++ [action])) :
    guard (run step start first) action :=
  guarded first action [] rfl

/-- What holds at the start and survives every allowed action holds at the end. -/
theorem run_invariant (invariant : σ → Prop) (initial : invariant start)
    (keeps : ∀ state action, invariant state → guard state action →
      invariant (step state action))
    (guarded : Guarded step guard start actions) : invariant (run step start actions) := by
  induction actions using List.reverseRecOn with
  | nil => exact initial
  | append_singleton first action ih =>
    rw [run_append]
    exact keeps _ action (ih guarded.before) guarded.last

/-- What holds at every point of the run. -/
def Throughout (step : σ → α → σ) (property : σ → Prop) (start : σ)
    (actions : List α) : Prop :=
  ∀ before after, actions = before ++ after → property (run step start before)

theorem throughout_cons : Throughout step property start (action :: rest) ↔
      property start ∧ Throughout step property (step start action) rest := by
  constructor
  · intro throughout
    refine ⟨throughout [] (action :: rest) rfl, ?_⟩
    intro before after same
    exact throughout (action :: before) after (by rw [same, cons_append])
  · rintro ⟨first, later⟩ before after same
    cases before with
    | nil => exact first
    | cons head before =>
      cases same
      exact later before after rfl

/-- If the guard says of every admitted action whether it keeps a property, the
property holds throughout the runs of such actions that respect the guard, and
no other ones. -/
theorem throughout_iff_guarded_among {admitted : σ → α → Prop} (invariant : σ → Prop)
    (keeps : ∀ state action, admitted state action → invariant state →
      property (step state action) → invariant (step state action))
    (decides : ∀ state action, admitted state action → invariant state → property state →
      (property (step state action) ↔ guard state action))
    (among : Guarded step admitted start actions)
    (initial : invariant start) (holds : property start) :
    Throughout step property start actions ↔ Guarded step guard start actions := by
  induction actions generalizing start with
  | nil =>
    refine iff_of_true ?_ guarded_nil
    intro before after same
    obtain ⟨rfl, -⟩ := append_eq_nil_iff.mp same.symm
    exact holds
  | cons action rest ih =>
    obtain ⟨first, others⟩ := guarded_cons.mp among
    have next := decides start action first initial holds
    rw [throughout_cons, guarded_cons, ← next]
    constructor
    · rintro ⟨-, later⟩
      have after : property (step start action) := later [] rest rfl
      exact ⟨after, (ih others (keeps start action first initial after) after).mp later⟩
    · rintro ⟨after, later⟩
      exact ⟨holds, (ih others (keeps start action first initial after) after).mpr later⟩

/-- If the guard says of every action whether it keeps a property, the property
holds throughout the runs that respect the guard, and no other ones. -/
theorem throughout_iff_guarded (invariant : σ → Prop)
    (keeps : ∀ state action, invariant state → invariant (step state action))
    (decides : ∀ state action, invariant state → property state →
      (property (step state action) ↔ guard state action)) (initial : invariant start)
    (holds : property start) :
    Throughout step property start actions ↔ Guarded step guard start actions := by
  have among : Guarded step (fun _ _ => True) start actions := fun _ _ _ _ => trivial
  exact throughout_iff_guarded_among invariant (fun state action _ kept _ => keeps state action kept)
    (fun state action _ => decides state action) among initial holds

section Failing

variable {ε β : Type} {make : α → Except ε β} {items : List α} {made : List β}

theorem map_of_mapM (all : items.mapM make = .ok made) : items.map make = made.map .ok := by
  induction items generalizing made with
  | nil =>
    cases all
    rfl
  | cons item rest ih =>
    rw [mapM_cons] at all
    cases first : make item with
    | error err =>
      rw [first] at all
      cases all
    | ok value =>
      cases others : rest.mapM make with
      | error err =>
        rw [first, others] at all
        cases all
      | ok values =>
        rw [first, others] at all
        cases all
        rw [map_cons, map_cons, first, ih others]

theorem error_mem_of_mapM {err : ε} (failed : items.mapM make = .error err) :
    .error err ∈ items.map make := by
  induction items with
  | nil => cases failed
  | cons item rest ih =>
    rw [mapM_cons] at failed
    rw [map_cons, mem_cons]
    cases first : make item with
    | error cause =>
      rw [first] at failed
      cases failed
      exact .inl rfl
    | ok value =>
      right
      apply ih
      cases others : rest.mapM make with
      | error cause =>
        rw [first, others] at failed
        cases failed
        rfl
      | ok values =>
        rw [first, others] at failed
        cases failed

theorem mapM_append_of_ok {more : List β} (first : items.mapM make = .ok made)
    (second : others.mapM make = .ok more) : (items ++ others).mapM make = .ok (made ++ more) := by
  rw [mapM_append, first, second]
  rfl

theorem mapM_returns (each : ∀ item ∈ items, ∃ value, make item = .ok value) :
    ∃ made, items.mapM make = .ok made := by
  cases all : items.mapM make with
  | ok made => exact ⟨made, rfl⟩
  | error err =>
    obtain ⟨item, member, failed⟩ := mem_map.mp (error_mem_of_mapM all)
    obtain ⟨value, returned⟩ := each item member
    rw [returned] at failed
    cases failed

theorem map_back_of_mapM {back : β → α}
    (reads : ∀ item value, make item = .ok value → back value = item)
    (all : items.mapM make = .ok made) : made.map back = items := by
  have each := map_of_mapM all
  clear all
  induction items generalizing made with
  | nil =>
    cases made with
    | nil => rfl
    | cons value values => cases each
  | cons item rest ih =>
    cases made with
    | nil => cases each
    | cons value values =>
      obtain ⟨first, others⟩ := cons_eq_cons.mp each
      rw [map_cons, reads item value first, ih others]

/-- If a step fails or not whatever the state is, the loop can be split in two: all items are
looked at first, and what they do is done then. -/
theorem foldlM_eq_mapM {effect : α → Except ε β} {step : σ → α → Except ε σ}
    {apply : σ → β → σ} {ready : σ → Prop}
    (kept : ∀ state done, ready state → ready (apply state done))
    (each : ∀ state item, ready state → step state item = apply state <$> effect item)
    {start : σ} (initial : ready start) (items : List α) :
    items.foldlM step start = (fun effects => effects.foldl apply start) <$> items.mapM effect := by
  induction items generalizing start with
  | nil => rfl
  | cons item rest ih =>
    rw [foldlM_cons, mapM_cons, each start item initial]
    cases effect item with
    | error err => rfl
    | ok done =>
      change rest.foldlM step (apply start done) = _
      rw [ih (kept start done initial)]
      change _ = _ <$> ((fun later => done :: later) <$> rest.mapM effect)
      cases rest.mapM effect <;> rfl

/-- What is found among the effects is found among the items. -/
theorem filterMap_of_mapM {γ : Type} (kind : β → Option γ) (all : items.mapM make = .ok made) :
    made.filterMap kind = items.filterMap fun item => (make item).toOption.bind kind := by
  calc made.filterMap kind = (made.map .ok).filterMap fun (outcome : Except ε β) =>
    outcome.toOption.bind kind := by
        rw [filterMap_map]
        rfl
    _ = (items.map make).filterMap fun outcome =>
      outcome.toOption.bind kind := by rw [map_of_mapM all]
    _ = items.filterMap fun item => (make item).toOption.bind kind := filterMap_map

end Failing

section Picking

variable {items : List α} {position : Nat} {item : α}

/-- The one that is picked, and the others. -/
theorem perm_of_getElem? (there : items[position]? = some item) :
    items.Perm (item :: items.eraseIdx position) := by
  obtain ⟨bound, rfl⟩ := List.getElem?_eq_some_iff.mp there
  exact (getElem_cons_eraseIdx_perm bound).symm

/-- It goes on as another one. -/
theorem set_perm_of_getElem? (there : items[position]? = some item) (next : α) :
    (items.set position next).Perm (next :: items.eraseIdx position) := by
  obtain ⟨bound, -⟩ := List.getElem?_eq_some_iff.mp there
  exact set_perm_cons_eraseIdx bound next

/-- Two that are picked, and the others. -/
theorem perm_of_mem_of_ne {other : α} (member : item ∈ items) (second : other ∈ items)
    (different : item ≠ other) : ∃ rest, items.Perm (item :: other :: rest) := by
  obtain ⟨before, after, rfl⟩ := append_of_mem member
  have later : other ∈ before ++ after := by
    rcases mem_cons.mp (perm_middle.mem_iff.mp second) with same | later
    · exact absurd same.symm different
    · exact later
  obtain ⟨front, back, split⟩ := append_of_mem later
  refine ⟨front ++ back, perm_middle.trans (.cons item ?_)⟩
  rw [split]
  exact perm_middle

/-- A list of one value has one order. -/
theorem eq_of_perm_of_constant (same : items.Perm others)
    (constant : ∀ first ∈ items, ∀ second ∈ items, first = second) : items = others := by
  cases items with
  | nil => exact same.nil_eq
  | cons first rest =>
    have repeated : first :: rest = List.replicate (rest.length + 1) first :=
      eq_replicate_of_mem fun value member => constant value member first mem_cons_self
    rw [repeated] at same ⊢
    exact (perm_replicate.mp same.symm).symm

end Picking

end RecDtn.Lang
