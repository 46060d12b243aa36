import RecDtn.Rec.Broker

/-! Where named data goes: at once, and when it has waited in the queue. -/

namespace RecDtn.Rec

open Python Lang NodeType List

section

variable [Unicode] [Sha256]

def weightOf (key : Str) (eid : Eid) : Nat := computeWeight key eid.text

/-- The weights of a key tell the nodes apart. -/
def DistinctWeights (key : Str) (nodes : List Eid) : Prop :=
  ∀ first ∈ nodes, ∀ second ∈ nodes, weightOf key first = weightOf key second →
    first = second

instance (key : Str) (nodes : List Eid) : Decidable (DistinctWeights key nodes) := by
  unfold DistinctWeights
  infer_instance

/-- The node is heavier than every other node. -/
def Heaviest (key : Str) (nodes : List Eid) (best : Eid) : Prop :=
  best ∈ nodes ∧ ∀ other ∈ nodes, other ≠ best → weightOf key other < weightOf key best

instance (key : Str) (nodes : List Eid) (best : Eid) : Decidable (Heaviest key nodes best) := by
  unfold Heaviest
  infer_instance

variable {key : Str} {nodes : List Eid}

theorem Heaviest.unique {first second : Eid} (one : Heaviest key nodes first)
    (two : Heaviest key nodes second) : first = second := by
  by_contra different
  have above := one.2 second two.1 (Ne.symm different)
  have below := two.2 first one.1 different
  exact absurd above (Nat.not_lt.mpr below.le)

/-- With distinct weights the choice does not depend on the order in which the
set is visited. -/
theorem pick_heaviest (nonempty : nodes ≠ []) (distinct : DistinctWeights key nodes)
    (order : SetOrder Eid) :
    ∃ best, pick hrwSelectReplicas order key nodes = .ok best ∧ Heaviest key nodes best := by
  have visited : (order.visit nodes).map Eid.text ≠ [] := by
    intro empty
    have same := order.perm nodes
    rw [map_eq_nil_iff.mp empty] at same
    exact nonempty same.nil_eq.symm
  obtain ⟨chosen, member, selected, heavy⟩ := hrwSelect_one key visited
  obtain ⟨named, present, rfl⟩ := mem_map.mp member
  cases found : (order.visit nodes).find? fun eid => eid.text = named.text with
  | none =>
    have missing := find?_eq_none.mp found named present
    simp at missing
  | some best =>
    have same : best = named := Eid.ext (by simpa using find?_some found)
    subst same
    refine ⟨best, ?_, (order.mem_visit nodes best).mp present, ?_⟩
    · have call : hrwSelectReplicas key ((order.visit nodes).map Eid.text) = .ok [best.text] := by
        rw [← selected]
        rfl
      simp only [pick, call, found, bind, Except.bind]
    · intro other known different
      have atMost := heavy other.text (mem_map_of_mem ((order.mem_visit nodes other).mpr known))
      apply Nat.lt_of_le_of_ne atMost
      intro same
      exact different (distinct other known best ((order.mem_visit nodes best).mp present) same)

theorem putDatastore_eq_queuedDatastore_iff {broker : Broker} {bundle : BundleData}
    (known : broker.known datastore ≠ [])
    (payloads : DistinctWeights (bytesStr bundle.payload) (broker.known datastore))
    (names : DistinctWeights bundle.namedData (broker.known datastore))
    (atOnce later : SetOrder Eid) :
    broker.putDatastore hrwSelectReplicas atOnce bundle =
        broker.queuedDatastore hrwSelectReplicas later bundle ↔
      ∃ best, Heaviest (bytesStr bundle.payload) (broker.known datastore) best ∧
        Heaviest bundle.namedData (broker.known datastore) best := by
  obtain ⟨first, put, firstHeavy⟩ := pick_heaviest known payloads atOnce
  obtain ⟨second, queued, secondHeavy⟩ := pick_heaviest known names later
  rw [Broker.putDatastore, Broker.queuedDatastore, put, queued, Except.ok.injEq]
  constructor
  · rintro rfl
    exact ⟨first, firstHeavy, secondHeavy⟩
  · rintro ⟨best, payloadBest, nameBest⟩
    rw [firstHeavy.unique payloadBest, secondHeavy.unique nameBest]

end

open scoped Samples

attribute [local instance] Sha256.standard

def firstStore : Eid := ⟨str "dtn://store1/", str "dtn://store1/", rfl⟩

def secondStore : Eid := ⟨str "dtn://store2/", str "dtn://store2/", rfl⟩

def twoStores : Broker :=
  (Broker.new sampleBroker).discover datastore firstStore [secondStore]

def greeting (name : Str) (named : name ≠ []) : BundleData where
  type := BundleType.ndataPut
  source := sampleClient
  destination := sampleBroker
  payload := [104, 101, 108, 108, 111]
  namedData := name
  valid := by simp [BundleFields.postInit, named]; decide

theorem twoStores_distinctWeights :
    DistinctWeights (bytesStr [104, 101, 108, 108, 111]) (twoStores.known datastore) := by
  decide +kernel

theorem greeting_sameDatastore :
    twoStores.putDatastore hrwSelectReplicas .asStored (greeting (str "a") (by decide)) =
      twoStores.queuedDatastore hrwSelectReplicas .asStored (greeting (str "a") (by decide)) := by
  apply (putDatastore_eq_queuedDatastore_iff ?_ ?_ ?_ .asStored .asStored).mpr
  · exact ⟨firstStore, by decide +kernel, by decide +kernel⟩
  · decide
  · exact twoStores_distinctWeights
  · decide +kernel

/-- `hello` goes to the first datastore at once, and to the second one from the
queue. -/
theorem greeting_otherDatastore :
    DistinctWeights (bytesStr [104, 101, 108, 108, 111]) (twoStores.known datastore) ∧
    DistinctWeights (str "data") (twoStores.known datastore) ∧
    twoStores.putDatastore hrwSelectReplicas .asStored (greeting (str "data") (by decide)) =
      .ok firstStore ∧
    twoStores.queuedDatastore hrwSelectReplicas .asStored (greeting (str "data") (by decide)) =
      .ok secondStore := by
  refine ⟨twoStores_distinctWeights, ?_, ?_, ?_⟩
  · decide +kernel
  · decide +kernel
  · decide +kernel

end RecDtn.Rec
