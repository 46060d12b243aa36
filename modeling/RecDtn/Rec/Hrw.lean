import Mathlib.Data.Finset.Card
import Mathlib.Data.List.Induction
import RecDtn.Lang.Dict
import RecDtn.Lang.Python
import RecDtn.Lang.Ranking
import RecDtn.Lang.Sha2

namespace RecDtn.Rec

open Python Lang Wire.CborHead List

section

variable [Sha256]

/-- The digest, read as a number. -/
def hashValue (value : Str) : Nat := ofBigEndian (Sha256.sum256 (utf8 value))

def computeWeight (key nodeId : Str) : Nat := hashValue (key ++ ':' :: nodeId)

def rankNodes (key : Str) (nodes : List Str) : Dict Str Nat :=
  nodes.foldl (fun weights nodeId => weights.set nodeId (computeWeight key nodeId)) .empty

def hrwSelect (key : Str) (nodes : List Str) (replicas : Int) : List Str :=
  if replicas ≤ 0 then []
  else
    let weightMap := rankNodes key nodes
    (ranked (fun nodeId => (weightMap.get? nodeId).getD 0) weightMap.keys).take replicas.toNat

/-- The parameters of `hrw_select`, and which of them have a default. -/
def hrwSelect.signature : Signature where
  name := "hrw_select"
  parameters := [("key", false), ("nodes", false), ("replicas", true)]

theorem get?_rankNodes (key : Str) (nodes : List Str) (nodeId : Str) :
    (rankNodes key nodes).get? nodeId =
      if nodeId ∈ nodes then some (computeWeight key nodeId) else none := by
  induction nodes using List.reverseRecOn with
  | nil => rfl
  | append_singleton rest last ih =>
    unfold rankNodes at ih ⊢
    rw [foldl_append, foldl_cons, foldl_nil, Dict.get?_set, ih]
    by_cases same : nodeId = last
    · simp [same]
    · simp [same]

theorem mem_keys_rankNodes {key : Str} {nodes : List Str} {nodeId : Str} :
    nodeId ∈ (rankNodes key nodes).keys ↔ nodeId ∈ nodes := by
  rw [← not_iff_not, ← Dict.get?_eq_none, get?_rankNodes]
  simp

theorem hrwSelect_one (key : Str) {nodes : List Str} (nonempty : nodes ≠ []) :
    ∃ chosen ∈ nodes, hrwSelect key nodes 1 = [chosen] ∧
      ∀ other ∈ nodes, computeWeight key other ≤ computeWeight key chosen := by
  have weights : ∀ {nodeId}, nodeId ∈ nodes →
      ((rankNodes key nodes).get? nodeId).getD 0 = computeWeight key nodeId := by
    intro nodeId member
    rw [get?_rankNodes, if_pos member, Option.getD_some]
  cases order : ranked (fun nodeId => ((rankNodes key nodes).get? nodeId).getD 0)
      (rankNodes key nodes).keys with
  | nil =>
    obtain ⟨first, member⟩ := exists_mem_of_ne_nil nodes nonempty
    have empty := ranked_eq_nil.mp order
    exact absurd (mem_keys_rankNodes.mpr member) (empty ▸ not_mem_nil)
  | cons chosen rest =>
    have member : chosen ∈ nodes := mem_keys_rankNodes.mp (mem_ranked.mp (order ▸ mem_cons_self))
    refine ⟨chosen, member, ?_, ?_⟩
    · simp [hrwSelect, order]
    · intro other present
      have heavier := weight_le_of_ranked order (mem_keys_rankNodes.mpr present)
      rwa [weights present, weights member] at heavier

theorem hrwSelect_eq_take (key : Str) (nodes : List Str) {replicas : Int}
    (positive : 1 ≤ replicas) :
    hrwSelect key nodes replicas =
      (ranked (computeWeight key) (rankNodes key nodes).keys).take replicas.toNat := by
  have weights : ∀ nodeId ∈ (rankNodes key nodes).keys,
      ((rankNodes key nodes).get? nodeId).getD 0 = computeWeight key nodeId := by
    intro nodeId member
    rw [get?_rankNodes, if_pos (mem_keys_rankNodes.mp member), Option.getD_some]
  rw [hrwSelect, if_neg (by omega)]
  simp only [ranked_congr weights]

theorem hrwSelect_eq_take_toNat (key : Str) (nodes : List Str) (replicas : Int) :
    hrwSelect key nodes replicas =
      (ranked (computeWeight key) (rankNodes key nodes).keys).take replicas.toNat := by
  by_cases positive : 1 ≤ replicas
  · exact hrwSelect_eq_take key nodes positive
  · have none : replicas.toNat = 0 := Int.toNat_of_nonpos (by omega)
    rw [hrwSelect, if_pos (by omega), none, take_zero]

theorem length_keys_rankNodes (key : Str) (nodes : List Str) :
    (rankNodes key nodes).keys.length = nodes.toFinset.card := by
  have members : (rankNodes key nodes).keys.toFinset = nodes.toFinset := by
    ext nodeId
    rw [mem_toFinset, mem_toFinset, mem_keys_rankNodes]
  have single : (rankNodes key nodes).keys.Nodup := (rankNodes key nodes).nodup
  rw [← members, toFinset_card_of_nodup single]

/-- The choice is the same for all lists of the same nodes. It has as many nodes as
there are replicas, as long as there are nodes, and more replicas only add to it. -/
theorem hrwSelect_of_same_nodes {key : Str} {first second : List Str}
    (same : ∀ nodeId, nodeId ∈ first ↔ nodeId ∈ second)
    (distinct : ∀ one ∈ first, ∀ other ∈ first, computeWeight key one =
    computeWeight key other → one = other) (replicas : Int) :
    hrwSelect key first replicas = hrwSelect key second replicas ∧
      (hrwSelect key first replicas).Nodup ∧
      (0 ≤ replicas → ((hrwSelect key first replicas).length : Int) = min replicas first.toFinset.card) ∧
      hrwSelect key first replicas <+: hrwSelect key first (replicas + 1) := by
  have perm : (rankNodes key first).keys.Perm (rankNodes key second).keys := by
    apply (perm_ext_iff_of_nodup (rankNodes key first).nodup (rankNodes key second).nodup).mpr
    intro nodeId
    exact mem_keys_rankNodes.trans ((same nodeId).trans mem_keys_rankNodes.symm)
  have order : ranked (computeWeight key) (rankNodes key first).keys =
      ranked (computeWeight key) (rankNodes key second).keys := by
    apply ranked_eq_of_perm perm
    intro one oneIn other otherIn
    exact distinct one (mem_keys_rankNodes.mp oneIn) other (mem_keys_rankNodes.mp otherIn)
  have single : (ranked (computeWeight key) (rankNodes key first).keys).Nodup :=
    (perm_ranked _ _).nodup_iff.mpr (rankNodes key first).nodup
  have count : (ranked (computeWeight key) (rankNodes key first).keys).length =
      first.toFinset.card := by
    rw [(perm_ranked _ _).length_eq, length_keys_rankNodes]
  rw [hrwSelect_eq_take_toNat key first, hrwSelect_eq_take_toNat key second,
    hrwSelect_eq_take_toNat key first, order]
  rw [order] at single count
  refine ⟨rfl, single.sublist (take_sublist _ _), ?_, ?_⟩
  · intro natural
    rw [length_take, count]
    omega
  · exact take_prefix_take_left (by omega)

/-- The nodes that get a replica. -/
def chosen (key : Str) (nodes : List Str) (replicas : Int) : Finset Str :=
  (hrwSelect key nodes replicas).toFinset

section

variable {key : Str} {nodes joined : List Str} {node : Str} {replicas : Int}

theorem hrwSelect_eq_take_placed (new : node ∉ nodes)
    (members : ∀ other, other ∈ joined ↔ other = node ∨ other ∈ nodes)
    (distinct : ∀ first ∈ joined, ∀ second ∈ joined,
      computeWeight key first = computeWeight key second → first = second)
    (positive : 1 ≤ replicas) : hrwSelect key joined replicas =
      (placed (computeWeight key) node (hrwSelect key nodes replicas)).take replicas.toNat := by
  have perm : (rankNodes key joined).keys.Perm (node :: (rankNodes key nodes).keys) := by
    have fresh : node ∉ (rankNodes key nodes).keys :=
      fun present => new (mem_keys_rankNodes.mp present)
    apply (perm_ext_iff_of_nodup (rankNodes key joined).nodup
      (nodup_cons.mpr ⟨fresh, (rankNodes key nodes).nodup⟩)).mpr
    intro other
    rw [mem_cons, ← Dict.keys, mem_keys_rankNodes, mem_keys_rankNodes, members]
  have order : ranked (computeWeight key) (rankNodes key joined).keys =
      placed (computeWeight key) node (ranked (computeWeight key) (rankNodes key nodes).keys) := by
    apply ranked_eq_placed perm
    intro first firstIn second secondIn
    exact distinct first (mem_keys_rankNodes.mp firstIn) second (mem_keys_rankNodes.mp secondIn)
  rw [hrwSelect_eq_take key joined positive, hrwSelect_eq_take key nodes positive, take_placed, order]

/-- A node that joins takes its place in the order, drives out at most one node,
and changes nothing if it is not chosen itself. -/
theorem hrwSelect_join (new : node ∉ nodes)
    (members : ∀ other, other ∈ joined ↔ other = node ∨ other ∈ nodes)
    (distinct : ∀ first ∈ joined, ∀ second ∈ joined,
      computeWeight key first = computeWeight key second → first = second)
    (positive : 1 ≤ replicas) :
    hrwSelect key joined replicas =
        (placed (computeWeight key) node (hrwSelect key nodes replicas)).take replicas.toNat ∧
      (chosen key joined replicas \ chosen key nodes replicas).card ≤ 1 ∧
      (chosen key nodes replicas \ chosen key joined replicas).card ≤ 1 ∧
      (node ∉ chosen key joined replicas → hrwSelect key nodes replicas = hrwSelect key joined replicas) := by
  have inserted := hrwSelect_eq_take_placed new members distinct positive
  refine ⟨inserted, ?_⟩
  have cut : (hrwSelect key nodes replicas).take replicas.toNat = hrwSelect key nodes replicas := by
    rw [hrwSelect_eq_take key nodes positive, take_take, Nat.min_self]
  have cases := take_placed_cases (computeWeight key) node
    (hrwSelect key nodes replicas) replicas.toNat
  rw [← inserted, cut] at cases
  unfold chosen
  rcases cases with same | ⟨first, second, gone, few, more, fewer⟩
  · rw [same, Finset.sdiff_self]
    exact ⟨Nat.zero_le 1, Nat.zero_le 1, fun _ => rfl⟩
  · rw [more, fewer]
    refine ⟨?_, ?_, ?_⟩
    · have only : (first ++ node :: second).toFinset \ (first ++ second ++ gone).toFinset ⊆ {node} := by
        intro other member
        simp only [Finset.mem_sdiff, mem_toFinset, mem_append, mem_cons] at member
        rw [Finset.mem_singleton]
        tauto
      exact (Finset.card_le_card only).trans (Finset.card_singleton node).le
    · have only : (first ++ second ++ gone).toFinset \ (first ++ node :: second).toFinset ⊆ gone.toFinset := by
        intro other member
        simp only [Finset.mem_sdiff, mem_toFinset, mem_append, mem_cons] at member
        rw [mem_toFinset]
        tauto
      exact (Finset.card_le_card only).trans (gone.toFinset_card_le.trans few)
    · intro absent
      exact absurd (mem_toFinset.mpr (mem_append_right _ mem_cons_self)) absent

end

end

attribute [local instance] Sha256.standard

def settledStores : List Str := [str "store1", str "store2"]

def joinedStores : List Str := [str "store1", str "store3", str "store2"]

def listedStores : List Str := [str "store2", str "store1", str "store2", str "store3", str "store1"]

theorem joinedStores_distinct : ∀ first ∈ joinedStores, ∀ second ∈ joinedStores,
    computeWeight (str "data") first = computeWeight (str "data") second → first = second := by
  decide +kernel

/-- The same three stores in another order, two of them twice. -/
theorem listedStores_hrwSelect :
    hrwSelect (str "data") joinedStores 2 = hrwSelect (str "data") listedStores 2 ∧
      (hrwSelect (str "data") joinedStores 2).length = 2 := by
  have listed : ∀ nodeId ∈ joinedStores, nodeId ∈ listedStores := by decide
  have joined : ∀ nodeId ∈ listedStores, nodeId ∈ joinedStores := by decide
  have stores : joinedStores.toFinset.card = 3 := by decide
  obtain ⟨equal, -, count, -⟩ :=
    hrwSelect_of_same_nodes (fun nodeId => ⟨listed nodeId, joined nodeId⟩)
    joinedStores_distinct 2
  have length := count (by decide)
  rw [stores] at length
  exact ⟨equal, Int.ofNat.inj length⟩

/-- A third store joins two others, and there are two replicas. -/
theorem joinedStores_hrwSelect_join :
    hrwSelect (str "data") joinedStores 2 =
        (placed (computeWeight (str "data")) (str "store3") (hrwSelect (str "data") settledStores 2)).take 2 ∧
      (chosen (str "data") joinedStores 2 \ chosen (str "data") settledStores 2).card ≤ 1 := by
  have new : str "store3" ∉ settledStores := by decide
  have members : ∀ other, other ∈ joinedStores ↔ other = str "store3" ∨
      other ∈ settledStores := by
    intro other
    rw [joinedStores, settledStores, mem_cons, mem_cons, mem_cons, or_left_comm, mem_cons,
      mem_cons]
  have positive : (1 : Int) ≤ 2 := by decide
  have joined := hrwSelect_join new members joinedStores_distinct positive
  exact ⟨joined.1, joined.2.1⟩

end RecDtn.Rec
