import Mathlib.Data.List.Nodup

namespace RecDtn.Lang

open List

/-- The items in the order of insertion, one for each key. -/
structure Dict (κ ν : Type) where
  items : List (κ × ν)
  nodup : (items.map Prod.fst).Nodup
  deriving DecidableEq

namespace Dict

variable {κ ν : Type}

def empty : Dict κ ν := ⟨[], .nil⟩

def keys (dict : Dict κ ν) : List κ := dict.items.map Prod.fst

def values (dict : Dict κ ν) : List ν := dict.items.map Prod.snd

variable {dict : Dict κ ν} {key : κ} {value : ν}

theorem mem_keys : key ∈ dict.keys ↔ ∃ value, (key, value) ∈ dict.items := by
  simp [keys]

/-- What is left without the items that a test refuses. -/
def restrict (dict : Dict κ ν) {items : List (κ × ν)} (fewer : items.Sublist dict.items) :
    Dict κ ν :=
  ⟨items, dict.nodup.sublist (fewer.map Prod.fst)⟩

def dropOldest (dict : Dict κ ν) : Dict κ ν := dict.restrict (tail_sublist dict.items)

variable [DecidableEq κ]

def get? (dict : Dict κ ν) (key : κ) : Option ν :=
  (dict.items.find? fun item => item.1 = key).map Prod.snd

/-- A key that is there keeps its place, another one goes to the end. -/
def set (dict : Dict κ ν) (key : κ) (value : ν) : Dict κ ν :=
  if present : key ∈ dict.keys then
    ⟨dict.items.map fun item => if item.1 = key then (key, value) else item, by
      have same : (fun item : κ × ν => (if item.1 = key then (key, value) else item).1) = Prod.fst := by
        funext item
        split
        · rename_i found
          exact found.symm
        · rfl
      rw [map_map, Function.comp_def, same]
      exact dict.nodup⟩
  else
    ⟨dict.items ++ [(key, value)], by
      rw [map_append]
      apply List.Nodup.append dict.nodup (nodup_singleton _)
      simpa [keys] using present⟩

def del (dict : Dict κ ν) (key : κ) : Dict κ ν :=
  dict.restrict (filter_sublist (p := fun item => item.1 ≠ key) (l := dict.items))

/-- The dictionary of some items, of which the last one of a key counts. -/
def ofItems (items : List (κ × ν)) : Dict κ ν :=
  items.foldl (fun dict item => dict.set item.1 item.2) empty

theorem ofItems_items (dict : Dict κ ν) : ofItems dict.items = dict := by
  have append : ∀ (items : List (κ × ν)) (start : Dict κ ν)
      (distinct : ((start.items ++ items).map Prod.fst).Nodup),
      items.foldl (fun dict item => dict.set item.1 item.2) start = ⟨start.items ++ items, distinct⟩ := by
    intro items
    induction items with
    | nil =>
      intro start distinct
      simp
    | cons item rest ih =>
      intro start distinct
      have absent : item.1 ∉ start.keys := by
        rw [map_append, map_cons] at distinct
        intro member
        exact (nodup_append.mp distinct).2.2 _ member _ mem_cons_self rfl
      have added : start.set item.1 item.2 = ⟨start.items ++ [item], by
          refine distinct.sublist (List.Sublist.map _ ?_)
          exact List.Sublist.append_left (List.Sublist.cons_cons item (nil_sublist rest)) _⟩ := by
        unfold set
        rw [dif_neg absent]
      rw [foldl_cons, added, ih _ (by simpa using distinct)]
      simp
  exact append dict.items empty (by simpa [empty] using dict.nodup)

theorem get?_eq_some : dict.get? key = some value ↔ (key, value) ∈ dict.items := by
  obtain ⟨items, nodup⟩ := dict
  unfold get?
  induction items with
  | nil => simp
  | cons first rest ih =>
    obtain ⟨absent, nodup⟩ := nodup_cons.mp nodup
    by_cases same : first.1 = key
    · subst same
      have only : ∀ value, (first.1, value) ∉ rest := fun value member =>
        absent (mem_map.mpr ⟨_, member, rfl⟩)
      simp [only value, Prod.ext_iff, eq_comm]
    · rw [List.find?_cons_of_neg (by simpa using same), ih nodup, mem_cons]
      have other : (key, value) ≠ first := fun equal => same (equal ▸ rfl)
      simp [other]

theorem get?_eq_none : dict.get? key = none ↔ key ∉ dict.keys := by
  rw [mem_keys, Option.eq_none_iff_forall_ne_some]
  simp [get?_eq_some]

theorem mem_items_set {other : κ} {found : ν} : (other, found) ∈ (dict.set key value).items ↔
      (other = key ∧ found = value) ∨ (other ≠ key ∧ (other, found) ∈ dict.items) := by
  unfold set
  split
  · rename_i present
    obtain ⟨old, present⟩ := mem_keys.mp present
    simp only [mem_map]
    constructor
    · rintro ⟨⟨place, content⟩, member, same⟩
      split at same
      · cases same
        exact .inl ⟨rfl, rfl⟩
      · rename_i different
        cases same
        exact .inr ⟨different, member⟩
    · rintro (⟨rfl, rfl⟩ | ⟨different, member⟩)
      · exact ⟨(other, old), present, if_pos rfl⟩
      · exact ⟨(other, found), member, if_neg different⟩
  · rename_i absent
    have different : (other, found) ∈ dict.items → other ≠ key := by
      rintro member rfl
      exact absent (mem_keys.mpr ⟨found, member⟩)
    simp only [mem_append, mem_singleton, Prod.mk.injEq]
    tauto

@[simp] theorem get?_set (dict : Dict κ ν) (key other : κ) (value : ν) :
    (dict.set key value).get? other = if other = key then some value else dict.get? other := by
  apply Option.ext
  intro found
  rw [get?_eq_some, mem_items_set]
  split
  · rename_i same
    simp [same, eq_comm]
  · rename_i different
    simp [different, get?_eq_some]

@[simp] theorem get?_del (dict : Dict κ ν) (key other : κ) :
    (dict.del key).get? other = if other = key then none else dict.get? other := by
  apply Option.ext
  intro found
  rw [get?_eq_some, del, restrict, mem_filter]
  split
  · rename_i same
    simp [same]
  · rename_i different
    simp [different, get?_eq_some]

theorem get?_of_dropOldest (found : dict.dropOldest.get? key = some value) :
    dict.get? key = some value := by
  rw [get?_eq_some] at found ⊢
  exact (tail_sublist dict.items).subset found

end Dict

end RecDtn.Lang
