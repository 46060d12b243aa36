/-! Programs that look things up in a table, and what they have looked up. -/

namespace RecDtn.Lang

inductive Query (κ ν α : Type) where
  | done (value : α)
  | ask (key : κ) (next : ν → Query κ ν α)

namespace Query

variable {κ ν α β : Type}

def bind (query : Query κ ν α) (rest : α → Query κ ν β) : Query κ ν β :=
  match query with
  | .done value => rest value
  | .ask key next => .ask key fun answer => (next answer).bind rest

instance : Monad (Query κ ν) where
  pure := .done
  bind := bind

def look (key : κ) : Query κ ν ν := .ask key .done

/-- The value that the answers of a table lead to. -/
def run (table : κ → ν) : Query κ ν α → α
  | .done value => value
  | .ask key next => (next (table key)).run table

/-- The keys that are looked up on the way. -/
def lookups (table : κ → ν) : Query κ ν α → List κ
  | .done _ => []
  | .ask key next => key :: (next (table key)).lookups table

variable (table : κ → ν)

@[simp] theorem run_pure (value : α) : (pure value : Query κ ν α).run table = value := rfl

@[simp] theorem run_look (key : κ) : (look key).run table = table key := rfl

@[simp] theorem lookups_look (key : κ) : (look key : Query κ ν ν).lookups table = [key] := rfl

@[simp] theorem run_bind (query : Query κ ν α) (rest : α → Query κ ν β) :
    (query >>= rest).run table = (rest (query.run table)).run table := by
  induction query with
  | done value => rfl
  | ask key next ih => exact ih (table key)

@[simp] theorem lookups_bind (query : Query κ ν α) (rest : α → Query κ ν β) :
    (query >>= rest).lookups table = query.lookups table ++
      (rest (query.run table)).lookups table := by
  induction query with
  | done value => rfl
  | ask key next ih => exact congrArg (key :: ·) (ih (table key))

variable {table} {other : κ → ν}

/-- A table that answers the lookups in the same way leads to the same value, by the
same lookups. -/
theorem eq_of_lookups {query : Query κ ν α}
    (same : ∀ key ∈ query.lookups table, other key = table key) :
    query.run other = query.run table ∧ query.lookups other = query.lookups table := by
  induction query with
  | done value => exact ⟨rfl, rfl⟩
  | ask key next ih =>
    rw [lookups, List.forall_mem_cons] at same
    obtain ⟨first, later⟩ := same
    obtain ⟨value, keys⟩ := ih (table key) later
    rw [run, run, lookups, lookups, first]
    exact ⟨value, congrArg (key :: ·) keys⟩

end Query

end RecDtn.Lang
