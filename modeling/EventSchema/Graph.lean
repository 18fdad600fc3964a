/-!
Directed graphs given by a successor function. `search` looks for a cycle depth first, and
`closure` collects what can be reached; both only follow the successors of the given nodes, so
they end on every graph.
-/

set_option autoImplicit false

namespace EventSchema.Graph

variable {α : Type} [DecidableEq α]

def fresh (nodes seen : List α) : List α :=
  nodes.filter (· ∉ seen)

theorem length_fresh_cons_lt {nodes seen : List α} {x : α} (known : x ∈ nodes) (new : x ∉ seen) :
    (fresh nodes (x :: seen)).length < (fresh nodes seen).length := by
  have eq : fresh nodes (x :: seen) = (fresh nodes seen).filter (· ≠ x) := by
    simp [fresh, List.filter_filter, List.mem_cons, not_or]
  rw [eq]
  exact List.length_filter_lt_length_iff_exists.2 ⟨x, by simp [fresh, known, new], by simp⟩

theorem length_fresh_cons_le (nodes seen : List α) (x : α) :
    (fresh nodes (x :: seen)).length ≤ (fresh nodes seen).length := by
  have eq : fresh nodes (x :: seen) = (fresh nodes seen).filter (· ≠ x) := by
    simp [fresh, List.filter_filter, List.mem_cons, not_or]
  rw [eq]
  exact List.length_filter_le _ _

/-- The way from a node on the trail to the trail's end and back to the node. The trail has its
end first. -/
def loopAt (x : α) (trail : List α) : List α :=
  x :: (trail.takeWhile (· ≠ x)).reverse ++ [x]

/-- Visits the pending nodes and all below them that are not done. Gives a cycle that goes through
the trail, or the nodes that are done then. -/
def search (next : α → List α) (nodes trail : List α) : List α → List α → Except (List α) (List α)
  | [], done => .ok done
  | x :: pending, done =>
    if x ∈ done then search next nodes trail pending done
    else if x ∈ trail then .error (loopAt x trail)
    else if x ∈ nodes then
      match search next nodes (x :: trail) (next x) done with
      | .error loop => .error loop
      | .ok done => search next nodes trail pending (x :: done)
    else search next nodes trail pending done
termination_by pending => ((fresh nodes trail).length, pending.length)
decreasing_by
  · exact Prod.Lex.right _ (by simp)
  · exact Prod.Lex.left _ _ (length_fresh_cons_lt ‹_› ‹_›)
  · exact Prod.Lex.right _ (by simp)
  · exact Prod.Lex.right _ (by simp)

/-- A cycle of the graph, its first node again at the end. -/
def cycle? (next : α → List α) (nodes : List α) : Option (List α) :=
  match search next nodes [] nodes [] with
  | .error loop => some loop
  | .ok _ => none

/-- What can be reached from the pending nodes, before what was seen. -/
def closure (next : α → List α) (nodes : List α) : List α → List α → List α
  | [], seen => seen
  | x :: pending, seen =>
    if x ∈ seen then closure next nodes pending seen
    else if x ∈ nodes then closure next nodes (next x ++ pending) (x :: seen)
    else closure next nodes pending (x :: seen)
termination_by pending seen => ((fresh nodes seen).length, pending.length)
decreasing_by
  · exact Prod.Lex.right _ (by simp)
  · exact Prod.Lex.left _ _ (length_fresh_cons_lt ‹_› ‹_›)
  · have le := length_fresh_cons_le nodes seen x
    rcases Nat.lt_or_eq_of_le le with lt | eq
    · exact Prod.Lex.left _ _ lt
    · rw [eq]; exact Prod.Lex.right _ (by simp)

end EventSchema.Graph
