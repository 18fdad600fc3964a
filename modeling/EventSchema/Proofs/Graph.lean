import EventSchema.Graph
import Mathlib.Data.List.Chain
import Mathlib.Logic.Relation

/-!
Cycles and the depth-first search for them. `Visits` holds the rules of the search alone, without
the list of nodes that bounds it; where the list is closed under successors, `search` follows them.
A visit that fails gives a loop along edges, and after any other visit no node that is done lies on
a cycle.
-/

set_option autoImplicit false

namespace EventSchema.Graph

variable {α : Type}

def Edge (next : α → List α) (x y : α) : Prop := y ∈ next x

/-- A way along edges from a node back to it. -/
def IsLoop (edge : α → α → Prop) (path : List α) : Prop :=
  ∃ x way, path = x :: (way ++ [x]) ∧ path.IsChain edge

theorem transGen_of_isChain {edge : α → α → Prop} {x y : α} {way : List α}
    (h : (x :: (way ++ [y])).IsChain edge) : Relation.TransGen edge x y := by
  induction way generalizing x with
  | nil => exact .single (List.isChain_pair.1 h)
  | cons z way ih =>
    have hz := List.isChain_cons_cons.1 h
    exact .head hz.1 (ih hz.2)

theorem IsLoop.transGen {edge : α → α → Prop} {path : List α} (h : IsLoop edge path) :
    ∃ x, Relation.TransGen edge x x := by
  obtain ⟨x, way, rfl, hc⟩ := h
  exact ⟨x, transGen_of_isChain hc⟩

variable {next : α → List α}

/-- The trail has its end first, so its edges point backwards. -/
def IsTrail (next : α → List α) (trail : List α) : Prop :=
  trail.IsChain fun x y => Edge next y x

/-- Nodes that are done: no edge leaves them and no cycle meets them. -/
structure Settled (next : α → List α) (done : List α) : Prop where
  closed : ∀ x ∈ done, ∀ y ∈ next x, y ∈ done
  acyclic : ∀ x ∈ done, ¬ Relation.TransGen (Edge next) x x

theorem settled_nil : Settled next [] := ⟨by simp, by simp⟩

theorem Settled.mem_of_transGen {done : List α} (h : Settled next done) {x y : α}
    (hx : x ∈ done) (hxy : Relation.TransGen (Edge next) x y) : y ∈ done := by
  induction hxy with
  | single he => exact h.closed x hx _ he
  | tail _ he ih => exact h.closed _ ih _ he

/-- A cycle through a new node would come back to it from its successors, which are done. -/
theorem Settled.cons {done : List α} (h : Settled next done) {x : α}
    (hx : ∀ y ∈ next x, y ∈ done) : Settled next (x :: done) := by
  have hback : ∀ y ∈ next x, Relation.ReflTransGen (Edge next) y x → x ∈ done := by
    intro y hy hyx
    rcases Relation.reflTransGen_iff_eq_or_transGen.1 hyx with rfl | hyx
    · exact hx _ hy
    · exact h.mem_of_transGen (hx y hy) hyx
  constructor
  · intro z hz y hy
    rcases List.mem_cons.1 hz with rfl | hz
    · exact List.mem_cons_of_mem _ (hx y hy)
    · exact List.mem_cons_of_mem _ (h.closed z hz y hy)
  · intro z hz hc
    rcases List.mem_cons.1 hz with rfl | hz
    · obtain ⟨y, hy, hyz⟩ := Relation.TransGen.head'_iff.1 hc
      exact h.acyclic z (hback y hy hyz) hc
    · exact h.acyclic z hz hc

variable [DecidableEq α]

/-- What a visit of the pending nodes comes to: a loop through the trail, or the nodes that are
done then. A node on the trail that is met again ends the visit. -/
inductive Visits (next : α → List α) :
    List α → List α → List α → Except (List α) (List α) → Prop
  | nil {trail done : List α} : Visits next trail [] done (.ok done)
  | skip {trail pending done : List α} {x : α} {outcome : Except (List α) (List α)} :
      x ∈ done → Visits next trail pending done outcome →
      Visits next trail (x :: pending) done outcome
  | loop {trail pending done : List α} {x : α} :
      x ∉ done → x ∈ trail → Visits next trail (x :: pending) done (.error (loopAt x trail))
  | fail {trail pending done path : List α} {x : α} :
      x ∉ done → x ∉ trail → Visits next (x :: trail) (next x) done (.error path) →
      Visits next trail (x :: pending) done (.error path)
  | enter {trail pending done below : List α} {x : α} {outcome : Except (List α) (List α)} :
      x ∉ done → x ∉ trail → Visits next (x :: trail) (next x) done (.ok below) →
      Visits next trail pending (x :: below) outcome →
      Visits next trail (x :: pending) done outcome

/-- The list of nodes only bounds the search: as long as it is closed under successors, the test
against it never fails. -/
theorem visits_search {nodes : List α} (closed : ∀ x ∈ nodes, ∀ y ∈ next x, y ∈ nodes)
    (trail pending done : List α) (hp : ∀ x ∈ pending, x ∈ nodes) :
    Visits next trail pending done (search next nodes trail pending done) := by
  fun_induction search next nodes trail pending done with
  | case1 trail done => exact .nil
  | case2 trail x pending done hd ih =>
    exact .skip hd (ih fun y hy => hp y (List.mem_cons_of_mem _ hy))
  | case3 trail x pending done hd ht => exact .loop hd ht
  | case4 trail x pending done hd ht hx path hs ih =>
    have hb := ih (closed x hx)
    rw [hs] at hb
    exact .fail hd ht hb
  | case5 trail x pending done hd ht hx below hs ihb ih =>
    have hb := ihb (closed x hx)
    rw [hs] at hb
    exact .enter hd ht hb (ih fun y hy => hp y (List.mem_cons_of_mem _ hy))
  | case6 trail x pending done hd ht hx ih => exact absurd (hp x (by simp)) hx

theorem takeWhile_ne_append_initial {trail : List α} {x : α} (hx : x ∈ trail) :
    trail.takeWhile (· ≠ x) ++ [x] <+: trail := by
  induction trail with
  | nil => simp at hx
  | cons y trail ih =>
    by_cases hy : y = x
    · subst hy
      simp
    · have ht : x ∈ trail := by simpa [Ne.symm hy] using hx
      simpa [hy] using ih ht

theorem isLoop_loopAt {trail : List α} {x : α} (hx : x ∈ trail) (ht : IsTrail next trail)
    (hl : ∀ y ∈ trail.head?, Edge next y x) : IsLoop (Edge next) (loopAt x trail) := by
  have hp := takeWhile_ne_append_initial hx
  refine ⟨x, (trail.takeWhile (· ≠ x)).reverse, rfl, ?_⟩
  have hr : loopAt x trail = (x :: (trail.takeWhile (· ≠ x) ++ [x])).reverse := by simp [loopAt]
  rw [hr, List.isChain_reverse]
  refine List.IsChain.cons ( List.IsChain.prefix ht hp) fun y hy => hl y ?_
  -- the part of the trail up to the node starts where the trail starts
  obtain ⟨rest, hr⟩ := hp
  generalize trail.takeWhile (· ≠ x) = front at hr hy
  rw [← hr]
  cases front <;> exact hy

/-- What fails a visit is a loop, provided that an edge leads from the end of the trail to every
pending node. -/
theorem Visits.isLoop {trail pending done path : List α}
    {outcome : Except (List α) (List α)} (h : Visits next trail pending done outcome)
    (he : outcome = .error path) (ht : IsTrail next trail)
    (hp : ∀ x ∈ pending, ∀ y ∈ trail.head?, Edge next y x) : IsLoop (Edge next) path := by
  induction h with
  | nil => cases he
  | skip _ _ ih => exact ih he ht fun y hy => hp y (List.mem_cons_of_mem _ hy)
  | loop _ hx =>
    cases he
    exact isLoop_loopAt hx ht (hp _ (by simp))
  | @fail trail pending done loop x _ _ _ ih =>
    refine ih he (List.IsChain.cons ht (hp x (by simp))) fun y hy z hz => ?_
    cases hz
    exact hy
  | enter _ _ _ _ _ ih => exact ih he ht fun y hy => hp y (List.mem_cons_of_mem _ hy)

theorem Visits.settled {trail pending done final : List α}
    {outcome : Except (List α) (List α)} (h : Visits next trail pending done outcome)
    (he : outcome = .ok final) (hd : Settled next done) :
    Settled next final ∧ (∀ x ∈ done, x ∈ final) ∧ ∀ x ∈ pending, x ∈ final := by
  induction h generalizing final with
  | nil =>
    cases he
    exact ⟨hd, fun _ hx => hx, by simp⟩
  | skip hx _ ih =>
    obtain ⟨hs, hk, hp⟩ := ih he hd
    exact ⟨hs, hk, List.forall_mem_cons.2 ⟨hk _ hx, hp⟩⟩
  | loop | fail => cases he
  | enter _ _ _ _ ihb ih =>
    obtain ⟨hb, hkb, hpb⟩ := ihb rfl hd
    obtain ⟨hs, hk, hp⟩ := ih he (hb.cons hpb)
    have hx := List.forall_mem_cons.1 hk
    exact ⟨hs, fun y hy => hx.2 y (hkb y hy), List.forall_mem_cons.2 ⟨hx.1, hp⟩⟩

section Whole

-- the nodes are all that edges start from or lead to
variable {nodes : List α} (ends : ∀ x y, Edge next x y → x ∈ nodes ∧ y ∈ nodes)
include ends

theorem visits_search_nodes : Visits next [] nodes [] (search next nodes [] nodes []) :=
  visits_search (fun x _ y hy => (ends x y hy).2) [] nodes [] fun _ hx => hx

theorem isLoop_of_cycle?_eq_some {path : List α} (h : cycle? next nodes = some path) :
    IsLoop (Edge next) path := by
  unfold cycle? at h
  split at h
  · next loop hs =>
    cases h
    exact (visits_search_nodes ends).isLoop hs .nil (by simp)
  · cases h

theorem cycle?_eq_none_iff :
    cycle? next nodes = none ↔ ∀ x, ¬ Relation.TransGen (Edge next) x x := by
  constructor
  · intro h x hc
    unfold cycle? at h
    split at h
    · cases h
    · next done hs =>
      obtain ⟨hd, -, hn⟩ := (visits_search_nodes ends).settled hs settled_nil
      obtain ⟨y, hy, -⟩ := Relation.TransGen.head'_iff.1 hc
      exact hd.acyclic x (hn x (ends x y hy).1) hc
  · intro h
    refine Option.eq_none_iff_forall_ne_some.2 fun path hp => ?_
    obtain ⟨x, hx⟩ := (isLoop_of_cycle?_eq_some ends hp).transGen
    exact h x hx

end Whole

end EventSchema.Graph
