import EventSchema.Graph
import EventSchema.Proofs.LegalIdentifiers
import EventSchema.Proofs.References
import Mathlib.Order.Bounds.Basic

/-!
The names that the endpoints of a module reach. `Gathers` is the worklist alone, without the list of
nodes that bounds it: what has been seen has its successors seen or pending, so what it ends with is
closed, and any closed set has all of it. For references, this gives the least set of names that
holds those of the payloads and, with a named type of the module, those that the type mentions.
-/

set_option autoImplicit false

namespace EventSchema

namespace Graph

section Closure

variable {α : Type} {next : α → List α}

/-- What the worklist comes to: nodes that were seen are left out, and the successors of any other
are put in front of the rest. -/
inductive Gathers (next : α → List α) : List α → List α → List α → Prop
  | nil {seen : List α} : Gathers next [] seen seen
  | skip {x : α} {pending seen found : List α} :
      x ∈ seen → Gathers next pending seen found → Gathers next (x :: pending) seen found
  | take {x : α} {pending seen found : List α} :
      x ∉ seen → Gathers next (next x ++ pending) (x :: seen) found →
      Gathers next (x :: pending) seen found

/-- The list of nodes only bounds the worklist, as long as nothing follows another node. -/
theorem gathers_closure [DecidableEq α] {nodes : List α} (h : ∀ x, x ∉ nodes → next x = [])
    (pending seen : List α) : Gathers next pending seen (closure next nodes pending seen) := by
  fun_induction closure next nodes pending seen with
  | case1 seen => exact .nil
  | case2 seen x pending hs ih => exact .skip hs ih
  | case3 seen x pending hs hx ih => exact .take hs ih
  | case4 x pending seen hs hx ih =>
    refine .take hs ?_
    rw [h x hx]
    exact ih

variable {pending seen found : List α} {x y : α}

theorem mem_of_skip (hs : x ∈ seen) (h : y ∈ x :: pending ++ seen) : y ∈ pending ++ seen := by
  rcases List.mem_cons.1 h with rfl | h
  · exact List.mem_append_right _ hs
  · exact h

theorem mem_of_take {more : List α} (h : y ∈ x :: pending ++ seen) :
    y ∈ more ++ pending ++ x :: seen := by
  simp only [List.cons_append, List.mem_append, List.mem_cons] at h ⊢
  rcases h with rfl | h | h
  · exact .inr (.inl rfl)
  · exact .inl (.inr h)
  · exact .inr (.inr h)

theorem Gathers.mem (h : Gathers next pending seen found) (hy : y ∈ pending ++ seen) :
    y ∈ found := by
  induction h with
  | nil => exact hy
  | skip hs _ ih => exact ih (mem_of_skip hs hy)
  | take hs _ ih => exact ih (mem_of_take hy)

/-- What follows a node that was seen has been seen or is pending, so in the end all of it is
there. -/
theorem Gathers.closed (h : Gathers next pending seen found)
    (hc : ∀ x ∈ seen, ∀ y ∈ next x, y ∈ pending ++ seen) :
    ∀ x ∈ found, ∀ y ∈ next x, y ∈ found := by
  induction h with
  | nil => exact hc
  | skip hs _ ih => exact ih fun z hz y hy => mem_of_skip hs (hc z hz y hy)
  | take hs _ ih =>
    refine ih fun z hz y hy => ?_
    rcases List.mem_cons.1 hz with rfl | hz
    · exact List.mem_append_left _ (List.mem_append_left _ hy)
    · exact mem_of_take (hc z hz y hy)

theorem Gathers.least (h : Gathers next pending seen found) (nodes : Set α)
    (hp : ∀ x ∈ pending ++ seen, x ∈ nodes) (hc : ∀ x ∈ nodes, ∀ y ∈ next x, y ∈ nodes) :
    ∀ x ∈ found, x ∈ nodes := by
  induction h with
  | nil => exact hp
  | skip hs _ ih => exact ih fun y hy => hp y (List.mem_cons_of_mem _ hy)
  | @take x pending seen found hs _ ih =>
    refine ih fun y hy => ?_
    have hx : x ∈ nodes := hp x List.mem_cons_self
    simp only [List.mem_append, List.mem_cons] at hy
    rcases hy with (hy | hy) | rfl | hy
    · exact hc x hx y hy
    · exact hp y (List.mem_cons_of_mem _ (List.mem_append_left _ hy))
    · exact hx
    · exact hp y (List.mem_cons_of_mem _ (List.mem_append_right _ hy))

theorem Gathers.nodup (h : Gathers next pending seen found) (hn : seen.Nodup) : found.Nodup := by
  induction h with
  | nil => exact hn
  | skip _ _ ih => exact ih hn
  | take hx _ ih => exact ih (List.nodup_cons.2 ⟨hx, hn⟩)

end Closure

end Graph

section Names

theorem CustomRef.ofName?_eq_some {name : String} {r : CustomRef} (h : ofName? name = some r) :
    r.text = name ∧ Naming.isIdentifier r.name = true := by
  unfold ofName? at h
  rw [List.span_eq_takeWhile_dropWhile] at h
  have hname := List.takeWhile_append_dropWhile (p := (· != '.')) (l := name.toList)
  have hpoint := List.head?_dropWhile_not (· != '.') name.toList
  cases hd : name.toList.dropWhile (· != '.') with
  | nil =>
    simp only [hd] at h
    split at h
    · next hi =>
      cases h
      exact ⟨rfl, hi⟩
    · cases h
  | cons point after =>
    simp only [hd] at h hname hpoint
    obtain rfl : point = '.' := by simpa using hpoint
    split at h
    · next hi =>
      cases h
      refine ⟨?_, by simpa [Naming.isIdentifier] using (Bool.and_eq_true_iff.1 hi).2⟩
      rw [← String.toList_inj]
      simpa [text] using hname
    · cases h

theorem Datatype.ofName?_of_formOf {name : String} {hasOf hasFields : Bool} {r : CustomRef}
    (h : formOf name hasOf hasFields = .ok (.custom r)) : CustomRef.ofName? name = some r := by
  unfold formOf at h
  repeat' split at h
  all_goals cases h
  assumption

/-- What a node says by its name, seen from a module: the bare name of a declaration of the module,
or else the name as it stands. -/
def Datatype.mention? (moduleId : String) (node : Datatype) : Option String :=
  node.customRef?.map fun r => if r.isLocalTo moduleId then r.name else node.name

def Datatype.Mentions (moduleId : String) (dt : Datatype) (name : String) : Prop :=
  ∃ node ∈ dt.walk, node.mention? moduleId = some name

theorem CustomRef.relativeTo_of_isLocalTo {r : CustomRef} {moduleId : String}
    (h : r.isLocalTo moduleId = true) : r.relativeTo moduleId = ⟨none, r.name⟩ := by
  rw [relativeTo, isLocalTo_iff.1 h]

theorem CustomRef.relativeTo_of_foreign {r : CustomRef} {moduleId : String}
    (h : ¬ r.isLocalTo moduleId = true) : r.relativeTo moduleId = r := by
  cases hf : r.foreign? moduleId with
  | none => exact absurd (isLocalTo_iff.2 hf) h
  | some q => rw [relativeTo, hf, ← module_of_foreign? hf]

theorem Datatype.mention?_eq {moduleId : String} {node : Datatype} {r : CustomRef}
    (h : node.customRef? = some r) :
    node.mention? moduleId = some (r.relativeTo moduleId).text := by
  obtain ⟨name, nullable, rfl, hf⟩ := node_of_customRef? h
  rw [mention?, h, Option.map_some]
  split
  · next hl => rw [CustomRef.relativeTo_of_isLocalTo hl, CustomRef.text]
  · next hl =>
    rw [CustomRef.relativeTo_of_foreign hl, (CustomRef.ofName?_eq_some (ofName?_of_formOf hf)).1]
    rfl

theorem Datatype.mentions_iff {moduleId : String} {dt : Datatype} {name : String} :
    dt.Mentions moduleId name ↔ ∃ r ∈ dt.references moduleId, r.text = name := by
  constructor
  · rintro ⟨node, hn, hm⟩
    obtain ⟨own, ho, -⟩ := Option.map_eq_some_iff.1 hm
    rw [mention?_eq ho] at hm
    exact ⟨_, mem_references.2 ⟨node, hn, own, ho, rfl⟩, Option.some.inj hm⟩
  · rintro ⟨r, hr, rfl⟩
    obtain ⟨node, hn, own, ho, rfl⟩ := mem_references.1 hr
    exact ⟨node, hn, mention?_eq ho⟩

theorem Datatype.point_not_mem_of_mem_references {moduleId : String} {dt : Datatype}
    {r : CustomRef} (h : r ∈ dt.references moduleId) : '.' ∉ r.name.toList := by
  obtain ⟨node, -, own, ho, rfl⟩ := mem_references.1 h
  obtain ⟨name, nullable, rfl, hf⟩ := node_of_customRef? ho
  exact Naming.mark_not_mem (CustomRef.ofName?_eq_some (ofName?_of_formOf hf)).2 rfl

theorem CustomRef.text_of_module {r : CustomRef} (h : r.module = none) : r.text = r.name := by
  rw [text, h]

theorem CustomRef.module_of_text {r : CustomRef} (h : '.' ∉ r.text.toList) : r.module = none := by
  cases hm : r.module with
  | none => rfl
  | some q => simp [text, hm] at h

end Names

namespace SchemaModule

variable {m : SchemaModule}

/-- A set of names that is closed as the names are that endpoints reach. A name without a point is
one of the module's own. -/
structure IsReachClosed (m : SchemaModule) (names : Set String) : Prop where
  payloads : ∀ e ∈ m.types.endpoints, ∀ dt ∈ e.consumes.toList ++ e.produces.toList,
    ∀ name, dt.Mentions m.id name → name ∈ names
  types : ∀ own ∈ names, '.' ∉ own.toList → ∀ t, m.types.findType? own = some t →
    ∀ name, t.type.Mentions m.id name → name ∈ names

def reachRoots (m : SchemaModule) : List CustomRef :=
  (m.types.endpoints.flatMap fun e => e.consumes.toList ++ e.produces.toList).flatMap
    (Datatype.references m.id)

theorem mem_reachRoots {r : CustomRef} : r ∈ m.reachRoots ↔ ∃ e ∈ m.types.endpoints,
    ∃ dt ∈ e.consumes.toList ++ e.produces.toList, r ∈ dt.references m.id := by
  simp only [reachRoots, List.mem_flatMap]
  constructor
  · rintro ⟨dt, ⟨e, he, hd⟩, hr⟩
    exact ⟨e, he, dt, hd, hr⟩
  · rintro ⟨e, he, dt, hd, hr⟩
    exact ⟨dt, ⟨e, he, hd⟩, hr⟩

theorem mem_follow {r other : CustomRef} : other ∈ m.follow r ↔ r.module = none ∧
    ∃ t, m.types.findType? r.name = some t ∧ other ∈ t.type.references m.id := by
  unfold follow
  split
  · next t hm ht => simp [hm, ht]
  · next h =>
    simp only [List.not_mem_nil, false_iff, not_and, not_exists]
    exact fun hm t ht => absurd ht (h t hm)

theorem follow_eq_nil {r : CustomRef}
    (h : r ∉ m.types.types.map fun t => CustomRef.mk none t.name) : m.follow r = [] := by
  refine List.eq_nil_iff_forall_not_mem.2 fun other ho => h ?_
  obtain ⟨hm, t, ht, -⟩ := mem_follow.1 ho
  have hname : t.name = r.name := by simpa using List.find?_some ht
  refine List.mem_map.2 ⟨t, List.mem_of_find?_eq_some ht, ?_⟩
  rw [hname, ← hm]

theorem exists_gathers (m : SchemaModule) : ∃ found,
    Graph.Gathers m.follow m.reachRoots [] found ∧ found.Nodup ∧
      m.reachable = Text.sortNames (found.map CustomRef.text) :=
  have hg := Graph.gathers_closure (fun _ => follow_eq_nil) m.reachRoots []
  ⟨_, hg, hg.nodup .nil, rfl⟩

section Gathered

variable {found : List CustomRef} (h : Graph.Gathers m.follow m.reachRoots [] found)
include h

theorem isReachClosed_of_gathers : m.IsReachClosed {name | ∃ r ∈ found, r.text = name} where
  payloads := by
    intro e he dt hd name hn
    obtain ⟨r, hr, rfl⟩ := Datatype.mentions_iff.1 hn
    exact ⟨r, h.mem (List.mem_append_left _ (mem_reachRoots.2 ⟨e, he, dt, hd, hr⟩)), rfl⟩
  types := by
    rintro _ ⟨own, ho, rfl⟩ hpoint t ht name hn
    obtain ⟨r, hr, rfl⟩ := Datatype.mentions_iff.1 hn
    have hown := CustomRef.module_of_text hpoint
    rw [CustomRef.text_of_module hown] at ht
    exact ⟨r, h.closed (by simp) own ho r (mem_follow.2 ⟨hown, t, ht, hr⟩), rfl⟩

theorem text_mem_of_gathers {names : Set String} (hc : m.IsReachClosed names) :
    ∀ r ∈ found, r.text ∈ names := by
  have hall : ∀ r ∈ found, r.text ∈ names ∧ '.' ∉ r.name.toList := by
    refine h.least {r | r.text ∈ names ∧ '.' ∉ r.name.toList} ?_ ?_
    · intro r hr
      obtain ⟨e, he, dt, hd, hr⟩ := mem_reachRoots.1 (by simpa using hr)
      exact ⟨hc.payloads e he dt hd _ (Datatype.mentions_iff.2 ⟨r, hr, rfl⟩),
        Datatype.point_not_mem_of_mem_references hr⟩
    · rintro own ⟨ho, hpoint⟩ r hr
      obtain ⟨hown, t, ht, hr⟩ := mem_follow.1 hr
      rw [CustomRef.text_of_module hown] at ho
      exact ⟨hc.types own.name ho hpoint t ht _ (Datatype.mentions_iff.2 ⟨r, hr, rfl⟩),
        Datatype.point_not_mem_of_mem_references hr⟩
  exact fun r hr => (hall r hr).1

end Gathered

/-- For every module, the search for what its endpoints reach ends, whatever cycles its types have,
and gives the least closed set of names, sorted. No reference is followed twice. -/
theorem reachable_least (m : SchemaModule) :
    (∃ found, Graph.Gathers m.follow m.reachRoots [] found ∧ found.Nodup ∧
      m.reachable = Text.sortNames (found.map CustomRef.text)) ∧
    m.reachable.Pairwise (· < ·) ∧
    IsLeast {names | m.IsReachClosed names} {name | name ∈ m.reachable} := by
  obtain ⟨found, hg, hn, hr⟩ := exists_gathers m
  have hset : {name | name ∈ m.reachable} = {name | ∃ r ∈ found, r.text = name} := by
    ext name
    simp [hr, Text.mem_sortNames]
  refine ⟨⟨found, hg, hn, hr⟩, hr ▸ Text.pairwise_sortNames _, ?_⟩
  rw [hset]
  refine ⟨isReachClosed_of_gathers hg, fun names hc name hn => ?_⟩
  obtain ⟨r, hm, rfl⟩ := hn
  exact text_mem_of_gathers hg hc r hm

/-- A type that holds itself, met under its qualified name. -/
example : reachable {
    id := "book"
    types := {
      types := [⟨"Folder", .node "object" none (some
        [("children", .node "list" (some (.named "Folder")) none false),
          ("owner", .named "accounts.User")]) false⟩]
      endpoints := [⟨.get, "/", "root", "public", none, none, some (.named "book.Folder")⟩] } } =
    ["Folder", "accounts.User"] := by cbv

end SchemaModule

end EventSchema
