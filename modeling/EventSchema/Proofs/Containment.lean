import EventSchema.Check.Schema
import EventSchema.Proofs.Datatype
import EventSchema.Proofs.Graph

/-!
Containment by value, said without a search: a datatype holds what it refers to and what the fields
of an object hold, but nothing below a list. The check of a set passes exactly if no named type
holds itself along such steps, and otherwise names a chain of types that does.
-/

set_option autoImplicit false

namespace EventSchema

namespace Datatype

/-- A datatype of the module holds a named type by value; whether a node is nullable does not
matter. -/
inductive HoldsByValue (moduleId : String) : Datatype → TypeRef → Prop
  | reference {dt : Datatype} {r : CustomRef} (h : dt.shape = .ok (.custom r)) :
      HoldsByValue moduleId dt ⟨r.module.getD moduleId, r.name⟩
  | field {dt : Datatype} {fields : List (String × Datatype)} {key : String} {field : Datatype}
      {target : TypeRef} (h : dt.shape = .ok (.object fields)) (member : (key, field) ∈ fields)
      (below : HoldsByValue moduleId field target) : HoldsByValue moduleId dt target

variable {moduleId : String} {target : TypeRef}

theorem mem_byValueFields {fields : List (String × Datatype)} :
    target ∈ byValueFields moduleId fields ↔ ∃ f ∈ fields, target ∈ f.2.byValue moduleId := by
  induction fields with
  | nil => simp [byValueFields]
  | cons f rest ih => simp [byValueFields, ih]

theorem holdsByValue_iff {dt : Datatype} :
    dt.HoldsByValue moduleId target ↔
      (∃ r, dt.shape = .ok (.custom r) ∧ target = ⟨r.module.getD moduleId, r.name⟩) ∨
      ∃ fields, dt.shape = .ok (.object fields) ∧
        ∃ f ∈ fields, f.2.HoldsByValue moduleId target := by
  constructor
  · intro h
    cases h with
    | reference h => exact .inl ⟨_, h, rfl⟩
    | field h hm below => exact .inr ⟨_, h, _, hm, below⟩
  · rintro (⟨r, h, rfl⟩ | ⟨fields, h, f, hm, below⟩)
    · exact .reference h
    · exact .field h hm below

theorem mem_byValue_iff (dt : Datatype) :
    target ∈ dt.byValue moduleId ↔ dt.HoldsByValue moduleId target := by
  induction dt using formInduction with
  | malformed name of fields nullable flaw hf =>
    rw [holdsByValue_iff, shape_of_malformed hf]
    simp [byValue, hf]
  | primitive name nullable p hf =>
    rw [holdsByValue_iff, shape_of_primitive hf]
    simp [byValue, hf]
  | custom name nullable r hf =>
    rw [holdsByValue_iff, shape_of_custom hf]
    simp [byValue, hf]
  | list name of nullable hf ih =>
    rw [holdsByValue_iff, shape_of_list hf]
    simp [byValue, hf]
  | object name fields nullable hf ih =>
    have hb : byValue moduleId (.node name none (some fields) nullable) =
        byValueFields moduleId fields := by simp [byValue, byValueObject, hf]
    rw [hb, mem_byValueFields, holdsByValue_iff, shape_of_object hf]
    simp only [Except.ok.injEq, reduceCtorEq, false_and, exists_false, false_or,
      Shape.object.injEq, exists_eq_left']
    exact exists_congr fun f => and_congr_right fun hm => ih f hm

end Datatype

namespace SchemaSet

/-- One named type holds another; both are looked up in the set. -/
def Holds (s : SchemaSet) (r target : TypeRef) : Prop :=
  ∃ t, s.findType? r = some t ∧ t.type.HoldsByValue r.module target ∧
    (s.findType? target).isSome

theorem edge_holds_iff {s : SchemaSet} {r target : TypeRef} :
    Graph.Edge s.holds r target ↔ s.Holds r target := by
  unfold Graph.Edge holds Holds
  cases s.findType? r with
  | none => simp
  | some t => simp [Datatype.mem_byValue_iff]

theorem edge_holds (s : SchemaSet) : Graph.Edge s.holds = s.Holds := by
  funext r target
  exact propext edge_holds_iff

theorem mem_typeRefs_of_findType? {s : SchemaSet} {r : TypeRef}
    (h : (s.findType? r).isSome) : r ∈ s.typeRefs := by
  obtain ⟨t, ht⟩ := Option.isSome_iff_exists.1 h
  obtain ⟨m, hm, hf⟩ := Option.bind_eq_some_iff.1 ht
  have hid : m.id = r.module := by simpa using List.find?_some hm
  have hname : t.name = r.name := by simpa using List.find?_some hf
  refine List.mem_flatMap.2 ⟨m, List.mem_of_find?_eq_some hm, List.mem_map.2 ⟨t, ?_, ?_⟩⟩
  · exact List.mem_of_find?_eq_some hf
  · rw [hid, hname]

theorem Holds.declared {s : SchemaSet} {r target : TypeRef} (h : s.Holds r target) :
    r ∈ s.typeRefs ∧ target ∈ s.typeRefs := by
  obtain ⟨t, ht, -, hs⟩ := h
  exact ⟨mem_typeRefs_of_findType? (by simp [ht]), mem_typeRefs_of_findType? hs⟩

theorem holds_object_iff {s : SchemaSet} {r target : TypeRef} {t : NamedType}
    {fields : List (String × Datatype)} (ht : s.findType? r = some t)
    (hs : t.type.shape = .ok (.object fields)) :
    s.Holds r target ↔
      (∃ f ∈ fields, f.2.HoldsByValue r.module target) ∧ (s.findType? target).isSome := by
  simp [Holds, ht, @Datatype.holdsByValue_iff _ _ t.type, hs]

theorem ends_of_edge (s : SchemaSet) (r target : TypeRef) (h : Graph.Edge s.holds r target) :
    r ∈ s.typeRefs ∧ target ∈ s.typeRefs :=
  (edge_holds_iff.1 h).declared

theorem checkContainment_eq_ok_iff {s : SchemaSet} :
    s.checkContainment = .ok () ↔ s.containmentCycle? = none := by
  unfold checkContainment
  cases hc : s.containmentCycle? with
  | none => simp
  | some path =>
    obtain ⟨r, way, rfl, -⟩ := Graph.isLoop_of_cycle?_eq_some s.ends_of_edge hc
    simp

/-- The containment check terminates by the rules of the search alone, over a graph whose edges
run between declared types; it passes exactly if that graph has no cycle, and the trail of its
fault is one. The edges of an object are those of its fields. -/
theorem checkContainment_decides_cycles (s : SchemaSet) :
    (∀ r target, s.Holds r target → r ∈ s.typeRefs ∧ target ∈ s.typeRefs) ∧
    (∀ r target t fields, s.findType? r = some t → t.type.shape = .ok (.object fields) →
      (s.Holds r target ↔
        (∃ f ∈ fields, f.2.HoldsByValue r.module target) ∧ (s.findType? target).isSome)) ∧
    Graph.Visits s.holds [] s.typeRefs []
      (Graph.search s.holds s.typeRefs [] s.typeRefs []) ∧
    (s.checkContainment = .ok () ↔ ∀ r, ¬ Relation.TransGen s.Holds r r) ∧
    ∀ fault, s.checkContainment = .error fault →
      ∃ r way, fault = ⟨r.module, .valueCycle r.name (r :: (way ++ [r]))⟩ ∧
        (r :: (way ++ [r])).IsChain s.Holds := by
  refine ⟨fun r target h => h.declared, fun r target t fields ht hs => holds_object_iff ht hs,
    Graph.visits_search_nodes s.ends_of_edge, ?_, ?_⟩
  · have hn := Graph.cycle?_eq_none_iff s.ends_of_edge
    rw [edge_holds] at hn
    exact checkContainment_eq_ok_iff.trans hn
  · intro fault hf
    unfold checkContainment at hf
    split at hf
    · next r trail hc =>
      cases hf
      obtain ⟨x, way, hp, hw⟩ := Graph.isLoop_of_cycle?_eq_some s.ends_of_edge hc
      rw [edge_holds] at hw
      obtain ⟨rfl, rfl⟩ : r = x ∧ trail = way ++ [x] := by simpa using hp
      exact ⟨r, way, rfl, hw⟩
    · cases hf

end SchemaSet

end EventSchema
