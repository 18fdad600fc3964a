import EventSchema.Proofs.Agreement
import EventSchema.Proofs.NameRules
import EventSchema.Proofs.References
import EventSchema.Proofs.TypeReader

set_option autoImplicit false

namespace EventSchema

open Outcome

theorem SchemaModule.typeName_rules_of_mem_typeNames {s : SchemaSet} {m : SchemaModule}
    (h : m.check s = .ok ()) {name : String} (hn : name ∈ m.types.typeNames) :
    Check.isTypeName name = true ∧ name ∉ Check.preludeTypes := by
  have hallowed := namesAllowed_of_check h
  rcases List.mem_append.1 hn with hn | hn
  · obtain ⟨t, ht, rfl⟩ := List.mem_map.1 hn
    exact hallowed.types t ht
  · obtain ⟨e, he, rfl⟩ := List.mem_map.1 hn
    exact ⟨(hallowed.enums e he).1, (hallowed.enums e he).2.1⟩

theorem SchemaSet.isTypeName_of_resolves {s : SchemaSet}
    (hs : ∀ n ∈ s.modules, n.check s = .ok ()) {m : SchemaModule} (hm : m ∈ s.modules)
    {r : CustomRef} (hr : s.resolves m r = true) : Check.isTypeName r.name = true := by
  obtain ⟨target, ht, -, hd⟩ := exists_of_resolves hm hr
  exact (SchemaModule.typeName_rules_of_mem_typeNames (hs target ht)
    (Declarations.declares_iff.1 hd)).1

namespace Frontend.TypeExpr

theorem isWritten_typeName {name : String} (h : Check.isTypeName name = true) :
    IsWritten (.named name) := by
  obtain ⟨hi, hhead⟩ := Bool.and_eq_true_iff.1 h
  refine .named (Expr.needsQuoting_of_isIdentifier hi) fun p hp => ?_
  rw [← hp] at hhead
  cases p <;> exact absurd hhead (by decide)

theorem isWritten_ofPrimitive (p : Primitive) :
    IsWritten (ofPrimitive p) ∧ (ofPrimitive p).isUnion = false := by
  cases p with
  | string => exact ⟨.primitive .string, rfl⟩
  | boolean => exact ⟨.primitive .boolean, rfl⟩
  | integer => exact ⟨.primitive .number, rfl⟩
  | datetime => exact ⟨.named (by decide) fun p => by cases p <;> decide, rfl⟩

theorem isWritten_withNull (nullable : Bool) {t : TypeExpr} (h : IsWritten t)
    (hu : t.isUnion = false) : IsWritten (withNull nullable t) := by
  cases nullable with
  | false => exact h
  | true =>
    refine .union ?_ ?_
    · simpa [isUnion] using hu
    · simpa using ⟨h, .primitive .null⟩

theorem exists_isWritten_ofFields {fields : List (String × Datatype)}
    (h : ∀ f ∈ fields, ∃ t, ofDatatype f.2 = .ok t ∧ IsWritten t) :
    ∃ ps, ofFields fields = .ok ps ∧ ∀ p ∈ ps, IsWritten p.2 := by
  induction fields with
  | nil => exact ⟨[], by simp [ofFields], by simp⟩
  | cons f rest ih =>
    obtain ⟨key, dt⟩ := f
    obtain ⟨⟨t, ht, hw⟩, hrest⟩ := List.forall_mem_cons.1 h
    obtain ⟨ps, hps, hall⟩ := ih hrest
    refine ⟨(⟨key, false⟩, t) :: ps, ?_, List.forall_mem_cons.2 ⟨hw, hall⟩⟩
    rw [ofFields_cons ht, hps]
    rfl

theorem exists_isWritten {s : SchemaSet} {m : SchemaModule}
    (hnames : ∀ r, s.resolves m r = true → Check.isTypeName r.name = true) {dt : Datatype}
    (h : dt.WellFormed s m) : ∃ t, ofDatatype dt = .ok t ∧ IsWritten t := by
  induction h with
  | @primitive _ nullable p form =>
    obtain ⟨hw, hu⟩ := isWritten_ofPrimitive p
    exact ⟨_, ofDatatype_primitive form, isWritten_withNull nullable hw hu⟩
  | @custom _ nullable r form resolves =>
    have hw := isWritten_typeName (hnames r resolves)
    exact ⟨_, ofDatatype_custom form, isWritten_withNull nullable hw rfl⟩
  | @list _ of nullable form _ ih =>
    obtain ⟨item, hi, hw⟩ := ih
    refine ⟨_, ?_, isWritten_withNull nullable (.array hw) rfl⟩
    rw [ofDatatype_list form, hi]
    rfl
  | @object _ fields nullable form _ _ ih =>
    obtain ⟨ps, hps, hall⟩ := exists_isWritten_ofFields ih
    refine ⟨_, ?_, isWritten_withNull nullable (.object hall) rfl⟩
    rw [ofDatatype_object form, hps]
    rfl

end Frontend.TypeExpr

namespace SchemaSet

open Frontend TypeExpr

theorem exists_reading {s : SchemaSet} (hs : ∀ n ∈ s.modules, n.check s = .ok ())
    {m : SchemaModule} (hm : m ∈ s.modules) {dt : Datatype}
    (hd : Check.datatype s m dt = .ok ()) :
    ∃ t, ofDatatype dt = .ok t ∧ read? t.render = some t := by
  obtain ⟨t, ht, hw⟩ := exists_isWritten (fun r hr => isTypeName_of_resolves hs hm hr)
    (Datatype.wellFormed_of_datatype_eq_ok dt hd)
  exact ⟨t, ht, read?_render hw⟩

/-- Datatypes that pass their checks, in the modules of one set or of two, have TypeScript types
that are read back from their texts; so types with one text are the same. -/
theorem type_texts_have_one_reading {s s' : SchemaSet}
    (hs : ∀ n ∈ s.modules, n.check s = .ok ()) (hs' : ∀ n ∈ s'.modules, n.check s' = .ok ())
    {m m' : SchemaModule} (hm : m ∈ s.modules) (hm' : m' ∈ s'.modules) {dt dt' : Datatype}
    (hd : Check.datatype s m dt = .ok ()) (hd' : Check.datatype s' m' dt' = .ok ()) :
    ∃ t u, ofDatatype dt = .ok t ∧ ofDatatype dt' = .ok u ∧ read? t.render = some t ∧
      read? u.render = some u ∧ (t.render = u.render → t = u) := by
  obtain ⟨t, ht, hread⟩ := exists_reading hs hm hd
  obtain ⟨u, hu, hread'⟩ := exists_reading hs' hm' hd'
  refine ⟨t, u, ht, hu, hread, hread', fun he => ?_⟩
  rw [he, hread'] at hread
  exact (Option.some.inj hread).symm

theorem type_texts_have_one_reading_lists :
    let a : SchemaModule := { id := "a" }
    let b : SchemaModule := { id := "b", types := { enums := [⟨"Kind", ["x"]⟩] } }
    let s : SchemaSet := ⟨[a, b]⟩
    let below (dt : Datatype) : Datatype :=
      .node "object" none (some [("k\"; l", dt)]) false
    let items := below (.node "list" (some (.node "b.Kind" none none true)) none false)
    let list := below (.node "list" (some (.named "Kind")) none true)
    Check.datatype s a items = .ok () ∧ Check.datatype s b list = .ok () ∧
      ∃ t u, ofDatatype items = .ok t ∧ ofDatatype list = .ok u ∧
        t.render = "\x7b \"k\\\"; l\": (Kind | null)[] \x7d" ∧
        u.render = "\x7b \"k\\\"; l\": Kind[] | null \x7d" ∧
        read? t.render = some t ∧ read? u.render = some u := by
  intro a b s below items list
  have hmodules : ∀ n ∈ s.modules, n.check s = .ok () := by
    have hall : ∀ n ∈ s.modules, (n.check s).isOk = true := by decide +kernel
    exact fun n hn => isOk_eq_true_iff.1 (hall n hn)
  have hitems : Check.datatype s a items = .ok () := by cbv
  have hlist : Check.datatype s b list = .ok () := by cbv
  have htext : (ofDatatype items).map render = .ok "\x7b \"k\\\"; l\": (Kind | null)[] \x7d" := by
    cbv
  have htext' : (ofDatatype list).map render = .ok "\x7b \"k\\\"; l\": Kind[] | null \x7d" := by
    cbv
  obtain ⟨t, u, ht, hu, hread, hread', -⟩ := type_texts_have_one_reading hmodules hmodules
    (by simp [s]) (by simp [s]) hitems hlist
  rw [ht] at htext
  rw [hu] at htext'
  exact ⟨hitems, hlist, t, u, ht, hu, Except.ok.inj htext, Except.ok.inj htext', hread, hread'⟩

end SchemaSet

end EventSchema
