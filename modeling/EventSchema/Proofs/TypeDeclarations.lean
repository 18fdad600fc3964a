import EventSchema.Proofs.FileIdentifiers

set_option autoImplicit false

namespace EventSchema

open Outcome

namespace Check

theorem unique_of_enumeration {e : Enumeration} (h : enumeration e = .ok ()) :
    e.values.Nodup ∧ (e.members.map EnumMember.key).Nodup := by
  simp only [enumeration, andThen_eq_ok, unique_eq_ok] at h
  exact ⟨h.2.2.1, h.2.2.2.2⟩

theorem unique_of_module {s : SchemaSet} {m : SchemaModule} (h : m.check s = .ok ()) :
    ∀ e ∈ m.types.enums, e.values.Nodup ∧ (e.members.map EnumMember.key).Nodup := by
  simp only [SchemaModule.check, andThen_eq_ok] at h
  obtain ⟨-, -, he, -⟩ := h
  simp only [enumerations, andThen_eq_ok, forM_eq_ok, Place.locate_eq_ok] at he
  exact fun e hm => unique_of_enumeration (he.2 e hm)

end Check

namespace Backend

open Naming

structure IsItemName (name : String) : Prop where
  legal : isLegalIdent name = true
  noKeyword : name ∉ rustKeywords
  noPrelude : name ∉ ["Self", "String", "Vec", "Option", "Box", "Result"]

structure EnumItem.WellFormed (e : Enumeration) (item : EnumItem) : Prop where
  name : item.name = e.name
  values : item.variants.map Variant.value = e.values
  distinctValues : (item.variants.map Variant.value).Nodup
  legal : AreLegal (item.variants.map Variant.name)
  distinct : (item.variants.map Variant.name).Nodup

structure Record.WellFormed (o : InlineObject) (r : Record) : Prop where
  name : r.name = o.name
  keys : r.fields.map RecordField.key = o.fields.map Prod.fst
  distinctKeys : (r.fields.map RecordField.key).Nodup
  legal : AreLegal (r.fields.map RecordField.ident)
  distinct : (r.fields.map RecordField.ident).Nodup

theorem isItemName {name : String} (h : Check.isTypeName name = true)
    (hp : name ∉ Check.preludeTypes) : IsItemName name := by
  have hself : name ≠ "Self" := fun he => hp (he ▸ by decide)
  have hlegal := isLegalIdent_of_isTypeName h hself
  have hi := (Bool.and_eq_true_iff.1 h).1
  have hkeyword := ((isLegalIdent_iff (numberSign_not_mem hi)).1 hlegal).2.2
  exact ⟨hlegal, isKeyword_eq_false_iff.1 hkeyword, hp⟩

/-- A tail makes no prelude name of the name of a type, as those have a capital in front only. -/
theorem append_not_mem_preludeTypes {owner tail : String} (ho : Check.isTypeName owner = true)
    (ht : IsTail tail) : owner ++ tail ∉ Check.preludeTypes := by
  intro hp
  have hall : ∀ name ∈ Check.preludeTypes, ∀ front ∈ fronts name,
      Check.isTypeName front = false := by decide
  have hfalse := hall _ hp owner (ht.mem_fronts owner)
  simp [ho] at hfalse

theorem escapeKeyword_pascal_inj {a b : String}
    (h : escapeKeyword (pascal a) = escapeKeyword (pascal b)) : pascal a = pascal b := by
  have hsign : ∀ s, '#' ∉ (pascal s).toList :=
    fun s hm => absurd (isAlphanum_of_mem_pascal hm) (by decide)
  have hlast : ∀ s, (pascal s).toList.getLast? ≠ some '_' :=
    fun s hl => absurd (isAlphanum_of_mem_pascal (List.mem_of_getLast? hl)) (by decide)
  have hu := congrArg unescape h
  rwa [unescape_escapeKeyword (hsign a) (hlast a), unescape_escapeKeyword (hsign b) (hlast b)] at hu

theorem EnumItem.wellFormed {e : Enumeration} (hn : Check.isTypeName e.name = true)
    (hs : e.name ∉ Check.preludeTypes)
    (hm : ∀ member ∈ e.members, isIdentifier member.key = true)
    (hv : e.values.Nodup) (hk : (e.members.map EnumMember.key).Nodup) :
    (ofEnumeration e).WellFormed e where
  name := rfl
  values := by simp [ofEnumeration, Enumeration.members, Function.comp_def]
  distinctValues := by simpa [ofEnumeration, Enumeration.members, Function.comp_def] using hv
  legal := by
    have hall := EnumItem.areLegal hn hs hm
    rw [identifiers, areLegal_cons, areLegal_cons] at hall
    exact hall.2.2
  distinct := by
    have hnames : (ofEnumeration e).variants.map Variant.name =
        (e.members.map EnumMember.key).map escapeKeyword := by
      simp [ofEnumeration]
    rw [hnames]
    refine hk.map_on fun a ha b hb hab => ?_
    -- both keys are in the Pascal style
    obtain ⟨_, hx, rfl⟩ := List.mem_map.1 ha
    obtain ⟨_, hy, rfl⟩ := List.mem_map.1 hb
    obtain ⟨x, -, rfl⟩ := List.mem_map.1 hx
    obtain ⟨y, -, rfl⟩ := List.mem_map.1 hy
    exact escapeKeyword_pascal_inj hab

theorem Record.wellFormed {s : SchemaSet} {m : SchemaModule} {home : Home} {o : InlineObject}
    {r : Record} (h : r.IsFor home o) (ho : o.WellFormed s m) : r.WellFormed o := by
  have hkeys : r.fields.map RecordField.key = o.fields.map Prod.fst :=
    map_eq_of_forall₂ (fun _ _ hf => hf.key) h.fields
  have hidents : (r.fields.map RecordField.ident).map some =
      (o.fields.map Prod.fst).map fieldIdent? := by
    rw [List.map_map, List.map_map]
    refine map_eq_of_forall₂ (fun f field hf => ?_) h.fields
    rw [Function.comp_apply, Function.comp_apply, hf.ident]
  have hunique := (Check.uniqueIdents_eq_ok.1 ho.idents).2
  refine ⟨h.name, hkeys, hkeys ▸ hunique.of_map _, List.forall_mem_map.2 fun f hf => ?_, ?_⟩
  · obtain ⟨_, -, hi⟩ := mem_of_forall₂ h.fields.flip hf
    exact (isLegalIdent_of_fieldIdent? hi.ident).1
  · rw [← hidents] at hunique
    exact hunique.of_map _

section Files

variable {s : SchemaSet} {m : SchemaModule}

theorem TypesFile.enums_wellFormed (hcheck : m.check s = .ok ()) (hn : m.NamesAllowed)
    {f : TypesFile} (h : ofModule m = .ok f) :
    List.Forall₂ EnumItem.WellFormed m.types.enums f.enums := by
  obtain ⟨drafts, -, h⟩ := bind_eq_ok.1 h
  cases h
  refine List.forall₂_map_right_iff.2 (List.forall₂_same.2 fun e he => ?_)
  obtain ⟨hname, hprelude, hmembers⟩ := hn.enums e he
  obtain ⟨hvalues, hkeys⟩ := Check.unique_of_module hcheck e he
  exact EnumItem.wellFormed hname hprelude hmembers hvalues hkeys

variable (hc : m.Checked s)
include hc

theorem TypesFile.itemNames_nodup {f : TypesFile} (h : ofModule m = .ok f) :
    f.itemNames.Nodup := by
  have hr := recordsOf_module hc h
  have henums : f.enums.map EnumItem.name = m.types.enums.map Enumeration.name := by
    obtain ⟨drafts, -, h⟩ := bind_eq_ok.1 h
    cases h
    simp [EnumItem.ofEnumeration]
  rw [itemNames, henums]
  refine (List.nodup_append.1 hc.names).2.1.append hr.distinct fun name he hn => ?_
  obtain ⟨r, hm, rfl⟩ := List.mem_map.1 hn
  exact hr.fresh r hm he

theorem typeName_of_mem_recordNames (hn : m.NamesAllowed) {t : NamedType} (ht : t ∈ m.types.types)
    {name : String} (hname : name ∈ t.recordNames) :
    Check.isTypeName name = true ∧ name ∉ Check.preludeTypes := by
  obtain ⟨htype, hprelude⟩ := hn.types t ht
  obtain ⟨tail, rfl, rfl | htail⟩ := hc.tail_of_mem_type ht hname
  · rw [String.append_empty]
    exact ⟨htype, hprelude⟩
  · exact ⟨isTypeName_append htype htail, append_not_mem_preludeTypes htype htail⟩

theorem TypesFile.isItemName_of_mem (hn : m.NamesAllowed) {f : TypesFile} (h : ofModule m = .ok f)
    {name : String} (hname : name ∈ f.itemNames) : IsItemName name := by
  have hr := records_of_module hc h
  obtain ⟨drafts, -, h⟩ := bind_eq_ok.1 h
  cases h
  rcases List.mem_append.1 hname with he | hrecord
  · obtain ⟨item, hi, rfl⟩ := List.mem_map.1 he
    obtain ⟨e, hm, rfl⟩ := List.mem_map.1 hi
    exact isItemName (hn.enums e hm).1 (hn.enums e hm).2.1
  · rw [hr.named] at hrecord
    obtain ⟨t, ht, hname⟩ := List.mem_flatMap.1 hrecord
    obtain ⟨htype, hprelude⟩ := typeName_of_mem_recordNames hc hn ht hname
    exact isItemName htype hprelude

theorem TypesFile.records_wellFormed {f : TypesFile} (h : ofModule m = .ok f) :
    List.Forall₂ Record.WellFormed (m.types.types.flatMap NamedType.objects) f.records := by
  have hall : ∀ o ∈ m.types.types.flatMap NamedType.objects, o.WellFormed s m := by
    intro o ho
    obtain ⟨t, ht, ho⟩ := List.mem_flatMap.1 ho
    exact (hc.types t ht).1.of_mem_objects o ho
  have hboth := (List.forall₂_and_left _ _).2 ⟨hall, (recordsOf_module hc h).each⟩
  exact hboth.imp fun o r hr => Record.wellFormed hr.2 hr.1

end Files

end Backend

namespace SchemaSet

open Backend

/-- Enums and records of a types file have distinct names, all of them legal. Every enum has a
variant for each of its values, and every object, named or inline, a record with a field for each of
its keys; within each, both sides are distinct and the identifiers legal. -/
theorem type_declarations_well_formed {config : Config} {s : SchemaSet} {files : List Artifact}
    (hg : s.generate config = .ok files) {m : SchemaModule} (hm : m ∈ s.modules) :
    ∃ f, TypesFile.ofModule m = .ok f ∧
      ⟨.backend, Section.path m.id .types, f.render config⟩ ∈ files ∧
      f.itemNames.Nodup ∧ (∀ name ∈ f.itemNames, IsItemName name) ∧
      List.Forall₂ EnumItem.WellFormed m.types.enums f.enums ∧
      List.Forall₂ Record.WellFormed (m.types.types.flatMap NamedType.objects) f.records := by
  have hchecked := checked_of_generate hg hm
  have hnames := namesAllowed_of_generate hg hm
  have hcheck := check_of_mem (andThen_eq_ok.1 hg).1 hm
  obtain ⟨f, hf, hfile⟩ := types_of_generate hg hm
  exact ⟨f, hf, hfile, TypesFile.itemNames_nodup hchecked hf,
    fun name hname => TypesFile.isItemName_of_mem hchecked hnames hf hname,
    TypesFile.enums_wellFormed hcheck hnames hf, TypesFile.records_wellFormed hchecked hf⟩

theorem type_declarations_well_formed_keywords :
    ∃ (s : SchemaSet) (files : List Artifact) (m : SchemaModule) (f : TypesFile),
      s.generate {} = .ok files ∧ m ∈ s.modules ∧ TypesFile.ofModule m = .ok f ∧
      f.enums.map EnumItem.variants = [[⟨"Self_", "self"⟩, ⟨"Type", "type"⟩]] ∧
      f.records = [⟨"ItemSubItem", [⟨"self_", "self", .integer⟩]⟩,
        ⟨"Item", [⟨"sub_item", "sub-item", .list (.record "ItemSubItem")⟩,
          ⟨"r#type", "type", .here "Kind"⟩]⟩] ∧
      f.itemNames.Nodup ∧ (∀ name ∈ f.itemNames, IsItemName name) ∧
      List.Forall₂ EnumItem.WellFormed m.types.enums f.enums ∧
      List.Forall₂ Record.WellFormed (m.types.types.flatMap NamedType.objects) f.records := by
  let sub := Datatype.node "object" none (some [("self", .node "integer" none none false)]) false
  let item := Datatype.node "object" none (some [("sub-item", .node "list" (some sub) none false),
    ("type", .node "Kind" none none false)]) false
  let m : SchemaModule := {
    id := "m"
    types := { enums := [⟨"Kind", ["self", "type"]⟩], types := [⟨"Item", item⟩] } }
  have hcheck : check ⟨[m]⟩ = .ok () := by cbv
  have htypes : (TypesFile.ofModule m).map (fun f => (f.enums.map EnumItem.variants, f.records)) =
      .ok ([[⟨"Self_", "self"⟩, ⟨"Type", "type"⟩]],
        [⟨"ItemSubItem", [⟨"self_", "self", .integer⟩]⟩,
         ⟨"Item", [⟨"sub_item", "sub-item", .list (.record "ItemSubItem")⟩,
           ⟨"r#type", "type", .here "Kind"⟩]⟩]) := eq_ok_of_toOption (by decide +kernel)
  obtain ⟨f, htypes, hparts⟩ := map_eq_ok.1 htypes
  obtain ⟨henums, hrecords⟩ := Prod.mk.inj hparts
  have hevents : EventsFile.ofEvents m.id m.events = .ok ⟨[], []⟩ :=
    eq_ok_of_toOption (by decide +kernel)
  have hrest : RestFile.ofEndpoints m.id m.types.endpoints = .ok ⟨[], [], []⟩ :=
    eq_ok_of_toOption (by decide +kernel)
  obtain ⟨files, hg⟩ := generate_single {} hcheck htypes hevents hrest
  obtain ⟨f', hf, -, hnodup, hnames, hall⟩ :=
    type_declarations_well_formed hg (List.mem_singleton_self m)
  cases htypes.symm.trans hf
  exact ⟨⟨[m]⟩, files, m, f, hg, List.mem_singleton_self m, htypes, henums, hrecords, hnodup,
    hnames, hall⟩

end SchemaSet

end EventSchema
