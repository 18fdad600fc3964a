import EventSchema.Proofs.TypeReading

/-!
Where the types of the two targets stand, position by position. A position is reached through
options, lists and the fields of drafted records on the one side, and through unions with null,
arrays and properties on the other. At every position the TypeScript type tells how the Rust type is
written. The text of the Rust type tells the TypeScript type in turn, if no name in it is written
like something else.
-/

set_option autoImplicit false

namespace EventSchema.Backend

inductive TypeForm where
  | string
  | boolean
  | integer
  | instant
  | list
  | option
deriving DecidableEq

namespace TypeForm

def InRust (text : String) : TypeForm → Prop
  | .string => text = "String"
  | .boolean => text = "bool"
  | .integer => text = "i64"
  | .instant => text = "chrono::DateTime<chrono::Utc>"
  | .list => ∃ item, text = "Vec<" ++ item ++ ">"
  | .option => ∃ inner, text = "Option<" ++ inner ++ ">"

def InTypeScript (u : Frontend.TypeExpr) : TypeForm → Prop
  | .string => u = .string
  | .boolean => u = .boolean
  | .integer => u = .number
  | .instant => u = .named "datetimeRFC3339"
  | .list => ∃ item, u = .array item
  | .option => ∃ inner : Frontend.TypeExpr, u = inner.orNull

def initial : TypeForm → Char
  | .string => 'S'
  | .boolean => 'b'
  | .integer => 'i'
  | .instant => 'c'
  | .list => 'V'
  | .option => 'O'

theorem head?_of_inRust {text : String} {f : TypeForm} (h : f.InRust text) :
    text.toList.head? = some f.initial := by
  cases f with
  | string | boolean | integer | instant =>
    cases h
    rfl
  | list | option =>
    obtain ⟨inner, rfl⟩ := h
    simp [initial]

theorem eq_of_inRust {text : String} {f g : TypeForm} (h : f.InRust text) (h' : g.InRust text) :
    f = g := by
  have hinitial : f.initial = g.initial :=
    Option.some.inj ((head?_of_inRust h).symm.trans (head?_of_inRust h'))
  revert hinitial
  cases f <;> cases g <;> decide

section TypeScript

attribute [local simp] InTypeScript Frontend.TypeExpr.string Frontend.TypeExpr.boolean
  Frontend.TypeExpr.number Frontend.TypeExpr.orNull

theorem eq_of_inTypeScript {u : Frontend.TypeExpr} {f g : TypeForm} (h : f.InTypeScript u)
    (h' : g.InTypeScript u) : f = g := by
  cases f with
  | string | boolean | integer | instant =>
    cases h
    cases g <;> simp at h' ⊢
  | list | option =>
    obtain ⟨inner, rfl⟩ := h
    cases g <;> simp at h' ⊢

theorem eq_alias_of_named {name : String} {f : TypeForm} (h : f.InTypeScript (.named name)) :
    name = "datetimeRFC3339" := by
  cases f <;> simp at h
  exact h

theorem not_inTypeScript_object {f : TypeForm}
    {properties : List (Frontend.PropertyName × Frontend.TypeExpr)} :
    ¬ f.InTypeScript (.object properties) := by
  cases f <;> simp

end TypeScript

end TypeForm

def EndsIn (path name : String) : Prop :=
  ':' ∉ name.toList ∧ (path = name ∨ ∃ parent, path = parent ++ "::" ++ name)

theorem EndsIn.toList {path name : String} (h : EndsIn path name) :
    path.toList.reverse.takeWhile (· != ':') = name.toList.reverse := by
  obtain ⟨hn, h⟩ := h
  have hall : ∀ c ∈ name.toList.reverse, (c != ':') = true := by
    simp only [List.mem_reverse, bne_iff_ne]
    exact fun c hc he => hn (he ▸ hc)
  rcases h with rfl | ⟨parent, rfl⟩
  · exact List.takeWhile_eq_self_iff.2 hall
  · simp [List.takeWhile_append_of_pos hall]

theorem EndsIn.unique {path name other : String} (h : EndsIn path name) (h' : EndsIn path other) :
    name = other := by
  have hreverse := h.toList.symm.trans h'.toList
  exact String.toList_inj.1 (List.reverse_injective hreverse)

theorem Home.path_endsIn (home : Home) (config : Config) {r : CustomRef}
    (h : Naming.isIdentifier r.name = true) : EndsIn (home.path config r) r.name := by
  refine ⟨Naming.mark_not_mem h rfl, ?_⟩
  unfold path ofRef
  split
  · exact .inr ⟨_, rfl⟩
  · split
    · exact .inl rfl
    · exact .inr ⟨"super::types", rfl⟩

theorem not_inRust_of_endsIn {path name : String} (h : EndsIn path name)
    (hi : Naming.isIdentifier name = true) (hn : name ∉ ["String", "bool", "i64"])
    (f : TypeForm) : ¬ f.InRust path := by
  have hword {word : String} (hw : EndsIn word word) (hm : word ∈ ["String", "bool", "i64"]) :
      path ≠ word := by
    rintro rfl
    exact hn (h.unique hw ▸ hm)
  have hbracket : path.toList.reverse.head? ≠ some '>' := by
    intro hhead
    have hlast : name.toList.reverse.head? = some '>' := by
      rw [← h.toList, List.head?_takeWhile, hhead]
      rfl
    have hmem : '>' ∈ name.toList := List.mem_reverse.1 (List.mem_of_head? hlast)
    exact Naming.mark_not_mem hi (by decide) hmem
  intro hf
  cases f with
  | string => exact hword ⟨by decide, .inl rfl⟩ (by simp) hf
  | boolean => exact hword ⟨by decide, .inl rfl⟩ (by simp) hf
  | integer => exact hword ⟨by decide, .inl rfl⟩ (by simp) hf
  | instant =>
    cases hf
    exact hbracket rfl
  | list | option =>
    obtain ⟨inner, rfl⟩ := hf
    exact hbracket (by simp)

/-- The two types at a position below a Rust type and a TypeScript type, where the records of the
inline objects are given. -/
inductive Opposite (config : Config) (records : List Record) (text : String)
    (u : Frontend.TypeExpr) : String → Frontend.TypeExpr → Prop
  | whole : Opposite config records text u text u
  | inner {inner : String} {other : Frontend.TypeExpr} :
    Opposite config records text u ("Option<" ++ inner ++ ">") other.orNull →
      Opposite config records text u inner other
  | item {item : String} {other : Frontend.TypeExpr} :
    Opposite config records text u ("Vec<" ++ item ++ ">") (.array other) →
      Opposite config records text u item other
  | field {name : String} {fields : List RecordField}
    {properties : List (Frontend.PropertyName × Frontend.TypeExpr)} {i : Nat} {f : RecordField}
    {p : Frontend.PropertyName × Frontend.TypeExpr} :
    Opposite config records text u name (.object properties) → ⟨name, fields⟩ ∈ records →
      fields[i]? = some f → properties[i]? = some p →
      Opposite config records text u (f.type.render config) p.2

/-- A Rust type that is written as the TypeScript type demands. -/
inductive Corresponds (records : List Record) (text : String) : Frontend.TypeExpr → Prop
  | form {u : Frontend.TypeExpr} (f : TypeForm) :
    f.InRust text → f.InTypeScript u → Corresponds records text u
  | path {name : String} : EndsIn text name → Corresponds records text (.named name)
  /-- The keys on the wire are the names of the properties, in the same order, and none of them is
  optional. -/
  | record {fields : List RecordField}
    {properties : List (Frontend.PropertyName × Frontend.TypeExpr)} :
    ⟨text, fields⟩ ∈ records → properties.map Prod.fst = fields.map (fun f => ⟨f.key, false⟩) →
      Corresponds records text (.object properties)

/-- Each form of Rust types stands exactly where the TypeScript type has the form that goes with
it. -/
structure Exact (records : List Record) (text : String) (u : Frontend.TypeExpr) : Prop where
  forms : ∀ f : TypeForm, f.InRust text ↔ f.InTypeScript u
  paths : ∀ name, name ≠ "datetimeRFC3339" →
    (EndsIn text name ∧ (∀ f : TypeForm, ¬ f.InRust text) ∧ text ∉ records.map Record.name ↔
      u = .named name)
  objects : text ∈ records.map Record.name ↔ ∃ properties, u = .object properties

/-- The names that a datatype brings into a file are not written like something else: a drafted
record is not called like a form of types, no reference has the name of the alias, and the path of a
reference is neither a form of types nor the name of a drafted record. -/
structure NamesApart (config : Config) (home : Home) (dt : Datatype) (records : List Record) :
    Prop where
  drafted : ∀ r ∈ records, ∀ f : TypeForm, ¬ f.InRust r.name
  instants : ∀ r ∈ dt.references home.moduleId, r.name ≠ "datetimeRFC3339"
  forms : ∀ r ∈ dt.references home.moduleId, ∀ f : TypeForm, ¬ f.InRust (home.path config r)
  paths : ∀ r ∈ dt.references home.moduleId, home.path config r ∉ records.map Record.name

namespace Agrees

variable {config : Config} {home : Home} {refs : List CustomRef} {records : List Record}
  {text : String} {u : Frontend.TypeExpr}

theorem of_opposite (hd : (records.map Record.name).Nodup)
    (h : Agrees config home refs records text u) {below : String} {other : Frontend.TypeExpr}
    (ho : Opposite config records text u below other) :
    Agrees config home refs records below other := by
  induction ho with
  | whole => exact h
  | inner _ ih =>
    obtain ⟨inner, he, ha⟩ := ih.inner_of_orNull
    obtain rfl : _ = inner := by simpa using he
    exact ha
  | item _ ih =>
    obtain ⟨item, he, ha⟩ := ih.item_of_array
    obtain rfl : _ = item := by simpa using he
    exact ha
  | field _ hm hf hp ih =>
    obtain ⟨fields, hrecord, ha⟩ := ih.fields_of_object
    -- a name leads to one record, so these are the fields that agree with the properties
    cases List.inj_on_of_nodup_map hd hm hrecord rfl
    exact ha.get hf hp

theorem corresponds (hrefs : ∀ r ∈ refs, Naming.isIdentifier r.name = true)
    (h : Agrees config home refs records text u) : Corresponds records text u := by
  cases h with
  | string => exact .form .string rfl rfl
  | boolean => exact .form .boolean rfl rfl
  | integer => exact .form .integer rfl rfl
  | instant => exact .form .instant rfl rfl
  | list _ => exact .form .list ⟨_, rfl⟩ ⟨_, rfl⟩
  | option _ => exact .form .option ⟨_, rfl⟩ ⟨_, rfl⟩
  | reference hr => exact .path (home.path_endsIn config (hrefs _ hr))
  | record hm hs => exact .record hm hs.names

end Agrees

namespace Exact

variable {records : List Record} {text : String} {u : Frontend.TypeExpr}

theorem of_form {f : TypeForm} (hr : f.InRust text) (ht : f.InTypeScript u)
    (hn : text ∉ records.map Record.name) : Exact records text u where
  forms g := by
    constructor
    · intro h
      rwa [TypeForm.eq_of_inRust h hr]
    · intro h
      rwa [TypeForm.eq_of_inTypeScript h ht]
  paths name hname := by
    constructor
    · rintro ⟨-, hforms, -⟩
      exact absurd hr (hforms f)
    · rintro rfl
      exact absurd (TypeForm.eq_alias_of_named ht) hname
  objects := by
    constructor
    · exact fun h => absurd h hn
    · rintro ⟨properties, rfl⟩
      exact absurd ht TypeForm.not_inTypeScript_object

theorem of_path {name : String} (he : EndsIn text name) (hname : name ≠ "datetimeRFC3339")
    (hforms : ∀ f : TypeForm, ¬ f.InRust text) (hn : text ∉ records.map Record.name) :
    Exact records text (.named name) where
  forms f := by
    constructor
    · exact fun h => absurd h (hforms f)
    · exact fun h => absurd (TypeForm.eq_alias_of_named h) hname
  paths other _ := by
    constructor
    · rintro ⟨ho, -, -⟩
      rw [he.unique ho]
    · intro h
      cases h
      exact ⟨he, hforms, hn⟩
  objects := by simp [hn]

theorem of_record {properties : List (Frontend.PropertyName × Frontend.TypeExpr)}
    (hm : text ∈ records.map Record.name) (hforms : ∀ f : TypeForm, ¬ f.InRust text) :
    Exact records text (.object properties) where
  forms f := by
    constructor
    · exact fun h => absurd h (hforms f)
    · exact fun h => absurd h TypeForm.not_inTypeScript_object
  paths other _ := by simp [hm]
  objects := by simp [hm]

end Exact

theorem NamesApart.exact {config : Config} {home : Home} {dt : Datatype} {records : List Record}
    (h : NamesApart config home dt records) {text : String} {u : Frontend.TypeExpr}
    (ha : Agrees config home (dt.references home.moduleId) records text u) :
    Exact records text u := by
  have hforms : ∀ f : TypeForm, f.InRust text → text ∉ records.map Record.name := by
    intro f hf hn
    obtain ⟨r, hr, rfl⟩ := List.mem_map.1 hn
    exact h.drafted r hr f hf
  cases ha with
  | string => exact .of_form (f := .string) rfl rfl (hforms .string rfl)
  | boolean => exact .of_form (f := .boolean) rfl rfl (hforms .boolean rfl)
  | integer => exact .of_form (f := .integer) rfl rfl (hforms .integer rfl)
  | instant => exact .of_form (f := .instant) rfl rfl (hforms .instant rfl)
  | list _ => exact .of_form (f := .list) ⟨_, rfl⟩ ⟨_, rfl⟩ (hforms .list ⟨_, rfl⟩)
  | option _ => exact .of_form (f := .option) ⟨_, rfl⟩ ⟨_, rfl⟩ (hforms .option ⟨_, rfl⟩)
  | reference hr =>
    have hname := home.path_endsIn config (CustomRef.isIdentifier_of_mem_references hr)
    exact .of_path hname (h.instants _ hr) (h.forms _ hr) (h.paths _ hr)
  | record hm _ => exact .of_record (List.mem_map.2 ⟨_, hm, rfl⟩) (h.drafted _ hm)

/-- In checked modules a reference leads to a name that starts with a capital and is not `String`,
so that only the drafted names are left to look at. -/
theorem NamesApart.of_checked {set : SchemaSet} (hs : ∀ n ∈ set.modules, n.check set = .ok ())
    {m : SchemaModule} (hm : m ∈ set.modules) {dt : Datatype} (hdt : dt.WellFormed set m)
    {config : Config} {site : Site} {records : List Record}
    (hdrafted : ∀ r ∈ records, ∀ f : TypeForm, ¬ f.InRust r.name)
    (hpaths : ∀ r ∈ dt.references m.id,
      Home.path ⟨m.id, site⟩ config r ∉ records.map Record.name) :
    NamesApart config ⟨m.id, site⟩ dt records := by
  have hnames : ∀ r ∈ dt.references m.id,
      Check.isTypeName r.name = true ∧ r.name ∉ Check.preludeTypes := by
    intro r hr
    obtain ⟨node, hn, own, ho, rfl⟩ := Datatype.mem_references.1 hr
    have hresolves := (hdt.of_mem_walk node hn).resolves ho
    obtain ⟨target, ht, -, hd⟩ := SchemaSet.exists_of_resolves hm hresolves
    exact SchemaModule.typeName_rules_of_mem_typeNames (hs target ht)
      (Declarations.declares_iff.1 hd)
  refine ⟨hdrafted, fun r hr he => ?_, fun r hr => ?_, hpaths⟩
  · have hupper := (Bool.and_eq_true_iff.1 (hnames r hr).1).2
    rw [he] at hupper
    cases hupper
  · obtain ⟨htype, hprelude⟩ := hnames r hr
    obtain ⟨hi, hupper⟩ := Bool.and_eq_true_iff.1 htype
    refine not_inRust_of_endsIn (Home.path_endsIn _ config hi) hi fun hmem => ?_
    simp only [List.mem_cons, List.not_mem_nil, or_false] at hmem
    rcases hmem with he | he | he
    · exact hprelude (he ▸ by decide)
    · rw [he] at hupper
      cases hupper
    · rw [he] at hupper
      cases hupper

namespace Drafts

/-- A datatype that has a Rust type has a TypeScript type. The records it adds are new to the file,
and no other records are needed. The two types correspond at every position, and exactly so if the
names are apart. -/
theorem targets_agree (config : Config) {home : Home} {owner : String} {dt : Datatype}
    {s later : Drafts} {t : TypeExpr} (h : project home owner dt s = (.ok t, later)) :
    ∃ u new, Frontend.TypeExpr.ofDatatype dt = .ok u ∧ later.records = s.records ++ new ∧
      (new.map Record.name).Nodup ∧ (∀ r ∈ new, r.name ∉ s.taken) ∧
      ∀ text v, Opposite config new (t.render config) u text v →
        Corresponds new text v ∧ (NamesApart config home dt new → Exact new text v) := by
  obtain ⟨u, new, hu, hn, ha⟩ := project_agrees config dt owner s t later h
  obtain ⟨added, hadd⟩ := project_adds home dt owner s
  rw [h] at hadd
  obtain rfl : new = added := List.append_cancel_left (hn.symm.trans hadd.records)
  refine ⟨u, new, hu, hn, hadd.distinct, fun r hr => (hadd.fresh r hr).1, fun text v ho => ?_⟩
  have hbelow := (ha (dt.references home.moduleId) new (List.Subset.refl _)
    (List.Subset.refl _)).of_opposite hadd.distinct ho
  exact ⟨hbelow.corresponds fun _ => CustomRef.isIdentifier_of_mem_references,
    fun hapart => hapart.exact hbelow⟩

def nestedDatatype : Datatype :=
  .node "list" (some (.node "object" none
    (some [("at", .node "datetime" none none true),
      ("sub-item", .node "object" none (some [("x", .named "other.Kind")]) false)]) true))
    none false

def nestedRecords : List Record :=
  [⟨"OwnerSubItem", [⟨"x", "x", .foreign "other" "Kind"⟩]⟩,
   ⟨"Owner", [⟨"at", "at", .option .instant⟩, ⟨"sub_item", "sub-item", .record "OwnerSubItem"⟩]⟩]

def nestedType : Frontend.TypeExpr :=
  .array (.orNull (.object [(⟨"at", false⟩, .orNull (.named "datetimeRFC3339")),
    (⟨"sub-item", false⟩, .object [(⟨"x", false⟩, .named "Kind")])]))

theorem targets_agree_nested :
    Frontend.TypeExpr.ofDatatype nestedDatatype = .ok nestedType ∧
      NamesApart {} ⟨"m", .sibling⟩ nestedDatatype nestedRecords ∧
      Exact nestedRecords "Vec<Option<Owner>>" nestedType ∧
      Exact nestedRecords "crate::generated::other::types::Kind" (.named "Kind") := by
  have h : project ⟨"m", .sibling⟩ "Owner" nestedDatatype ⟨["Taken"], []⟩ =
      (.ok (.list (.option (.record "Owner"))),
        ⟨["OwnerSubItem", "Owner", "Taken"], nestedRecords⟩) := by rfl
  obtain ⟨u, new, hu, hn, -, -, hall⟩ := targets_agree {} h
  obtain rfl : nestedRecords = new := hn
  obtain rfl : nestedType = u := by cases hu; rfl
  have hrefs : nestedDatatype.references "m" = [⟨some "other", "Kind"⟩] := by rfl
  have hkind : EndsIn "crate::generated::other::types::Kind" "Kind" :=
    ⟨by decide, .inr ⟨"crate::generated::other::types", rfl⟩⟩
  have hapart : NamesApart {} ⟨"m", .sibling⟩ nestedDatatype nestedRecords := by
    constructor
    · simp only [nestedRecords, List.forall_mem_cons]
      exact ⟨not_inRust_of_endsIn ⟨by decide, .inl rfl⟩ (by decide) (by decide),
        not_inRust_of_endsIn ⟨by decide, .inl rfl⟩ (by decide) (by decide), by simp⟩
    · simp [hrefs]
    · simp only [hrefs, List.mem_singleton, forall_eq]
      exact not_inRust_of_endsIn hkind (by decide) (by decide)
    · simp only [hrefs, List.mem_singleton, forall_eq]
      decide
  have hitem : Opposite {} nestedRecords "Vec<Option<Owner>>" nestedType "Option<Owner>" _ :=
    .item .whole
  have howner : Opposite {} nestedRecords "Vec<Option<Owner>>" nestedType "Owner" _ := .inner hitem
  have hsub : Opposite {} nestedRecords "Vec<Option<Owner>>" nestedType "OwnerSubItem" _ :=
    howner.field (i := 1) (List.mem_cons_of_mem _ List.mem_cons_self) rfl rfl
  exact ⟨hu, hapart, (hall _ _ .whole).2 hapart,
    (hall _ _ (hsub.field (i := 0) List.mem_cons_self rfl rfl)).2 hapart⟩

/-- Names go into a file as they are. A reference may be written like a primitive type, it may have
the name of the alias, and it may be called like the record that it stands in; and a record may be
called like a primitive type. -/
theorem targets_not_told_apart :
    (∃ t u, project ⟨"m", .types⟩ "X" (.named "bool") ⟨[], []⟩ = (.ok t, ⟨[], []⟩) ∧
      Frontend.TypeExpr.ofDatatype (.named "bool") = .ok u ∧ ¬ Exact [] (t.render {}) u) ∧
    (∃ t u, project ⟨"m", .sibling⟩ "X" (.named "datetimeRFC3339") ⟨[], []⟩ =
        (.ok t, ⟨[], []⟩) ∧
      Frontend.TypeExpr.ofDatatype (.named "datetimeRFC3339") = .ok u ∧
        ¬ Exact [] (t.render {}) u) ∧
    (∃ t u new, project ⟨"m", .types⟩ "X"
        (.node "object" none (some [("a", .named "X")]) false) ⟨[], []⟩ = (.ok t, ⟨["X"], new⟩) ∧
      Frontend.TypeExpr.ofDatatype (.node "object" none (some [("a", .named "X")]) false) = .ok u ∧
        (∃ text v, Opposite {} new (t.render {}) u text v ∧ ¬ Exact new text v)) ∧
    ∃ t u new, project ⟨"m", .types⟩ "String" (.node "object" none (some []) false) ⟨[], []⟩ =
        (.ok t, ⟨["String"], new⟩) ∧
      Frontend.TypeExpr.ofDatatype (.node "object" none (some []) false) = .ok u ∧
        ¬ Exact new (t.render {}) u := by
  let own : RecordField := ⟨"a", "a", .here "X"⟩
  let property : Frontend.PropertyName × Frontend.TypeExpr := (⟨"a", false⟩, .named "X")
  have hfield : Opposite {} [⟨"X", [own]⟩] "X" (.object [property]) (own.type.render {})
      property.2 := .field (i := 0) .whole List.mem_cons_self rfl rfl
  refine ⟨⟨.here "bool", .named "bool", rfl, rfl, fun h => ?_⟩,
    ⟨.sibling "datetimeRFC3339", .named "datetimeRFC3339", rfl, rfl, fun h => ?_⟩,
    ⟨.record "X", .object [property], [⟨"X", [own]⟩], rfl, rfl, _, _, hfield, fun h => ?_⟩,
    .record "String", .object [], [⟨"String", []⟩], rfl, rfl, fun h => ?_⟩
  · cases (h.forms .boolean).1 rfl
  · have htext : "super::types::datetimeRFC3339" = "chrono::DateTime<chrono::Utc>" :=
      (h.forms .instant).2 rfl
    exact absurd htext (by decide)
  · obtain ⟨properties, hu⟩ := h.objects.1 List.mem_cons_self
    cases hu
  · cases (h.forms .string).1 rfl

end Drafts

end EventSchema.Backend
