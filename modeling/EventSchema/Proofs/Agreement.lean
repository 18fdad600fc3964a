import EventSchema.Frontend.Projection
import EventSchema.Proofs.Drafts
import EventSchema.Proofs.Reachability

/-!
The two targets agree. Whatever type a datatype has in a Rust file, as it is written there, its
TypeScript type comes from the same primitive types and references, put together in the same way,
where the records that were drafted on the way stand for the inline objects.
-/

set_option autoImplicit false

namespace EventSchema

namespace Frontend.TypeExpr

section Equations

attribute [local simp] ofDatatype ofItem ofObject ofFields

variable {name : String} {nullable : Bool}

theorem ofDatatype_primitive {p : Primitive}
    (h : Datatype.formOf name false false = .ok (.primitive p)) :
    ofDatatype (.node name none none nullable) = .ok (withNull nullable (ofPrimitive p)) := by
  simp [h]

theorem ofDatatype_custom {r : CustomRef}
    (h : Datatype.formOf name false false = .ok (.custom r)) :
    ofDatatype (.node name none none nullable) = .ok (withNull nullable (.named r.name)) := by
  simp [h]

theorem ofDatatype_list {of : Datatype} (h : Datatype.formOf name true false = .ok .list) :
    ofDatatype (.node name (some of) none nullable) =
      (ofDatatype of).map fun item => withNull nullable (.array item) := by
  simp [h]

theorem ofDatatype_object {fields : List (String × Datatype)}
    (h : Datatype.formOf name false true = .ok .object) :
    ofDatatype (.node name none (some fields) nullable) =
      (ofFields fields).map fun ps => withNull nullable (.object ps) := by
  simp [h]

theorem ofFields_cons {key : String} {dt : Datatype} {rest : List (String × Datatype)}
    {type : TypeExpr} (h : ofDatatype dt = .ok type) :
    ofFields ((key, dt) :: rest) = (ofFields rest).map fun ps => (⟨key, false⟩, type) :: ps := by
  simp [h]

end Equations

end Frontend.TypeExpr

theorem CustomRef.isIdentifier_of_mem_references {moduleId : String} {dt : Datatype} {r : CustomRef}
    (h : r ∈ dt.references moduleId) : Naming.isIdentifier r.name = true := by
  obtain ⟨node, -, own, ho, rfl⟩ := Datatype.mem_references.1 h
  obtain ⟨name, nullable, rfl, hf⟩ := Datatype.node_of_customRef? ho
  exact (ofName?_eq_some (Datatype.ofName?_of_formOf hf)).2

namespace Datatype

variable {moduleId name : String} {nullable : Bool}

theorem mem_references_custom {r : CustomRef} (h : formOf name false false = .ok (.custom r)) :
    r.relativeTo moduleId ∈ (node name none none nullable).references moduleId :=
  mem_references.2 ⟨node name none none nullable, by simp [walk], r,
    by simp [customRef?, form, Datatype.name, of, fields, h], rfl⟩

theorem references_list (of : Datatype) :
    of.references moduleId ⊆ (node name (some of) none nullable).references moduleId := by
  intro r hr
  obtain ⟨found, hn, own, ho⟩ := mem_references.1 hr
  exact mem_references.2 ⟨found, by simp [walk, walkOf, hn], own, ho⟩

theorem references_field {fields : List (String × Datatype)} {f : String × Datatype}
    (hf : f ∈ fields) :
    f.2.references moduleId ⊆ (node name none (some fields) nullable).references moduleId := by
  intro r hr
  obtain ⟨found, hn, own, ho⟩ := mem_references.1 hr
  refine mem_references.2 ⟨found, ?_, own, ho⟩
  have hbelow : found ∈ walkList fields := mem_walkList.2 ⟨f, hf, hn⟩
  simp [walk, walkFields, hbelow]

end Datatype

namespace Backend

def Home.path (home : Home) (config : Config) (r : CustomRef) : String :=
  (home.ofRef r).render config

theorem Home.path_relativeTo (home : Home) (config : Config) (r : CustomRef) :
    home.path config (r.relativeTo home.moduleId) = home.path config r := by
  cases h : r.foreign? home.moduleId <;>
    simp_all [path, ofRef, CustomRef.relativeTo, CustomRef.foreign?]

mutual

/-- A Rust type, as it is written, and the TypeScript type that goes with it, where the datatype has
these references and the file these records. -/
inductive Agrees (config : Config) (home : Home) (refs : List CustomRef) (records : List Record) :
    String → Frontend.TypeExpr → Prop where
  | string : Agrees config home refs records "String" .string
  | boolean : Agrees config home refs records "bool" .boolean
  | integer : Agrees config home refs records "i64" .number
  | instant : Agrees config home refs records "chrono::DateTime<chrono::Utc>"
      (.named Frontend.datetimeAlias)
  | list {item : String} {other : Frontend.TypeExpr} :
    Agrees config home refs records item other →
      Agrees config home refs records ("Vec<" ++ item ++ ">") (.array other)
  | option {inner : String} {other : Frontend.TypeExpr} :
    Agrees config home refs records inner other →
      Agrees config home refs records ("Option<" ++ inner ++ ">") other.orNull
  | reference {r : CustomRef} :
    r ∈ refs → Agrees config home refs records (home.path config r) (.named r.name)
  | record {name : String} {fields : List RecordField}
    {properties : List (Frontend.PropertyName × Frontend.TypeExpr)} :
    ⟨name, fields⟩ ∈ records → AgreesAll config home refs records fields properties →
      Agrees config home refs records name (.object properties)

inductive AgreesAll (config : Config) (home : Home) (refs : List CustomRef)
    (records : List Record) :
    List RecordField → List (Frontend.PropertyName × Frontend.TypeExpr) → Prop where
  | nil : AgreesAll config home refs records [] []
  | cons {f : RecordField} {other : Frontend.TypeExpr} {fields : List RecordField}
    {properties : List (Frontend.PropertyName × Frontend.TypeExpr)} :
    Agrees config home refs records (f.type.render config) other →
      AgreesAll config home refs records fields properties →
      AgreesAll config home refs records (f :: fields) ((⟨f.key, false⟩, other) :: properties)

end

section Structure

variable {config : Config} {home : Home} {refs : List CustomRef} {records : List Record}

namespace Agrees

theorem withNull (nullable : Bool) {t : TypeExpr} {u : Frontend.TypeExpr}
    (h : Agrees config home refs records (t.render config) u) :
    Agrees config home refs records ((TypeExpr.withNull nullable t).render config)
      (.withNull nullable u) := by
  cases nullable with
  | false => exact h
  | true => exact .option h

theorem ofPrimitive (p : Primitive) :
    Agrees config home refs records ((TypeExpr.ofPrimitive p).render config) (.ofPrimitive p) := by
  cases p with
  | string => exact .string
  | boolean => exact .boolean
  | integer => exact .integer
  | datetime => exact .instant

theorem inner_of_orNull {text : String} {u : Frontend.TypeExpr}
    (h : Agrees config home refs records text u.orNull) :
    ∃ inner, text = "Option<" ++ inner ++ ">" ∧ Agrees config home refs records inner u := by
  cases h with
  | option h => exact ⟨_, rfl, h⟩

theorem item_of_array {text : String} {u : Frontend.TypeExpr}
    (h : Agrees config home refs records text (.array u)) :
    ∃ item, text = "Vec<" ++ item ++ ">" ∧ Agrees config home refs records item u := by
  cases h with
  | list h => exact ⟨_, rfl, h⟩

theorem fields_of_object {text : String}
    {properties : List (Frontend.PropertyName × Frontend.TypeExpr)}
    (h : Agrees config home refs records text (.object properties)) :
    ∃ fields, ⟨text, fields⟩ ∈ records ∧
      AgreesAll config home refs records fields properties := by
  cases h with
  | record hm hs => exact ⟨_, hm, hs⟩

end Agrees

namespace AgreesAll

variable {fields : List RecordField}
  {properties : List (Frontend.PropertyName × Frontend.TypeExpr)}

theorem names (h : AgreesAll config home refs records fields properties) :
    properties.map Prod.fst = fields.map fun f => ⟨f.key, false⟩ := by
  induction fields generalizing properties with
  | nil =>
    cases h
    rfl
  | cons f rest ih =>
    cases h with
    | cons _ hs => simp [ih hs]

theorem get (h : AgreesAll config home refs records fields properties) {i : Nat} {f : RecordField}
    {p : Frontend.PropertyName × Frontend.TypeExpr} (hf : fields[i]? = some f)
    (hp : properties[i]? = some p) :
    Agrees config home refs records (f.type.render config) p.2 := by
  induction fields generalizing properties i with
  | nil => simp at hf
  | cons first rest ih =>
    cases h with
    | cons h hs =>
      cases i with
      | zero =>
        obtain rfl : first = f := by simpa using hf
        obtain rfl := Option.some.inj hp
        exact h
      | succ i => exact ih hs hf hp

end AgreesAll

end Structure

namespace Drafts

theorem projectFields_agrees {config : Config} {home : Home} {fields : List (String × Datatype)}
    (each : ∀ f ∈ fields, ∀ owner s t later, project home owner f.2 s = (.ok t, later) →
      ∃ u new, Frontend.TypeExpr.ofDatatype f.2 = .ok u ∧ later.records = s.records ++ new ∧
        ∀ refs records, f.2.references home.moduleId ⊆ refs → new ⊆ records →
          Agrees config home refs records (t.render config) u)
    {owner : String} {s later : Drafts} {own : List RecordField}
    (h : projectFields home owner fields s = (.ok own, later)) :
    ∃ ps new, Frontend.TypeExpr.ofFields fields = .ok ps ∧ later.records = s.records ++ new ∧
      ∀ refs records, (∀ f ∈ fields, f.2.references home.moduleId ⊆ refs) → new ⊆ records →
        AgreesAll config home refs records own ps := by
  induction fields generalizing s own with
  | nil =>
    simp only [projectFields, Prod.mk.injEq, Except.ok.injEq] at h
    obtain ⟨rfl, rfl⟩ := h
    exact ⟨[], [], by simp [Frontend.TypeExpr.ofFields], by simp, fun _ _ _ _ => .nil⟩
  | cons f rest ih =>
    obtain ⟨key, dt⟩ := f
    obtain ⟨hf, hr⟩ := List.forall_mem_cons.1 each
    cases hk : fieldIdent? key with
    | none => simp [projectFields_unnamed home owner s hk] at h
    | some ident =>
      rw [projectFields_cons home owner s hk] at h
      obtain ⟨type, middle, ht, h⟩ := chain_eq_ok.1 h
      obtain ⟨others, final, hp, h⟩ := chain_eq_ok.1 h
      cases h
      obtain ⟨u, new, hu, hn, ha⟩ := hf _ _ _ _ ht
      obtain ⟨ps, more, hps, hm, hb⟩ := ih hr hp
      refine ⟨(⟨key, false⟩, u) :: ps, new ++ more, ?_, ?_, fun refs records hrefs hs => ?_⟩
      · rw [Frontend.TypeExpr.ofFields_cons hu, hps]
        rfl
      · rw [hm, hn, List.append_assoc]
      · obtain ⟨hfirst, hothers⟩ := List.forall_mem_cons.1 hrefs
        obtain ⟨hs, hm⟩ := List.append_subset.1 hs
        exact .cons (ha refs records hfirst hs) (hb refs records hothers hm)

/-- The records that a draft adds are enough to follow its type down to the last field. -/
theorem project_agrees (config : Config) {home : Home} (dt : Datatype) (owner : String)
    (s : Drafts) (t : TypeExpr) (later : Drafts) (h : project home owner dt s = (.ok t, later)) :
    ∃ u new, Frontend.TypeExpr.ofDatatype dt = .ok u ∧ later.records = s.records ++ new ∧
      ∀ refs records, dt.references home.moduleId ⊆ refs → new ⊆ records →
        Agrees config home refs records (t.render config) u := by
  induction dt using Datatype.formInduction generalizing owner s t later with
  | malformed name of fields nullable flaw hf =>
    simp [project_malformed home owner s hf] at h
  | primitive name nullable p hf =>
    rw [project_primitive home owner s hf] at h
    cases h
    exact ⟨_, [], Frontend.TypeExpr.ofDatatype_primitive hf, by simp,
      fun _ _ _ _ => (Agrees.ofPrimitive p).withNull nullable⟩
  | custom name nullable r hf =>
    rw [project_custom home owner s hf] at h
    cases h
    refine ⟨_, [], Frontend.TypeExpr.ofDatatype_custom hf, by simp, fun refs records hrefs _ =>
      .withNull nullable ?_⟩
    have href : Agrees config home refs records (home.path config (r.relativeTo home.moduleId))
        (.named r.name) := .reference (hrefs (Datatype.mem_references_custom hf))
    rwa [Home.path_relativeTo] at href
  | list name of nullable hf ih =>
    rw [project_list home owner s hf] at h
    obtain ⟨item, middle, hi, h⟩ := chain_eq_ok.1 h
    cases h
    obtain ⟨u, new, hu, hn, ha⟩ := ih _ _ _ _ hi
    refine ⟨.withNull nullable (.array u), new, ?_, hn, fun refs records hrefs hs =>
      .withNull nullable ?_⟩
    · rw [Frontend.TypeExpr.ofDatatype_list hf, hu]
      rfl
    · exact .list (ha refs records (List.Subset.trans (Datatype.references_list of) hrefs) hs)
  | object name fields nullable hf ih =>
    rw [project_object home owner s hf] at h
    obtain ⟨_, middle, hr, h⟩ := chain_eq_ok.1 h
    cases h
    obtain ⟨ho, own, inner, hp, rfl⟩ := record_eq_ok hr
    obtain ⟨ps, new, hps, hn, ha⟩ := projectFields_agrees ih hp
    -- the object's own record comes after those of its fields
    refine ⟨.withNull nullable (.object ps), new ++ [⟨owner, own⟩], ?_, by simp [hn],
      fun refs records hrefs hs => .withNull nullable ?_⟩
    · rw [Frontend.TypeExpr.ofDatatype_object hf, hps]
      rfl
    · obtain ⟨hs, hm⟩ := List.append_subset.1 hs
      have hfields : ∀ f ∈ fields, f.2.references home.moduleId ⊆ refs := fun f hmem =>
        List.Subset.trans (Datatype.references_field hmem) hrefs
      exact .record (hm List.mem_cons_self) (ha refs records hfields hs)

end Drafts

end Backend

end EventSchema
