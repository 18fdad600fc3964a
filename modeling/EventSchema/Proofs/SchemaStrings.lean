import EventSchema.Proofs.RouteStrings

/-!
The texts of a schema in its Rust files. Which literals a file has can be read off the module: what
names a thing on the wire, chains and patterns, each as often as the code needs it and in the order
of the code. All of them come back unchanged from the files that are written.
-/

set_option autoImplicit false

namespace EventSchema

open Outcome Backend

def InlineObject.keys (o : InlineObject) : List String :=
  o.fields.map Prod.fst

def Event.strings (e : Event) : List String :=
  e.fields.map EventField.key ++ [e.kind]

/-- What the literals of a section of the backend denote. -/
def SchemaModule.strings (m : SchemaModule) : Section → List String
  | .types => m.types.constants.map Constant.value ++
      m.types.enums.flatMap (fun e => e.values ++ e.values) ++
        (m.types.types.flatMap NamedType.objects).flatMap InlineObject.keys
  | .commands => m.commands.flatMap Command.strings ++ m.commands.map Command.key
  | .events => m.events.flatMap Event.strings ++
      (m.events.flatMap Event.objects).flatMap InlineObject.keys ++ m.events.map Event.kind
  | .rest => (m.types.endpoints.flatMap Endpoint.objects).flatMap InlineObject.keys ++
      (m.types.endpoints.map Endpoint.chain ++ (m.types.endpoints.map Endpoint.path).eraseDups)
  | .client | .commandForms => []

theorem Outcome.flatMap_eq_of_forall₂ {α β γ : Type} {R : α → β → Prop} {f : α → List γ}
    {g : β → List γ} (hr : ∀ a b, R a b → g b = f a) {xs : List α} {ys : List β}
    (h : List.Forall₂ R xs ys) : ys.flatMap g = xs.flatMap f := by
  rw [List.flatMap_def, List.flatMap_def, map_eq_of_forall₂ hr h]

namespace Backend

section Types

variable {config : Config} {home : Home} {s : SchemaSet} {m : SchemaModule}

theorem isCode_withNull (nullable : Bool) {t : TypeExpr} (h : isCode (t.render config) = true) :
    isCode ((TypeExpr.withNull nullable t).render config) = true := by
  cases nullable with
  | false => exact h
  | true => exact isCode_around h rfl

theorem isCode_ofPrimitive (p : Primitive) :
    isCode ((TypeExpr.ofPrimitive p).render config) = true := by
  cases p with
  | string => exact isCode_chars rfl
  | boolean => exact isCode_chars rfl
  | integer => exact isCode_chars rfl
  | datetime => exact isCode_chars rfl

theorem isCode_ofRef (hs : ∀ n ∈ s.modules, n.check s = .ok ()) (hm : m ∈ s.modules)
    (hroot : isCode config.backendRoot = true) (site : Site) {r : CustomRef}
    (hr : s.resolves m r = true) : isCode ((Home.ofRef ⟨m.id, site⟩ r).render config) = true := by
  have hname : isCode r.name = true :=
    isCode_of_isIdentifier (Bool.and_eq_true_iff.1 (SchemaSet.isTypeName_of_resolves hs hm hr)).1
  unfold Home.ofRef
  split
  · next module hmodule =>
    obtain ⟨target, ht, hid, -⟩ := SchemaSet.exists_of_resolves hm hr
    obtain rfl : target.id = module := by
      rw [hid, CustomRef.module_of_foreign? hmodule, Option.getD_some]
    have hallowed := (SchemaModule.namesAllowed_of_check (hs target ht)).id
    have hmoduleId := isCode_of_isIdentifier (isIdentifier_of_isModuleId hallowed)
    exact isCode_append (isCode_append (isCode_append (isCode_append (isCode_append hroot
      (isCode_chars rfl)) hmoduleId) (isCode_chars rfl)) (isCode_chars rfl)) hname
  · split
    · exact hname
    · exact isCode_append (isCode_chars rfl) hname

variable (hrefs : ∀ r, s.resolves m r = true → isCode ((home.ofRef r).render config) = true)
include hrefs

theorem HasType.isCode_render {dt : Datatype} {owner : String} {type : TypeExpr}
    (h : HasType home owner dt type) (hw : dt.WellFormed s m) (ho : isCode owner = true) :
    isCode (type.render config) = true := by
  induction h with
  | primitive form => exact isCode_withNull _ (isCode_ofPrimitive _)
  | @custom _ _ r form =>
    have hr : s.resolves m r = true := by
      cases hw with
      | primitive other => cases form.symm.trans other
      | custom other resolves =>
        cases form.symm.trans other
        exact resolves
    exact isCode_withNull _ (hrefs r hr)
  | @list _ of _ _ form below ih =>
    have hitem : of.WellFormed s m := by
      cases hw with
      | list _ item => exact item
    exact isCode_withNull _ (isCode_around (ih hitem) rfl)
  | object form => exact isCode_withNull _ ho

theorem Record.IsFor.isPlain {o : InlineObject} {r : Record} (h : r.IsFor home o)
    (hw : o.WellFormed s m) (hn : isCode o.name = true) : r.IsPlain config := by
  refine ⟨h.name ▸ hn, fun field hf => ?_⟩
  obtain ⟨f, hm, hi⟩ := mem_of_forall₂ h.fields.flip hf
  refine ⟨isCode_of_fieldIdent? hi.ident, hi.type.isCode_render hrefs (hw.each f hm) ?_⟩
  exact isCode_append hn (isCode_pascal f.1)

theorem AreRecordsOf.isPlain {taken : List String} {objects : List InlineObject}
    {records : List Record} (h : AreRecordsOf home taken objects records)
    (ho : ∀ o ∈ objects, o.WellFormed s m ∧ isCode o.name = true) :
    ∀ r ∈ records, r.IsPlain config := by
  intro r hr
  obtain ⟨o, hm, hfor⟩ := mem_of_forall₂ h.each.flip hr
  exact hfor.isPlain hrefs (ho o hm).1 (ho o hm).2

omit hrefs

theorem AreRecordsOf.keys_eq {taken : List String} {objects : List InlineObject}
    {records : List Record} (h : AreRecordsOf home taken objects records) :
    records.flatMap (fun r => r.fields.map RecordField.key) =
      objects.flatMap InlineObject.keys :=
  flatMap_eq_of_forall₂ (fun _ _ hr => map_eq_of_forall₂ (fun _ _ hi => hi.key) hr.fields) h.each

theorem isCode_of_mem_objects {dt : Datatype} (hw : dt.WellFormed s m) {owner : String}
    (ho : isCode owner = true) :
    ∀ o ∈ dt.objects owner, o.WellFormed s m ∧ isCode o.name = true := by
  intro o hm
  refine ⟨hw.of_mem_objects o hm, ?_⟩
  have hname : o.name ∈ dt.recordNames owner :=
    Datatype.map_name_objects owner dt ▸ List.mem_map_of_mem hm
  obtain ⟨tail, he, rfl | ht⟩ := hw.tail_of_mem hname
  · rw [he, String.append_empty]
    exact ho
  · rw [he]
    exact isCode_append ho (isCode_of_isAlphanum ht.chars)

end Types

section Commands

variable {c : Command} {item : CommandItem}

theorem FieldRule.strings_ofField {f : CommandField} {ident : String}
    (h : fieldIdent? f.key = some ident) :
    (ofField f).flatMap FieldRule.strings = f.rules.flatMap (Rule.strings f.key) := by
  rw [ofField, h, List.flatMap_map]
  rfl

theorem CommandItem.isPlain_of_command (h : ofCommand c = .ok item) : item.IsPlain := by
  have hkeeps := keeps_of_command h
  obtain ⟨fields, -, h⟩ := bind_eq_ok.1 h
  cases h
  refine ⟨isCode_pascal c.key, isOneLine_oneLine c.title, isCode_snake c.key,
    isCode_append (isCode_chars rfl) (isCode_snake c.key), fun g hg => ?_, fun r hr => ?_⟩
  · obtain ⟨f, -, hfor⟩ := mem_of_forall₂ hkeeps.fields.flip hg
    exact isCode_of_fieldIdent? hfor.ident
  · obtain ⟨f, -, hi, -⟩ := hkeeps.mem_rules_iff.1 hr
    exact isCode_of_fieldIdent? hi

theorem CommandItem.strings_of_command (h : ofCommand c = .ok item) :
    item.strings = c.strings := by
  have hkeeps := keeps_of_command h
  have hrules : item.rules.flatMap FieldRule.strings =
      c.fields.flatMap fun f => f.rules.flatMap (Rule.strings f.key) := by
    rw [hkeeps.rules, List.flatMap_assoc]
    refine List.flatMap_congr fun f hf => ?_
    obtain ⟨g, -, hfor⟩ := mem_of_forall₂ hkeeps.fields hf
    exact FieldRule.strings_ofField hfor.ident
  rw [strings, Command.strings, hkeeps.keys_eq, hrules]
  obtain ⟨fields, -, h⟩ := bind_eq_ok.1 h
  cases h
  rfl

theorem CommandsFile.strings?_of_commands {cs : List Command} {f : CommandsFile}
    (h : ofCommands cs = .ok f) : strings? f.render.toList =
      some (cs.flatMap Command.strings ++ cs.map Command.key) := by
  have hmade := made_of_commands h
  have hitems := flatMap_eq_of_forall₂ (fun _ _ hc => CommandItem.strings_of_command hc) hmade
  have hkeys := map_eq_of_forall₂ (fun _ _ hk => hk.key) (keeps_of_commands h)
  rw [strings?_render, hitems, hkeys]
  intro item hm
  obtain ⟨c, -, hc⟩ := mem_of_forall₂ hmade.flip hm
  exact CommandItem.isPlain_of_command hc

end Commands

theorem EnumItem.isPlain_ofEnumeration {e : Enumeration} (hn : Check.isTypeName e.name = true) :
    (ofEnumeration e).IsPlain := by
  have hdigest : isCode e.digest = true :=
    isCode_of_isAlphanum fun _ => Enumeration.isAlphanum_of_mem_digest
  refine ⟨isCode_of_isIdentifier (Bool.and_eq_true_iff.1 hn).1,
    isCode_append (isCode_append (isCode_snake e.name) (isCode_chars rfl)) hdigest, ?_⟩
  refine List.forall_mem_map.2 fun member hm => isCode_escapeKeyword ?_
  obtain ⟨value, -, rfl⟩ := List.mem_map.1 hm
  exact isCode_pascal value

theorem EnumItem.strings_ofEnumeration (e : Enumeration) :
    (ofEnumeration e).strings = e.values ++ e.values := by
  have hvalues : (ofEnumeration e).variants.map Variant.value = e.values := by
    rw [ofEnumeration, Enumeration.members, List.map_map, List.map_map]
    exact List.map_id _
  rw [strings, hvalues]

section Modules

variable {config : Config} {s : SchemaSet} {m : SchemaModule} (hc : m.Checked s)
  (hrefs : ∀ site r, s.resolves m r = true →
    isCode ((Home.ofRef ⟨m.id, site⟩ r).render config) = true)

section Objects

include hc

theorem isCode_of_mem_event {e : Event} (he : e ∈ m.events) :
    ∀ o ∈ e.objects, o.WellFormed s m ∧ isCode o.name = true := by
  intro o ho
  obtain ⟨f, hf, ho⟩ := List.mem_flatMap.1 ho
  exact isCode_of_mem_objects (hc.events e he f hf).2
    (isCode_append (isCode_pascal e.kind) (isCode_pascal f.key)) o ho

theorem isCode_of_mem_endpoint {e : Endpoint} (he : e ∈ m.types.endpoints) :
    ∀ o ∈ e.objects, o.WellFormed s m ∧ isCode o.name = true := by
  have hwell := hc.payloads e he
  have hname := isCode_pascal e.name
  intro o ho
  rcases List.mem_append.1 ho with ho | ho
  · obtain ⟨dt, hd, ho⟩ := List.mem_flatMap.1 ho
    exact isCode_of_mem_objects (hwell dt (List.mem_append_left _ hd))
      (isCode_append hname (isCode_chars rfl)) o ho
  · obtain ⟨dt, hd, ho⟩ := List.mem_flatMap.1 ho
    exact isCode_of_mem_objects (hwell dt (List.mem_append_right _ hd))
      (isCode_append hname (isCode_chars rfl)) o ho

theorem isCode_of_mem_type (hn : m.NamesAllowed) {t : NamedType} (ht : t ∈ m.types.types) :
    ∀ o ∈ t.objects, o.WellFormed s m ∧ isCode o.name = true :=
  isCode_of_mem_objects (hc.types t ht).1
    (isCode_of_isIdentifier (Bool.and_eq_true_iff.1 (hn.types t ht).1).1)

end Objects

include hrefs

theorem isCode_of_payload {owner : String} (ho : isCode owner = true)
    {payload : Option Datatype} (hw : ∀ dt ∈ payload, dt.WellFormed s m) {type : Option TypeExpr}
    (h : Option.Rel (HasType ⟨m.id, .sibling⟩ owner) payload type) :
    ∀ t ∈ type, isCode (t.render config) = true := by
  cases h with
  | none => simp
  | some ht =>
    rintro t ⟨⟩
    exact ht.isCode_render (hrefs .sibling) (hw _ rfl) ho

include hc

theorem EventItem.Keeps.isPlain {e : Event} {item : EventItem}
    (h : item.Keeps ⟨m.id, .sibling⟩ e) (he : e ∈ m.events) : item.IsPlain config := by
  have hname : isCode e.structName = true := isCode_pascal e.kind
  refine ⟨h.isFor.structName ▸ hname, ?_, ?_, fun field hf => ?_⟩
  · rw [h.isFor.applyMethod]
    exact isCode_append (isCode_chars rfl) (isCode_snake e.kind)
  · rw [h.isFor.allocatorFn]
    exact isCode_append (isCode_chars rfl) (isCode_snake e.kind)
  · obtain ⟨f, hm, hfor⟩ := mem_of_forall₂ h.fields.flip hf
    have howner := isCode_append hname (isCode_pascal f.key)
    exact ⟨isCode_of_fieldIdent? hfor.ident,
      hfor.type.isCode_render (hrefs .sibling) (hc.events e he f hm).2 howner⟩

theorem EventsFile.strings?_of_events {f : EventsFile} (h : ofEvents m.id m.events = .ok f) :
    strings? (f.render config).toList = some (m.strings .events) := by
  have hkeeps := keeps_of_events h
  have hrecords := recordsOf_events h
  have hplain := hrecords.isPlain (hrefs .sibling)
    (List.forall_mem_flatMap.2 fun e he => isCode_of_mem_event hc he)
  have hitems : f.events.flatMap EventItem.strings = m.events.flatMap Event.strings := by
    refine flatMap_eq_of_forall₂ (fun e item hk => ?_) hkeeps
    have hkeys := map_eq_of_forall₂ (fun _ _ hi => hi.key) hk.fields
    rw [EventItem.strings, Event.strings, hkeys, hk.isFor.kind]
  rw [strings?_render (fun item hm => ?_) hplain, hitems, hrecords.keys_eq,
    map_eq_of_forall₂ (fun _ _ hk => hk.isFor.kind) hkeeps]
  · rfl
  · obtain ⟨e, he, hk⟩ := mem_of_forall₂ hkeeps.flip hm
    exact hk.isPlain hc hrefs he

theorem EndpointItem.Keeps.isPlain {e : Endpoint} {item : EndpointItem}
    (h : item.Keeps ⟨m.id, .sibling⟩ e) (he : e ∈ m.types.endpoints) : item.IsPlain config := by
  have hname := isCode_pascal e.name
  have hwell := hc.payloads e he
  refine {
    handler := h.isFor.handler ▸ isCode_escapeKeyword (isCode_snake e.name)
    chainVar := h.isFor.chainVar ▸ isCode_append (isCode_snake e.name) (isCode_chars rfl)
    description := fun text ht => ?_
    params := fun p hp => ?_
    input := ?_
    output := ?_ }
  · rw [h.description] at ht
    obtain ⟨text, -, rfl⟩ := Option.mem_map.1 ht
    exact isOneLine_oneLine text
  · obtain ⟨names, hn, -⟩ := h.isFor.params
    obtain ⟨name, -, hi⟩ := (mem_params_iff h.isFor hn).1 hp
    exact isCode_of_fieldIdent? hi
  · exact isCode_of_payload hrefs (isCode_append hname (isCode_chars rfl))
      (fun dt hd => hwell dt (List.mem_append_left _ (Option.mem_toList.2 hd))) h.consumes
  · exact isCode_of_payload hrefs (isCode_append hname (isCode_chars rfl))
      (fun dt hd => hwell dt (List.mem_append_right _ (Option.mem_toList.2 hd))) h.produces

theorem RestFile.strings?_of_endpoints {f : RestFile}
    (h : ofEndpoints m.id m.types.endpoints = .ok f) :
    strings? (f.render config).toList = some (m.strings .rest) := by
  obtain ⟨hkeeps, hroutes⟩ := keeps_of_endpoints h
  have hrecords := recordsOf_endpoints h
  have hplain : ∀ item ∈ f.endpoints, item.IsPlain config := by
    intro item hm
    obtain ⟨e, he, hk⟩ := mem_of_forall₂ hkeeps.flip hm
    exact hk.isPlain hc hrefs he
  have hrecordsPlain := hrecords.isPlain (hrefs .sibling)
    (List.forall_mem_flatMap.2 fun e he => isCode_of_mem_endpoint hc he)
  have hpaths : f.routes.map RouteItem.path = (m.types.endpoints.map Endpoint.path).eraseDups := by
    rw [hroutes, routesOf_eq, List.map_map, ← map_eq_of_forall₂ (fun _ _ hk => hk.route) hkeeps]
    exact List.map_id _
  rw [strings?_render hplain (fun r hr item hm => ?_) hrecordsPlain, hrecords.keys_eq, hpaths,
    map_eq_of_forall₂ (fun _ _ hk => hk.chain) hkeeps]
  · rfl
  · rw [hroutes, routesOf_eq] at hr
    obtain ⟨path, -, rfl⟩ := List.mem_map.1 hr
    exact hplain item (List.mem_filter.1 hm).1

theorem TypesFile.strings?_of_module (hn : m.NamesAllowed) {f : TypesFile}
    (h : ofModule m = .ok f) : strings? (f.render config).toList = some (m.strings .types) := by
  have hrecords := recordsOf_module hc h
  have hplain := hrecords.isPlain (hrefs .types)
    (List.forall_mem_flatMap.2 fun t ht => isCode_of_mem_type hc hn ht)
  obtain ⟨drafts, -, h⟩ := bind_eq_ok.1 h
  cases h
  rw [strings?_render (List.forall_mem_map.2 fun c _ => isCode_screaming c.key)
    (List.forall_mem_map.2 fun e he => EnumItem.isPlain_ofEnumeration (hn.enums e he).1) hplain,
    hrecords.keys_eq, List.flatMap_map, List.map_map]
  simp only [EnumItem.strings_ofEnumeration]
  rfl

end Modules

end Backend

namespace SchemaSet

open Backend

/-- The literals in a file of a module are those of its section. Types of other modules are written
with the root of the configuration, which has to be code; only commands have no such types. -/
theorem strings?_of_generate {config : Config} {s : SchemaSet} {files : List Artifact}
    (hg : s.generate config = .ok files) {m : SchemaModule} (hm : m ∈ s.modules) {part : Section}
    (hpart : part ∈ Section.backend) (hp : part.isPresent m = true)
    (hroot : part ≠ .commands → isCode config.backendRoot = true) :
    ∃ text, ⟨.backend, part.path m.id, text⟩ ∈ files ∧
      strings? text.toList = some (m.strings part) := by
  have hc := checked_of_generate hg hm
  have hrefs : part ≠ .commands → ∀ site r, s.resolves m r = true →
      isCode ((Home.ofRef ⟨m.id, site⟩ r).render config) = true := fun hne site _ =>
    isCode_ofRef (fun n hn => check_of_mem (andThen_eq_ok.1 hg).1 hn) hm (hroot hne) site
  cases part with
  | types =>
    obtain ⟨f, hf, hfile⟩ := types_of_generate hg hm
    exact ⟨_, hfile, TypesFile.strings?_of_module hc (hrefs (by decide))
      (namesAllowed_of_generate hg hm) hf⟩
  | commands =>
    obtain ⟨f, hf, hfile⟩ := commands_of_generate hg hm
    refine ⟨_, hfile (by simpa [Section.isPresent] using hp), ?_⟩
    exact CommandsFile.strings?_of_commands hf
  | events =>
    obtain ⟨f, hf, hfile⟩ := events_of_generate hg hm
    refine ⟨_, hfile (by simpa [Section.isPresent] using hp), ?_⟩
    exact EventsFile.strings?_of_events hc (hrefs (by decide)) hf
  | rest =>
    obtain ⟨f, hf, hfile⟩ := rest_of_generate hg hm
    refine ⟨_, hfile (by simpa [Section.isPresent] using hp), ?_⟩
    exact RestFile.strings?_of_endpoints hc (hrefs (by decide)) hf
  | client | commandForms => exact absurd hpart (by decide)

/-- The literal of a string is closed by its only quote that is not escaped, is on one line and is
read as that string; so is any other text between quotes that gives each character by itself, by a
short escape or by its code, and no text that does not. Tidying keeps all literals. Those of the
generated files are the strings of the schema, if the root that paths start with has no quote, slash
or end of a line in it. -/
theorem strings_reach_code :
    (∀ s : String, ∃ body, (literal s).toList = '"' :: (body ++ ['"']) ∧
      Text.Quoted.Denotes body s.toList) ∧
    (∀ (s : String) (body : List Char),
      Text.Quoted.Spells s.toList body ↔ Text.Quoted.Denotes body s.toList) ∧
    (∀ text : String, strings? (Text.tidy text).toList = strings? text.toList) ∧
    ∀ (config : Config) (s : SchemaSet) (files : List Artifact), s.generate config = .ok files →
      ∀ m ∈ s.modules, ∀ part ∈ Section.backend, part.isPresent m = true →
        (part ≠ .commands → isCode config.backendRoot = true) →
          ∃ text, ⟨.backend, part.path m.id, text⟩ ∈ files ∧
            strings? text.toList = some (m.strings part) := by
  refine ⟨fun s => ⟨_, Text.Quoted.toList_text s, ?_⟩, fun s body => Text.Quoted.spells_iff_denotes,
    strings?_tidy, fun config s files hg m hm part hpart hp hroot => ?_⟩
  · exact Text.Quoted.denotes_of_spells (Text.Quoted.spells_body s.toList)
  · exact strings?_of_generate hg hm hpart hp hroot

/-- Quotes, backslashes, ends of lines, and characters that are not printed. -/
theorem strings_reach_code_quotes :
    ∃ (s : SchemaSet) (files : List Artifact) (m : SchemaModule),
      s.generate {} = .ok files ∧ m ∈ s.modules ∧
      m.strings .types = ["// \"a\"\n\n", "top\u200b\\", "top\u200b\\"] ∧
      m.strings .commands = ["the note", "order.place", "say \"hi\"\\", "the note", "the note",
        "the note", "^\"[0-9]\\.\"$", "order.place"] ∧
      m.strings .events = ["from", "order.moved", "the \"where\"", "order.moved"] ∧
      m.strings .rest = ["chain\r\n", "/move/\x7bto\x7d"] ∧
      ∀ part ∈ Section.backend, ∃ text, ⟨.backend, part.path m.id, text⟩ ∈ files ∧
        strings? text.toList = some (m.strings part) := by
  let field : CommandField :=
    ⟨"the note", none, .text, false, some 5, some "^\"[0-9]\\.\"$", none, none, false⟩
  let text : Datatype := .node "string" none none false
  let place : Datatype := .node "object" none (some [("the \"where\"", text)]) false
  let m : SchemaModule := {
    id := "m"
    types := {
      constants := [⟨"banner", "// \"a\"\n\n"⟩]
      enums := [⟨"Mark", ["top\u200b\\"]⟩]
      endpoints := [⟨.post, "/move/\x7bto\x7d", "move", "chain\r\n", none, none, none⟩] }
    commands := [⟨"order.place", "Place", "say \"hi\"\\", none, none, [field]⟩]
    events := [⟨"order.moved", [⟨"from", place⟩]⟩] }
  have hmodules : ∀ n ∈ [m], (n.check ⟨[m]⟩).isOk = true := by decide +kernel
  have hcheck : check ⟨[m]⟩ = .ok () := check_of_modules hmodules (by cbv)
  obtain ⟨t, ht⟩ : ∃ t, TypesFile.ofModule m = .ok t :=
    exists_eq_ok_of_isSome (by decide +kernel)
  obtain ⟨e, he⟩ : ∃ e, EventsFile.ofEvents m.id m.events = .ok e :=
    exists_eq_ok_of_isSome (by decide +kernel)
  obtain ⟨r, hr⟩ : ∃ r, RestFile.ofEndpoints m.id m.types.endpoints = .ok r :=
    exists_eq_ok_of_isSome (by decide +kernel)
  obtain ⟨files, hg⟩ := generate_single {} hcheck ht he hr
  have hm : m ∈ [m] := List.mem_singleton_self m
  have hpresent : ∀ part ∈ Section.backend, part.isPresent m = true := by decide
  have hroot : isCode "crate::generated" = true := isCode_chars rfl
  exact ⟨⟨[m]⟩, files, m, hg, hm, rfl, rfl, rfl, by decide +kernel, fun part hpart =>
    strings_reach_code.2.2.2 {} ⟨[m]⟩ files hg m hm part hpart (hpresent part hpart)
      fun _ => hroot⟩

end SchemaSet

end EventSchema
