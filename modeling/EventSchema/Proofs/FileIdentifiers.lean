import EventSchema.Proofs.NameRules

/-!
Identifiers in the generated Rust files. The checks look at the names of a schema as they are
written, the files have them in other styles, and only some are escaped. All identifiers of a file
are legal if and only if every name behind them has a letter before any digit, and no command or
event comes to a keyword in a place where keywords are not escaped. No check asks for that.
-/

set_option autoImplicit false

namespace EventSchema

open Outcome

theorem Outcome.forall_mem_iff_of_forall₂ {α β : Type} {R : α → β → Prop} {P : α → Prop}
    {Q : β → Prop} {xs : List α} {ys : List β} (h : List.Forall₂ R xs ys)
    (hr : ∀ x y, R x y → (Q y ↔ P x)) : (∀ y ∈ ys, Q y) ↔ ∀ x ∈ xs, P x := by
  induction h with
  | nil => simp
  | cons hxy _ ih => rw [List.forall_mem_cons, List.forall_mem_cons, hr _ _ hxy, ih]

theorem Enumeration.isAlphanum_of_mem_digest {e : Enumeration} {c : Char}
    (h : c ∈ e.digest.toList) : c.isAlphanum = true := by
  rw [digest, String.toList_ofList] at h
  have hc := List.mem_of_mem_take h
  rw [Digest.sha256, String.toList_ofList] at hc
  obtain ⟨w, -, hw⟩ := List.mem_flatMap.1 hc
  obtain ⟨shift, -, rfl⟩ := List.mem_map.1 hw
  have hdigit : ∀ n < 16, (Nat.digitChar n).isAlphanum = true := by decide
  exact hdigit _ (Nat.mod_lt _ (by decide))

namespace Backend

open Naming

def AreLegal (names : List String) : Prop :=
  ∀ name ∈ names, isLegalIdent name = true

instance (names : List String) : Decidable (AreLegal names) :=
  inferInstanceAs (Decidable (∀ name ∈ names, isLegalIdent name = true))

theorem areLegal_cons {name : String} {rest : List String} :
    AreLegal (name :: rest) ↔ isLegalIdent name = true ∧ AreLegal rest :=
  List.forall_mem_cons

theorem areLegal_append {a b : List String} : AreLegal (a ++ b) ↔ AreLegal a ∧ AreLegal b :=
  List.forall_mem_append

theorem areLegal_flatMap {α : Type} {f : α → List String} {xs : List α} :
    AreLegal (xs.flatMap f) ↔ ∀ x ∈ xs, AreLegal (f x) :=
  List.forall_mem_flatMap

def Record.identifiers (r : Record) : List String :=
  r.name :: r.fields.map RecordField.ident

def CommandItem.identifiers (c : CommandItem) : List String :=
  c.structName :: c.handlerMethod :: c.allocatorFn :: c.fields.map FormField.ident

def CommandsFile.identifiers (f : CommandsFile) : List String :=
  f.commands.flatMap CommandItem.identifiers

def EventItem.identifiers (e : EventItem) : List String :=
  e.structName :: e.applyMethod :: e.allocatorFn :: e.fields.map RecordField.ident

def EventsFile.identifiers (f : EventsFile) : List String :=
  f.events.flatMap EventItem.identifiers ++ f.records.flatMap Record.identifiers

def EndpointItem.identifiers (e : EndpointItem) : List String :=
  e.handler :: e.chainVar :: e.params

def RestFile.identifiers (f : RestFile) : List String :=
  f.endpoints.flatMap EndpointItem.identifiers ++ f.records.flatMap Record.identifiers

def EnumItem.identifiers (e : EnumItem) : List String :=
  e.name :: e.exhaustiveFn :: e.variants.map Variant.name

def TypesFile.identifiers (f : TypesFile) : List String :=
  f.constants.map Prod.fst ++ f.enums.flatMap EnumItem.identifiers ++
    f.records.flatMap Record.identifiers

theorem AreRecords.areLegal {taken names : List String} {records : List Record}
    (h : AreRecords taken names records) (hn : AreLegal names) :
    AreLegal (records.flatMap Record.identifiers) := by
  refine areLegal_flatMap.2 fun r hr => List.forall_mem_cons.2 ⟨hn _ ?_, ?_⟩
  · rw [← h.named]
    exact List.mem_map_of_mem hr
  · exact List.forall_mem_map.2 fun f hf => (isLegalIdent_of_fieldIdent? (h.idents r hr f hf)).1

theorem isLegalIdent_allocator (s : String) : isLegalIdent ("allocate_" ++ snake s) = true :=
  isLegalIdent_start_snake (by decide) (by decide) (by decide) s

theorem EventItem.applyMethod_legal {e : Event} {item : EventItem} (h : item.IsFor e) :
    isLegalIdent item.applyMethod = true := by
  rw [h.applyMethod]
  exact isLegalIdent_start_snake (by decide) (by decide) (by decide) e.kind

theorem CommandItem.structName_legal_iff {c : Command} {item : CommandItem} (h : item.IsFor c) :
    isLegalIdent item.structName = true ↔
      startsWithLetter c.key = true ∧ c.structName ≠ "Self" := by
  rw [h.structName]
  exact isLegalIdent_pascal c.key

theorem CommandItem.handlerMethod_legal_iff {c : Command} {item : CommandItem}
    (h : item.IsFor c) : isLegalIdent item.handlerMethod = true ↔
      startsWithLetter c.key = true ∧ c.handlerMethod ∉ rustKeywords := by
  rw [h.handlerMethod, ← isKeyword_eq_false_iff]
  exact isLegalIdent_snake c.key

theorem CommandItem.areLegal_iff {c : Command} {item : CommandItem} (h : item.IsFor c) :
    AreLegal item.identifiers ↔ startsWithLetter c.key = true ∧ c.structName ≠ "Self" ∧
      c.handlerMethod ∉ rustKeywords := by
  have hrest : AreLegal (item.allocatorFn :: item.fields.map FormField.ident) := by
    rw [h.allocatorFn]
    refine areLegal_cons.2 ⟨isLegalIdent_allocator c.key, List.forall_mem_map.2 fun f hf => ?_⟩
    exact (isLegalIdent_of_fieldIdent? (h.idents f hf)).1
  rw [identifiers, areLegal_cons, areLegal_cons, structName_legal_iff h, handlerMethod_legal_iff h,
    and_iff_left hrest, ← and_and_left]

theorem EventItem.areLegal_iff {e : Event} {item : EventItem} (h : item.IsFor e) :
    AreLegal item.identifiers ↔ startsWithLetter e.kind = true ∧ e.structName ≠ "Self" := by
  have hs : isLegalIdent item.structName = true ↔
      startsWithLetter e.kind = true ∧ e.structName ≠ "Self" := by
    rw [h.structName]
    exact isLegalIdent_pascal e.kind
  have hrest : AreLegal (item.applyMethod :: item.allocatorFn ::
      item.fields.map RecordField.ident) := by
    rw [h.allocatorFn]
    refine areLegal_cons.2 ⟨applyMethod_legal h, areLegal_cons.2
      ⟨isLegalIdent_allocator e.kind, List.forall_mem_map.2 fun f hf => ?_⟩⟩
    exact (isLegalIdent_of_fieldIdent? (h.idents f hf)).1
  rw [identifiers, areLegal_cons, and_iff_left hrest, hs]

theorem EndpointItem.areLegal_iff {e : Endpoint} {item : EndpointItem} (h : item.IsFor e) :
    AreLegal item.identifiers ↔ startsWithLetter e.name = true := by
  have hh : isLegalIdent item.handler = true ↔ startsWithLetter e.name = true := by
    rw [h.handler]
    exact isLegalIdent_escapeKeyword_snake e.name
  have hparams : AreLegal item.params := by
    intro param hm
    obtain ⟨names, hn, -⟩ := h.params
    obtain ⟨name, -, hi⟩ := (mem_params_iff h hn).1 hm
    exact (isLegalIdent_of_fieldIdent? hi).1
  rw [identifiers, areLegal_cons, areLegal_cons, hh, h.chainVar, and_iff_left hparams]
  exact and_iff_left_of_imp fun hl =>
    isLegalIdent_snake_end hl (List.all_eq_true.1 (by decide)) (by decide)

theorem EnumItem.areLegal {e : Enumeration} (hn : Check.isTypeName e.name = true)
    (hs : e.name ∉ Check.preludeTypes)
    (hm : ∀ member ∈ e.members, isIdentifier member.key = true) :
    AreLegal (ofEnumeration e).identifiers := by
  have hself : e.name ≠ "Self" := fun he => hs (he ▸ by decide)
  have hfinish : ∀ c ∈ ("_exhaustive_" ++ e.digest).toList, isIdentifierPart c = true := by
    intro c hc
    rcases List.mem_append.1 (String.toList_append ▸ hc) with hc | hc
    · exact List.all_eq_true.1 (by decide) c hc
    · exact isIdentifierPart_of_isAlphanum (Enumeration.isAlphanum_of_mem_digest hc)
  refine areLegal_cons.2 ⟨isLegalIdent_of_isTypeName hn hself, areLegal_cons.2 ⟨?_, ?_⟩⟩
  · rw [ofEnumeration, String.append_assoc]
    exact isLegalIdent_snake_end (startsWithLetter_of_isTypeName hn) hfinish (by simp)
  · rw [ofEnumeration, List.map_map]
    refine List.forall_mem_map.2 fun member hmem => isLegalIdent_escapeKeyword (hm member hmem) ?_
    obtain ⟨value, -, rfl⟩ := List.mem_map.1 hmem
    exact pascal_ne_underscore value

theorem isTypeName_append {owner tail : String} (ho : Check.isTypeName owner = true)
    (ht : IsTail tail) : Check.isTypeName (owner ++ tail) = true := by
  obtain ⟨hi, hhead⟩ := Bool.and_eq_true_iff.1 ho
  have hparts : ∀ c ∈ tail.toList, isIdentifierPart c = true :=
    fun c hc => isIdentifierPart_of_isAlphanum (ht.chars c hc)
  rw [Check.isTypeName, isIdentifier_append hi hparts, String.toList_append]
  cases hl : owner.toList with
  | nil => simp [hl] at hhead
  | cons c rest => simpa [hl] using hhead

theorem isLegalIdent_append_tail {owner tail : String} (ho : Check.isTypeName owner = true)
    (ht : IsTail tail) : isLegalIdent (owner ++ tail) = true := by
  refine isLegalIdent_of_isTypeName (isTypeName_append ho ht) fun he => ?_
  have hall : ∀ front ∈ fronts "Self", Check.isTypeName front = false := by decide
  have hfalse := hall owner (he ▸ ht.mem_fronts owner)
  simp [ho] at hfalse

section Files

theorem CommandsFile.structNames_legal_iff {cs : List Command} {f : CommandsFile}
    (h : ofCommands cs = .ok f) : AreLegal (f.commands.map CommandItem.structName) ↔
      ∀ c ∈ cs, startsWithLetter c.key = true ∧ c.structName ≠ "Self" :=
  List.forall_mem_map.trans (forall_mem_iff_of_forall₂ (items_of_commands h) fun _ _ =>
    CommandItem.structName_legal_iff)

theorem CommandsFile.handlers_legal_iff {cs : List Command} {f : CommandsFile}
    (h : ofCommands cs = .ok f) : AreLegal (f.commands.map CommandItem.handlerMethod) ↔
      ∀ c ∈ cs, startsWithLetter c.key = true ∧ c.handlerMethod ∉ rustKeywords :=
  List.forall_mem_map.trans (forall_mem_iff_of_forall₂ (items_of_commands h) fun _ _ =>
    CommandItem.handlerMethod_legal_iff)

theorem EventsFile.applyMethods_legal {moduleId : String} {es : List Event} {f : EventsFile}
    (h : ofEvents moduleId es = .ok f) : AreLegal (f.events.map EventItem.applyMethod) := by
  refine List.forall_mem_map.2 fun item hi => ?_
  obtain ⟨e, -, he⟩ := mem_of_forall₂ (items_of_events h).flip hi
  exact EventItem.applyMethod_legal he

variable {set : SchemaSet} {m : SchemaModule} (hc : m.Checked set) (hn : m.NamesAllowed)

theorem CommandsFile.areLegal_iff {cs : List Command} {f : CommandsFile}
    (h : ofCommands cs = .ok f) :
    AreLegal f.identifiers ↔ ∀ c ∈ cs, startsWithLetter c.key = true ∧
      c.structName ≠ "Self" ∧ c.handlerMethod ∉ rustKeywords := by
  rw [identifiers, areLegal_flatMap]
  exact forall_mem_iff_of_forall₂ (items_of_commands h) fun _ _ => CommandItem.areLegal_iff

include hc

theorem EventsFile.areLegal_iff {f : EventsFile} (h : ofEvents m.id m.events = .ok f) :
    AreLegal f.identifiers ↔
      ∀ e ∈ m.events, startsWithLetter e.kind = true ∧ e.structName ≠ "Self" := by
  rw [identifiers, areLegal_append, areLegal_flatMap,
    forall_mem_iff_of_forall₂ (items_of_events h) fun _ _ => EventItem.areLegal_iff]
  refine and_iff_left_of_imp fun hall => (records_of_events h).areLegal fun name hn => ?_
  obtain ⟨e, he, hn⟩ := List.mem_flatMap.1 hn
  obtain ⟨tail, rfl, ht⟩ := hc.tail_of_mem_event he hn
  exact isLegalIdent_append_tail (isTypeName_pascal (hall e he).1) ht

theorem RestFile.areLegal_iff {f : RestFile} (h : ofEndpoints m.id m.types.endpoints = .ok f) :
    AreLegal f.identifiers ↔ ∀ e ∈ m.types.endpoints, startsWithLetter e.name = true := by
  rw [identifiers, areLegal_append, areLegal_flatMap,
    forall_mem_iff_of_forall₂ (items_of_endpoints h) fun _ _ => EndpointItem.areLegal_iff]
  refine and_iff_left_of_imp fun hall => (records_of_endpoints h).areLegal fun name hn => ?_
  obtain ⟨e, he, hn⟩ := List.mem_flatMap.1 hn
  obtain ⟨word, hw, tail, rfl, ht⟩ := hc.tail_of_mem_endpoint he hn
  have hword : IsTail word := by
    have hall : ∀ word ∈ ["Input", "Output"],
        word.toList.head?.any Char.isUpper = true ∧ word.toList.all Char.isAlphanum = true := by
      decide
    exact ⟨(hall word hw).1, List.all_eq_true.1 (hall word hw).2⟩
  rw [String.append_assoc]
  exact isLegalIdent_append_tail (isTypeName_pascal (hall e he)) (hword.append ht)

include hn

theorem TypesFile.areLegal_iff {f : TypesFile} (h : ofModule m = .ok f) :
    AreLegal f.identifiers ↔ ∀ c ∈ m.types.constants, startsWithLetter c.key = true := by
  have hrecords : AreLegal (f.records.flatMap Record.identifiers) := by
    refine (records_of_module hc h).areLegal fun name hname => ?_
    obtain ⟨t, ht, hname⟩ := List.mem_flatMap.1 hname
    obtain ⟨htype, hprelude⟩ := hn.types t ht
    obtain ⟨tail, rfl, rfl | htail⟩ := hc.tail_of_mem_type ht hname
    · rw [String.append_empty]
      exact isLegalIdent_of_isTypeName htype fun he => hprelude (he ▸ by decide)
    · exact isLegalIdent_append_tail htype htail
  obtain ⟨drafts, -, h⟩ := bind_eq_ok.1 h
  cases h
  have henums : AreLegal
      ((m.types.enums.map EnumItem.ofEnumeration).flatMap EnumItem.identifiers) := by
    refine areLegal_flatMap.2 (List.forall_mem_map.2 fun e he => ?_)
    obtain ⟨hname, hprelude, hmembers⟩ := hn.enums e he
    exact EnumItem.areLegal hname hprelude hmembers
  rw [identifiers, areLegal_append, areLegal_append, and_iff_left hrecords, and_iff_left henums,
    List.map_map]
  simp only [AreLegal, List.forall_mem_map, Function.comp_apply, isLegalIdent_screaming]

end Files

end Backend

namespace SchemaSet

open Backend Naming

/-- Module ids are legal. All other identifiers are, if and only if every constant, command, event
and endpoint has a letter before any digit, the record of no command and no event is called `Self`,
and the method of no command is a keyword. The methods of events are legal in any case; fields,
parameters, enums and named types never make an illegal one. -/
theorem identifiers_legal {config : Config} {s : SchemaSet} {files : List Artifact}
    (hg : s.generate config = .ok files) {m : SchemaModule} (hm : m ∈ s.modules) :
    isLegalIdent m.id = true ∧
    (∃ f, TypesFile.ofModule m = .ok f ∧
      ⟨.backend, Section.path m.id .types, f.render config⟩ ∈ files ∧
      (AreLegal f.identifiers ↔ ∀ c ∈ m.types.constants, startsWithLetter c.key = true)) ∧
    (∃ f, CommandsFile.ofCommands m.commands = .ok f ∧
      (m.commands ≠ [] → ⟨.backend, Section.path m.id .commands, f.render⟩ ∈ files) ∧
      (AreLegal (f.commands.map CommandItem.structName) ↔
        ∀ c ∈ m.commands, startsWithLetter c.key = true ∧ c.structName ≠ "Self") ∧
      (AreLegal (f.commands.map CommandItem.handlerMethod) ↔
        ∀ c ∈ m.commands, startsWithLetter c.key = true ∧ c.handlerMethod ∉ rustKeywords) ∧
      (AreLegal f.identifiers ↔ ∀ c ∈ m.commands, startsWithLetter c.key = true ∧
        c.structName ≠ "Self" ∧ c.handlerMethod ∉ rustKeywords)) ∧
    (∃ f, EventsFile.ofEvents m.id m.events = .ok f ∧
      (m.events ≠ [] → ⟨.backend, Section.path m.id .events, f.render config⟩ ∈ files) ∧
      AreLegal (f.events.map EventItem.applyMethod) ∧
      (AreLegal f.identifiers ↔
        ∀ e ∈ m.events, startsWithLetter e.kind = true ∧ e.structName ≠ "Self")) ∧
    ∃ f, RestFile.ofEndpoints m.id m.types.endpoints = .ok f ∧
      (m.types.endpoints ≠ [] →
        ⟨.backend, Section.path m.id .rest, f.render config⟩ ∈ files) ∧
      (AreLegal f.identifiers ↔ ∀ e ∈ m.types.endpoints, startsWithLetter e.name = true) := by
  have hc := checked_of_generate hg hm
  have hn := namesAllowed_of_generate hg hm
  obtain ⟨t, ht, htFile⟩ := types_of_generate hg hm
  obtain ⟨c, hcommands, hcFile⟩ := commands_of_generate hg hm
  obtain ⟨e, he, heFile⟩ := events_of_generate hg hm
  obtain ⟨r, hr, hrFile⟩ := rest_of_generate hg hm
  exact ⟨isLegalIdent_of_isModuleId hn.id,
    ⟨t, ht, htFile, TypesFile.areLegal_iff hc hn ht⟩,
    ⟨c, hcommands, hcFile, CommandsFile.structNames_legal_iff hcommands,
      CommandsFile.handlers_legal_iff hcommands, CommandsFile.areLegal_iff hcommands⟩,
    ⟨e, he, heFile, EventsFile.applyMethods_legal he, EventsFile.areLegal_iff hc he⟩,
    ⟨r, hr, hrFile, RestFile.areLegal_iff hc hr⟩⟩

/-- Keywords as the keys of a field, a placeholder and an endpoint, and a constant, a command and an
event with underscores and points in them. -/
theorem identifiers_legal_keywords :
    ∃ (s : SchemaSet) (files : List Artifact) (m : SchemaModule) (t : TypesFile)
      (c : CommandsFile) (e : EventsFile) (r : RestFile),
      s.generate {} = .ok files ∧ m ∈ s.modules ∧
      TypesFile.ofModule m = .ok t ∧ CommandsFile.ofCommands m.commands = .ok c ∧
      EventsFile.ofEvents m.id m.events = .ok e ∧
      RestFile.ofEndpoints m.id m.types.endpoints = .ok r ∧
      t.identifiers = ["MAX_LENGTH"] ∧ AreLegal t.identifiers ∧
      c.identifiers = ["AccountMove", "account_move", "allocate_account_move", "r#type"] ∧
      AreLegal c.identifiers ∧
      e.identifiers = ["OrderMoved", "apply_order_moved", "allocate_order_moved", "from",
        "OrderMovedFrom", "r#where"] ∧
      AreLegal e.identifiers ∧
      r.identifiers = ["r#move", "move_chain", "self_"] ∧ AreLegal r.identifiers := by
  let field : CommandField := ⟨"type", none, .text, false, none, none, none, none, false⟩
  let text : Datatype := .node "string" none none false
  let place : Datatype := .node "object" none (some [("where", text)]) false
  let m : SchemaModule := {
    id := "m"
    types := {
      constants := [⟨"_maxLength", "9"⟩]
      endpoints := [⟨.post, "/move/\x7bSelf\x7d", "move", "public", none, none, none⟩] }
    commands := [⟨"account._Move", "Move", "authenticated", none, none, [field]⟩]
    events := [⟨"order_moved", [⟨"from", place⟩]⟩] }
  have hcheck : check ⟨[m]⟩ = .ok () := by cbv
  have htypes : (TypesFile.ofModule m).map TypesFile.identifiers = .ok ["MAX_LENGTH"] :=
    eq_ok_of_toOption (by decide +kernel)
  have hcommands : (CommandsFile.ofCommands m.commands).map CommandsFile.identifiers =
      .ok ["AccountMove", "account_move", "allocate_account_move", "r#type"] :=
    eq_ok_of_toOption (by decide +kernel)
  have hevents : (EventsFile.ofEvents m.id m.events).map EventsFile.identifiers =
      .ok ["OrderMoved", "apply_order_moved", "allocate_order_moved", "from", "OrderMovedFrom",
        "r#where"] := eq_ok_of_toOption (by decide +kernel)
  have hrest : (RestFile.ofEndpoints m.id m.types.endpoints).map RestFile.identifiers =
      .ok ["r#move", "move_chain", "self_"] := eq_ok_of_toOption (by decide +kernel)
  obtain ⟨t, htypes, htNames⟩ := map_eq_ok.1 htypes
  obtain ⟨c, hcommands, hcNames⟩ := map_eq_ok.1 hcommands
  obtain ⟨e, hevents, heNames⟩ := map_eq_ok.1 hevents
  obtain ⟨r, hrest, hrNames⟩ := map_eq_ok.1 hrest
  obtain ⟨files, hg⟩ := generate_single {} hcheck htypes hevents hrest
  obtain ⟨-, ⟨t', ht', -, htLegal⟩, ⟨c', hc', -, -, -, hcLegal⟩,
    ⟨e', he', -, -, heLegal⟩, ⟨r', hr', -, hrLegal⟩⟩ :=
      identifiers_legal hg (List.mem_singleton_self m)
  cases htypes.symm.trans ht'
  cases hcommands.symm.trans hc'
  cases hevents.symm.trans he'
  cases hrest.symm.trans hr'
  exact ⟨⟨[m]⟩, files, m, t, c, e, r, hg, List.mem_singleton_self m, htypes, hcommands, hevents,
    hrest, htNames, htLegal.2 (by decide +kernel), hcNames, hcLegal.2 (by decide +kernel),
    heNames, heLegal.2 (by decide +kernel), hrNames, hrLegal.2 (by decide +kernel)⟩

/-- Names without letters, and keywords that are not escaped, pass all checks. -/
theorem identifiers_illegal_underscore :
    ∃ (s : SchemaSet) (files : List Artifact) (m : SchemaModule) (t : TypesFile)
      (c : CommandsFile) (e : EventsFile) (r : RestFile),
      s.generate {} = .ok files ∧ m ∈ s.modules ∧
      TypesFile.ofModule m = .ok t ∧ CommandsFile.ofCommands m.commands = .ok c ∧
      EventsFile.ofEvents m.id m.events = .ok e ∧
      RestFile.ofEndpoints m.id m.types.endpoints = .ok r ∧
      t.identifiers = ["", "1"] ∧
      c.identifiers = ["", "", "allocate_", "Type", "type", "allocate_type"] ∧
      e.identifiers = ["Self", "apply_self", "allocate_self"] ∧
      r.identifiers = ["2", "2_chain"] ∧
      ∀ name ∈ ["", "1", "2", "2_chain", "type", "Self"], isLegalIdent name = false := by
  let m : SchemaModule := {
    id := "m"
    types := {
      constants := [⟨"_", "a"⟩, ⟨"_1", "b"⟩]
      endpoints := [⟨.get, "/", "_2", "public", none, none, none⟩] }
    commands := [⟨"_", "a", "c", none, none, []⟩, ⟨"type", "b", "c", none, none, []⟩]
    events := [⟨"self", []⟩] }
  have hcheck : check ⟨[m]⟩ = .ok () := by cbv
  have htypes : (TypesFile.ofModule m).map TypesFile.identifiers = .ok ["", "1"] :=
    eq_ok_of_toOption (by decide +kernel)
  have hcommands : (CommandsFile.ofCommands m.commands).map CommandsFile.identifiers =
      .ok ["", "", "allocate_", "Type", "type", "allocate_type"] :=
    eq_ok_of_toOption (by decide +kernel)
  have hevents : (EventsFile.ofEvents m.id m.events).map EventsFile.identifiers =
      .ok ["Self", "apply_self", "allocate_self"] := eq_ok_of_toOption (by decide +kernel)
  have hrest : (RestFile.ofEndpoints m.id m.types.endpoints).map RestFile.identifiers =
      .ok ["2", "2_chain"] := eq_ok_of_toOption (by decide +kernel)
  obtain ⟨t, htypes, htNames⟩ := map_eq_ok.1 htypes
  obtain ⟨c, hcommands, hcNames⟩ := map_eq_ok.1 hcommands
  obtain ⟨e, hevents, heNames⟩ := map_eq_ok.1 hevents
  obtain ⟨r, hrest, hrNames⟩ := map_eq_ok.1 hrest
  obtain ⟨files, hg⟩ := generate_single {} hcheck htypes hevents hrest
  exact ⟨⟨[m]⟩, files, m, t, c, e, r, hg, List.mem_singleton_self m, htypes, hcommands, hevents,
    hrest, htNames, hcNames, heNames, hrNames, by decide⟩

end SchemaSet

end EventSchema
