import EventSchema.Backend.EventsFile
import EventSchema.Backend.TypesFile
import EventSchema.Proofs.EventLog
import EventSchema.Proofs.Items
import EventSchema.Proofs.Routing
import EventSchema.Sample.Schema

/-!
The sample modules against their files. The routes of the contacts are what the code of their file
does, endpoint by endpoint, and the events of the accounts are read and written as the records of
their file.
-/

set_option autoImplicit false

namespace EventSchema

open Outcome

namespace Backend

open Http

section Handlers

variable {σ α : Type}

namespace EndpointItem

def texts (e : EndpointItem) (raw : List String) : Except Response (List String) :=
  if e.params.isEmpty then .ok []
  else do
    let texts ← pathParams raw
    if texts.length = e.params.length then .ok texts else .error noRoute

theorem texts_of_one {e : EndpointItem} (h : e.params.length = 1) (raw : List String) :
    e.texts raw = match pathParams raw with
      | .error response => .error response
      | .ok [text] => .ok [text]
      | .ok _ => .error noRoute := by
  have he : e.params.isEmpty = false := by
    cases hp : e.params <;> simp [hp] at h ⊢
  rw [texts, he, h]
  rcases pathParams raw with response | ⟨_ | ⟨first, _ | ⟨second, rest⟩⟩⟩
  · rfl
  · rfl
  · rfl
  · simp [bind, Except.bind]

theorem texts_of_two {e : EndpointItem} (h : e.params.length = 2) (raw : List String) :
    e.texts raw = match pathParams raw with
      | .error response => .error response
      | .ok [first, second] => .ok [first, second]
      | .ok _ => .error noRoute := by
  have he : e.params.isEmpty = false := by
    cases hp : e.params <;> simp [hp] at h ⊢
  rw [texts, he, h]
  rcases pathParams raw with response | ⟨_ | ⟨first, _ | ⟨second, _ | ⟨third, rest⟩⟩⟩⟩
  · rfl
  · rfl
  · rfl
  · rfl
  · simp [bind, Except.bind]

/-- What the code of an endpoint does once its chain has let a request pass: the placeholders come
first, then the body, and then the handler is called by its name. -/
def handle (decode? : TypeExpr → Json → Option α)
    (call : String → RequestContext → List String → Option α → σ → Except Response Json × σ)
    (e : EndpointItem) : Handler σ :=
  fun context raw request s =>
    match e.texts raw with
    | .error response => (response, s)
    | .ok texts =>
      match e.input with
      | none => Sample.ContactHandlers.respond id (call e.handler context texts none s)
      | some type =>
        match readInput (decode? type) request with
        | .error response => (response, s)
        | .ok input =>
          Sample.ContactHandlers.respond id (call e.handler context texts (some input) s)

def binding (decode? : TypeExpr → Json → Option α)
    (call : String → RequestContext → List String → Option α → σ → Except Response Json × σ)
    (e : EndpointItem) : Binding σ :=
  ⟨e.method, e.route, e.chain, e.handle decode? call⟩

end EndpointItem

end Handlers

section Values

/-- Whether a value is one of the type, given the values of names and of points in time. -/
def TypeExpr.takes (named : TypeExpr → Json → Bool) : TypeExpr → Json → Bool
  | .string, v => (Json.text? v).isSome
  | .boolean, v => (Json.flag? v).isSome
  | .integer, v => (Json.integer? v).isSome
  | .list item, .arr vs => vs.all (item.takes named)
  | .list _, _ => false
  | .option inner, v => v == .null || inner.takes named v
  | type, v => named type v

def RecordField.takes (named : TypeExpr → Json → Bool) (f : RecordField) : Option Json → Bool
  | some v => f.type.takes named v
  | none => match f.type with
    | .option _ => true
    | _ => false

/-- Whether a value is one of the record with these fields. -/
def takesFields (strict : Bool) (named : TypeExpr → Json → Bool) (fields : List RecordField)
    (v : Json) : Bool :=
  match Json.exactRecord? strict (fields.map RecordField.key) v with
  | some parts => (fields.zip parts).all fun (f, part) => f.takes named part
  | none => false

/-- The values of names where records are declared, each of which may use those before it. -/
def takesRecords (strict : Bool) (named : TypeExpr → Json → Bool) (records : List Record) :
    TypeExpr → Json → Bool :=
  records.foldl (fun named r type v =>
    if type = .record r.name then takesFields strict named r.fields v else named type v) named

def takesEnums (enums : List EnumItem) (type : TypeExpr) (v : Json) : Bool :=
  enums.any fun e =>
    type == .here e.name && (Json.variant? (e.variants.map fun x => (x.value, x.name)) v).isSome

end Values

end Backend

namespace Sample

open Backend Http

namespace ContactHandlers

variable {σ : Type}

def encoded {α : Type} (encode : α → Json) (result : Except Response α × σ) :
    Except Response Json × σ :=
  (result.1.map encode, result.2)

def call (h : ContactHandlers σ) (name : String) (context : RequestContext) (texts : List String)
    (input : Option Contact) (s : σ) : Except Response Json × σ :=
  match name, texts, input with
  | "list_contacts", [], none =>
    encoded (fun contacts => .arr (contacts.map Contact.toJson)) (h.listContacts context s)
  | "add_contact", [], some contact => encoded Contact.toJson (h.addContact context contact s)
  | "get_contact", [id], none => encoded Contact.toJson (h.getContact context id s)
  | "remove_contact", [id], none =>
    let (response, s) := h.removeContact context id s
    (.error response, s)
  | "get_address", [userId, idx], none =>
    encoded Address.toJson (h.getAddress context userId idx s)
  | "root_folder", [], none => encoded Folder.toJson (h.rootFolder context s)
  | _, _, _ => (.error noRoute, s)

def decodeInput? (type : TypeExpr) : Json → Option Contact :=
  if type = .sibling "Contact" then Contact.ofJson? else fun _ => none

theorem respond_encoded {α : Type} (encode : α → Json) (result : Except Response α × σ) :
    respond id (encoded encode result) = respond encode result := by
  obtain ⟨output | response, s⟩ := result <;> rfl

def items : List EndpointItem :=
  [⟨.get, "/contacts", "public", "list_contacts", "list_contacts_chain",
     some "Every contact, oldest first", [], none, some (.list (.sibling "Contact"))⟩,
   ⟨.post, "/contacts", "authenticated", "add_contact", "add_contact_chain", none, [],
     some (.sibling "Contact"), some (.sibling "Contact")⟩,
   ⟨.get, "/contacts/{id}", "public", "get_contact", "get_contact_chain", none, ["id"], none,
     some (.sibling "Contact")⟩,
   ⟨.delete, "/contacts/{id}", "authenticated", "remove_contact", "remove_contact_chain",
     none, ["id"], none, none⟩,
   ⟨.get, "/users/{userId}/addresses/{idx}", "public", "get_address",
     "get_address_chain", none, ["user_id", "idx"], none, some (.record "GetAddressOutput")⟩,
   ⟨.get, "/folders/root", "public", "root_folder", "root_folder_chain", none, [], none,
     some (.sibling "Folder")⟩]

/-- The routes of the contacts are those of the file of their endpoints, and each of them does what
the code of its endpoint does. -/
theorem bindings_of_file (h : ContactHandlers σ) :
    ∃ f, RestFile.ofEndpoints contacts.id contacts.types.endpoints = .ok f ∧
      h.bindings = f.endpoints.map (EndpointItem.binding decodeInput? h.call) := by
  have hitems : (RestFile.ofEndpoints contacts.id contacts.types.endpoints).map
      RestFile.endpoints = .ok items := eq_ok_of_toOption (by decide +kernel)
  obtain ⟨f, hf, hitems⟩ := map_eq_ok.1 hitems
  refine ⟨f, hf, ?_⟩
  simp only [hitems, items, bindings, List.map_cons, List.map_nil, List.cons.injEq, and_true,
    EndpointItem.binding, Binding.mk.injEq, true_and]
  refine ⟨?_, ?_, ?_, ?_, ?_, ?_⟩ <;> funext context raw request s
  · exact (respond_encoded _ _).symm
  · have hdecode : decodeInput? (.sibling "Contact") = Contact.ofJson? := if_pos rfl
    simp only [withInput, EndpointItem.handle, EndpointItem.texts, List.isEmpty_nil, if_true,
      hdecode]
    cases readInput Contact.ofJson? request with
    | error response => rfl
    | ok input => exact (respond_encoded _ _).symm
  · rw [withParam, EndpointItem.handle, EndpointItem.texts_of_one (by rfl)]
    rcases pathParams raw with response | ⟨_ | ⟨id, _ | ⟨other, rest⟩⟩⟩
    · rfl
    · rfl
    · exact (respond_encoded _ _).symm
    · rfl
  · rw [withParam, EndpointItem.handle, EndpointItem.texts_of_one (by rfl)]
    rcases pathParams raw with response | ⟨_ | ⟨id, _ | ⟨other, rest⟩⟩⟩ <;> rfl
  · rw [withParams, EndpointItem.handle, EndpointItem.texts_of_two (by rfl)]
    rcases pathParams raw with
      response | ⟨_ | ⟨userId, _ | ⟨idx, _ | ⟨other, rest⟩⟩⟩⟩
    · rfl
    · rfl
    · rfl
    · exact (respond_encoded _ _).symm
    · rfl
  · exact (respond_encoded _ _).symm

end ContactHandlers

theorem length_of_exactRecord? {strict : Bool} {names : List String} {v : Json}
    {parts : List (Option Json)} (h : Json.exactRecord? strict names v = some parts) :
    parts.length = names.length := by
  cases v with
  | arr items =>
    obtain ⟨hl, hparts⟩ := Option.ite_none_right_eq_some.1 h
    rw [← Option.some.inj hparts, List.length_map, hl]
  | obj members =>
    simp only [Json.exactRecord?, Json.record?] at h
    split_ifs at h
    cases h
    simp
  | null | bool | num | str => cases h

theorem isSome_text (named : TypeExpr → Json → Bool) (ident key : String) (part : Option Json) :
    (Json.required? Json.text? part).isSome =
      RecordField.takes named ⟨ident, key, .string⟩ part := by
  cases part <;> rfl

namespace Contact

def variants : List EnumItem :=
  [⟨"ContactKind", "contact_kind_exhaustive_60eefc63",
    [⟨"Person", "person"⟩, ⟨"Company", "company"⟩]⟩]

def fields : List RecordField :=
  [⟨"email", "email", .option .string⟩, ⟨"kind", "kind", .here "ContactKind"⟩,
    ⟨"name", "name", .string⟩, ⟨"tags", "tags", .list .string⟩]

theorem isSome_kind (v : Json) :
    (ContactKind.ofJson? v).isSome = takesEnums variants (.here "ContactKind") v := by
  have hlookup (s : String) :
      (List.lookup s [("person", ContactKind.person), ("company", .company)]).isSome =
        (List.lookup s [("person", "Person"), ("company", "Company")]).isSome := by
    by_cases hp : s = "person"
    · subst hp
      rfl
    · by_cases hc : s = "company"
      · subst hc
        rfl
      · simp [List.lookup, beq_false_of_ne hp, beq_false_of_ne hc]
  have henums : takesEnums variants (.here "ContactKind") v =
      (Json.variant? [("person", "Person"), ("company", "Company")] v).isSome := by
    simp [takesEnums, variants]
  rw [henums, ContactKind.ofJson?]
  unfold Json.variant?
  split
  · exact hlookup _
  · exact hlookup _
  · rfl

theorem isSome_mapM {α : Type} (item? : Json → Option α) (vs : List Json) :
    (vs.mapM item?).isSome = vs.all fun v => (item? v).isSome := by
  induction vs with
  | nil => rfl
  | cons v vs ih =>
    rw [List.mapM_cons, List.all_cons, ← ih]
    cases item? v <;> cases vs.mapM item? <;> rfl

/-- A contact is read if and only if the record of its file takes the value. -/
theorem taken_of_file :
    ∃ f, TypesFile.ofModule contacts = .ok f ∧ ∃ r ∈ f.records, r.name = "Contact" ∧
      ∀ v, (Contact.ofJson? v).isSome = takesFields true (takesEnums f.enums) r.fields v := by
  have hf : (TypesFile.ofModule contacts).map (fun f => (f.enums, f.records.head?)) =
      .ok (variants, some ⟨"Contact", fields⟩) :=
    eq_ok_of_toOption (by decide +kernel)
  obtain ⟨f, hf, hparts⟩ := map_eq_ok.1 hf
  obtain ⟨henums, hrecord⟩ := Prod.mk.inj hparts
  refine ⟨f, hf, _, List.mem_of_head? hrecord, rfl, fun v => ?_⟩
  rw [henums]
  unfold Contact.ofJson? takesFields
  cases hv : Json.exactRecord? true ["email", "kind", "name", "tags"] v with
  | none => simp [hv, fields]
  | some parts =>
    match parts, length_of_exactRecord? hv with
    | [email, kind, name, tags], _ =>
      have hname := isSome_text (takesEnums variants) "name" "name" name
      have hemail : (Json.optional? Json.text? email).isSome =
          RecordField.takes (takesEnums variants) ⟨"email", "email", .option .string⟩ email := by
        rcases email with _ | _ | _ | _ | _ | _ | _ <;> rfl
      have hkind : (Json.required? ContactKind.ofJson? kind).isSome =
          RecordField.takes (takesEnums variants) ⟨"kind", "kind", .here "ContactKind"⟩ kind := by
        cases kind with
        | none => rfl
        | some v => exact isSome_kind v
      have htags : (Json.required? (Json.list? Json.text?) tags).isSome =
          RecordField.takes (takesEnums variants) ⟨"tags", "tags", .list .string⟩ tags := by
        rcases tags with _ | _ | _ | _ | _ | vs | _
        case some.arr => exact isSome_mapM Json.text? vs
        all_goals rfl
      simp only [fields, List.map_cons, List.map_nil, hv, Option.bind_eq_bind, Option.bind_some,
        List.zip_cons_cons, List.zip_nil_right, List.all_cons, List.all_nil, Bool.and_true,
        ← hname, ← hemail, ← hkind, ← htags]
      cases Json.optional? Json.text? email <;> cases Json.required? ContactKind.ofJson? kind <;>
        cases Json.required? Json.text? name <;>
        cases Json.required? (Json.list? Json.text?) tags <;> rfl

end Contact

theorem Location.isSome_ofJson? (named : TypeExpr → Json → Bool) (v : Json) :
    (Location.ofJson? v).isSome = takesFields false named [⟨"url", "Url", .string⟩] v := by
  unfold Location.ofJson? takesFields
  cases hv : Json.exactRecord? false ["Url"] v with
  | none => simp [hv]
  | some parts =>
    obtain ⟨url, rfl⟩ := List.length_eq_one_iff.1 (length_of_exactRecord? hv)
    cases url with
    | none => simp [hv, Json.required?, RecordField.takes]
    | some url =>
      cases hu : Json.text? url <;> simp [hv, hu, Json.required?, RecordField.takes, TypeExpr.takes]

namespace AccountEvent

def takesForeign (type : TypeExpr) (v : Json) : Bool :=
  if type = .foreign "contacts" "Contact" then (Contact.ofJson? v).isSome else false

def items : List EventItem :=
  [⟨"AccountCreated", "account.Created", "apply_account_created", "allocate_account_created",
     [⟨"title", "Title", .string⟩, ⟨"owner", "Owner", .option (.foreign "contacts" "Contact")⟩,
      ⟨"location", "Location", .record "AccountCreatedLocation"⟩]⟩,
   ⟨"AccountDeleted", "account.Deleted", "apply_account_deleted", "allocate_account_deleted", []⟩]

def records : List Record :=
  [⟨"AccountCreatedLocation", [⟨"url", "Url", .string⟩]⟩]

theorem isSome_owner (part : Option Json) :
    (Json.optional? Contact.ofJson? part).isSome =
      RecordField.takes (takesRecords false takesForeign records)
        ⟨"owner", "Owner", .option (.foreign "contacts" "Contact")⟩ part := by
  cases part with
  | none => rfl
  | some v =>
    cases v <;> simp [Json.optional?, RecordField.takes, TypeExpr.takes, takesRecords, takesForeign,
      records]

theorem isSome_location (part : Option Json) :
    (Json.required? Location.ofJson? part).isSome =
      RecordField.takes (takesRecords false takesForeign records)
        ⟨"location", "Location", .record "AccountCreatedLocation"⟩ part := by
  cases part with
  | none => rfl
  | some v => exact Location.isSome_ofJson? takesForeign v

theorem isSome_created (v : Json) :
    ((AccountCreated.ofJson? v).map AccountEvent.created).isSome =
      takesFields false (takesRecords false takesForeign records)
        [⟨"title", "Title", .string⟩, ⟨"owner", "Owner", .option (.foreign "contacts" "Contact")⟩,
          ⟨"location", "Location", .record "AccountCreatedLocation"⟩] v := by
  rw [Option.isSome_map]
  unfold AccountCreated.ofJson? takesFields
  cases hv : Json.exactRecord? false ["Title", "Owner", "Location"] v with
  | none => simp [hv]
  | some parts =>
    obtain ⟨title, owner, location, rfl⟩ := List.length_eq_three.1 (length_of_exactRecord? hv)
    have htitle := isSome_text (takesRecords false takesForeign records) "title" "Title" title
    have howner := isSome_owner owner
    have hlocation := isSome_location location
    simp only [List.map_cons, List.map_nil, hv, Option.bind_eq_bind, Option.bind_some,
      List.zip_cons_cons, List.zip_nil_right, List.all_cons, List.all_nil, Bool.and_true,
      ← htitle, ← howner, ← hlocation]
    cases Json.required? Json.text? title <;> cases Json.optional? Contact.ofJson? owner <;>
      cases Json.required? Location.ofJson? location <;> rfl

theorem isSome_deleted (v : Json) :
    (deletedOfJson? v).isSome =
      takesFields false (takesRecords false takesForeign records) [] v := by
  unfold deletedOfJson? takesFields
  cases hv : Json.exactRecord? false [] v with
  | none => simp [hv]
  | some parts => simp [hv]

/-- The events of the accounts are those of their file: the registry has their kinds, a payload is
read if and only if the record of its kind takes it, and every event is written as a payload that
its record takes. -/
theorem family_of_file :
    ∃ f, EventsFile.ofEvents secrets.id secrets.events = .ok f ∧
      family.decoders.keys = f.events.map EventItem.kind ∧
      (∀ item ∈ f.events, ∃ decode?, family.decoders.get? item.kind = some decode? ∧
        ∀ v, (decode? v).isSome =
          takesFields false (takesRecords false takesForeign f.records) item.fields v) ∧
      ∀ event : AccountEvent, ∃ item ∈ f.events, item.kind = family.kind event ∧
        item.structName = event.recordName ∧
        takesFields false (takesRecords false takesForeign f.records) item.fields
          (family.payload event) = true := by
  have hf : EventsFile.ofEvents secrets.id secrets.events = .ok ⟨items, records⟩ :=
    eq_ok_of_toOption (by decide +kernel)
  refine ⟨_, hf, by decide +kernel, ?_, ?_⟩
  · simp only [items, List.forall_mem_cons, List.not_mem_nil, false_implies, implies_true, and_true]
    refine ⟨⟨_, rfl, fun v => ?_⟩, ⟨_, rfl, fun v => ?_⟩⟩
    · exact isSome_created v
    · exact isSome_deleted v
  · intro event
    cases event with
    | created e =>
      refine ⟨_, .head _, rfl, rfl, ?_⟩
      refine (isSome_created e.toJson).symm.trans ?_
      rw [e.ofJson?_toJson]
      rfl
    | deleted => exact ⟨_, .tail _ (.head _), rfl, rfl, rfl⟩

end AccountEvent

end Sample

end EventSchema
