import EventSchema.Proofs.DatatypeValues
import EventSchema.Schema.Document

set_option autoImplicit false

namespace EventSchema

open Json (Field IsRecord Restores IsWritable text? flag? natural? list?)

section Records

theorem Constant.isRecord : IsRecord
    [.required "key" text? .str key, .required "value" text? .str value] ofJson? toJson :=
  .pair mk (by decide) (fun _ _ => ⟨rfl, rfl⟩) (fun _ => rfl) (fun _ => rfl) fun _ => rfl

theorem Constant.restores : Restores 1 ofJson? toJson :=
  isRecord.restores ⟨.required .text, .required .text⟩

theorem Enumeration.isRecord : IsRecord [.required "name" text? .str name,
    .required "stringMembers" (list? text?) .strings values] ofJson? toJson :=
  .pair mk (by decide) (fun _ _ => ⟨rfl, rfl⟩) (fun _ => rfl) (fun _ => rfl) fun _ => rfl

theorem Enumeration.restores : Restores 2 ofJson? toJson :=
  isRecord.restores ⟨.required .text, .required (.list .text)⟩

theorem NamedType.isRecord : IsRecord [.required "name" text? .str name,
    .required "type" Datatype.ofJson? Datatype.toJson type] ofJson? toJson :=
  .pair mk (by decide) (fun _ _ => ⟨rfl, rfl⟩) (fun _ => rfl) (fun _ => rfl) fun _ => rfl

theorem NamedType.restores : Restores 1 ofJson? toJson :=
  isRecord.restores ⟨.required .text, .required (Datatype.restores _)⟩

theorem Method.restores (floor : Nat) : Restores floor ofJson? fun m => .str m.text :=
  .variant fun m => by cases m <;> rfl

theorem Endpoint.isRecord : IsRecord
    [.required "method" Method.ofJson? (fun m => .str m.text) method,
      .required "path" text? .str path, .required "name" text? .str name,
      .required "chain" text? .str chain, .omitted "description" text? .str description,
      .omitted "consumes" Datatype.ofJson? Datatype.toJson consumes,
      .omitted "produces" Datatype.ofJson? Datatype.toJson produces] ofJson? toJson := by
  refine .of_row (by decide) (fun _ => rfl) (fun given e => ?_) fun e => ?_
  · constructor
    · intro h
      split at h
      · simp only [Option.bind_eq_bind, Option.bind_eq_some_iff] at h
        obtain ⟨_, h₁, _, h₂, _, h₃, _, h₄, _, h₅, _, h₆, _, h₇, h⟩ := h
        cases h
        exact .cons h₁ (.cons h₂ (.cons h₃ (.cons h₄ (.cons h₅ (.cons h₆ (.cons h₇ .nil))))))
      · cases h
    · rintro (_ | ⟨h₁, _ | ⟨h₂, _ | ⟨h₃, _ | ⟨h₄, _ | ⟨h₅, _ | ⟨h₆, _ | ⟨h₇, _ | _⟩⟩⟩⟩⟩⟩⟩)
      simp only [Option.bind_eq_bind, Option.bind_eq_some_iff]
      exact ⟨_, h₁, _, h₂, _, h₃, _, h₄, _, h₅, _, h₆, _, h₇, rfl⟩
  · obtain ⟨method, path, name, chain, description, consumes, produces⟩ := e
    cases description <;> cases consumes <;> cases produces <;> rfl

theorem Datatype.toJson_ne_null (dt : Datatype) : dt.toJson ≠ .null := by
  cases dt
  rw [toJson]
  exact nofun

theorem Endpoint.restores : Restores 1 ofJson? toJson :=
  isRecord.restores ⟨.required (Method.restores _), .required .text, .required .text,
    .required .text, .omitted .text nofun,
    .omitted (Datatype.restores _) Datatype.toJson_ne_null,
    .omitted (Datatype.restores _) Datatype.toJson_ne_null⟩

theorem Declarations.isRecord : IsRecord
    [.listed "stringConsts" Constant.ofJson? Constant.toJson constants,
      .listed "enums" Enumeration.ofJson? Enumeration.toJson enums,
      .listed "types" NamedType.ofJson? NamedType.toJson types,
      .listed "endpoints" Endpoint.ofJson? Endpoint.toJson endpoints] ofJson? toJson := by
  refine .of_row (by decide) (fun _ => rfl) (fun given d => ?_) fun _ => rfl
  constructor
  · intro h
    split at h
    · simp only [Option.bind_eq_bind, Option.bind_eq_some_iff] at h
      obtain ⟨_, h₁, _, h₂, _, h₃, _, h₄, h⟩ := h
      cases h
      exact .cons h₁ (.cons h₂ (.cons h₃ (.cons h₄ .nil)))
    · cases h
  · rintro (_ | ⟨h₁, _ | ⟨h₂, _ | ⟨h₃, _ | ⟨h₄, _ | _⟩⟩⟩⟩)
    simp only [Option.bind_eq_bind, Option.bind_eq_some_iff]
    exact ⟨_, h₁, _, h₂, _, h₃, _, h₄, rfl⟩

theorem Declarations.restores : Restores 4 ofJson? toJson :=
  isRecord.restores ⟨.listed (Constant.restores.mono (by decide)), .listed Enumeration.restores,
    .listed (NamedType.restores.mono (by decide)), .listed (Endpoint.restores.mono (by decide))⟩

theorem CrudNature.restores (floor : Nat) : Restores floor ofJson? fun n => .str n.text :=
  .variant fun n => by cases n <;> rfl

theorem FieldKind.restores (floor : Nat) : Restores floor ofJson? fun k => .str k.label :=
  .variant fun k => by cases k <;> rfl

theorem CommandField.isRecord : IsRecord
    [.required "key" text? .str key, .nullable "title" text? .str title,
      .required "type" FieldKind.ofJson? (fun k => .str k.label) kind,
      .defaulted "optional" flag? .bool false CommandField.optional,
      .nullable "maxLength" natural? .ofNat maxLength,
      .nullable "validationRegex" text? .str pattern,
      .nullable "placeholder" text? .str placeholder, .nullable "help" text? .str help,
      .defaulted "hideIfDefaultValue" flag? .bool false hideIfDefault] ofJson? toJson := by
  refine .of_row (by decide) (fun _ => rfl) (fun given f => ?_) fun _ => rfl
  constructor
  · intro h
    split at h
    · simp only [Option.bind_eq_bind, Option.bind_eq_some_iff] at h
      obtain ⟨_, h₁, _, h₂, _, h₃, _, h₄, _, h₅, _, h₆, _, h₇, _, h₈, _, h₉, h⟩ := h
      cases h
      exact .cons h₁ (.cons h₂ (.cons h₃ (.cons h₄ (.cons h₅ (.cons h₆ (.cons h₇ (.cons h₈
        (.cons h₉ .nil))))))))
    · cases h
  · rintro (_ | ⟨h₁, _ | ⟨h₂, _ | ⟨h₃, _ | ⟨h₄, _ | ⟨h₅, _ | ⟨h₆, _ | ⟨h₇, _ | ⟨h₈,
      _ | ⟨h₉, _ | _⟩⟩⟩⟩⟩⟩⟩⟩⟩)
    simp only [Option.bind_eq_bind, Option.bind_eq_some_iff]
    exact ⟨_, h₁, _, h₂, _, h₃, _, h₄, _, h₅, _, h₆, _, h₇, _, h₈, _, h₉, rfl⟩

theorem CommandField.restores : Restores 1 ofJson? toJson :=
  isRecord.restores ⟨.required .text, .nullable .text nofun, .required (FieldKind.restores _),
    .defaulted .flag rfl (.bool false), .nullable .natural nofun, .nullable .text nofun,
    .nullable .text nofun, .nullable .text nofun, .defaulted .flag rfl (.bool false)⟩

theorem Command.isRecord : IsRecord
    [.required "command" text? .str key, .required "title" text? .str title,
      .required "chain" text? .str chain,
      .nullable "crudNature" CrudNature.ofJson? (fun n => .str n.text) crudNature,
      .nullable "additionalConfirmation" text? .str confirmation,
      .listed "fields" CommandField.ofJson? CommandField.toJson fields] ofJson? toJson := by
  refine .of_row (by decide) (fun _ => rfl) (fun given c => ?_) fun _ => rfl
  constructor
  · intro h
    split at h
    · simp only [Option.bind_eq_bind, Option.bind_eq_some_iff] at h
      obtain ⟨_, h₁, _, h₂, _, h₃, _, h₄, _, h₅, _, h₆, h⟩ := h
      cases h
      exact .cons h₁ (.cons h₂ (.cons h₃ (.cons h₄ (.cons h₅ (.cons h₆ .nil)))))
    · cases h
  · rintro (_ | ⟨h₁, _ | ⟨h₂, _ | ⟨h₃, _ | ⟨h₄, _ | ⟨h₅, _ | ⟨h₆, _ | _⟩⟩⟩⟩⟩⟩)
    simp only [Option.bind_eq_bind, Option.bind_eq_some_iff]
    exact ⟨_, h₁, _, h₂, _, h₃, _, h₄, _, h₅, _, h₆, rfl⟩

theorem Command.restores : Restores 3 ofJson? toJson :=
  isRecord.restores ⟨.required .text, .required .text, .required .text,
    .nullable (CrudNature.restores _) nofun, .nullable .text nofun, .listed CommandField.restores⟩

theorem EventField.isRecord : IsRecord [.required "key" text? .str key,
    .required "type" Datatype.ofJson? Datatype.toJson type] ofJson? toJson :=
  .pair mk (by decide) (fun _ _ => ⟨rfl, rfl⟩) (fun _ => rfl) (fun _ => rfl) fun _ => rfl

theorem EventField.restores : Restores 1 ofJson? toJson :=
  isRecord.restores ⟨.required .text, .required (Datatype.restores _)⟩

theorem Event.isRecord : IsRecord [.required "event" text? .str kind,
    .listed "fields" EventField.ofJson? EventField.toJson fields] ofJson? toJson :=
  .pair mk (by decide) (fun _ _ => ⟨rfl, rfl⟩) (fun _ => rfl) (fun _ => rfl) fun _ => rfl

theorem Event.restores : Restores 3 ofJson? toJson :=
  isRecord.restores ⟨.required .text, .listed EventField.restores⟩

end Records

namespace Document

inductive Kind where
  | declarations
  | commands
  | events
  | datatype
deriving DecidableEq, Repr

namespace Kind

def Content : Kind → Type
  | .declarations => Declarations
  | .commands => List Command
  | .events => List Event
  | .datatype => Datatype

def read? : (kind : Kind) → String → Option kind.Content
  | .declarations => declarations?
  | .commands => commands?
  | .events => events?
  | .datatype => datatype?

def toJson : (kind : Kind) → kind.Content → Json
  | .declarations => Declarations.toJson
  | .commands => commandsToJson
  | .events => eventsToJson
  | .datatype => Datatype.toJson

def write (kind : Kind) (content : kind.Content) : String :=
  (kind.toJson content).compact

end Kind

theorem read?_compact {α : Type} {floor : Nat} {decode? : Json → Option α} {encode : α → Json}
    (h : Restores floor decode? encode) (hf : floor ≤ Json.maxDepth) {text : String} {a : α}
    (ha : (Json.ofText? text).bind decode? = some a) :
    (Json.ofText? (encode a).compact).bind decode? = some a := by
  obtain ⟨v, hv, ha⟩ := Option.bind_eq_some_iff.1 ha
  obtain ⟨tree, -, hvalue⟩ := Option.bind_eq_some_iff.1 hv
  obtain ⟨hback, hwrite⟩ := h hf ⟨tree, hvalue⟩ ha
  rw [Json.ofText?_compact hwrite.whole hwrite.height, Option.bind_some, hback]

/-- A document that is read gives itself back, through a text that does not change any more. -/
theorem written_documents_read_back (kind : Kind) {text : String} {content : kind.Content}
    (h : kind.read? text = some content) :
    kind.read? (kind.write content) = some content ∧
      ∀ again, kind.read? (kind.write content) = some again →
        kind.write again = kind.write content := by
  have hback : kind.read? (kind.write content) = some content := by
    cases kind with
    | declarations => exact read?_compact Declarations.restores (by decide) h
    | commands => exact read?_compact (Command.restores.list) (by decide) h
    | events => exact read?_compact (Event.restores.list) (by decide) h
    | datatype => exact read?_compact (Datatype.restores 0) (by decide) h
  refine ⟨hback, fun again ha => ?_⟩
  rw [hback] at ha
  cases ha
  rfl

theorem written_documents_read_back_array :
    let text := "[\"object\", null, \x7b\"b\": [\"c\"], \"a\": [\"\\u0078\"], " ++
      "\"b\": \x7b\"_\": \"integer\", \"of\": null\x7d\x7d]"
    let content : Datatype :=
      .node "object" none (some [("a", .named "x"), ("b", .named "integer")]) false
    let written := "\x7b\"_\":\"object\",\"fields\":" ++
      "\x7b\"a\":\x7b\"_\":\"x\"\x7d,\"b\":\x7b\"_\":\"integer\"\x7d\x7d\x7d"
    Kind.datatype.read? text = some content ∧ Kind.datatype.write content = written ∧
      Kind.datatype.read? written = some content ∧
      ∀ again, Kind.datatype.read? written = some again → Kind.datatype.write again = written := by
  intro text content written
  have hread : datatype? text = some content := by decide +kernel
  have hwrite : Kind.datatype.write content = written := by decide +kernel
  have hback := written_documents_read_back .datatype hread
  rw [hwrite] at hback
  exact ⟨hread, hwrite, hback⟩

end Document

end EventSchema
