import EventSchema.Frontend.CommandForms
import EventSchema.Proofs.Items
import EventSchema.Sample.Secrets

/-!
The forms of commands on both sides. The browser looks up the definition of a form by the key of its
command and shows its fields; the server decodes the values into a record and checks them by its
rules. Both are read here from what is generated: fields, types and rules agree for every command of
a schema that passes its checks. Limits agree up to those that a form cannot show.
-/

set_option autoImplicit false

namespace EventSchema

open Outcome

namespace Frontend

structure FormEntry where
  key : String
  kind : String
  optional : Bool
  maxLength : Option Int
  pattern : Option String
deriving DecidableEq, Repr

structure CommandForm where
  key : String
  entries : List FormEntry
deriving DecidableEq, Repr

namespace Expr

def textOrNull? : Expr → Option (Option String)
  | .literal (.string value) => some (some value)
  | .literal .null => some none
  | _ => none

def intOrNull? : Expr → Option (Option Int)
  | .literal (.int value) => some (some value)
  | .literal .null => some none
  | _ => none

theorem textOrNull?_optString (value : Option String) :
    textOrNull? (optString value) = some value := by
  cases value <;> rfl

end Expr

namespace FormEntry

def ofExpr? : Expr → Option FormEntry
  | .object properties => do
    match properties.lookup "key", properties.lookup "kind", properties.lookup "optional" with
    | some (.literal (.string key)), some (.literal (.string kind)),
        some (.literal (.bool optional)) =>
      some {
        key
        kind
        optional
        maxLength := ← (← properties.lookup "maxLength").intOrNull?
        pattern := ← (← properties.lookup "validationRegex").textOrNull? }
    | _, _, _ => none
  | _ => none

def isText (e : FormEntry) : Bool :=
  (FieldKind.all.filter FieldKind.isString).any (·.label == e.kind)

end FormEntry

namespace CommandForm

/-- The form that a function gives: a list of fields under a name, and a definition with that name
among its properties. -/
def ofBody? : List Statement → Option CommandForm
  | [.const list _ (.arrayBlock items _), .return (some (.objectBlock properties _))] =>
    match properties.lookup "key", properties.lookup "fields" with
    | some (.literal (.string key)), some (.ident name) =>
      if name = list then (items.mapM FormEntry.ofExpr?).map (⟨key, ·⟩) else none
    | _, _ => none
  | _ => none

end CommandForm

namespace Module

def interface? (c : Module) (name : String) : Option (List (PropertyName × TypeExpr)) := do
  match (← c.types.find? (·.name == name)).body with
  | .interface properties => some properties
  | _ => none

def factoryName? (c : Module) (key : String) : Option String := do
  match (← c.trailer.find? (·.name == "commandDefinitions")).value with
  | .objectBlock entries _ =>
    match entries.lookup key with
    | some (.thunk (.call name [])) => some name
    | _ => none
  | _ => none

def form? (c : Module) (key : String) : Option CommandForm := do
  let name ← c.factoryName? key
  CommandForm.ofBody? (← c.functions.find? (·.name == name)).body

end Module

namespace CommandForms

/-- What a form says of a field. Limits that a signed number of 64 bits cannot hold are left out. -/
def entryOf (f : CommandField) : FormEntry where
  key := f.key
  kind := f.kind.label
  optional := f.optional
  maxLength := (f.effectiveMaxLength.filter (· < 2 ^ 63)).map Int.ofNat
  pattern := f.pattern

theorem isText_entryOf (f : CommandField) : (entryOf f).isText = f.kind.isString := by
  cases hk : f.kind <;> simp [FormEntry.isText, entryOf, hk, FieldKind.all, FieldKind.isString,
    FieldKind.label]

theorem intOrNull?_limit (max : Option Nat) :
    (limit max).intOrNull? = some ((max.filter (· < 2 ^ 63)).map Int.ofNat) := by
  cases max with
  | none => rfl
  | some n =>
    have hb : Nat.pow 2 63 = 2 ^ 63 := rfl
    rw [limit, hb, Option.filter_some]
    by_cases hn : n < 2 ^ 63
    · rw [if_pos hn, if_pos (decide_eq_true hn)]
      rfl
    · rw [if_neg hn, if_neg (by simpa using hn)]
      rfl

theorem ofExpr?_fieldDefinition (f : CommandField) :
    FormEntry.ofExpr? (fieldDefinition f) = some (entryOf f) := by
  simp [FormEntry.ofExpr?, fieldDefinition, List.lookup, Expr.string, intOrNull?_limit,
    Expr.textOrNull?_optString, entryOf]

theorem ofBody?_factory (c : Command) :
    CommandForm.ofBody? (factory c).body = some ⟨c.key, c.fields.map entryOf⟩ := by
  have hfields : (c.fields.map fieldDefinition).mapM FormEntry.ofExpr? =
      some (c.fields.map entryOf) := by
    rw [List.mapM_map]
    exact mapM_eq_some_map fun f _ => ofExpr?_fieldDefinition f
  have hproperties : (definition c) = .objectBlock
      [("key", .literal (.string c.key)), ("title", .string c.title), ("chain", .string c.chain),
       ("crudNature", .optString (c.crudNature.map CrudNature.text)),
       ("additionalConfirmation", .optString c.confirmation), ("fields", .ident "fields"),
       ("prefill", .ident "prefill")] 1 := rfl
  rw [factory, hproperties]
  simp only [CommandForm.ofBody?, hfields]
  simp [List.lookup]

section Files

variable {cs : List Command} {c : Command} (hc : c ∈ cs)
include hc

theorem factoryName?_of_mem (hk : (cs.map Command.key).Nodup) :
    (ofCommands cs).factoryName? c.key = some c.structName := by
  have hentry : (c.key, Expr.thunk (.call c.structName [])) ∈
      cs.map fun c => (c.key, Expr.thunk (.call c.structName [])) := List.mem_map.2 ⟨c, hc, rfl⟩
  have hlookup := Text.lookup_of_mem (by simpa [Function.comp_def] using hk) hentry
  simp [Module.factoryName?, ofCommands, table, hlookup]

theorem form?_of_mem (hk : (cs.map Command.key).Nodup) (hs : (cs.map Command.structName).Nodup) :
    (ofCommands cs).form? c.key = some ⟨c.key, c.fields.map entryOf⟩ := by
  have hnames : ((cs.map factory).map Function.name).Nodup := by
    simpa [Function.comp_def, factory] using hs
  have hfind := Outcome.find?_of_mem hnames (List.mem_map_of_mem hc)
  rw [show (factory c).name = c.structName from rfl,
    show cs.map factory = (ofCommands cs).functions from rfl] at hfind
  rw [Module.form?, factoryName?_of_mem hc hk, Option.bind_eq_bind, Option.bind_some, hfind,
    Option.bind_eq_bind, Option.bind_some, ofBody?_factory]

theorem interface?_of_mem (hs : (cs.map Command.structName).Nodup) :
    (ofCommands cs).interface? (c.structName ++ "Values") =
      some (c.fields.map fun f => (⟨f.key, false⟩, valueType f.kind)) := by
  have hnames : ((cs.map valuesInterface).map TypeDef.name).Nodup := by
    have happend : (cs.map Command.structName).map (· ++ "Values") =
        (cs.map valuesInterface).map TypeDef.name := by
      simp [Function.comp_def, valuesInterface, valuesName]
    rw [← happend]
    exact hs.map fun a b h => (String.append_left_inj "Values").1 h
  have hown := Outcome.find?_of_mem hnames (List.mem_map_of_mem hc)
  rw [show (valuesInterface c).name = c.structName ++ "Values" from rfl] at hown
  have hshared : sharedTypes.find? (·.name == c.structName ++ "Values") = none := by
    have hends : ∀ name ∈ sharedTypes.map TypeDef.name, ¬ "Values".toList <:+ name.toList := by
      decide
    refine List.find?_eq_none.2 fun d hd he => hends d.name (List.mem_map_of_mem hd) ?_
    rw [eq_of_beq he, String.toList_append]
    exact List.suffix_append _ _
  simp [Module.interface?, ofCommands, List.find?_append, hshared, hown, valuesInterface, property]

end Files

end CommandForms

end Frontend

/-- What the checks say about the commands of a module beyond the names that they lead to. -/
structure SchemaModule.CommandRules (m : SchemaModule) : Prop where
  keys : (m.commands.map Command.key).Nodup
  structNames : (m.commands.map Command.structName).Nodup
  fieldKeys : ∀ c ∈ m.commands, (c.fields.map CommandField.key).Nodup
  textOnly : ∀ c ∈ m.commands, ∀ f ∈ c.fields,
    f.kind.isString = true ∨ f.maxLength = none ∧ f.pattern = none

theorem Check.textOnly_of_commandField {f : CommandField} (h : commandField f = .ok ()) :
    f.kind.isString = true ∨ f.maxLength = none ∧ f.pattern = none := by
  simpa [ensure_eq_ok] using (andThen_eq_ok.1 h).1

theorem SchemaModule.commandRules_of_check {s : SchemaSet} {m : SchemaModule}
    (h : m.check s = .ok ()) : m.CommandRules := by
  simp only [check, andThen_eq_ok] at h
  obtain ⟨-, -, -, -, -, -, hc, -, -⟩ := h
  simp only [Check.commands, Check.command, andThen_eq_ok, forM_eq_ok, Check.unique_eq_ok,
    Place.locate_eq_ok] at hc
  obtain ⟨hkeys, hstructs, hall⟩ := hc
  exact {
    keys := hkeys
    structNames := hstructs
    fieldKeys := fun c hm => (hall c hm).2.2.2.1
    textOnly := fun c hm f hf => Check.textOnly_of_commandField ((hall c hm).2.2.2.2.2 f hf) }

namespace CommandField

theorem nonEmpty_mem_rules {f : CommandField} :
    Rule.nonEmpty ∈ f.rules ↔ f.kind.isString = true ∧ f.optional = false := by
  cases hk : f.kind.isString <;> cases ho : f.optional <;> simp [rules, hk, ho]

theorem maxLength_mem_rules {f : CommandField} {n : Nat} :
    Rule.maxLength n ∈ f.rules ↔ f.effectiveMaxLength = some n := by
  cases hk : f.kind.isString with
  | false => simp [rules, effectiveMaxLength, hk]
  | true => cases ho : f.optional <;> simp [rules, hk, ho]

theorem pattern_mem_rules {f : CommandField} {text : String} {skip : Bool} :
    Rule.pattern text skip ∈ f.rules ↔
      f.kind.isString = true ∧ f.pattern = some text ∧ skip = f.optional := by
  cases hk : f.kind.isString with
  | false => simp [rules, hk]
  | true =>
    cases ho : f.optional <;> cases hp : f.pattern <;>
      simp [rules, hk, ho, hp, and_comm, eq_comm]

end CommandField

namespace Backend

def CommandsFile.item? (f : CommandsFile) (key : String) : Option CommandItem :=
  f.commands.find? (·.key == key)

structure FormField.IsFor (f : CommandField) (g : FormField) : Prop where
  key : g.key = f.key
  kind : g.kind = f.kind
  ident : fieldIdent? f.key = some g.ident

structure CommandItem.Keeps (c : Command) (item : CommandItem) : Prop where
  key : item.key = c.key
  fields : List.Forall₂ FormField.IsFor c.fields item.fields
  rules : item.rules = c.fields.flatMap FieldRule.ofField

theorem FormField.isFor_of_ofField {f : CommandField} {g : FormField} (h : ofField f = .ok g) :
    g.IsFor f := by
  unfold ofField at h
  split at h
  · cases h
  · next ident hi =>
    cases h
    exact ⟨rfl, rfl, hi⟩

theorem CommandItem.keeps_of_command {c : Command} {item : CommandItem}
    (h : ofCommand c = .ok item) : item.Keeps c := by
  obtain ⟨fields, hf, h⟩ := bind_eq_ok.1 h
  cases h
  exact ⟨rfl, (forall₂_of_mapM_eq_ok hf).imp fun _ _ => FormField.isFor_of_ofField, rfl⟩

theorem CommandsFile.keeps_of_commands {cs : List Command} {file : CommandsFile}
    (h : ofCommands cs = .ok file) : List.Forall₂ CommandItem.Keeps cs file.commands :=
  (made_of_commands h).imp fun _ _ => CommandItem.keeps_of_command

namespace CommandItem.Keeps

variable {c : Command} {item : CommandItem} (h : item.Keeps c)
include h

theorem keys_eq : item.fields.map FormField.key = c.fields.map CommandField.key :=
  map_eq_of_forall₂ (fun _ _ hg => hg.key) h.fields

theorem mem_rules_iff {r : FieldRule} :
    r ∈ item.rules ↔
      ∃ f ∈ c.fields, fieldIdent? f.key = some r.ident ∧ f.key = r.key ∧ r.rule ∈ f.rules := by
  rw [h.rules, List.mem_flatMap]
  refine exists_congr fun f => and_congr_right fun _ => ?_
  unfold FieldRule.ofField
  cases fieldIdent? f.key with
  | none => simp
  | some ident =>
    obtain ⟨own, key, rule⟩ := r
    simp only [List.mem_map, FieldRule.mk.injEq, Option.some.injEq]
    grind

theorem owner_of_rule {r : FieldRule} (hr : r ∈ item.rules) :
    ∃ g ∈ item.fields, r.ident = g.ident ∧ r.key = g.key := by
  obtain ⟨f, hf, hident, hkey, -⟩ := h.mem_rules_iff.1 hr
  obtain ⟨g, hg, hfor⟩ := mem_of_forall₂ h.fields hf
  exact ⟨g, hg, Option.some.inj (hident.symm.trans hfor.ident), (hfor.key.trans hkey).symm⟩

/-- What a field is checked by are its own rules, as its key is no other field's. -/
theorem rule_mem_iff (hk : (c.fields.map CommandField.key).Nodup) {f : CommandField}
    (hf : f ∈ c.fields) {g : FormField} (hg : g.IsFor f) {rule : Rule} :
    ⟨g.ident, g.key, rule⟩ ∈ item.rules ↔ rule ∈ f.rules := by
  rw [h.mem_rules_iff]
  constructor
  · rintro ⟨other, ho, -, hkey, hr⟩
    obtain rfl := List.inj_on_of_nodup_map hk ho hf (hkey.trans hg.key)
    exact hr
  · exact fun hr => ⟨f, hf, hg.ident, hg.key.symm, hr⟩

end CommandItem.Keeps

end Backend

section Mirrors

open Frontend Backend

structure Frontend.FormEntry.Shows (f : CommandField) (e : FormEntry) : Prop where
  key : e.key = f.key
  kind : e.kind = f.kind.label
  optional : e.optional = f.optional
  pattern : e.pattern = f.pattern

def valueTypes : List (Frontend.TypeExpr × String) :=
  [(.string, "String"), (.boolean, "bool"), (.number, "i64")]

/-- The form of a command, the interface of its values and the item of its record have the same
fields, and the rules of the record are those that the form speaks of. -/
structure Mirrors (c : Command) (form : CommandForm)
    (values : List (PropertyName × Frontend.TypeExpr)) (item : CommandItem) : Prop where
  command : form.key = c.key ∧ item.key = c.key
  entries : List.Forall₂ FormEntry.Shows c.fields form.entries
  keys : form.entries.map FormEntry.key = item.fields.map FormField.key
  properties : values.map Prod.fst = item.fields.map fun g => ⟨g.key, false⟩
  distinct : (item.fields.map FormField.key).Nodup
  types : List.Forall₂ (fun v g => (v.2, fieldType g.kind) ∈ valueTypes) values item.fields
  owned : ∀ r ∈ item.rules, ∃ g ∈ item.fields, r.ident = g.ident ∧ r.key = g.key
  nonEmpty : List.Forall₂ (fun e g =>
    ⟨g.ident, g.key, .nonEmpty⟩ ∈ item.rules ↔ e.isText = true ∧ e.optional = false)
    form.entries item.fields
  pattern : List.Forall₂ (fun e g => ∀ text skip,
    ⟨g.ident, g.key, .pattern text skip⟩ ∈ item.rules ↔
      e.pattern = some text ∧ skip = e.optional)
    form.entries item.fields

/-- The limit that an entry shows is the one that the field is checked by; none is shown if there is
none, or one from `2 ^ 63` on. -/
structure LimitAgrees (item : CommandItem) (e : FormEntry) (g : FormField) : Prop where
  shown : ∀ n : Nat, e.maxLength = some (n : Int) ↔
    ⟨g.ident, g.key, .maxLength n⟩ ∈ item.rules ∧ n < 2 ^ 63
  hidden : e.maxLength = none ↔ ∀ n, ⟨g.ident, g.key, .maxLength n⟩ ∈ item.rules → 2 ^ 63 ≤ n
  natural : ∀ i, e.maxLength = some i → 0 ≤ i

open CommandForms

variable {c : Command} {item : CommandItem}

theorem forall₂_entries {R : FormEntry → FormField → Prop} (h : item.Keeps c)
    (hr : ∀ f ∈ c.fields, ∀ g : FormField, g.IsFor f → R (entryOf f) g) :
    List.Forall₂ R (c.fields.map entryOf) item.fields := by
  rw [List.forall₂_map_left_iff]
  exact ((List.forall₂_and_left _ _).2 ⟨fun f hf => hf, h.fields⟩).imp
    fun f g hfg => hr f hfg.1 g hfg.2

theorem valueTypes_agree (kind : FieldKind) :
    (valueType kind, fieldType kind) ∈ valueTypes := by
  cases kind <;> simp [valueTypes, valueType, fieldType]

theorem mirrors_of_keeps (h : item.Keeps c) (hk : (c.fields.map CommandField.key).Nodup)
    (ht : ∀ f ∈ c.fields, f.kind.isString = true ∨ f.maxLength = none ∧ f.pattern = none) :
    Mirrors c ⟨c.key, c.fields.map entryOf⟩
      (c.fields.map fun f => (⟨f.key, false⟩, valueType f.kind)) item where
  command := ⟨rfl, h.key⟩
  entries := by
    rw [List.forall₂_map_right_iff, List.forall₂_same]
    exact fun f _ => ⟨rfl, rfl, rfl, rfl⟩
  keys := by
    rw [h.keys_eq, List.map_map]
    rfl
  properties := by
    have hprops : (item.fields.map FormField.key).map (PropertyName.mk · false) =
        item.fields.map fun g => ⟨g.key, false⟩ := List.map_map
    rw [← hprops, h.keys_eq, List.map_map, List.map_map]
    rfl
  distinct := h.keys_eq ▸ hk
  types := by
    rw [List.forall₂_map_left_iff]
    refine h.fields.imp fun f g hg => ?_
    rw [hg.kind]
    exact valueTypes_agree f.kind
  owned := fun r => h.owner_of_rule
  nonEmpty := forall₂_entries h fun f hf g hg => by
    rw [h.rule_mem_iff hk hf hg, CommandField.nonEmpty_mem_rules, isText_entryOf]
    rfl
  pattern := forall₂_entries h fun f hf g hg text skip => by
    rw [h.rule_mem_iff hk hf hg, CommandField.pattern_mem_rules]
    -- a pattern on a field of another kind does not pass the checks
    refine and_iff_right_of_imp fun ⟨hp, _⟩ => ?_
    rcases ht f hf with hs | ⟨-, hn⟩
    · exact hs
    · cases hn.symm.trans hp

theorem limits_of_keeps (h : item.Keeps c) (hk : (c.fields.map CommandField.key).Nodup) :
    List.Forall₂ (LimitAgrees item) (c.fields.map entryOf) item.fields := by
  refine forall₂_entries h fun f hf g hg => ?_
  have hrule : ∀ n, ⟨g.ident, g.key, .maxLength n⟩ ∈ item.rules ↔
      f.effectiveMaxLength = some n := fun n =>
    (h.rule_mem_iff hk hf hg).trans CommandField.maxLength_mem_rules
  have hentry : (entryOf f).maxLength = (f.effectiveMaxLength.filter (· < 2 ^ 63)).map Int.ofNat :=
    rfl
  cases hmax : f.effectiveMaxLength with
  | none => constructor <;> simp [hentry, hrule, hmax]
  | some max => constructor <;> simp [hentry, hrule, hmax]

theorem enforced_of_keeps (h : item.Keeps c) (hk : (c.fields.map CommandField.key).Nodup) :
    List.Forall₂ (fun f g => ∀ n, ⟨g.ident, g.key, .maxLength n⟩ ∈ item.rules ↔
      f.effectiveMaxLength = some n) c.fields item.fields :=
  ((List.forall₂_and_left _ _).2 ⟨fun _ hf => hf, h.fields⟩).imp fun _ _ hfg _ =>
    (h.rule_mem_iff hk hfg.1 hfg.2).trans CommandField.maxLength_mem_rules

end Mirrors

namespace SchemaSet

open Frontend Backend

section Commands

variable {s : SchemaSet} (h : s.check = .ok ()) {m : SchemaModule} (hm : m ∈ s.modules)
include h hm

theorem exists_commandsFile : ∃ file, CommandsFile.ofCommands m.commands = .ok file := by
  have hfails := CommandsFile.ofCommands_fails (P := fun _ => False)
    (checked_of_check h hm).commands
  rcases hfails.ok_or_error with hok | ⟨fault, -, hno⟩
  · exact hok
  · exact hno.elim

theorem item_of_command {file : CommandsFile}
    (hf : CommandsFile.ofCommands m.commands = .ok file) {c : Command} (hc : c ∈ m.commands) :
    ∃ item, file.item? c.key = some item ∧ item.Keeps c := by
  obtain ⟨item, hi, hkeeps⟩ := mem_of_forall₂ (CommandsFile.keeps_of_commands hf) hc
  have hkeys : (file.commands.map CommandItem.key).Nodup := by
    rw [map_eq_of_forall₂ (fun _ _ hk => hk.key) (CommandsFile.keeps_of_commands hf)]
    exact (SchemaModule.commandRules_of_check (check_of_mem h hm)).keys
  refine ⟨item, ?_, hkeeps⟩
  rw [CommandsFile.item?, ← hkeeps.key]
  exact Outcome.find?_of_mem hkeys hi

end Commands

/-- The form of every command mirrors the record of the command and its rules: its fields, the
properties of the interface of its values and the keys of the record are the same, in the same
order, with types that belong together; a value may not be empty just if the form shows a text field
that is not optional, and has to match a pattern just if the form shows this pattern, where empty
values are let through just if the field is optional. -/
theorem forms_mirror_commands {s : SchemaSet} (h : s.check = .ok ()) {m : SchemaModule}
    (hm : m ∈ s.modules) :
    ∃ file, CommandsFile.ofCommands m.commands = .ok file ∧
      ∀ c ∈ m.commands, ∃ form values item,
        (CommandForms.ofCommands m.commands).form? c.key = some form ∧
        (CommandForms.ofCommands m.commands).interface? (c.structName ++ "Values") = some values ∧
        file.item? c.key = some item ∧ Mirrors c form values item := by
  obtain ⟨file, hf⟩ := exists_commandsFile h hm
  have hrules := SchemaModule.commandRules_of_check (check_of_mem h hm)
  refine ⟨file, hf, fun c hc => ?_⟩
  obtain ⟨item, hi, hkeeps⟩ := item_of_command h hm hf hc
  exact ⟨_, _, item, CommandForms.form?_of_mem hc hrules.keys hrules.structNames,
    CommandForms.interface?_of_mem hc hrules.structNames, hi,
    mirrors_of_keeps hkeeps (hrules.fieldKeys c hc) (hrules.textOnly c hc)⟩

theorem forms_mirror_commands_accounts :
    let c := Sample.AccountCommands.create
    let m : SchemaModule := { id := "secrets", commands := [c, Sample.AccountCommands.delete] }
    let s : SchemaSet := ⟨[m]⟩
    ∃ file form values item,
      s.check = .ok () ∧ m ∈ s.modules ∧ c ∈ m.commands ∧
      CommandsFile.ofCommands m.commands = .ok file ∧
      (CommandForms.ofCommands m.commands).form? c.key = some form ∧
      (CommandForms.ofCommands m.commands).interface? (c.structName ++ "Values") = some values ∧
      file.item? c.key = some item ∧ Mirrors c form values item ∧
      form.entries.map FormEntry.pattern =
        [none, some "^[0-9]\x7b4\x7d$", none, none, none] ∧
      item.rules = [⟨"title", "Title", .nonEmpty⟩, ⟨"title", "Title", .maxLength 128⟩,
        ⟨"pin", "Pin", .maxLength 128⟩, ⟨"pin", "Pin", .pattern "^[0-9]\x7b4\x7d$" true⟩,
        ⟨"note", "Note", .maxLength 16⟩] := by
  intro c m s
  have hmodules : ∀ m ∈ s.modules, (m.check s).isOk = true := by decide +kernel
  have hcheck : s.check = .ok () := check_of_modules hmodules (by cbv)
  have hm : m ∈ s.modules := List.mem_singleton_self m
  have hc : c ∈ m.commands := List.mem_cons_self
  have hentries : ((CommandForms.ofCommands m.commands).form? c.key).map
      (fun form => form.entries.map FormEntry.pattern) =
        some [none, some "^[0-9]\x7b4\x7d$", none, none, none] := by decide +kernel
  have hrules : ((CommandsFile.ofCommands m.commands).toOption.bind (·.item? c.key)).map
      CommandItem.rules = some [⟨"title", "Title", .nonEmpty⟩, ⟨"title", "Title", .maxLength 128⟩,
        ⟨"pin", "Pin", .maxLength 128⟩, ⟨"pin", "Pin", .pattern "^[0-9]\x7b4\x7d$" true⟩,
        ⟨"note", "Note", .maxLength 16⟩] := by decide +kernel
  obtain ⟨file, hf, hall⟩ := forms_mirror_commands hcheck hm
  obtain ⟨form, values, item, hform, hvalues, hitem, hmirrors⟩ := hall c hc
  rw [hform] at hentries
  rw [hf, Except.toOption, Option.bind_some, hitem] at hrules
  exact ⟨file, form, values, item, hcheck, hm, hc, hf, hform, hvalues, hitem, hmirrors,
    Option.some.inj hentries, Option.some.inj hrules⟩

/-- Every field is checked by its own limit, the declared one or that of its kind, and the form
shows this limit if it is below `2 ^ 63`, and none if it is not or if there is none. -/
theorem shown_limits_agree {s : SchemaSet} (h : s.check = .ok ()) {m : SchemaModule}
    (hm : m ∈ s.modules) :
    ∃ file, CommandsFile.ofCommands m.commands = .ok file ∧
      ∀ c ∈ m.commands, ∃ form item,
        (CommandForms.ofCommands m.commands).form? c.key = some form ∧
        file.item? c.key = some item ∧
        form.entries.map FormEntry.key = c.fields.map CommandField.key ∧
        item.fields.map FormField.key = c.fields.map CommandField.key ∧
        List.Forall₂ (fun f g => ∀ n, ⟨g.ident, g.key, .maxLength n⟩ ∈ item.rules ↔
          f.effectiveMaxLength = some n) c.fields item.fields ∧
        List.Forall₂ (LimitAgrees item) form.entries item.fields := by
  obtain ⟨file, hf⟩ := exists_commandsFile h hm
  have hrules := SchemaModule.commandRules_of_check (check_of_mem h hm)
  refine ⟨file, hf, fun c hc => ?_⟩
  obtain ⟨item, hi, hkeeps⟩ := item_of_command h hm hf hc
  have hkeys := hrules.fieldKeys c hc
  refine ⟨_, item, CommandForms.form?_of_mem hc hrules.keys hrules.structNames, hi, ?_,
    hkeeps.keys_eq, enforced_of_keeps hkeeps hkeys, limits_of_keeps hkeeps hkeys⟩
  rw [List.map_map]
  rfl

theorem shown_limits_agree_accounts :
    let c := Sample.AccountCommands.create
    let m : SchemaModule := { id := "secrets", commands := [c] }
    let s : SchemaSet := ⟨[m]⟩
    ∃ file form item, s.check = .ok () ∧ m ∈ s.modules ∧
      CommandsFile.ofCommands m.commands = .ok file ∧
      (CommandForms.ofCommands m.commands).form? c.key = some form ∧
      file.item? c.key = some item ∧
      List.Forall₂ (LimitAgrees item) form.entries item.fields ∧
      form.entries.map FormEntry.maxLength = [some 128, some 128, some 16, none, none] := by
  intro c m s
  have hmodules : ∀ m ∈ s.modules, (m.check s).isOk = true := by decide +kernel
  have hcheck : s.check = .ok () := check_of_modules hmodules (by cbv)
  have hm : m ∈ s.modules := List.mem_singleton_self m
  have hlimits : ((CommandForms.ofCommands m.commands).form? c.key).map
      (fun form => form.entries.map FormEntry.maxLength) =
        some [some 128, some 128, some 16, none, none] := by decide +kernel
  obtain ⟨file, hf, hall⟩ := shown_limits_agree hcheck hm
  obtain ⟨form, item, hform, hitem, -, -, -, hagree⟩ := hall c (List.mem_singleton_self c)
  rw [hform] at hlimits
  exact ⟨file, form, item, hcheck, hm, hf, hform, hitem, hagree, Option.some.inj hlimits⟩

/-- The form of a field with the limit `2 ^ 63` shows none, though the field is checked by it. -/
theorem shown_limits_differ_large :
    ∃ (s : SchemaSet) (m : SchemaModule) (c : Command) (file : CommandsFile) (form : CommandForm)
      (item : CommandItem), s.check = .ok () ∧ m ∈ s.modules ∧ c ∈ m.commands ∧
      CommandsFile.ofCommands m.commands = .ok file ∧
      (CommandForms.ofCommands m.commands).form? c.key = some form ∧
      file.item? c.key = some item ∧
      item.fields.map FormField.key = ["Note"] ∧
      ⟨"note", "Note", .maxLength (2 ^ 63)⟩ ∈ item.rules ∧
      form.entries.map FormEntry.key = ["Note"] ∧
      form.entries.map FormEntry.maxLength = [none] := by
  let f : CommandField :=
    { Sample.AccountCommands.textField "Note" with maxLength := some (2 ^ 63) }
  let c : Command := ⟨"Write", "Write", "public", none, none, [f]⟩
  let m : SchemaModule := { id := "m", commands := [c] }
  let s : SchemaSet := ⟨[m]⟩
  have hmodules : ∀ m ∈ s.modules, (m.check s).isOk = true := by decide +kernel
  have hform : (CommandForms.ofCommands m.commands).form? c.key =
      some ⟨"Write", [⟨"Note", "text", false, none, none⟩]⟩ := by decide +kernel
  have hitem : (CommandsFile.ofCommands m.commands).toOption.bind (·.item? c.key) =
      some {
        structName := "Write"
        key := "Write"
        title := "Write"
        chain := "public"
        handlerMethod := "write"
        allocatorFn := "allocate_write"
        fields := [⟨"note", "Note", .text, false⟩]
        rules := [⟨"note", "Note", .nonEmpty⟩, ⟨"note", "Note", .maxLength (2 ^ 63)⟩] } := by
    decide +kernel
  obtain ⟨file, hf, hi⟩ := Option.bind_eq_some_iff.1 hitem
  exact ⟨s, m, c, file, _, _, check_of_modules hmodules (by cbv), List.mem_singleton_self m,
    List.mem_singleton_self c, eq_ok_of_toOption hf, hform, hi, rfl, by simp, rfl, rfl⟩

end SchemaSet

end EventSchema
