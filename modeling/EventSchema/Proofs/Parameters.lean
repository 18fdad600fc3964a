import EventSchema.Proofs.NameRules

/-!
Parameters of the generated handlers of endpoints. The checks keep the identifiers of placeholders
apart, and they look for the other parameters among the placeholders as they are written. So a
handler has two parameters of one name if and only if a placeholder in another style comes to
`rctx`, or to `input` where the endpoint takes one.
-/

set_option autoImplicit false

namespace EventSchema

open Outcome

namespace Backend

open Naming

namespace EndpointItem

def arguments (config : Config) (e : EndpointItem) : List (String × String) :=
  ("rctx", "RequestContext") :: e.params.map (fun p => (p, "String")) ++
    e.input.toList.map fun type => ("input", type.render config)

def paramNames (config : Config) (e : EndpointItem) : List String :=
  "self" :: (e.arguments config).map Prod.fst

def head (config : Config) (e : EndpointItem) : Code :=
  .nested ("fn " ++ e.handler ++ "(")
    (.line "&self," :: (e.arguments config).map fun a => .line (a.1 ++ ": " ++ a.2 ++ ","))
    (") -> impl Future<Output = " ++ e.outcome config ++ "> + Send;")

theorem signature_eq (config : Config) (e : EndpointItem) :
    e.signature config = e.documentation ++ [e.head config] := by
  cases hi : e.input with
  | none => simp [signature, head, arguments, hi, String.append_assoc]
  | some type =>
    have hinput (text : String) : "input: " ++ text = "input" ++ (": " ++ text) := by
      rw [← String.append_assoc]
      rfl
    simp [signature, head, arguments, hi, hinput, String.append_assoc]

theorem paramNames_eq (config : Config) (e : EndpointItem) :
    e.paramNames config =
      "self" :: "rctx" :: (e.params ++ if e.input.isSome then ["input"] else []) := by
  cases hi : e.input with
  | none => simp [paramNames, arguments, hi, Function.comp_def]
  | some type => simp [paramNames, arguments, hi, Function.comp_def]

end EndpointItem

def RestFile.handlerTrait (config : Config) (f : RestFile) : Code :=
  .item "pub trait Handlers: Send + Sync + 'static"
    (f.endpoints.flatMap fun e => e.documentation ++ [e.head config])

theorem RestFile.handlerTrait_isIn (config : Config) (f : RestFile) :
    (f.handlerTrait config).IsIn (f.render config) := by
  have hheads : f.endpoints.flatMap (EndpointItem.signature config) =
      f.endpoints.flatMap fun e => e.documentation ++ [e.head config] :=
    List.flatMap_congr fun e _ => e.signature_eq config
  refine Code.isIn_file (p := f.handlers config) (by simp) ?_
  rw [handlers, hheads]
  exact .tail _ (.head _)

theorem fieldIdent?_eq_some_iff {key word : String} (hw : fieldIdent? word = some word)
    (hs : snake word = word) : fieldIdent? key = some word ↔ snake key = word := by
  constructor
  · intro h
    simp only [fieldIdent?, Option.ite_none_right_eq_some, Option.some.injEq] at h hw
    exact (escapeKeyword_snake_inj (h.2.trans hw.2.symm)).trans hs
  · intro he
    rw [← hw, fieldIdent?, fieldIdent?, he, hs]

namespace EndpointItem

section Names

variable {e : Endpoint} {item : EndpointItem} (h : item.IsFor e) {names : List String}
  (hn : Route.placeholders e.path = .ok names)
include h hn

theorem word_mem_params_iff {word : String} (hw : fieldIdent? word = some word)
    (hs : snake word = word) : word ∈ item.params ↔ ∃ name ∈ names, snake name = word := by
  rw [mem_params_iff h hn]
  exact exists_congr fun _ => and_congr_right fun _ => fieldIdent?_eq_some_iff hw hs

theorem self_not_mem_params : "self" ∉ item.params := by
  intro hm
  obtain ⟨name, -, hi⟩ := (mem_params_iff h hn).1 hm
  exact absurd (isLegalIdent_of_fieldIdent? hi).1 (by decide)

theorem paramNames_nodup_iff (hd : (names.map fieldIdent?).Nodup) (config : Config) :
    (item.paramNames config).Nodup ↔
      ∀ name ∈ names, snake name ≠ "rctx" ∧ (e.consumes.isSome = true → snake name ≠ "input") := by
  have hparams : item.params.Nodup := by
    rw [← params_eq h hn] at hd
    exact hd.of_map some
  have hself := self_not_mem_params h hn
  have hrctx : "rctx" ∈ item.params ↔ ∃ name ∈ names, snake name = "rctx" :=
    word_mem_params_iff h hn (by decide) (by decide)
  have hinput : "input" ∈ item.params ↔ ∃ name ∈ names, snake name = "input" :=
    word_mem_params_iff h hn (by decide) (by decide)
  rw [paramNames_eq, h.input]
  cases hc : e.consumes.isSome with
  | true =>
    have hlast : (item.params ++ ["input"]).Nodup ↔ "input" ∉ item.params := by
      rw [← List.concat_eq_append, List.nodup_concat, and_iff_left hparams]
    simp [hlast, hself, hrctx, hinput, forall₂_and]
  | false => simp [hparams, hself, hrctx]

end Names

/-- Placeholders in the snake style come to themselves, and the checks refuse those names. -/
theorem paramNames_nodup_of_snake {e : Endpoint} {item : EndpointItem} (h : item.IsFor e)
    {names : List String} (hn : Route.placeholders e.path = .ok names)
    (hd : (names.map fieldIdent?).Nodup)
    (hfree : ∀ name ∈ names, Check.isFreePlaceholder name = true)
    (hs : ∀ name ∈ names, snake name = name) (config : Config) :
    (item.paramNames config).Nodup := by
  refine (paramNames_nodup_iff h hn hd config).2 fun name hm => ?_
  have hf := hfree name hm
  rw [hs name hm]
  refine ⟨?_, fun _ => ?_⟩
  · rintro rfl
    exact absurd hf (by decide)
  · rintro rfl
    exact absurd hf (by decide)

end EndpointItem

end Backend

namespace SchemaSet

open Backend Naming

/-- The parameters of a handler are distinct if and only if no placeholder of its endpoint comes to
`rctx`, or to `input` where the endpoint takes one; so they are if all placeholders are in the snake
style. -/
theorem handler_params_distinct {config : Config} {s : SchemaSet} {files : List Artifact}
    (hg : s.generate config = .ok files) {m : SchemaModule} (hm : m ∈ s.modules) :
    ∃ f, RestFile.ofEndpoints m.id m.types.endpoints = .ok f ∧
      (m.types.endpoints ≠ [] →
        ⟨.backend, Section.path m.id .rest, f.render config⟩ ∈ files) ∧
      (f.handlerTrait config).IsIn (f.render config) ∧
      List.Forall₂ (fun (e : Endpoint) (item : EndpointItem) =>
          ∃ names, Route.placeholders e.path = .ok names ∧
            ((item.paramNames config).Nodup ↔ ∀ name ∈ names,
              snake name ≠ "rctx" ∧ (e.consumes.isSome = true → snake name ≠ "input")) ∧
            ((∀ name ∈ names, snake name = name) → (item.paramNames config).Nodup))
        m.types.endpoints f.endpoints := by
  have hnames := namesAllowed_of_generate hg hm
  obtain ⟨f, hf, hfile⟩ := rest_of_generate hg hm
  have hitems := RestFile.items_of_endpoints hf
  refine ⟨f, hf, hfile, f.handlerTrait_isIn config,
    List.forall₂_iff_get.2 ⟨hitems.length_eq, fun i he hi => ?_⟩⟩
  have hitem := hitems.get he hi
  obtain ⟨names, hn, -⟩ := hitem.params
  obtain ⟨-, hd, hfree⟩ := hnames.placeholders _ (List.get_mem ..) names hn
  exact ⟨names, hn, EndpointItem.paramNames_nodup_iff hitem hn hd config,
    fun hs => EndpointItem.paramNames_nodup_of_snake hitem hn hd hfree hs config⟩

theorem handler_params_distinct_files :
    ∃ (s : SchemaSet) (files : List Artifact) (m : SchemaModule) (f : RestFile),
      s.generate {} = .ok files ∧ m ∈ s.modules ∧
      RestFile.ofEndpoints m.id m.types.endpoints = .ok f ∧
      f.endpoints.map (EndpointItem.paramNames {}) =
        [["self", "rctx", "user_id", "r#type", "input"]] ∧
      ∀ item ∈ f.endpoints, (item.paramNames {}).Nodup := by
  let m : SchemaModule := {
    id := "m"
    types := { endpoints := [⟨.put, "/\x7buserId\x7d/\x7btype\x7d", "put", "public", none,
      some (.node "string" none none false), none⟩] } }
  have hcheck : check ⟨[m]⟩ = .ok () := by cbv
  have htypes : TypesFile.ofModule m = .ok ⟨[], [], []⟩ := eq_ok_of_toOption (by decide +kernel)
  have hevents : EventsFile.ofEvents m.id m.events = .ok ⟨[], []⟩ :=
    eq_ok_of_toOption (by decide +kernel)
  have hrest : (RestFile.ofEndpoints m.id m.types.endpoints).map
      (fun f => f.endpoints.map (EndpointItem.paramNames {})) =
        .ok [["self", "rctx", "user_id", "r#type", "input"]] :=
    eq_ok_of_toOption (by decide +kernel)
  obtain ⟨r, hrest, hparams⟩ := map_eq_ok.1 hrest
  obtain ⟨files, hg⟩ := generate_single {} hcheck htypes hevents hrest
  obtain ⟨f, hf, -, -, hall⟩ := handler_params_distinct hg (List.mem_singleton_self m)
  cases hrest.symm.trans hf
  refine ⟨⟨[m]⟩, files, m, r, hg, List.mem_singleton_self m, hrest, hparams, fun item hi => ?_⟩
  have hnames : Route.placeholders "/\x7buserId\x7d/\x7btype\x7d" = .ok ["userId", "type"] :=
    eq_ok_of_toOption (by decide +kernel)
  obtain ⟨e, he, others, ho, hiff, -⟩ := mem_of_forall₂ hall.flip hi
  obtain rfl := List.mem_singleton.1 he
  cases hnames.symm.trans ho
  exact hiff.2 (by decide +kernel)

/-- Placeholders `Rctx` and `Input` pass all checks and come to the names of other parameters. -/
theorem handler_params_clash_case :
    ∃ (s : SchemaSet) (files : List Artifact) (m : SchemaModule) (f : RestFile),
      s.generate {} = .ok files ∧ m ∈ s.modules ∧
      RestFile.ofEndpoints m.id m.types.endpoints = .ok f ∧
      f.endpoints.map (EndpointItem.paramNames {}) =
        [["self", "rctx", "rctx"], ["self", "rctx", "input", "input"]] ∧
      ∀ item ∈ f.endpoints, ¬ (item.paramNames {}).Nodup := by
  let m : SchemaModule := {
    id := "m"
    types := { endpoints := [⟨.get, "/a/\x7bRctx\x7d", "a", "public", none, none, none⟩,
      ⟨.post, "/b/\x7bInput\x7d", "b", "public", none, some (.node "string" none none false),
        none⟩] } }
  have hcheck : check ⟨[m]⟩ = .ok () := by cbv
  have htypes : TypesFile.ofModule m = .ok ⟨[], [], []⟩ := eq_ok_of_toOption (by decide +kernel)
  have hevents : EventsFile.ofEvents m.id m.events = .ok ⟨[], []⟩ :=
    eq_ok_of_toOption (by decide +kernel)
  have hrest : (RestFile.ofEndpoints m.id m.types.endpoints).map
      (fun f => f.endpoints.map (EndpointItem.paramNames {})) =
        .ok [["self", "rctx", "rctx"], ["self", "rctx", "input", "input"]] :=
    eq_ok_of_toOption (by decide +kernel)
  obtain ⟨r, hrest, hparams⟩ := map_eq_ok.1 hrest
  obtain ⟨files, hg⟩ := generate_single {} hcheck htypes hevents hrest
  refine ⟨⟨[m]⟩, files, m, r, hg, List.mem_singleton_self m, hrest, hparams, fun item hi => ?_⟩
  have hm : item.paramNames {} ∈ r.endpoints.map (EndpointItem.paramNames {}) :=
    List.mem_map_of_mem hi
  rw [hparams] at hm
  exact (by decide : ∀ names ∈ [["self", "rctx", "rctx"], ["self", "rctx", "input", "input"]],
    ¬ names.Nodup) _ hm

end SchemaSet

end EventSchema
