import EventSchema.Proofs.ClientScope
import EventSchema.Proofs.ExprReader

/-!
Evaluation of the URLs in a client file. A name means what the nearest scope says: parameters and
locals come before what the file declares, and that before the globals. So a URL has a value unless
one of the two functions behind it is hidden: `encodeURIComponent` by a constant of the file, or the
function that builds the URL by a placeholder.
-/

set_option autoImplicit false

namespace EventSchema

open Outcome

namespace Frontend

inductive Value where
  | text (value : String)
  | encoder
  | function (f : Function)
  /-- What is neither a text nor called here. -/
  | other

abbrev Scope := List (String × Value)

def ConstDef.meaning (k : ConstDef) : Value :=
  match k.value with
  | .literal (.string value) => .text value
  | _ => .other

namespace Module

/-- What the file declares that is there at run time. -/
def bindings (c : Module) : Scope :=
  c.consts.map (fun k => (k.name, k.meaning)) ++
    (c.types.filter TypeDef.isValue).map (fun d => (d.name, .other)) ++
    (c.blocks.filterMap blockName?).map (fun name => (name, .other)) ++
    c.functions.map (fun f => (f.name, .function f)) ++
    c.trailer.map fun k => (k.name, k.meaning)

def scope (c : Module) : Scope :=
  c.bindings ++ [("encodeURIComponent", .encoder)]

theorem map_fst_bindings (c : Module) : c.bindings.map Prod.fst =
    c.consts.map ConstDef.name ++ (c.types.filter TypeDef.isValue).map TypeDef.name ++
      c.blocks.filterMap blockName? ++ c.functions.map Function.name ++
      c.trailer.map ConstDef.name := by
  simp [bindings, Function.comp_def]

theorem sublist_exportedNames (c : Module) :
    (c.bindings.map Prod.fst).Sublist c.exportedNames := by
  rw [map_fst_bindings, exportedNames]
  have htypes : ((c.types.filter TypeDef.isValue).map TypeDef.name).Sublist c.typeNames :=
    List.filter_sublist.map _
  exact (((htypes.append_left _).append_right _).append_right _).append_right _

end Module

mutual

/-- An expression has a value where the file and its function bind these names. A call binds the
parameters of a function of the file to the values of the arguments, and nothing else of the
function that it stands in. -/
inductive Evaluates (encode : String → String) (file : Scope) : Scope → Expr → Value → Prop where
  | string {locals : Scope} {value : String} :
      Evaluates encode file locals (.literal (.string value)) (.text value)
  | ident {locals : Scope} {name : String} {value : Value}
      (h : (locals ++ file).lookup name = some value) :
      Evaluates encode file locals (.ident name) value
  | encoded {locals : Scope} {callee value : String} {arg : Expr}
      (hc : (locals ++ file).lookup callee = some .encoder)
      (ha : Evaluates encode file locals arg (.text value)) :
      Evaluates encode file locals (.call callee [arg]) (.text (encode value))
  | call {locals : Scope} {callee : String} {args : List Expr} {values : List Value}
      {f : Function} {body : Expr} {value : Value}
      (hc : (locals ++ file).lookup callee = some (.function f))
      (ha : EvaluatesAll encode file locals args values)
      (hl : values.length = f.params.length)
      (hb : f.body = [.return (some body)])
      (hv : Evaluates encode file (f.paramNames.zip values) body value) :
      Evaluates encode file locals (.call callee args) value
  | templateNil {locals : Scope} : Evaluates encode file locals (.template []) (.text "")
  | templateStatic {locals : Scope} {text value : String} {rest : List TemplatePart}
      (hr : Evaluates encode file locals (.template rest) (.text value)) :
      Evaluates encode file locals (.template (.static text :: rest)) (.text (text ++ value))
  | templateDynamic {locals : Scope} {code : Expr} {part value : String}
      {rest : List TemplatePart} (hc : Evaluates encode file locals code (.text part))
      (hr : Evaluates encode file locals (.template rest) (.text value)) :
      Evaluates encode file locals (.template (.dynamic code :: rest)) (.text (part ++ value))

inductive EvaluatesAll (encode : String → String) (file : Scope) :
    Scope → List Expr → List Value → Prop where
  | nil {locals : Scope} : EvaluatesAll encode file locals [] []
  | cons {locals : Scope} {arg : Expr} {args : List Expr} {value : Value} {values : List Value}
      (ha : Evaluates encode file locals arg value)
      (hr : EvaluatesAll encode file locals args values) :
      EvaluatesAll encode file locals (arg :: args) (value :: values)

end

section Evaluation

variable {encode : String → String} {file locals : Scope}

theorem evaluates_string_iff {text : String} {value : Value} :
    Evaluates encode file locals (.string text) value ↔ value = .text text := by
  constructor
  · rintro ⟨⟩
    rfl
  · rintro rfl
    exact .string

theorem evaluates_ident_iff {name : String} {value : Value} :
    Evaluates encode file locals (.ident name) value ↔
      (locals ++ file).lookup name = some value := by
  constructor
  · rintro ⟨⟩
    assumption
  · exact .ident

theorem not_evaluates_call {callee text : String}
    (hc : (locals ++ file).lookup callee = some (.text text)) {args : List Expr} {value : Value} :
    ¬ Evaluates encode file locals (.call callee args) value := by
  intro h
  cases h with
  | encoded he => cases hc.symm.trans he
  | call hf => cases hc.symm.trans hf

theorem evaluates_encoded_iff {callee name text : String} {value : Value}
    (hc : (locals ++ file).lookup callee = some .encoder)
    (ha : (locals ++ file).lookup name = some (.text text)) :
    Evaluates encode file locals (.call callee [.ident name]) value ↔
      value = .text (encode text) := by
  constructor
  · intro h
    cases h with
    | encoded _ harg =>
      cases ha.symm.trans (evaluates_ident_iff.1 harg)
      rfl
    | call hf => cases hc.symm.trans hf
  · rintro rfl
    exact .encoded hc (.ident ha)

theorem evaluatesAll_idents_iff {names : List String} {values : List Value} :
    EvaluatesAll encode file locals (names.map .ident) values ↔
      names.map (fun name => (locals ++ file).lookup name) = values.map some := by
  induction names generalizing values with
  | nil =>
    constructor
    · rintro ⟨⟩
      rfl
    · intro h
      obtain rfl := List.map_eq_nil_iff.1 h.symm
      exact .nil
  | cons name names ih =>
    constructor
    · intro h
      cases h with
      | cons ha hr => rw [List.map_cons, List.map_cons, evaluates_ident_iff.1 ha, ih.1 hr]
    · intro h
      cases values with
      | nil => cases h
      | cons value values =>
        obtain ⟨hname, hnames⟩ := List.cons.inj h
        exact .cons (.ident hname) (ih.2 hnames)

theorem evaluates_call_iff {callee : String} {names : List String} {values : List Value}
    {f : Function} {body : Expr} {value : Value}
    (hc : (locals ++ file).lookup callee = some (.function f))
    (ha : names.map (fun name => (locals ++ file).lookup name) = values.map some)
    (hl : values.length = f.params.length) (hb : f.body = [.return (some body)]) :
    Evaluates encode file locals (.call callee (names.map .ident)) value ↔
      Evaluates encode file (f.paramNames.zip values) body value := by
  constructor
  · intro h
    generalize hargs : names.map Expr.ident = args at h
    cases h with
    | encoded he => cases hc.symm.trans he
    | call hf hall _ hbody hv =>
      cases hc.symm.trans hf
      cases hb.symm.trans hbody
      have hvalues := ha.symm.trans (evaluatesAll_idents_iff.1 (hargs ▸ hall))
      rwa [List.map_injective_iff.2 (Option.some_injective _) hvalues]
  · exact .call hc (evaluatesAll_idents_iff.2 ha) hl hb

theorem evaluates_template_nil_iff {value : Value} :
    Evaluates encode file locals (.template []) value ↔ value = .text "" := by
  constructor
  · rintro ⟨⟩
    rfl
  · rintro rfl
    exact .templateNil

theorem evaluates_template_static_iff {text : String} {rest : List TemplatePart} {value : Value} :
    Evaluates encode file locals (.template (.static text :: rest)) value ↔
      ∃ other, Evaluates encode file locals (.template rest) (.text other) ∧
        value = .text (text ++ other) := by
  constructor
  · intro h
    cases h with
    | templateStatic hr => exact ⟨_, hr, rfl⟩
  · rintro ⟨other, hr, rfl⟩
    exact .templateStatic hr

theorem evaluates_template_dynamic_iff {code : Expr} {rest : List TemplatePart} {value : Value} :
    Evaluates encode file locals (.template (.dynamic code :: rest)) value ↔
      ∃ part other, Evaluates encode file locals code (.text part) ∧
        Evaluates encode file locals (.template rest) (.text other) ∧
        value = .text (part ++ other) := by
  constructor
  · intro h
    cases h with
    | templateDynamic hc hr => exact ⟨_, _, hc, hr, rfl⟩
  · rintro ⟨part, other, hc, hr, rfl⟩
    exact .templateDynamic hc hr

end Evaluation

namespace Client

section Paths

variable {encode : String → String} {file locals : Scope} {parts : List PathPart}

theorem evaluates_parts_iff {arg : String → String}
    (ha : ∀ name ∈ parts.filterMap PathPart.placeholder?,
      (locals ++ file).lookup name = some (.text (arg name)))
    (he : (locals ++ file).lookup "encodeURIComponent" = some .encoder) {value : Value} :
    Evaluates encode file locals (.template (parts.map pathPart)) value ↔
      value = .text (String.join (parts.map (PathPart.filled fun name => encode (arg name)))) := by
  induction parts generalizing value with
  | nil => simpa using evaluates_template_nil_iff
  | cons part parts ih =>
    cases part with
    | static text =>
      rw [List.map_cons, pathPart, evaluates_template_static_iff]
      simp [ih ha]
    | placeholder name =>
      obtain ⟨hname, hrest⟩ := List.forall_mem_cons.1 ha
      rw [List.map_cons, pathPart, evaluates_template_dynamic_iff]
      simp [ih hrest, evaluates_encoded_iff he hname]

theorem not_evaluates_parts {text : String}
    (he : (locals ++ file).lookup "encodeURIComponent" = some (.text text))
    (hp : parts.filterMap PathPart.placeholder? ≠ []) {value : Value} :
    ¬ Evaluates encode file locals (.template (parts.map pathPart)) value := by
  induction parts generalizing value with
  | nil => exact absurd rfl hp
  | cons part parts ih =>
    cases part with
    | static text =>
      rw [List.map_cons, pathPart, evaluates_template_static_iff]
      rintro ⟨other, hr, -⟩
      exact ih hp hr
    | placeholder name =>
      rw [List.map_cons, pathPart, evaluates_template_dynamic_iff]
      rintro ⟨first, other, hc, -⟩
      exact not_evaluates_call he hc

/-- The URL of an endpoint has no other value than its path with the placeholders filled, and has
that one if and only if the encoder is not hidden or not needed. -/
theorem evaluates_pathExpr_iff {path : String} (h : Route.parts path = .ok parts)
    {arg : String → String}
    (ha : ∀ name ∈ parts.filterMap PathPart.placeholder?,
      (locals ++ file).lookup name = some (.text (arg name)))
    (he : (locals ++ file).lookup "encodeURIComponent" = some .encoder ∨
      ∃ text, (locals ++ file).lookup "encodeURIComponent" = some (.text text))
    {value : Value} :
    Evaluates encode file locals (pathExpr path parts) value ↔
      value = .text (Route.fill (fun name => encode (arg name)) path) ∧
        (parts.filterMap PathPart.placeholder? = [] ∨
          (locals ++ file).lookup "encodeURIComponent" = some .encoder) := by
  have hstatic : parts.all (·.placeholder?.isNone) = true ↔
      parts.filterMap PathPart.placeholder? = [] := by
    simp [List.filterMap_eq_nil_iff]
  unfold pathExpr
  by_cases hn : parts.filterMap PathPart.placeholder? = []
  · rw [if_pos (hstatic.2 hn), evaluates_string_iff, Route.fill_eq_self h hn,
      and_iff_left (.inl hn)]
  · rw [if_neg (mt hstatic.1 hn), or_iff_right hn]
    rcases he with he | ⟨text, he⟩
    · rw [evaluates_parts_iff ha he, Route.fill_eq h, and_iff_left he]
    · refine iff_of_false (not_evaluates_parts he hn) fun hand => ?_
      cases he.symm.trans hand.2

end Paths

section Arguments

def argumentOf (names args : List String) (name : String) : String :=
  ((names.zip args).lookup name).getD ""

theorem argumentOf_cons (name : String) (names : List String) (arg : String) (args : List String)
    (other : String) :
    argumentOf (name :: names) (arg :: args) other =
      if other = name then arg else argumentOf names args other := by
  rw [argumentOf, List.zip_cons_cons, Text.lookup_cons_ite]
  split
  · rfl
  · rfl

theorem lookup_argument {names args : List String} (hl : args.length = names.length)
    {name : String} (hm : name ∈ names) (others : Scope) :
    (names.zip (args.map Value.text) ++ others).lookup name =
      some (.text (argumentOf names args name)) := by
  induction names generalizing args with
  | nil => cases hm
  | cons first names ih =>
    cases args with
    | nil => cases hl
    | cons arg args =>
      rw [List.map_cons, List.zip_cons_cons, List.cons_append, Text.lookup_cons_ite,
        argumentOf_cons]
      split
      · rfl
      · next hne => exact ih (Nat.succ.inj hl) ((List.mem_cons.1 hm).resolve_left hne)

theorem map_argumentOf {names args : List String} (hd : names.Nodup)
    (hl : args.length = names.length) : names.map (argumentOf names args) = args := by
  induction names generalizing args with
  | nil => exact (List.length_eq_zero_iff.1 hl).symm
  | cons name names ih =>
    cases args with
    | nil => cases hl
    | cons arg args =>
      obtain ⟨hn, hd⟩ := List.nodup_cons.1 hd
      have hrest : names.map (argumentOf (name :: names) (arg :: args)) =
          names.map (argumentOf names args) := by
        refine List.map_congr_left fun other hm => ?_
        have hne : other ≠ name := ne_of_mem_of_not_mem hm hn
        rw [argumentOf_cons, if_neg hne]
      rw [List.map_cons, hrest, ih hd (Nat.succ.inj hl), argumentOf_cons, if_pos rfl]

theorem lookup_of_not_mem {names : List String} {name : String} (hn : name ∉ names)
    (values : List Value) (others : Scope) :
    (names.zip values ++ others).lookup name = others.lookup name := by
  have hnone : (names.zip values).lookup name = none := by
    refine List.lookup_eq_none_iff.2 fun entry hm => bne_iff_ne.2 ?_
    exact (ne_of_mem_of_not_mem (List.of_mem_zip hm).1 hn).symm
  rw [List.lookup_append, hnone, Option.none_or]

end Arguments

section Files

variable {s : SchemaSet} {m : SchemaModule} {config : Config} {c : Module}
  (hm : m.Checked s) (h : ofModule config m = .ok c)
include hm h

theorem lookup_of_mem_bindings {name : String} {value : Value} (hb : (name, value) ∈ c.bindings) :
    c.scope.lookup name = some value := by
  have hd := (exportedNames_nodup hm h).sublist c.sublist_exportedNames
  rw [Module.scope, List.lookup_append, Text.lookup_of_mem hd hb, Option.some_or]

theorem lookup_function {f : Function} (hf : f ∈ c.functions) :
    c.scope.lookup f.name = some (.function f) := by
  refine lookup_of_mem_bindings hm h (List.mem_append_left _ (List.mem_append_right _ ?_))
  exact List.mem_map_of_mem hf

omit hm in
theorem mem_bindings_of_constant {k : Constant} (hk : k ∈ m.types.constants) :
    (k.key, .text k.value) ∈ c.bindings := by
  obtain ⟨interfaces, -, h⟩ := bind_eq_ok.1 h
  obtain ⟨functions, -, h⟩ := bind_eq_ok.1 h
  cases h
  simp only [Module.bindings, List.append_assoc, List.map_map]
  exact List.mem_append_left _ (List.mem_map.2 ⟨k, hk, rfl⟩)

/-- Nothing that a file declares is called as the encoder, but for constants. -/
theorem encoder_not_mem_bindings (hn : m.NamesAllowed)
    (hk : ∀ k ∈ m.types.constants, k.key ≠ "encodeURIComponent") :
    "encodeURIComponent" ∉ c.bindings.map Prod.fst := by
  have hvalues : "encodeURIComponent" ∉ c.valueNames := by
    rw [valueNames_eq hm h, List.mem_append, List.mem_append]
    rintro ((hc | he) | hf)
    · obtain ⟨k, hmem, hkey⟩ := List.mem_map.1 hc
      exact hk k hmem hkey
    · obtain ⟨e, hmem, hname⟩ := List.mem_map.1 he
      have htype := (hn.enums e hmem).1
      rw [hname] at htype
      exact absurd htype (by decide)
    · exact functions_disjoint hn hf (by decide)
  have hblocks : "encodeURIComponent" ∉ c.blocks.filterMap blockName? := by
    rw [blockNames_eq h]
    split
    · exact List.not_mem_nil
    · decide
  rw [Module.map_fst_bindings, (consts_and_trailer h).2]
  simp only [Module.valueNames, List.mem_append, List.map_nil, List.not_mem_nil] at hvalues ⊢
  tauto

theorem lookup_encoder (hn : m.NamesAllowed) :
    (∀ k ∈ m.types.constants, k.key ≠ "encodeURIComponent") ∧
        c.scope.lookup "encodeURIComponent" = some .encoder ∨
      (¬ ∀ k ∈ m.types.constants, k.key ≠ "encodeURIComponent") ∧
        ∃ text, c.scope.lookup "encodeURIComponent" = some (.text text) := by
  by_cases hk : ∀ k ∈ m.types.constants, k.key ≠ "encodeURIComponent"
  · refine .inl ⟨hk, ?_⟩
    have hnone : c.bindings.lookup "encodeURIComponent" = none := by
      refine List.lookup_eq_none_iff.2 fun entry hmem => bne_iff_ne.2 fun he => ?_
      exact encoder_not_mem_bindings hm h hn hk (List.mem_map.2 ⟨entry, hmem, he.symm⟩)
    rw [Module.scope, List.lookup_append, hnone]
    rfl
  · refine .inr ⟨hk, ?_⟩
    push Not at hk
    obtain ⟨k, hmem, hkey⟩ := hk
    have hlookup := lookup_of_mem_bindings hm h (mem_bindings_of_constant h hmem)
    exact ⟨k.value, hkey ▸ hlookup⟩

theorem lookup_encoder_iff (hn : m.NamesAllowed) :
    c.scope.lookup "encodeURIComponent" = some .encoder ↔
      ∀ k ∈ m.types.constants, k.key ≠ "encodeURIComponent" := by
  rcases lookup_encoder hm h hn with ⟨hk, he⟩ | ⟨hk, text, he⟩
  · exact iff_of_true he hk
  · refine iff_of_false (fun hs => ?_) hk
    cases he.symm.trans hs

end Files

/-- What names mean where a call builds its URL: what comes of the request has its name already. -/
def callLocals (call : Function) (args : List String) (others : List Value) : Scope :=
  ("res", .other) :: call.paramNames.zip (args.map Value.text ++ others)

theorem callLocals_eq (e : Endpoint) {names args : List String} (hl : args.length = names.length)
    (input output : Option TypeExpr) (others : List Value) :
    ∃ rest ⊆ ["body", "options"], callLocals (callFunction e names input output) args others =
      ("res", .other) :: (names.zip (args.map Value.text) ++ rest.zip others) := by
  refine ⟨(if input.isSome then ["body"] else []) ++ ["options"], ?_, ?_⟩
  · cases input.isSome <;> decide
  · rw [callLocals, paramNames_callFunction, List.zip_append (by rw [List.length_map, hl])]

section Endpoints

variable {s : SchemaSet} {m : SchemaModule} {config : Config} {c : Module}
  (hm : m.Checked s) (h : ofModule config m = .ok c) (hn : m.NamesAllowed) {e : Endpoint}
  (he : e ∈ m.types.endpoints) {parts : List PathPart} (hp : Route.parts e.path = .ok parts)
  {names : List String} (hnames : parts.filterMap PathPart.placeholder? = names)
  {encode : String → String} {args : List String} (hl : args.length = names.length)

include hn he hp hnames in
theorem paramsClear_of_parts : ParamsClear e names names := by
  obtain ⟨hd, -, hf⟩ := hn.placeholders e he names (map_eq_ok.2 ⟨parts, hp, hnames⟩)
  exact paramsClear_placeholders hd hf

include hm h hn he hp hnames hl

theorem evaluates_url_iff {value : Value} :
    Evaluates encode c.scope (names.zip (args.map Value.text)) (pathExpr e.path parts) value ↔
      value = .text (Route.fill (fun name => encode (argumentOf names args name)) e.path) ∧
        (names = [] ∨ ∀ k ∈ m.types.constants, k.key ≠ "encodeURIComponent") := by
  have hfree : "encodeURIComponent" ∉ names :=
    fun hmem => (paramsClear_of_parts hn he hp hnames).apart hmem (by decide)
  have hencoder := lookup_of_not_mem hfree (args.map Value.text) c.scope
  have hargs : ∀ name ∈ parts.filterMap PathPart.placeholder?,
      (names.zip (args.map Value.text) ++ c.scope).lookup name =
        some (.text (argumentOf names args name)) :=
    fun name hmem => lookup_argument hl (hnames ▸ hmem) c.scope
  rw [evaluates_pathExpr_iff hp hargs, hencoder, lookup_encoder_iff hm h hn, hnames]
  rw [hencoder]
  exact (lookup_encoder hm h hn).imp And.right And.right

theorem evaluates_urlCall_iff (hu : urlFunction e parts ∈ c.functions)
    {input output : Option TypeExpr} {others : List Value} {value : Value} :
    Evaluates encode c.scope (callLocals (callFunction e names input output) args others)
        (.call (urlName e) (names.map .ident)) value ↔
      value = .text (Route.fill (fun name => encode (argumentOf names args name)) e.path) ∧
        urlName e ∉ names ∧
        (names = [] ∨ ∀ k ∈ m.types.constants, k.key ≠ "encodeURIComponent") := by
  have hclear := paramsClear_of_parts hn he hp hnames
  obtain ⟨rest, hrest, hlocals⟩ := callLocals_eq e hl input output others
  have houter : ∀ name ≠ "res",
      (callLocals (callFunction e names input output) args others ++ c.scope).lookup name =
        (names.zip (args.map Value.text) ++ (rest.zip others ++ c.scope)).lookup name := by
    intro name hne
    rw [hlocals, List.cons_append, Text.lookup_cons_ite, if_neg hne, List.append_assoc]
  have hurl : urlName e ≠ "res" ∧ urlName e ∉ rest := by
    have hends := suffix_urlName e
    have hnone : ∀ name ∈ ["res", "body", "options"], ¬ "Url".toList <:+ name.toList := by decide
    refine ⟨fun hr => hnone _ (by simp) (hr ▸ hends), fun hmem => ?_⟩
    exact hnone _ (List.mem_cons_of_mem _ (hrest hmem)) hends
  have hargument : ∀ name ∈ names,
      (callLocals (callFunction e names input output) args others ++ c.scope).lookup name =
        some (.text (argumentOf names args name)) := by
    intro name hmem
    have hne : name ≠ "res" := fun hr => hclear.apart hmem (hr ▸ by decide)
    rw [houter name hne, lookup_argument hl hmem]
  by_cases hmem : urlName e ∈ names
  · exact iff_of_false (not_evaluates_call (hargument _ hmem)) fun hand => hand.2.1 hmem
  · have hcallee : (callLocals (callFunction e names input output) args others ++ c.scope).lookup
        (urlName e) = some (.function (urlFunction e parts)) := by
      rw [houter _ hurl.1, lookup_of_not_mem hmem, lookup_of_not_mem hurl.2]
      exact lookup_function hm h hu
    have hvalues : names.map (fun name => (callLocals (callFunction e names input output) args
        others ++ c.scope).lookup name) = (args.map Value.text).map some := by
      have hall := congrArg (List.map (some ∘ Value.text)) (map_argumentOf hclear.distinct hl)
      simpa [List.map_congr_left hargument, Function.comp_def] using hall
    have hcount : (args.map Value.text).length = (urlFunction e parts).params.length := by
      rw [List.length_map, hl, ← hnames, ← paramNames_urlFunction, Function.paramNames,
        List.length_map]
    rw [evaluates_call_iff hcallee hvalues hcount rfl, paramNames_urlFunction, hnames,
      evaluates_url_iff hm h hn he hp hnames hl, and_iff_right hmem]

end Endpoints

end Client

end Frontend

end EventSchema
