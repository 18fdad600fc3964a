import EventSchema.Proofs.NameRules

/-!
Names in the generated clients and what they mean. The two functions of an endpoint have its
placeholders as parameters; their bodies name globals, names of the file, and the function that
builds the URL. The checks keep the placeholders away from all of them but the last, and the names
of endpoints away from the globals; constants may have the name of a global, and so may enums if it
starts with a capital.
-/

set_option autoImplicit false

namespace EventSchema

open Outcome

namespace Frontend

def Function.paramNames (f : Function) : List String :=
  f.params.map Parameter.name

/-- Whether a type is there at run time, too. -/
def TypeDef.isValue (d : TypeDef) : Bool :=
  match d.body with
  | .enumeration _ => true
  | .interface _ | .alias _ => false

def Module.valueNames (c : Module) : List String :=
  c.consts.map ConstDef.name ++ (c.types.filter TypeDef.isValue).map TypeDef.name ++
    c.functions.map Function.name

namespace Client

/-- What the functions of an endpoint refer to by name, but for its URL. -/
def bodyNames : List String := ["fetch", "encodeURIComponent", "JSON", "ApiError", "res"]

def globals : List String := ["fetch", "encodeURIComponent", "JSON", "alert", "Error", "String"]

theorem paramNames_urlFunction (e : Endpoint) (parts : List PathPart) :
    (urlFunction e parts).paramNames = parts.filterMap PathPart.placeholder? := by
  simp [Function.paramNames, urlFunction, placeholderParams, Function.comp_def]

theorem paramNames_callFunction (e : Endpoint) (names : List String)
    (input output : Option TypeExpr) :
    (callFunction e names input output).paramNames =
      names ++ ((if input.isSome then ["body"] else []) ++ ["options"]) := by
  cases input with
  | none =>
    simp [Function.paramNames, callFunction, placeholderParams, bodyParam, Function.comp_def]
  | some type =>
    simp [Function.paramNames, callFunction, placeholderParams, bodyParam, Function.comp_def]

theorem endpointFunctions_eq_ok {e : Endpoint} {fs : List Function}
    (h : endpointFunctions e = .ok fs) :
    ∃ parts input output, Route.parts e.path = .ok parts ∧
      fs = [urlFunction e parts,
        callFunction e (parts.filterMap PathPart.placeholder?) input output] := by
  obtain ⟨parts, hp, h⟩ := bind_eq_ok.1 h
  obtain ⟨input, -, h⟩ := bind_eq_ok.1 h
  obtain ⟨output, -, h⟩ := bind_eq_ok.1 h
  cases h
  exact ⟨parts, input, output, hp, rfl⟩

theorem suffix_urlName (e : Endpoint) : "Url".toList <:+ (urlName e).toList := by
  rw [urlName, String.toList_append]
  exact List.suffix_append _ _

/-- What holds of the parameters of both functions of an endpoint. -/
structure ParamsClear (e : Endpoint) (names params : List String) : Prop where
  distinct : params.Nodup
  apart : params.Disjoint bodyNames
  url : urlName e ∈ params ↔ urlName e ∈ names

section Parameters

variable {e : Endpoint} {names : List String} (hd : names.Nodup)
  (hf : ∀ name ∈ names, Check.isFreePlaceholder name = true)
include hd hf

theorem paramsClear_placeholders : ParamsClear e names names := by
  refine ⟨hd, fun name hn hb => ?_, .rfl⟩
  have hall : ∀ name ∈ bodyNames, Check.isFreePlaceholder name = false := by decide
  exact absurd (hf name hn) (by simp [hall name hb])

theorem paramsClear_append {others : List String} (ho : others.Sublist ["body", "options"]) :
    ParamsClear e names (names ++ others) := by
  have hsub : ∀ name ∈ others, name ∈ ["body", "options"] := fun _ => ho.mem
  have hrefused : ∀ name ∈ ["body", "options"], Check.isFreePlaceholder name = false := by decide
  have hbody : ∀ name ∈ ["body", "options"], name ∉ bodyNames := by decide
  have hurl : ∀ name ∈ ["body", "options"], ¬ "Url".toList <:+ name.toList := by decide
  have hnames := paramsClear_placeholders (e := e) hd hf
  refine ⟨?_, ?_, ?_⟩
  · refine hd.append (ho.nodup (by decide)) fun name hn hm => ?_
    exact absurd (hf name hn) (by simp [hrefused name (hsub name hm)])
  · exact List.disjoint_append_left.2 ⟨hnames.apart, fun name hn => hbody name (hsub name hn)⟩
  · refine List.mem_append.trans (or_iff_left fun hm => ?_)
    exact hurl _ (hsub _ hm) (suffix_urlName e)

end Parameters

section Files

variable {s : SchemaSet} {m : SchemaModule} {config : Config} {c : Module}

theorem functions_of_endpoint (h : ofModule config m = .ok c) (hn : m.NamesAllowed) {e : Endpoint}
    (he : e ∈ m.types.endpoints) :
    ∃ names fs, Route.placeholders e.path = .ok names ∧ endpointFunctions e = .ok fs ∧
      fs.map Function.name = [urlName e, e.name] ∧
      ∀ f ∈ fs, f ∈ c.functions ∧ ParamsClear e names f.paramNames := by
  obtain ⟨interfaces, -, h⟩ := bind_eq_ok.1 h
  obtain ⟨functions, hfunctions, h⟩ := bind_eq_ok.1 h
  cases h
  obtain ⟨fs, hm, hfs⟩ := mem_of_mapM_eq_ok hfunctions he
  obtain ⟨parts, input, output, hp, rfl⟩ := endpointFunctions_eq_ok hfs
  have hplaceholders : Route.placeholders e.path =
      .ok (parts.filterMap PathPart.placeholder?) := map_eq_ok.2 ⟨parts, hp, rfl⟩
  obtain ⟨hd, -, hfree⟩ := hn.placeholders e he _ hplaceholders
  refine ⟨_, _, hplaceholders, hfs, rfl, fun f hf => ⟨?_, ?_⟩⟩
  · exact List.mem_append_right _ (List.mem_flatten.2 ⟨_, hm, hf⟩)
  · simp only [List.mem_cons, List.not_mem_nil, or_false] at hf
    rcases hf with rfl | rfl
    · rw [paramNames_urlFunction]
      exact paramsClear_placeholders hd hfree
    · rw [paramNames_callFunction]
      refine paramsClear_append hd hfree ?_
      cases input with
      | none => decide
      | some type => exact List.Sublist.refl _

theorem valueTypes_eq (hm : m.Checked s) {interfaces : List (Option TypeDef)}
    (hi : m.types.types.mapM typeDef? = .ok interfaces) :
    (interfaces.filterMap id).filter TypeDef.isValue = [] := by
  refine List.filter_eq_nil_iff.2 fun d hd => ?_
  obtain ⟨d', hd', he⟩ := List.mem_filterMap.1 hd
  obtain ⟨t, ht, htype⟩ := (mem_iff_of_mapM_eq_ok hi).1 hd'
  obtain ⟨fields, hs⟩ := (hm.types t ht).2
  obtain ⟨ps, rfl⟩ := typeDef?_eq_ok hs htype
  cases he
  simp [TypeDef.isValue]

theorem functionNames_eq (h : ofModule config m = .ok c) :
    c.functions.map Function.name =
      m.types.enums.map (fun e => e.name ++ "Exhaustive" ++ e.digest) ++
        m.types.endpoints.flatMap fun e => [urlName e, e.name] := by
  obtain ⟨interfaces, -, h⟩ := bind_eq_ok.1 h
  obtain ⟨functions, hf, h⟩ := bind_eq_ok.1 h
  cases h
  have hnames : functions.flatMap (List.map Function.name) =
      m.types.endpoints.flatMap fun e => [urlName e, e.name] := by
    refine flatMap_of_mapM_eq_ok hf fun e _ fs hfs => ?_
    obtain ⟨parts, input, output, -, rfl⟩ := endpointFunctions_eq_ok hfs
    rfl
  rw [List.map_append, List.map_flatten, ← hnames, List.flatMap_def, List.map_map]
  rfl

theorem valueNames_eq (hm : m.Checked s) (h : ofModule config m = .ok c) :
    c.valueNames = m.types.constants.map Constant.key ++ m.types.enums.map Enumeration.name ++
      (m.types.enums.map (fun e => e.name ++ "Exhaustive" ++ e.digest) ++
        m.types.endpoints.flatMap fun e => [urlName e, e.name]) := by
  rw [Module.valueNames, functionNames_eq h]
  obtain ⟨interfaces, hi, h⟩ := bind_eq_ok.1 h
  obtain ⟨functions, -, h⟩ := bind_eq_ok.1 h
  cases h
  -- of the types only the enums are values
  have halias : (if m.types.usesDatetime then [⟨datetimeAlias, .alias .string⟩] else [] :
      List TypeDef).filter TypeDef.isValue = [] := by
    split <;> rfl
  have henums : (m.types.enums.map enumDef).filter TypeDef.isValue = m.types.enums.map enumDef :=
    List.filter_eq_self.2 (List.forall_mem_map.2 fun _ _ => rfl)
  simp only [List.filter_append, halias, henums, valueTypes_eq hm hi, List.nil_append,
    List.append_nil, List.map_map]
  rfl

theorem functions_disjoint (hn : m.NamesAllowed) :
    (m.types.enums.map (fun e => e.name ++ "Exhaustive" ++ e.digest) ++
      m.types.endpoints.flatMap fun e => [urlName e, e.name]).Disjoint globals := by
  have hinside : ∀ name ∈ globals, ¬ "Exhaustive".toList <:+: name.toList := by decide
  have hends : ∀ name ∈ globals, ¬ "Url".toList <:+ name.toList := by decide
  have hbody : ∀ name ∈ globals, name ∈ Check.clientBodyNames := by decide
  refine List.disjoint_append_left.2 ⟨List.forall_mem_map.2 fun e _ hg => ?_, fun name hm hg => ?_⟩
  · refine hinside _ hg ⟨e.name.toList, e.digest.toList, ?_⟩
    rw [String.toList_append, String.toList_append]
  · obtain ⟨e, he, hm⟩ := List.mem_flatMap.1 hm
    simp only [List.mem_cons, List.not_mem_nil, or_false] at hm
    rcases hm with rfl | rfl
    · exact hends _ hg (suffix_urlName e)
    · exact hn.endpoints e he (hbody _ hg)

/-- Enums start with a capital, and may not be called as some types of the other side. -/
theorem enum_not_mem_globals_iff {e : Enumeration} (ht : Check.isTypeName e.name = true)
    (hp : e.name ∉ Check.preludeTypes) : e.name ∉ globals ↔ e.name ∉ ["JSON", "Error"] := by
  have hall : ∀ name ∈ globals,
      name ∈ ["JSON", "Error"] ∨ Check.isTypeName name = false ∨ name ∈ Check.preludeTypes := by
    decide
  have hsub : ∀ name ∈ ["JSON", "Error"], name ∈ globals := by decide
  refine not_congr ⟨fun hg => ?_, hsub _⟩
  rcases hall _ hg with h | h | h
  · exact h
  · simp [ht] at h
  · exact absurd h hp

theorem valueNames_disjoint_iff (hm : m.Checked s) (hn : m.NamesAllowed)
    (h : ofModule config m = .ok c) :
    c.valueNames.Disjoint globals ↔ (∀ k ∈ m.types.constants, k.key ∉ globals) ∧
      ∀ e ∈ m.types.enums, e.name ∉ ["JSON", "Error"] := by
  rw [valueNames_eq hm h, List.disjoint_append_left, List.disjoint_append_left,
    and_iff_left (functions_disjoint hn)]
  refine and_congr List.forall_mem_map (List.forall_mem_map.trans ?_)
  exact forall₂_congr fun e he =>
    enum_not_mem_globals_iff (hn.enums e he).1 (hn.enums e he).2.1

end Files

end Client

end Frontend

namespace SchemaSet

open Backend Frontend Client

/-- The parameters of both functions of an endpoint are distinct, and none is a name that the bodies
refer to, but for the URL of the endpoint, which is one if and only if it is a placeholder. What the
client declares leaves the globals alone if and only if no constant has the name of one, and no enum
is called `JSON` or `Error`. -/
theorem client_names_free {config : Config} {s : SchemaSet} {files : List Artifact}
    (hg : s.generate config = .ok files) {m : SchemaModule} (hm : m ∈ s.modules) :
    ∃ c, Client.ofModule config m = .ok c ∧
      ⟨.frontend, Section.path m.id .client, c.render⟩ ∈ files ∧
      (∀ e ∈ m.types.endpoints, ∃ names fs, Route.placeholders e.path = .ok names ∧
        endpointFunctions e = .ok fs ∧ fs.map Function.name = [urlName e, e.name] ∧
        ∀ f ∈ fs, f ∈ c.functions ∧ f.paramNames.Nodup ∧ f.paramNames.Disjoint bodyNames ∧
          (urlName e ∈ f.paramNames ↔ urlName e ∈ names)) ∧
      (c.valueNames.Disjoint globals ↔ (∀ k ∈ m.types.constants, k.key ∉ globals) ∧
        ∀ e ∈ m.types.enums, e.name ∉ ["JSON", "Error"]) := by
  have hchecked := checked_of_generate hg hm
  have hnames := namesAllowed_of_generate hg hm
  obtain ⟨c, hc, hfile⟩ := client_of_generate hg hm
  refine ⟨c, hc, hfile, fun e he => ?_, valueNames_disjoint_iff hchecked hnames hc⟩
  obtain ⟨names, fs, hn, hfs, hcalled, hall⟩ := functions_of_endpoint hc hnames he
  refine ⟨names, fs, hn, hfs, hcalled, fun f hf => ?_⟩
  obtain ⟨hmem, hclear⟩ := hall f hf
  exact ⟨hmem, hclear.distinct, hclear.apart, hclear.url⟩

theorem client_names_free_url :
    ∃ (s : SchemaSet) (files : List Artifact) (m : SchemaModule) (c : Module) (e : Endpoint)
      (fs : List Function),
      s.generate {} = .ok files ∧ m ∈ s.modules ∧ Client.ofModule {} m = .ok c ∧
      e ∈ m.types.endpoints ∧ endpointFunctions e = .ok fs ∧
      fs.map Function.paramNames = [["putUrl", "id"], ["putUrl", "id", "body", "options"]] ∧
      (∀ f ∈ fs, f.paramNames.Nodup ∧ f.paramNames.Disjoint bodyNames ∧
        urlName e ∉ f.paramNames) ∧
      c.valueNames = ["limit", "sendUrl", "send"] ∧ c.valueNames.Disjoint globals := by
  let e : Endpoint := ⟨.put, "/\x7bputUrl\x7d/\x7bid\x7d", "send", "public", none,
    some (.node "string" none none false), none⟩
  let m : SchemaModule := {
    id := "m"
    types := { constants := [⟨"limit", "9"⟩], endpoints := [e] } }
  have hcheck : check ⟨[m]⟩ = .ok () := by cbv
  have htypes : TypesFile.ofModule m = .ok ⟨[("LIMIT", "9")], [], []⟩ :=
    eq_ok_of_toOption (by decide +kernel)
  have hevents : EventsFile.ofEvents m.id m.events = .ok ⟨[], []⟩ :=
    eq_ok_of_toOption (by decide +kernel)
  have hrest : (RestFile.ofEndpoints m.id m.types.endpoints).map
      (fun f => f.endpoints.map EndpointItem.handler) = .ok ["send"] :=
    eq_ok_of_toOption (by decide +kernel)
  have hplaceholders : Route.placeholders e.path = .ok ["putUrl", "id"] :=
    eq_ok_of_toOption (by decide +kernel)
  have hparams : (endpointFunctions e).map (List.map Function.paramNames) =
      .ok [["putUrl", "id"], ["putUrl", "id", "body", "options"]] :=
    eq_ok_of_toOption (by decide +kernel)
  have hvalues : (Client.ofModule {} m).map Module.valueNames = .ok ["limit", "sendUrl", "send"] :=
    eq_ok_of_toOption (by decide +kernel)
  obtain ⟨r, hrest, -⟩ := map_eq_ok.1 hrest
  obtain ⟨fs, hfs, hparams⟩ := map_eq_ok.1 hparams
  obtain ⟨c, hclient, hvalues⟩ := map_eq_ok.1 hvalues
  obtain ⟨files, hg⟩ := generate_single {} hcheck htypes hevents hrest
  obtain ⟨c', hc', -, hfunctions, hclear⟩ := client_names_free hg (List.mem_singleton_self m)
  cases hclient.symm.trans hc'
  obtain ⟨names, fs', hn, hfs', -, hall⟩ := hfunctions e (List.mem_singleton_self e)
  cases hplaceholders.symm.trans hn
  cases hfs.symm.trans hfs'
  refine ⟨⟨[m]⟩, files, m, c, e, fs, hg, List.mem_singleton_self m, hclient,
    List.mem_singleton_self e, hfs, hparams, fun f hf => ?_, hvalues,
    hclear.2 (by decide +kernel)⟩
  obtain ⟨-, hd, hb, hu⟩ := hall f hf
  exact ⟨hd, hb, fun hm => absurd (hu.1 hm) (by decide +kernel)⟩

/-- A placeholder that is called as the URL of its endpoint, a constant `fetch` and an enum `Error`
pass all checks. -/
theorem client_names_captured_url :
    ∃ (s : SchemaSet) (files : List Artifact) (m : SchemaModule) (c : Module) (e : Endpoint)
      (fs : List Function),
      s.generate {} = .ok files ∧ m ∈ s.modules ∧ Client.ofModule {} m = .ok c ∧
      e ∈ m.types.endpoints ∧ endpointFunctions e = .ok fs ∧ urlName e = "getUrl" ∧
      fs.map Function.paramNames = [["getUrl"], ["getUrl", "options"]] ∧
      c.consts.map ConstDef.name = ["fetch"] ∧ c.types.map TypeDef.name = ["Error"] ∧
      ¬ c.valueNames.Disjoint globals := by
  let e : Endpoint := ⟨.get, "/\x7bgetUrl\x7d", "get", "public", none, none, none⟩
  let m : SchemaModule := {
    id := "m"
    types := {
      constants := [⟨"fetch", "a"⟩]
      enums := [⟨"Error", ["a"]⟩]
      endpoints := [e] } }
  have htypes : (TypesFile.ofModule m).map TypesFile.constants = .ok [("FETCH", "a")] :=
    eq_ok_of_toOption (by decide +kernel)
  have hevents : EventsFile.ofEvents m.id m.events = .ok ⟨[], []⟩ :=
    eq_ok_of_toOption (by decide +kernel)
  have hrest : (RestFile.ofEndpoints m.id m.types.endpoints).map
      (fun f => f.endpoints.map EndpointItem.handler) = .ok ["get"] :=
    eq_ok_of_toOption (by decide +kernel)
  have hparams : (endpointFunctions e).map (List.map Function.paramNames) =
      .ok [["getUrl"], ["getUrl", "options"]] := eq_ok_of_toOption (by decide +kernel)
  have hclient : (Client.ofModule {} m).map
      (fun c => (c.consts.map ConstDef.name, c.types.map TypeDef.name)) =
        .ok (["fetch"], ["Error"]) := eq_ok_of_toOption (by decide +kernel)
  obtain ⟨t, htypes, -⟩ := map_eq_ok.1 htypes
  obtain ⟨r, hrest, -⟩ := map_eq_ok.1 hrest
  obtain ⟨fs, hfs, hparams⟩ := map_eq_ok.1 hparams
  obtain ⟨c, hclient, hnames⟩ := map_eq_ok.1 hclient
  obtain ⟨hconsts, htypeNames⟩ := Prod.mk.inj hnames
  have hcheck : check ⟨[m]⟩ = .ok () := by cbv
  obtain ⟨files, hg⟩ := generate_single {} hcheck htypes hevents hrest
  refine ⟨⟨[m]⟩, files, m, c, e, fs, hg, List.mem_singleton_self m, hclient,
    List.mem_singleton_self e, hfs, rfl, hparams, hconsts, htypeNames, fun hd => ?_⟩
  have hmem : "fetch" ∈ c.consts.map ConstDef.name := by
    rw [hconsts]
    exact List.mem_singleton_self _
  exact hd (List.mem_append_left _ (List.mem_append_left _ hmem)) (by decide)

end SchemaSet

end EventSchema
