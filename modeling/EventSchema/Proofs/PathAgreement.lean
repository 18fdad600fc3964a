import EventSchema.Proofs.RouteArguments
import EventSchema.Proofs.UrlEvaluation

/-!
The path of an endpoint on both sides. The client builds it from the arguments of its functions, and
the server takes the values out again; both go by the order of the placeholders in the path.
-/

set_option autoImplicit false

namespace EventSchema

open Outcome

namespace Frontend

namespace Client

/-- The text that the client requests, if the placeholders have these names and arguments. -/
def filledPath (encode : String → String) (names args : List String) (path : String) : String :=
  Route.fill (fun name => encode (argumentOf names args name)) path

structure UrlAgrees (m : SchemaModule) (c : Module) (e : Endpoint) (names : List String)
    (url call : Function) : Prop where
  functions : endpointFunctions e = .ok [url, call]
  exported : url ∈ c.functions ∧ call ∈ c.functions
  called : url.name = urlName e ∧ call.name = e.name
  urlParams : url.params = names.map fun name => ⟨name, .string, false, none⟩
  callParams : ∃ input : Option TypeExpr, input.isSome = e.consumes.isSome ∧
    call.params = (names.map fun name => ⟨name, .string, false, none⟩) ++ bodyParam input ++
      [⟨"options", .named "RequestInit", true, none⟩]
  url : ∃ expr, url.body = [.return (some expr)] ∧ Expr.read? expr.render = some expr ∧
    ∀ encode args value, args.length = names.length →
      (Evaluates encode c.scope (url.paramNames.zip (args.map Value.text)) expr value ↔
        value = .text (filledPath encode names args e.path) ∧
          (names = [] ∨ ∀ k ∈ m.types.constants, k.key ≠ "encodeURIComponent"))
  call : ∃ code sent rest,
    call.body = .const "res" none (.raw ("await fetch(" ++ code ++ ", " ++ sent ++ ")")) :: rest ∧
    Expr.read? code = some (.call (urlName e) (names.map .ident)) ∧
    ∀ encode args others value, args.length = names.length →
      (Evaluates encode c.scope (callLocals call args others)
          (.call (urlName e) (names.map .ident)) value ↔
        value = .text (filledPath encode names args e.path) ∧ urlName e ∉ names ∧
          (names = [] ∨ ∀ k ∈ m.types.constants, k.key ≠ "encodeURIComponent"))

theorem isSome_of_payloadType {payload : Option Datatype} {type : Option TypeExpr}
    (h : payloadType payload = .ok type) : type.isSome = payload.isSome := by
  cases payload with
  | none =>
    cases h
    rfl
  | some dt =>
    obtain ⟨t, -, rfl⟩ := map_eq_ok.1 h
    rfl

theorem isIdentifier_urlName {e : Endpoint} (h : Check.isBindable e.name = true) :
    Naming.isIdentifier (urlName e) = true :=
  Naming.isIdentifier_append (Bool.and_eq_true_iff.1 h).1 (List.all_eq_true.1 (by decide))

theorem urlAgrees_of_endpoint {s : SchemaSet} {m : SchemaModule} {config : Config} {c : Module}
    (hm : m.Checked s) (hn : m.NamesAllowed) (h : ofModule config m = .ok c) {e : Endpoint}
    (he : e ∈ m.types.endpoints) (hb : Check.isBindable e.name = true) :
    ∃ names url call, Route.placeholders e.path = .ok names ∧ UrlAgrees m c e names url call := by
  obtain ⟨names, fs, hplaceholders, hfs, hcalled, hall⟩ := functions_of_endpoint h hn he
  obtain ⟨parts, hp, hf⟩ := bind_eq_ok.1 hfs
  obtain ⟨input, hi, hf⟩ := bind_eq_ok.1 hf
  obtain ⟨output, -, hf⟩ := bind_eq_ok.1 hf
  cases hf
  obtain ⟨others, ho, rfl⟩ := map_eq_ok.1 hplaceholders
  cases hp.symm.trans ho
  have hturns := (Route.takesTurns_of_parts hp).1
  have hexported : ∀ f ∈ _, f ∈ c.functions := fun f hf => (hall f hf).1
  obtain ⟨hurl, hcall⟩ := List.forall_mem_cons.1 hexported
  refine ⟨_, urlFunction e parts, callFunction e _ input output, hplaceholders, {
    functions := hfs
    exported := ⟨hurl, List.forall_mem_singleton.1 hcall⟩
    called := ⟨rfl, rfl⟩
    urlParams := rfl
    callParams := ⟨input, isSome_of_payloadType hi, rfl⟩
    url := ⟨_, rfl, read?_pathExpr hturns e.path, fun encode args value hl => ?_⟩
    call := ⟨_, _, _, rfl, Expr.read?_call (isIdentifier_urlName hb) hturns.isIdentifier,
      fun encode args others value hl => ?_⟩ }⟩
  · rw [paramNames_urlFunction]
    exact evaluates_url_iff hm h hn he hp rfl hl
  · exact evaluates_urlCall_iff hm h hn he hp rfl hl hurl

end Client

end Frontend

namespace Backend

/-- What the server makes of the path of an endpoint: it is the route that the endpoint is
registered for, and the values of the placeholders are the texts that its handler is called with. -/
structure EndpointItem.RouteAgrees (config : Config) (routes : List RouteItem) (e : Endpoint)
    (names : List String) (item : EndpointItem) : Prop where
  route : (∃ r ∈ routes, item ∈ r.endpoints) ∧
    ∀ r ∈ routes, item ∈ r.endpoints → r.path = e.path
  arguments : ∃ (params : List String) (inputs : List (String × String)),
    item.arguments config =
      ("rctx", "RequestContext") :: params.map (fun param => (param, "String")) ++ inputs ∧
    params.map some = names.map fieldIdent? ∧
    inputs.map Prod.fst = if e.consumes.isSome then ["input"] else []
  call : ∀ values, values.length = names.length → ∃ scope, item.scope? values = some scope ∧
    item.callArgs.mapM (argument? scope) =
      some (.context :: values.map .text ++ if e.consumes.isSome then [.input] else [])

theorem EndpointItem.routeAgrees_of_isFor {e : Endpoint} {item : EndpointItem}
    (h : item.IsFor e) (hroute : item.route = e.path) {names : List String}
    (hn : Route.placeholders e.path = .ok names) {items : List EndpointItem}
    (hi : item ∈ items) (config : Config) :
    item.RouteAgrees config (RestFile.routesOf items) e names := by
  have hparams := params_eq h hn
  obtain ⟨hperm, hpaths⟩ := RestFile.routesOf_spec items
  refine {
    route := ⟨List.mem_flatMap.1 (hperm.mem_iff.2 hi),
      fun r hr hm => (hpaths r hr item hm).symm.trans hroute⟩
    arguments := ⟨item.params, item.input.toList.map fun type => ("input", type.render config),
      rfl, hparams, ?_⟩
    call := fun values hl => ?_ }
  · rw [← h.input]
    cases item.input with
    | none => rfl
    | some type => rfl
  · have hcount : values.length = item.params.length := by
      rw [hl, ← List.length_map (f := fieldIdent?), ← hparams, List.length_map]
    rw [← h.input]
    exact callArgs_spec item hcount

end Backend

namespace SchemaSet

open Backend Frontend Client

theorem urlAgrees_of_generate {config : Config} {s : SchemaSet} {files : List Artifact}
    (hg : s.generate config = .ok files) {m : SchemaModule} (hm : m ∈ s.modules) {c : Module}
    (hc : Client.ofModule config m = .ok c) {e : Endpoint} (he : e ∈ m.types.endpoints) :
    ∃ names url call, Route.placeholders e.path = .ok names ∧ UrlAgrees m c e names url call :=
  urlAgrees_of_endpoint (checked_of_generate hg hm) (namesAllowed_of_generate hg hm) hc he
    (isBindable_of_generate hg hm he)

/-- Client and server agree on the path of every endpoint. The functions of the client take its
placeholders, in order, and what they request is the path filled with the encoded arguments, unless
a constant hides the encoder or a placeholder hides the function that builds the URL; then they have
no value at all. The server registers the path and passes on the values in the same order. -/
theorem endpoint_paths_agree {config : Config} {s : SchemaSet} {files : List Artifact}
    (hg : s.generate config = .ok files) {m : SchemaModule} (hm : m ∈ s.modules) :
    ∃ c f, Client.ofModule config m = .ok c ∧
      ⟨.frontend, Section.path m.id .client, c.render⟩ ∈ files ∧
      RestFile.ofEndpoints m.id m.types.endpoints = .ok f ∧
      (m.types.endpoints ≠ [] →
        ⟨.backend, Section.path m.id .rest, f.render config⟩ ∈ files) ∧
      List.Forall₂ (fun e item => ∃ names url call, Route.placeholders e.path = .ok names ∧
          UrlAgrees m c e names url call ∧ item.RouteAgrees config f.routes e names)
        m.types.endpoints f.endpoints := by
  obtain ⟨c, hc, hclient⟩ := client_of_generate hg hm
  obtain ⟨f, hf, hrest⟩ := rest_of_generate hg hm
  have hitems := RestFile.items_of_endpoints hf
  obtain ⟨hpaths, hroutes⟩ := RestFile.routes_of_endpoints hf
  refine ⟨c, f, hc, hclient, hf, hrest, ?_⟩
  refine List.forall₂_iff_get.2 ⟨hitems.length_eq, fun i he hi => ?_⟩
  have hmem := List.get_mem m.types.endpoints ⟨i, he⟩
  obtain ⟨names, url, call, hn, hurl⟩ := urlAgrees_of_generate hg hm hc hmem
  refine ⟨names, url, call, hn, hurl, ?_⟩
  rw [hroutes]
  exact EndpointItem.routeAgrees_of_isFor (hitems.get he hi) (hpaths.get he hi) hn
    (List.get_mem _ _) config

theorem endpoint_paths_agree_put :
    ∃ (s : SchemaSet) (files : List Artifact) (m : SchemaModule) (c : Module) (f : RestFile)
      (e : Endpoint) (item : EndpointItem) (url call : Function) (expr : Expr),
      s.generate {} = .ok files ∧ m ∈ s.modules ∧ e ∈ m.types.endpoints ∧ item ∈ f.endpoints ∧
      Client.ofModule {} m = .ok c ∧ RestFile.ofEndpoints m.id m.types.endpoints = .ok f ∧
      endpointFunctions e = .ok [url, call] ∧ url.paramNames = ["id", "type"] ∧
      call.paramNames = ["id", "type", "body", "options"] ∧ url.body = [.return (some expr)] ∧
      Evaluates id c.scope (url.paramNames.zip [.text "a", .text "b"]) expr (.text "/x/a/y/b") ∧
      Evaluates id c.scope (callLocals call ["a", "b"] [.other, .other])
        (.call "putUrl" [.ident "id", .ident "type"]) (.text "/x/a/y/b") ∧
      item.callArgs = ["rctx", "params.0", "params.1", "input"] ∧
      ∃ scope, item.scope? ["a", "b"] = some scope ∧
        item.callArgs.mapM (argument? scope) = some [.context, .text "a", .text "b", .input] := by
  let e : Endpoint := ⟨.put, "/x/\x7bid\x7d/y/\x7btype\x7d", "put", "public", none,
    some (.node "string" none none false), none⟩
  let m : SchemaModule := { id := "m", types := { endpoints := [e] } }
  have hcheck : check ⟨[m]⟩ = .ok () := by cbv
  have htypes : TypesFile.ofModule m = .ok ⟨[], [], []⟩ := eq_ok_of_toOption (by decide +kernel)
  have hevents : EventsFile.ofEvents m.id m.events = .ok ⟨[], []⟩ :=
    eq_ok_of_toOption (by decide +kernel)
  have hcallArgs : (RestFile.ofEndpoints m.id m.types.endpoints).map
      (fun f => f.endpoints.map EndpointItem.callArgs) =
        .ok [["rctx", "params.0", "params.1", "input"]] := eq_ok_of_toOption (by decide +kernel)
  have hplaceholders : Route.placeholders e.path = .ok ["id", "type"] :=
    eq_ok_of_toOption (by decide +kernel)
  have hparams : (endpointFunctions e).map (List.map Function.paramNames) =
      .ok [["id", "type"], ["id", "type", "body", "options"]] :=
    eq_ok_of_toOption (by decide +kernel)
  have hfilled : filledPath id ["id", "type"] ["a", "b"] e.path = "/x/a/y/b" := by decide +kernel
  obtain ⟨f, hrest, hcallArgs⟩ := map_eq_ok.1 hcallArgs
  obtain ⟨fs, hfs, hparams⟩ := map_eq_ok.1 hparams
  obtain ⟨files, hg⟩ := generate_single {} hcheck htypes hevents hrest
  obtain ⟨c, f', hc, -, hf', -, hall⟩ := endpoint_paths_agree hg (List.mem_singleton_self m)
  cases hrest.symm.trans hf'
  obtain ⟨item, hitem, names, url, call, hn, hurl, hroute⟩ :=
    mem_of_forall₂ hall (List.mem_singleton_self e)
  cases hplaceholders.symm.trans hn
  cases hfs.symm.trans hurl.functions
  obtain ⟨hurlParams, hcallParams⟩ := List.cons.inj hparams
  obtain ⟨expr, hbody, -, hvalue⟩ := hurl.url
  obtain ⟨code, sent, rest, -, -, hcallValue⟩ := hurl.call
  have hargs : item.callArgs = ["rctx", "params.0", "params.1", "input"] := by
    have hmem : item.callArgs ∈ f.endpoints.map EndpointItem.callArgs := List.mem_map_of_mem hitem
    rw [hcallArgs] at hmem
    exact List.mem_singleton.1 hmem
  refine ⟨⟨[m]⟩, files, m, c, f, e, item, url, call, expr, hg, List.mem_singleton_self m,
    List.mem_singleton_self e, hitem, hc, hrest, hfs, hurlParams, (List.cons.inj hcallParams).1,
    hbody, ?_, ?_, hargs, hroute.call ["a", "b"] rfl⟩
  · exact (hvalue id ["a", "b"] _ rfl).2 ⟨congrArg Value.text hfilled.symm, .inr (by simp [m])⟩
  · refine (hcallValue id ["a", "b"] _ _ rfl).2 ⟨congrArg Value.text hfilled.symm, ?_, .inr ?_⟩
    · decide
    · simp [m]

/-- A placeholder that is called as the URL of its endpoint, and in another module a constant that
is called as the encoder, pass all checks. The call of the one and the URL of the other have no
value. -/
theorem endpoint_paths_differ_hidden :
    ∃ (s : SchemaSet) (files : List Artifact) (a b : SchemaModule) (ca cb : Module)
      (ea eb : Endpoint) (urlA callA urlB callB : Function) (expr : Expr),
      s.generate {} = .ok files ∧ a ∈ s.modules ∧ b ∈ s.modules ∧
      Client.ofModule {} a = .ok ca ∧ Client.ofModule {} b = .ok cb ∧
      ea ∈ a.types.endpoints ∧ endpointFunctions ea = .ok [urlA, callA] ∧
      urlA.name = "getUrl" ∧ callA.paramNames = ["getUrl", "options"] ∧
      (∀ encode arg others value, ¬ Evaluates encode ca.scope (callLocals callA [arg] others)
        (.call "getUrl" [.ident "getUrl"]) value) ∧
      eb ∈ b.types.endpoints ∧ endpointFunctions eb = .ok [urlB, callB] ∧
      urlB.body = [.return (some expr)] ∧ ∀ encode arg value,
        ¬ Evaluates encode cb.scope (urlB.paramNames.zip [.text arg]) expr value := by
  let ea : Endpoint := ⟨.get, "/x/\x7bgetUrl\x7d", "get", "public", none, none, none⟩
  let eb : Endpoint := ⟨.get, "/y/\x7bid\x7d", "load", "public", none, none, none⟩
  let a : SchemaModule := { id := "a", types := { endpoints := [ea] } }
  let b : SchemaModule := {
    id := "b"
    types := { constants := [⟨"encodeURIComponent", "x"⟩], endpoints := [eb] } }
  let s : SchemaSet := ⟨[a, b]⟩
  have hcheck : s.check = .ok () := by cbv
  have hdraft : ∀ m ∈ s.modules, ∀ part ∈ Section.drafting,
      (part.content {} m).toOption.isSome = true := by decide +kernel
  have hnamesA : Route.placeholders ea.path = .ok ["getUrl"] :=
    eq_ok_of_toOption (by decide +kernel)
  have hnamesB : Route.placeholders eb.path = .ok ["id"] := eq_ok_of_toOption (by decide +kernel)
  have hparams : (endpointFunctions ea).map (List.map Function.paramNames) =
      .ok [["getUrl"], ["getUrl", "options"]] := eq_ok_of_toOption (by decide +kernel)
  have ha : a ∈ s.modules := List.mem_cons_self
  have hb : b ∈ s.modules := List.mem_cons_of_mem _ List.mem_cons_self
  have hea : ea ∈ a.types.endpoints := List.mem_singleton_self ea
  have heb : eb ∈ b.types.endpoints := List.mem_singleton_self eb
  obtain ⟨files, hg⟩ := generate_of_drafts {} hcheck hdraft
  obtain ⟨ca, hca, -⟩ := client_of_generate hg ha
  obtain ⟨cb, hcb, -⟩ := client_of_generate hg hb
  obtain ⟨namesA, urlA, callA, hA, hurlA⟩ := urlAgrees_of_generate hg ha hca hea
  obtain ⟨namesB, urlB, callB, hB, hurlB⟩ := urlAgrees_of_generate hg hb hcb heb
  cases hnamesA.symm.trans hA
  cases hnamesB.symm.trans hB
  rw [hurlA.functions] at hparams
  obtain ⟨-, hcallParams⟩ := List.cons.inj (Except.ok.inj hparams)
  obtain ⟨code, sent, rest, -, -, hvalueA⟩ := hurlA.call
  obtain ⟨expr, hbody, -, hvalueB⟩ := hurlB.url
  refine ⟨s, files, a, b, ca, cb, ea, eb, urlA, callA, urlB, callB, expr, hg, ha, hb, hca, hcb,
    hea, hurlA.functions, hurlA.called.1, (List.cons.inj hcallParams).1,
    fun encode arg others value hv => ?_, heb, hurlB.functions, hbody,
    fun encode arg value hv => ?_⟩
  · obtain ⟨-, hfree, -⟩ := (hvalueA encode [arg] others value rfl).1 hv
    exact hfree (by decide)
  · obtain ⟨-, hnone | hfree⟩ := (hvalueB encode [arg] value rfl).1 hv
    · cases hnone
    · exact hfree _ (List.mem_singleton_self _) rfl

end SchemaSet

end EventSchema
