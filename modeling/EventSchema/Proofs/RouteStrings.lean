import EventSchema.Proofs.FileStrings

set_option autoImplicit false

namespace EventSchema.Backend

variable {config : Config}

structure EndpointItem.IsPlain (config : Config) (e : EndpointItem) : Prop where
  handler : isCode e.handler = true
  chainVar : isCode e.chainVar = true
  description : ∀ text ∈ e.description, isOneLine text = true
  params : ∀ p ∈ e.params, isCode p = true
  input : ∀ type ∈ e.input, isCode (type.render config) = true
  output : ∀ type ∈ e.output, isCode (type.render config) = true

namespace EndpointItem

theorem isCode_countText (n : Nat) : isCode (countText n) = true :=
  isCode_digits n

theorem isCode_method (e : EndpointItem) : isCode e.method.text = true := by
  cases e.method with
  | get => exact isCode_chars rfl
  | post => exact isCode_chars rfl
  | put => exact isCode_chars rfl
  | patch => exact isCode_chars rfl
  | delete => exact isCode_chars rfl

theorem isCode_of_mem_callArgs (e : EndpointItem) : ∀ arg ∈ e.callArgs, isCode arg = true := by
  have hinput : ∀ arg ∈ if e.input.isSome then ["input"] else [], isCode arg = true := by
    split
    · exact List.forall_mem_singleton.2 (isCode_chars rfl)
    · exact List.forall_mem_nil _
  unfold callArgs
  refine List.forall_mem_cons.2 ⟨isCode_chars rfl, List.forall_mem_append.2 ⟨?_, hinput⟩⟩
  split
  · exact List.forall_mem_nil _
  · exact List.forall_mem_singleton.2 (isCode_chars rfl)
  · exact List.forall_mem_map.2 fun i _ => isCode_start (isCode_countText i) rfl

theorem isCode_of_pathBinding {e : EndpointItem} {name type : String}
    (h : e.pathBinding = some (name, type)) : isCode name = true ∧ isCode type = true := by
  unfold pathBinding at h
  split at h
  · cases h
  · cases h
    exact ⟨isCode_chars rfl, isCode_chars rfl⟩
  · cases h
    refine ⟨isCode_chars rfl, isCode_around (isCode_intercalate (isCode_chars rfl) ?_) rfl⟩
    exact List.forall_mem_map.2 fun _ _ => isCode_chars rfl

theorem isCode_partsBinding (e : EndpointItem) : isCode e.partsBinding = true := by
  unfold partsBinding
  refine isCode_append ?_ ?_
  · split
    · exact isCode_chars rfl
    · exact isCode_chars rfl
  · split
    · exact isCode_chars rfl
    · exact isCode_chars rfl

theorem says_bindOrReturn {name call : String} (hn : isCode name = true)
    (hc : isCode call = true) : Says [bindOrReturn name call] [] := by
  have hopen : isCode ("let " ++ name ++ " = match " ++ call ++ " \x7b") = true :=
    isCode_next (isCode_around hn rfl) hc rfl
  have harm : isCode ("Ok(" ++ name ++ ") => " ++ name ++ ",") = true :=
    isCode_next (isCode_around hn rfl) hn rfl
  refine .nested (.code hopen) ?_ (.code (isCode_chars rfl))
  exact .skip (.code harm) (.chars rfl)

theorem says_pathCode (e : EndpointItem) : Says e.pathCode [] := by
  unfold pathCode
  split
  · next name type hb =>
    obtain ⟨hname, htype⟩ := isCode_of_pathBinding hb
    exact says_bindOrReturn hname (isCode_around htype rfl)
  · exact .nil

namespace IsPlain

variable {e : EndpointItem} (h : e.IsPlain config)
include h

theorem says_documentation : Says e.documentation [] := by
  unfold documentation
  split
  · next text htext =>
    split
    · exact .nil
    · exact .remark (isRemark_append (isRemark_chars rfl) (h.description text htext))
  · exact .nil

theorem isCode_outcome : isCode (e.outcome config) = true := by
  unfold outcome
  split
  · next type ht => exact isCode_around (h.output type ht) rfl
  · exact isCode_chars rfl

theorem says_signature : Says (e.signature config) [] := by
  have hparams : Says (e.params.map fun p => .line (p ++ ": String,")) [] :=
    .map_plain fun p hp => .code (isCode_finish (h.params p hp) rfl)
  have hself : Says [.line "&self,", .line "rctx: RequestContext,"] [] :=
    .skip (.chars rfl) (.chars rfl)
  refine h.says_documentation.append ?_
  refine .nested (.code (isCode_around h.handler rfl)) ((hself.append hparams).append ?_)
    (.code (isCode_around h.isCode_outcome rfl))
  split
  · next type ht => exact .code (isCode_around (h.input type ht) rfl)
  · exact .nil

theorem says_inputCode : Says (e.inputCode config) [] := by
  unfold inputCode
  split
  · next type ht => exact says_bindOrReturn (isCode_chars rfl) (isCode_around (h.input type ht) rfl)
  · exact .nil

theorem says_callCode : Says e.callCode [] := by
  have hcall : isCode ("handlers." ++ e.handler ++ "(" ++ String.intercalate ", " e.callArgs ++
      ").await") = true :=
    isCode_next (isCode_around h.handler rfl)
      (isCode_intercalate (isCode_chars rfl) e.isCode_of_mem_callArgs) rfl
  unfold callCode
  split
  · exact .item (isCode_start hcall rfl) (.skip (.chars rfl) (.chars rfl))
  · exact .code hcall

theorem says_registration {opening closing : String} (ho : isCode opening = true)
    (hc : isCode closing = true) : Says [e.registration config opening closing] [] := by
  have hopen : isCode (opening ++ "on(MethodFilter::" ++ e.method.text ++ ", \x7b") = true :=
    isCode_next (isCode_finish ho rfl) e.isCode_method rfl
  have hparts : Says [.line ("let " ++ e.partsBinding ++ " = request.into_parts();"),
      bindOrReturn "rctx" "chain.run(&parts.headers)"] [] :=
    .skip (.code (isCode_around e.isCode_partsBinding rfl))
      (says_bindOrReturn (isCode_chars rfl) (isCode_chars rfl))
  have hbody := ((hparts.append (says_pathCode e)).append h.says_inputCode).append h.says_callCode
  refine .nested (.code hopen) ?_ (.code (isCode_start hc rfl))
  refine .skip (.chars rfl) ?_
  refine .skip (.code (isCode_around h.chainVar rfl)) ?_
  exact .item (isCode_chars rfl) hbody

end IsPlain

end EndpointItem

namespace RouteItem

theorem says_registrations {opening : String} (ho : isCode opening = true)
    {items : List EndpointItem} (h : ∀ e ∈ items, e.IsPlain config) :
    Says (registrations config opening items) [] := by
  induction items generalizing opening with
  | nil => exact .nil
  | cons e rest ih =>
    obtain ⟨he, hrest⟩ := List.forall_mem_cons.1 h
    cases rest with
    | nil => exact he.says_registration ho (isCode_chars rfl)
    | cons next rest =>
      exact .skip (he.says_registration ho (isCode_chars rfl)) (ih (isCode_chars rfl) hrest)

theorem says_code {closing : String} (hc : isCode closing = true) {r : RouteItem}
    (h : ∀ e ∈ r.endpoints, e.IsPlain config) : Says [r.code config closing] [r.path] := by
  have hpath : LineSays (literal r.path ++ ",") [r.path] := by
    have hend : isCode "," = true := isCode_chars rfl
    simpa only [String.empty_append] using
      LineSays.literal "" (isOpening_chars rfl) r.path (.code hend)
  refine .nested (.code (isCode_chars rfl)) ?_ (.code (isCode_start hc rfl))
  exact .cons_single (.line hpath) (says_registrations (isCode_chars rfl) h)

theorem says_codes {routes : List RouteItem}
    (h : ∀ r ∈ routes, ∀ e ∈ r.endpoints, e.IsPlain config) :
    Says (codes config routes) (routes.map RouteItem.path) := by
  induction routes with
  | nil => exact .nil
  | cons r rest ih =>
    obtain ⟨hr, hrest⟩ := List.forall_mem_cons.1 h
    cases rest with
    | nil => exact says_code (isCode_chars rfl) hr
    | cons next rest => exact .cons_single (says_code (isCode_chars rfl) hr) (ih hrest)

end RouteItem

namespace RestFile

variable {f : RestFile} (h : ∀ e ∈ f.endpoints, e.IsPlain config)
  (hg : ∀ r ∈ f.routes, ∀ e ∈ r.endpoints, e.IsPlain config)

theorem says_uses : Says (Code.paragraphs uses) [] := by
  refine .paragraphs_skip (.skip (.chars rfl) (.chars rfl)) (.paragraphs_single ?_)
  refine .skip (.chars rfl) ?_
  refine .skip (.chars rfl) ?_
  refine .skip (.chars rfl) ?_
  refine .skip (.chars rfl) ?_
  exact .code (isCode_parts rfl)

include h

theorem says_handlers : Says (f.handlers config) [] := by
  have hsignatures : Says (f.endpoints.flatMap (EndpointItem.signature config)) [] :=
    .flatMap_plain fun e he => (h e he).says_signature
  exact .skip (.remark (isRemark_chars rfl)) (.item (isCode_chars rfl) hsignatures)

include hg

theorem says_registerRoutes : Says (f.registerRoutes config)
    (f.endpoints.map EndpointItem.chain ++ f.routes.map RouteItem.path) := by
  have hchains : Says (f.endpoints.map fun e =>
      .line ("let " ++ e.chainVar ++ " = chains.get(" ++ literal e.chain ++ ")?;"))
      (f.endpoints.map EndpointItem.chain) := by
    refine .map_single fun e he => .line ?_
    have hend : isCode ")?;" = true := isCode_chars rfl
    have hvar : isCode ("let " ++ e.chainVar) = true := isCode_start (h e he).chainVar rfl
    have hline := LineSays.literal ("let " ++ e.chainVar ++ " = chains.get(")
      (isOpening_append hvar rfl) e.chain (.code hend)
    simpa only [String.append_assoc] using hline
  have hrouter : Says [if f.routes.isEmpty then .line "let router = Router::new();"
      else .hanging "let router = Router::new()" (RouteItem.codes config f.routes)]
      (f.routes.map RouteItem.path) := by
    split
    · next hempty =>
      rw [List.isEmpty_iff.1 hempty]
      exact .chars rfl
    · exact .hanging (.code (isCode_chars rfl)) (RouteItem.says_codes hg)
  have hend : Says [.line "Ok(router)"] [] := .chars rfl
  have hbody := hchains.append (.skip .empty (hrouter.append hend))
  rw [List.append_nil] at hbody
  refine .skip (.remark (isRemark_chars rfl)) ?_
  refine .skip (.remark (isRemark_chars rfl)) ?_
  refine .skip (.remark (isRemark_chars rfl)) ?_
  exact .item (isCode_parts rfl) hbody

theorem strings?_render (hr : ∀ r ∈ f.records, r.IsPlain config) :
    strings? (f.render config).toList =
      some (f.records.flatMap (fun r => r.fields.map RecordField.key) ++
        (f.endpoints.map EndpointItem.chain ++ f.routes.map RouteItem.path)) := by
  have hrecords := Says.paragraphs_map fun r hm => (hr r hm).says_code true
  have hroutes := Says.paragraphs_single (says_registerRoutes h hg)
  refine strings?_file (isRemark_chars rfl) ?_
  refine .paragraphs_append ?_ (.paragraphs_skip (says_handlers h) hroutes)
  exact .paragraphs_plain_append says_uses hrecords

end RestFile

end EventSchema.Backend
