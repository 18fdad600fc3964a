import EventSchema.Proofs.Routing
import EventSchema.Sample.Contacts

set_option autoImplicit false

namespace EventSchema.Sample

open Http

variable {σ : Type}

inductive ContactCall where
  | listContacts
  | addContact (input : Contact)
  | getContact (id : String)
  | removeContact (id : String)
  | getAddress (userId idx : String)
  | rootFolder
deriving DecidableEq

abbrev ContactLog := List (RequestContext × ContactCall)

namespace ContactHandlers

def answer (h : ContactHandlers σ) (context : RequestContext) (s : σ) : ContactCall → Response × σ
  | .listContacts =>
    respond (fun contacts => .arr (contacts.map Contact.toJson)) (h.listContacts context s)
  | .addContact input => respond Contact.toJson (h.addContact context input s)
  | .getContact id => respond Contact.toJson (h.getContact context id s)
  | .removeContact id => h.removeContact context id s
  | .getAddress userId idx => respond Address.toJson (h.getAddress context userId idx s)
  | .rootFolder => respond Folder.toJson (h.rootFolder context s)

def note {α : Type} (log : ContactLog) (context : RequestContext) (call : ContactCall)
    (result : α × σ) : α × σ × ContactLog :=
  (result.1, result.2, log ++ [(context, call)])

def noting (h : ContactHandlers σ) : ContactHandlers (σ × ContactLog) where
  listContacts context s := note s.2 context .listContacts (h.listContacts context s.1)
  addContact context input s :=
    note s.2 context (.addContact input) (h.addContact context input s.1)
  getContact context id s := note s.2 context (.getContact id) (h.getContact context id s.1)
  removeContact context id s :=
    note s.2 context (.removeContact id) (h.removeContact context id s.1)
  getAddress context userId idx s :=
    note s.2 context (.getAddress userId idx) (h.getAddress context userId idx s.1)
  rootFolder context s := note s.2 context .rootFolder (h.rootFolder context s.1)

theorem answer_noting (h : ContactHandlers σ) (context : RequestContext) (s : σ)
    (log : ContactLog) (call : ContactCall) :
    h.noting.answer context (s, log) call = note log context call (h.answer context s call) := by
  have hrespond : ∀ {α : Type} (encode : α → Json) (result : Except Response α × σ),
      respond encode (note log context call result) =
        note log context call (respond encode result) := by
    rintro α encode ⟨output | response, s⟩ <;> rfl
  cases call with
  | removeContact id => rfl
  | _ => exact hrespond _ _

end ContactHandlers

inductive ContactEndpoint where
  | listContacts
  | addContact
  | getContact
  | removeContact
  | getAddress
  | rootFolder
deriving DecidableEq, Repr

namespace ContactEndpoint

def all : List ContactEndpoint :=
  [listContacts, addContact, getContact, removeContact, getAddress, rootFolder]

theorem mem_all (e : ContactEndpoint) : e ∈ all := by
  cases e <;> decide

def method : ContactEndpoint → Method
  | .addContact => .post
  | .removeContact => .delete
  | _ => .get

def path : ContactEndpoint → String
  | .listContacts | .addContact => "/contacts"
  | .getContact | .removeContact => "/contacts/\x7bid\x7d"
  | .getAddress => "/users/\x7buserId\x7d/addresses/\x7bidx\x7d"
  | .rootFolder => "/folders/root"

def chain : ContactEndpoint → String
  | .addContact | .removeContact => "authenticated"
  | _ => "public"

def oneParam (raw : List String) : Except Response String := do
  match ← pathParams raw with
  | [text] => .ok text
  | _ => .error noRoute

def twoParams (raw : List String) : Except Response (String × String) := do
  match ← pathParams raw with
  | [first, second] => .ok (first, second)
  | _ => .error noRoute

/-- The call that a request asks for, once its placeholders and its body are decoded. -/
def call? (request : Request) (raw : List String) : ContactEndpoint → Except Response ContactCall
  | .listContacts => .ok .listContacts
  | .addContact => (readInput Contact.ofJson? request).map .addContact
  | .getContact => (oneParam raw).map .getContact
  | .removeContact => (oneParam raw).map .removeContact
  | .getAddress => (twoParams raw).map fun (userId, idx) => .getAddress userId idx
  | .rootFolder => .ok .rootFolder

/-- What an endpoint does once its chain has let a request pass. -/
def handle (e : ContactEndpoint) (h : ContactHandlers σ) : Handler σ :=
  fun context raw request s =>
    match e.call? request raw with
    | .error response => (response, s)
    | .ok call => h.answer context s call

def binding (h : ContactHandlers σ) (e : ContactEndpoint) : Binding σ :=
  ⟨e.method, e.path, e.chain, e.handle h⟩

end ContactEndpoint

namespace ContactHandlers

open ContactEndpoint

theorem withParam_eq (handle : String → σ → Response × σ) (raw : List String) (s : σ) :
    withParam handle raw s =
      match oneParam raw with
      | .error response => (response, s)
      | .ok text => handle text s := by
  unfold withParam oneParam
  rcases pathParams raw with response | ⟨_ | ⟨text, _ | _⟩⟩ <;> rfl

theorem withParams_eq (handle : String → String → σ → Response × σ) (raw : List String) (s : σ) :
    withParams handle raw s =
      match twoParams raw with
      | .error response => (response, s)
      | .ok (first, second) => handle first second s := by
  unfold withParams twoParams
  rcases pathParams raw with response | ⟨_ | ⟨first, _ | ⟨second, _ | _⟩⟩⟩ <;> rfl

theorem bindings_eq (h : ContactHandlers σ) : h.bindings = all.map (binding h) := by
  simp only [bindings, all, List.map_cons, List.map_nil, List.cons.injEq, and_true, binding,
    Binding.mk.injEq, method, path, chain, true_and]
  refine ⟨rfl, ?_, ?_, ?_, ?_, rfl⟩
  · funext context raw request s
    simp only [withInput, handle, call?]
    cases readInput Contact.ofJson? request <;> rfl
  · funext context raw request s
    simp only [withParam_eq, handle, call?]
    cases oneParam raw <;> rfl
  · funext context raw request s
    simp only [withParam_eq, handle, call?]
    cases oneParam raw <;> rfl
  · funext context raw request s
    simp only [withParams_eq, handle, call?]
    cases twoParams raw <;> rfl

theorem binding_mem (h : ContactHandlers σ) (e : ContactEndpoint) :
    binding h e ∈ h.bindings :=
  h.bindings_eq ▸ List.mem_map_of_mem e.mem_all

end ContactHandlers

namespace ContactEndpoint

theorem unambiguous : Unambiguous (all.map fun e => (e.method, e.path)) where
  distinct := by decide
  apart := by decide +kernel

/-- What is answered to a request that the chain has let pass and that does not decode. -/
def faults : List Response := [badPath, tooLarge, wrongContentType, badBody]

theorem fault_of_pathParams {raw : List String} {response : Response}
    (h : pathParams raw = .error response) : response = badPath := by
  obtain ⟨text, -, htext⟩ := Outcome.mapM_eq_error h
  unfold pathParam at htext
  split at htext <;> cases htext
  rfl

theorem length_of_pathParams {raw texts : List String} (h : pathParams raw = .ok texts) :
    texts.length = raw.length :=
  (Outcome.forall₂_of_mapM_eq_ok h).length_eq.symm

theorem fault_of_oneParam {raw : List String} (hl : raw.length = 1) {response : Response}
    (h : oneParam raw = .error response) : response = badPath := by
  rcases Outcome.bind_eq_error.1 h with h | ⟨texts, htexts, h⟩
  · exact fault_of_pathParams h
  · obtain ⟨text, rfl⟩ := List.length_eq_one_iff.1 ((length_of_pathParams htexts).trans hl)
    cases h

theorem fault_of_twoParams {raw : List String} (hl : raw.length = 2) {response : Response}
    (h : twoParams raw = .error response) : response = badPath := by
  rcases Outcome.bind_eq_error.1 h with h | ⟨texts, htexts, h⟩
  · exact fault_of_pathParams h
  · obtain ⟨first, second, rfl⟩ :=
      List.length_eq_two.1 ((length_of_pathParams htexts).trans hl)
    cases h

theorem fault_of_readInput {α : Type} {decode? : Json → Option α} {request : Request}
    {response : Response} (h : readInput decode? request = .error response) :
    response ∈ faults := by
  unfold readInput parseInput at h
  split at h
  · cases h
    decide
  · split at h
    · cases h
      decide
    · split at h <;> cases h
      decide

variable {e : ContactEndpoint} {request : Request} {params : List String}

/-- A request that fits has as many placeholders as the endpoint, so only decoding can fail. -/
theorem fault_of_call? (hf : request.Fits e.method e.path params) {response : Response}
    (h : e.call? request params = .error response) : response ∈ faults := by
  have hlength := length_of_matchPath? hf.path
  have hpath : badPath ∈ faults := by decide
  cases e with
  | listContacts => cases h
  | addContact => exact fault_of_readInput (Outcome.map_eq_error.1 h)
  | getContact => exact fault_of_oneParam hlength (Outcome.map_eq_error.1 h) ▸ hpath
  | removeContact => exact fault_of_oneParam hlength (Outcome.map_eq_error.1 h) ▸ hpath
  | getAddress => exact fault_of_twoParams hlength (Outcome.map_eq_error.1 h) ▸ hpath
  | rootFolder => cases h

end ContactEndpoint

/-- The request fits the endpoint, and the chain that this names says so much of its headers. -/
structure ContactEndpoint.Meets (chains : ChainMap) (e : ContactEndpoint) (request : Request)
    (params : List String) (verdict : Except Response RequestContext) : Prop where
  fits : request.Fits e.method e.path params
  verdict : (chains.get? e.chain).map (· request.headers) = some verdict

namespace ContactHandlers

/-- What a router does with the requests that fit an endpoint, and which calls it makes: these are
seen in a router that does the same and notes them. -/
structure Guards (h : ContactHandlers σ) (chains : ChainMap) (router : Router σ)
    (noted : Router (σ × ContactLog)) : Prop where
  same {e : ContactEndpoint} {request : Request} {params : List String} :
    request.Fits e.method e.path params → ∀ s log,
      (noted.serve request (s, log)).1 = (router.serve request s).1 ∧
      (noted.serve request (s, log)).2.1 = (router.serve request s).2
  rejected {e : ContactEndpoint} {request : Request} {params : List String}
    {response : Response} : e.Meets chains request params (.error response) →
      ∀ s log, noted.serve request (s, log) = (request.answered response, (s, log))
  /-- Nothing but the method and the headers of a rejected request shows in the answer. -/
  alike {e : ContactEndpoint} {request other : Request} {params otherParams : List String}
    {response : Response} : e.Meets chains request params (.error response) →
      other.Fits e.method e.path otherParams → other.method = request.method →
      other.headers = request.headers →
      ∀ state otherState, (router.serve other otherState).1 = (router.serve request state).1
  undecoded {e : ContactEndpoint} {request : Request} {params : List String}
    {context : RequestContext} {response : Response} : e.Meets chains request params (.ok context) →
      e.call? request params = .error response → response ∈ ContactEndpoint.faults ∧
      ∀ s log, noted.serve request (s, log) = (request.answered response, (s, log))
  called {e : ContactEndpoint} {request : Request} {params : List String}
    {context : RequestContext} {call : ContactCall} : e.Meets chains request params (.ok context) →
      e.call? request params = .ok call → ∀ s log,
      noted.serve request (s, log) =
        (request.answered (h.answer context s call).1,
          ((h.answer context s call).2, log ++ [(context, call)]))

section Registered

variable {h : ContactHandlers σ} {chains : ChainMap} {router : Router σ}

theorem serve_of_meets (hr : h.register chains = .ok router) {e : ContactEndpoint}
    {request : Request} {params : List String} {verdict : Except Response RequestContext} :
    e.Meets chains request params verdict → ∀ s, router.serve request s =
      match verdict with
      | .error response => (request.answered response, s)
      | .ok context =>
        let (response, s) := e.handle h context params request s
        (request.answered response, s) := by
  intro hm s
  have hu : Unambiguous (h.bindings.map fun b => (b.method, b.path)) := by
    rw [h.bindings_eq, List.map_map]
    exact ContactEndpoint.unambiguous
  obtain ⟨chain, hchain, hserve⟩ := Router.serve_of_fits hr hu (h.binding_mem e) hm.fits
  have hverdict := hm.verdict
  rw [show chains.get? e.chain = some chain from hchain, Option.map_some] at hverdict
  have hguard : chain request.headers = verdict := Option.some.inj hverdict
  simp only [hserve, Guarded.serve, Binding.guard, hguard]
  cases verdict <;> rfl

theorem serve_noted {noted : Router (σ × ContactLog)} (hr : h.register chains = .ok router)
    (hn : h.noting.register chains = .ok noted) {e : ContactEndpoint} {request : Request}
    {params : List String} {verdict : Except Response RequestContext}
    (hm : e.Meets chains request params verdict) (s : σ) (log : ContactLog) :
    (noted.serve request (s, log)).1 = (router.serve request s).1 ∧
      (noted.serve request (s, log)).2.1 = (router.serve request s).2 := by
  rw [serve_of_meets hr hm, serve_of_meets hn hm]
  cases verdict with
  | error response => exact ⟨rfl, rfl⟩
  | ok context =>
    simp only [ContactEndpoint.handle]
    cases e.call? request params with
    | error response => exact ⟨rfl, rfl⟩
    | ok call => simp only [answer_noting, note, and_self]

theorem exists_register_iff :
    (∃ router, h.register chains = .ok router) ↔
      ∀ e : ContactEndpoint, (chains.get? e.chain).isSome = true := by
  rw [register, Router.exists_register_iff, h.bindings_eq, List.forall_mem_map]
  exact ⟨fun hall e => hall e e.mem_all, fun hall e _ => hall e⟩

theorem guards_of_register {noted : Router (σ × ContactLog)}
    (hr : h.register chains = .ok router) (hn : h.noting.register chains = .ok noted) :
    h.Guards chains router noted where
  same {e request params} hf s log := by
    obtain ⟨chain, hchain⟩ := Option.isSome_iff_exists.1 (exists_register_iff.1 ⟨router, hr⟩ e)
    have hm : e.Meets chains request params (chain request.headers) := ⟨hf, by rw [hchain]; rfl⟩
    exact serve_noted hr hn hm s log
  rejected hm s log := serve_of_meets hn hm (s, log)
  alike {e request other _ otherParams response} hm hf hmethod hheaders state otherState := by
    have hmo : e.Meets chains other otherParams (.error response) :=
      ⟨hf, by rw [hheaders]; exact hm.verdict⟩
    rw [serve_of_meets hr hm, serve_of_meets hr hmo]
    simp only [Request.answered, hmethod]
  undecoded hm hcall := by
    refine ⟨ContactEndpoint.fault_of_call? hm.fits hcall, fun s log => ?_⟩
    rw [serve_of_meets hn hm]
    simp only [ContactEndpoint.handle, hcall]
  called hm hcall s log := by
    rw [serve_of_meets hn hm]
    simp only [ContactEndpoint.handle, hcall, answer_noting, note]

/-- The routes of the contacts register if all chains are there that the endpoints name, and fail
with the first in their order that is not. Registered, every endpoint asks its chain before it looks
at anything else, and its handler after all has been decoded. -/
theorem contact_routes_guarded (h : ContactHandlers σ) (chains : ChainMap) :
    ((∃ router, h.register chains = .ok router) ↔
      ∀ e : ContactEndpoint, (chains.get? e.chain).isSome = true) ∧
    (∀ fault : UnknownChain, h.register chains = .error fault ↔
      (ContactEndpoint.all.map ContactEndpoint.chain).find?
        (fun name => (chains.get? name).isNone) = some fault.name) ∧
    ∀ router, h.register chains = .ok router →
      ∃ noted, h.noting.register chains = .ok noted ∧ h.Guards chains router noted := by
  refine ⟨exists_register_iff, fun fault => ?_, fun router hr => ?_⟩
  · rw [register, Router.register_eq_error_iff, h.bindings_eq, List.map_map]
    rfl
  · obtain ⟨noted, hn⟩ : ∃ noted, h.noting.register chains = .ok noted :=
      exists_register_iff.2 (exists_register_iff.1 ⟨router, hr⟩)
    exact ⟨noted, hn, guards_of_register hr hn⟩

open ContactBook in
theorem contact_routes_guarded_book :
    let chains := ContactBook.chains ["public", "authenticated"]
    let path := "/contacts/%FF"
    let token : Headers := [⟨"authorization", "Bearer secret"⟩]
    ∃ router noted, handlers.register chains = .ok router ∧
      handlers.noting.register chains = .ok noted ∧ handlers.Guards chains router noted ∧
      noted.serve ⟨"DELETE", path, [], ""⟩ ({}, []) = (Chain.unauthorized, {}, []) ∧
      noted.serve ⟨"DELETE", path, token, ""⟩ ({}, []) = (badPath, {}, []) ∧
      noted.serve ⟨"DELETE", "/contacts/x%20y", token, ""⟩ ({}, []) =
        (.empty 404, {}, [(.authenticated "alice", .removeContact "x y")]) := by
  intro chains path token
  have hknown : ∀ e : ContactEndpoint, (chains.get? e.chain).isSome = true := by
    intro e
    cases e <;> rfl
  obtain ⟨hregister, -, hguards⟩ := contact_routes_guarded handlers chains
  obtain ⟨router, hr⟩ := hregister.2 hknown
  obtain ⟨noted, hn, hg⟩ := hguards router hr
  have hstranger : ContactEndpoint.removeContact.Meets chains ⟨"DELETE", path, [], ""⟩ ["%FF"]
      (.error Chain.unauthorized) := ⟨⟨.inl rfl, by decide +kernel⟩, rfl⟩
  have hundecoded : ContactEndpoint.removeContact.Meets chains ⟨"DELETE", path, token, ""⟩ ["%FF"]
      (.ok (.authenticated "alice")) := ⟨⟨.inl rfl, by decide +kernel⟩, by decide +kernel⟩
  have hdecoded : ContactEndpoint.removeContact.Meets chains
      ⟨"DELETE", "/contacts/x%20y", token, ""⟩ ["x%20y"] (.ok (.authenticated "alice")) :=
    ⟨⟨.inl rfl, by decide +kernel⟩, by decide +kernel⟩
  have hfault : ContactEndpoint.removeContact.call? ⟨"DELETE", path, token, ""⟩ ["%FF"] =
      .error badPath := by decide +kernel
  have hcall : ContactEndpoint.removeContact.call? ⟨"DELETE", "/contacts/x%20y", token, ""⟩
      ["x%20y"] = .ok (.removeContact "x y") := by decide +kernel
  exact ⟨router, noted, hr, hn, hg, hg.rejected hstranger {} [],
    (hg.undecoded hundecoded hfault).2 {} [], hg.called hdecoded hcall {} []⟩

end Registered

end ContactHandlers

end EventSchema.Sample
