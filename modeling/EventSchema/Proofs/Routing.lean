import EventSchema.Http.Router
import EventSchema.Proofs.Outcome

/-!
Routing. A list of endpoints is registered if all chains that it names are known, and fails with the
first that is not. The endpoints of one path become one route; as long as no path fits two patterns
and no two endpoints of a path share a method, a request that fits an endpoint is served by that
endpoint and its chain.
-/

set_option autoImplicit false

namespace EventSchema.Http

open Outcome

variable {σ : Type}

section Patterns

/-- What a pattern asks of the characters of a path; nothing stands for a placeholder. -/
def marks : List PathPart → List (Option Char)
  | [] => []
  | .static text :: rest => text.toList.map some ++ marks rest
  | .placeholder _ :: rest => none :: marks rest

/-- Whether two patterns differ before the first placeholder of either: no path fits both then. -/
def apart : List (Option Char) → List (Option Char) → Bool
  | some a :: xs, some b :: ys => a != b || apart xs ys
  | [], _ :: _ => true
  | _ :: _, [] => true
  | _, _ => false

def Begins : List (Option Char) → List Char → Prop
  | [], cs => cs = []
  | some a :: xs, cs => ∃ rest, cs = a :: rest ∧ Begins xs rest
  | none :: _, cs => cs ≠ []

theorem Begins.of_append {text : List Char} {xs : List (Option Char)} {cs : List Char}
    (h : Begins xs cs) : Begins (text.map some ++ xs) (text ++ cs) := by
  induction text with
  | nil => exact h
  | cons a text ih => exact ⟨_, rfl, ih⟩

theorem begins_of_matchPath? {pattern : List PathPart} {cs : List Char} {params : List String}
    (h : matchPath? pattern cs = some params) : Begins (marks pattern) cs := by
  induction pattern generalizing cs params with
  | nil =>
    cases cs with
    | nil => rfl
    | cons c cs => cases h
  | cons part rest ih =>
    cases part with
    | static text =>
      simp only [matchPath?, Chain.stripStart?] at h
      split at h
      · next hp =>
        obtain ⟨back, rfl⟩ := List.isPrefixOf_iff_prefix.1 hp
        rw [List.drop_left, Option.bind_some] at h
        exact .of_append (ih h)
      · cases h
    | placeholder name =>
      cases cs with
      | nil => cases h
      | cons c cs => simp [marks, Begins]

theorem not_begins_of_apart {xs ys : List (Option Char)} {cs : List Char}
    (h : apart xs ys = true) (hx : Begins xs cs) : ¬ Begins ys cs := by
  induction xs, ys using apart.induct generalizing cs with
  | case1 a xs b ys ih =>
    obtain ⟨rest, rfl, hx⟩ := hx
    rintro ⟨other, he, hy⟩
    obtain ⟨rfl, rfl⟩ := List.cons.inj he
    simp only [apart, bne_self_eq_false, Bool.false_or] at h
    exact ih h hx hy
  | case2 y ys =>
    cases hx
    cases y with
    | none => exact fun hy => hy rfl
    | some b => simp [Begins]
  | case3 x xs =>
    rintro rfl
    cases x with
    | none => exact hx rfl
    | some a => simp [Begins] at hx
  | case4 xs ys h1 h2 h3 => simp_all [apart]

theorem matchPath?_of_apart {p q : List PathPart} (h : apart (marks p) (marks q) = true)
    {cs : List Char} {params : List String} (hq : matchPath? q cs = some params) :
    matchPath? p cs = none := by
  cases hp : matchPath? p cs with
  | none => rfl
  | some other =>
    exact absurd (begins_of_matchPath? hq) (not_begins_of_apart h (begins_of_matchPath? hp))

theorem length_of_matchPath? {pattern : List PathPart} {cs : List Char} {params : List String}
    (h : matchPath? pattern cs = some params) :
    params.length = (pattern.filterMap PathPart.placeholder?).length := by
  induction pattern generalizing cs params with
  | nil =>
    cases cs with
    | nil =>
      cases h
      rfl
    | cons c cs => cases h
  | cons part rest ih =>
    cases part with
    | static text =>
      simp only [matchPath?, Option.bind_eq_some_iff] at h
      obtain ⟨back, -, h⟩ := h
      rw [List.filterMap_cons_none rfl]
      exact ih h
    | placeholder name =>
      cases cs with
      | nil => cases h
      | cons c cs =>
        simp only [matchPath?, Option.map_eq_some_iff] at h
        obtain ⟨others, h, rfl⟩ := h
        simp [PathPart.placeholder?, ih h]

end Patterns

section Chains

variable {chains : ChainMap}

theorem ChainMap.chain_eq_ok_iff {name : String} {chain : Chain} :
    chains.chain name = .ok chain ↔ chains.get? name = some chain := by
  unfold ChainMap.chain
  split <;> simp_all

theorem Router.register_eq_error_iff {bindings : List (Binding σ)} {fault : UnknownChain} :
    register chains bindings = .error fault ↔
      (bindings.map Binding.chain).find? (fun name => (chains.get? name).isNone) =
        some fault.name := by
  rw [register, map_eq_error]
  induction bindings with
  | nil => simp [guards, pure, Except.pure]
  | cons b bindings ih =>
    rw [guards, List.mapM_cons, List.map_cons, List.find?_cons]
    cases hchain : chains.get? b.chain with
    | none =>
      have hfault : chains.chain b.chain = .error ⟨b.chain⟩ := by simp only [ChainMap.chain, hchain]
      rw [hfault]
      obtain ⟨name⟩ := fault
      simp [Except.map, bind, Except.bind]
    | some chain =>
      have hok : chains.chain b.chain = .ok chain := ChainMap.chain_eq_ok_iff.2 hchain
      rw [hok, Option.isNone_some, ← ih, guards, bind_eq_error]
      simp only [Except.map, Except.ok.injEq, exists_eq_left', reduceCtorEq, false_or]
      rw [bind_eq_error]
      simp [pure, Except.pure]

end Chains

section Registering

def Binding.guard (b : Binding σ) (chain : Chain) : Guarded σ := ⟨b.method, chain, b.handler⟩

namespace Router

variable {path : String} {pattern : List PathPart} {g : Guarded σ} {routes : List (Route σ)}

theorem map_path_insert :
    (insert path pattern g routes).map Route.path =
      if path ∈ routes.map Route.path then routes.map Route.path
      else routes.map Route.path ++ [path] := by
  induction routes with
  | nil => simp [insert]
  | cons r rest ih =>
    rw [insert]
    split
    · next h => simp [h]
    · next h =>
      have hne : path ≠ r.path := fun he => h he.symm
      simp only [List.map_cons, List.mem_cons, hne, false_or, ih]
      split <;> simp

theorem mem_insert (hd : (routes.map Route.path).Nodup) {r : Route σ}
    (hr : r ∈ insert path pattern g routes) :
    (r ∈ routes ∧ r.path ≠ path) ∨
    (∃ old ∈ routes, old.path = path ∧ r = { old with endpoints := old.endpoints ++ [g] }) ∨
    (path ∉ routes.map Route.path ∧ r = ⟨path, pattern, [g]⟩) := by
  induction routes with
  | nil => exact .inr (.inr ⟨by simp, List.mem_singleton.1 hr⟩)
  | cons first rest ih =>
    obtain ⟨hfirst, hrest⟩ := List.nodup_cons.1 hd
    rw [insert] at hr
    split at hr
    · next he =>
      subst he
      rcases List.mem_cons.1 hr with rfl | hr
      · exact .inr (.inl ⟨first, by simp, rfl, rfl⟩)
      · refine .inl ⟨List.mem_cons_of_mem _ hr, fun he => hfirst ?_⟩
        exact he ▸ List.mem_map_of_mem hr
    · next hne =>
      rcases List.mem_cons.1 hr with rfl | hr
      · exact .inl ⟨List.mem_cons_self, hne⟩
      · rcases ih hrest hr with ⟨hr, hp⟩ | ⟨old, ho, hp, rfl⟩ | ⟨hp, rfl⟩
        · exact .inl ⟨List.mem_cons_of_mem _ hr, hp⟩
        · exact .inr (.inl ⟨old, List.mem_cons_of_mem _ ho, hp, rfl⟩)
        · refine .inr (.inr ⟨?_, rfl⟩)
          rw [List.map_cons, List.mem_cons, not_or]
          exact ⟨fun he => hne he.symm, hp⟩

structure Collects (routes : List (Route σ)) (guarded : List (Binding σ × Chain)) : Prop where
  distinct : (routes.map Route.path).Nodup
  paths (path : String) : path ∈ routes.map Route.path ↔ path ∈ guarded.map (·.1.path)
  pattern : ∀ r ∈ routes, r.pattern = patternOf r.path
  endpoints : ∀ r ∈ routes,
    r.endpoints = (guarded.filter (·.1.path == r.path)).map fun e => e.1.guard e.2

theorem Collects.insert {guarded : List (Binding σ × Chain)} (h : Collects routes guarded)
    (b : Binding σ) (chain : Chain) :
    Collects (insert b.path (patternOf b.path) (b.guard chain) routes)
      (guarded ++ [(b, chain)]) where
  distinct := by
    rw [map_path_insert]
    split
    · exact h.distinct
    · next hnew =>
      exact List.nodup_append.2 ⟨h.distinct, List.nodup_singleton _, by simpa using hnew⟩
  paths other := by
    rw [map_path_insert, List.map_append, List.mem_append, ← h.paths]
    split
    · next hold =>
      simp only [List.map_cons, List.map_nil, List.mem_singleton]
      exact ⟨.inl, fun ho => ho.elim id fun he => he ▸ hold⟩
    · simp
  pattern r hr := by
    rcases mem_insert h.distinct hr with ⟨hr, -⟩ | ⟨old, ho, -, rfl⟩ | ⟨-, rfl⟩
    · exact h.pattern r hr
    · exact h.pattern old ho
    · rfl
  endpoints r hr := by
    rw [List.filter_append, List.map_append]
    rcases mem_insert h.distinct hr with ⟨hr, hp⟩ | ⟨old, ho, hp, rfl⟩ | ⟨hp, rfl⟩
    · have hother : (b.path == r.path) = false := beq_eq_false_iff_ne.2 hp.symm
      simp [h.endpoints r hr, hother]
    · simp [h.endpoints old ho, hp]
    · have hnone : guarded.filter (·.1.path == b.path) = [] := by
        rw [List.filter_eq_nil_iff]
        intro e he hp'
        exact hp ((h.paths _).2 (List.mem_map.2 ⟨e, he, eq_of_beq hp'⟩))
      simp [hnone]

theorem collects_foldl (guarded : List (Binding σ × Chain)) {done : List (Binding σ × Chain)}
    (h : Collects routes done) :
    Collects (guarded.foldl (fun routes (b, chain) =>
      insert b.path (patternOf b.path) ⟨b.method, chain, b.handler⟩ routes) routes)
      (done ++ guarded) := by
  -- what is done grows by the endpoint that is inserted
  induction guarded generalizing routes done with
  | nil => simpa using h
  | cons e rest ih =>
    obtain ⟨b, chain⟩ := e
    have hnext := ih (h.insert b chain)
    rwa [List.append_assoc] at hnext

/-- What a registered router is made of: the endpoints in order, each with its chain. -/
theorem collects_of_register {chains : ChainMap} {bindings : List (Binding σ)} {router : Router σ}
    (h : register chains bindings = .ok router) :
    ∃ guarded, Collects router.routes guarded ∧ guarded.map Prod.fst = bindings ∧
      ∀ e ∈ guarded, chains.get? e.1.chain = some e.2 := by
  obtain ⟨guarded, hg, rfl⟩ := map_eq_ok.1 h
  have hempty : Collects (σ := σ) [] [] := ⟨by simp, by simp, by simp, by simp⟩
  have hguarded := forall₂_of_mapM_eq_ok hg
  refine ⟨guarded, collects_foldl guarded hempty, ?_, fun e he => ?_⟩
  · refine (map_eq_of_forall₂ (f := id) (fun b e hb => ?_) hguarded).trans (List.map_id _)
    obtain ⟨chain, -, rfl⟩ := map_eq_ok.1 hb
    rfl
  · obtain ⟨b, -, hb⟩ := (mem_iff_of_mapM_eq_ok hg).1 he
    obtain ⟨chain, hchain, rfl⟩ := map_eq_ok.1 hb
    exact ChainMap.chain_eq_ok_iff.1 hchain

theorem exists_register_iff {chains : ChainMap} {bindings : List (Binding σ)} :
    (∃ router, register chains bindings = .ok router) ↔
      ∀ b ∈ bindings, (chains.get? b.chain).isSome = true := by
  have hnone : (∀ b ∈ bindings, (chains.get? b.chain).isSome = true) ↔
      (bindings.map Binding.chain).find? (fun name => (chains.get? name).isNone) = none := by
    simp [Option.isSome_iff_ne_none]
  rw [hnone]
  cases hr : register chains bindings with
  | ok router =>
    refine ⟨fun _ => Option.eq_none_iff_forall_ne_some.2 fun name hname => ?_, fun _ => ⟨_, rfl⟩⟩
    cases hr.symm.trans (register_eq_error_iff.2 hname : _ = Except.error ⟨name⟩)
  | error fault =>
    rw [register_eq_error_iff.1 hr]
    simp

end Router

end Registering

section Serving

/-- Requests for the head only are answered by `GET`, without the body. -/
def Request.answered (request : Request) (response : Response) : Response :=
  if request.method = "HEAD" then response.head else response

structure Request.Fits (request : Request) (method : Method) (path : String)
    (params : List String) : Prop where
  method : request.method = method.text ∨ request.method = "HEAD" ∧ method = .get
  path : matchPath? (Router.patternOf path) request.path.toList = some params

structure Unambiguous (endpoints : List (Method × String)) : Prop where
  distinct : endpoints.Nodup
  apart : ∀ e ∈ endpoints, ∀ f ∈ endpoints, e.2 ≠ f.2 →
    apart (marks (Router.patternOf e.2)) (marks (Router.patternOf f.2)) = true

theorem methodText_injective : Function.Injective Method.text := by
  intro a b h
  cases a <;> cases b <;> first | rfl | simp [Method.text] at h

theorem methodText_ne_head (m : Method) : m.text ≠ "HEAD" := by
  cases m <;> simp [Method.text]

namespace Router

variable {routes : List (Route σ)} {guarded : List (Binding σ × Chain)}

theorem Collects.methods (h : Collects routes guarded)
    (hd : ((guarded.map Prod.fst).map fun b => (b.method, b.path)).Nodup) {r : Route σ}
    (hr : r ∈ routes) : (r.endpoints.map Guarded.method).Nodup := by
  rw [h.endpoints r hr, List.map_map, List.Nodup, List.pairwise_map]
  rw [List.map_map, List.Nodup, List.pairwise_map] at hd
  refine (hd.filter _).imp_of_mem fun {a b} ha hb hne heq => hne ?_
  have hpath : a.1.path = b.1.path :=
    (eq_of_beq (List.mem_filter.1 ha).2).trans (eq_of_beq (List.mem_filter.1 hb).2).symm
  exact Prod.ext heq hpath

theorem Collects.find?_of_mem (h : Collects routes guarded)
    (hu : Unambiguous ((guarded.map Prod.fst).map fun b => (b.method, b.path)))
    {e : Binding σ × Chain} (he : e ∈ guarded) {path : String} {params : List String}
    (hp : matchPath? (patternOf e.1.path) path.toList = some params) :
    ∃ r ∈ routes, e.1.guard e.2 ∈ r.endpoints ∧ find? ⟨routes⟩ path = some (r, params) := by
  obtain ⟨r, hr, hpath⟩ := List.mem_map.1 ((h.paths e.1.path).2 (List.mem_map_of_mem he))
  refine ⟨r, hr, ?_, ?_⟩
  · rw [h.endpoints r hr]
    exact List.mem_map.2 ⟨e, List.mem_filter.2 ⟨he, by simp [hpath]⟩, rfl⟩
  · have hfits : matchPath? r.pattern path.toList = some params := by
      rw [h.pattern r hr, hpath, hp]
    obtain ⟨front, back, rfl⟩ := List.append_of_mem hr
    refine List.findSome?_eq_some_iff.2 ⟨front, r, back, rfl, by rw [hfits]; rfl, ?_⟩
    -- the routes before have other paths, and patterns that differ from this one
    intro other ho
    have hmem : other ∈ front ++ r :: back := List.mem_append_left _ ho
    obtain ⟨d, hd, hdpath⟩ := List.mem_map.1 ((h.paths other.path).1 (List.mem_map_of_mem hmem))
    have hne : other.path ≠ e.1.path := by
      have hdistinct := h.distinct
      rw [List.map_append, List.nodup_append] at hdistinct
      exact hpath ▸ hdistinct.2.2 _ (List.mem_map_of_mem ho) _ (by simp)
    have hapart := hu.apart _ (List.mem_map_of_mem (List.mem_map_of_mem hd))
      _ (List.mem_map_of_mem (List.mem_map_of_mem he)) (hdpath ▸ hne)
    rw [hdpath] at hapart
    rw [h.pattern other hmem, matchPath?_of_apart hapart hp]
    rfl

theorem serve_of_fits {chains : ChainMap} {bindings : List (Binding σ)} {router : Router σ}
    (h : register chains bindings = .ok router)
    (hu : Unambiguous (bindings.map fun b => (b.method, b.path))) {b : Binding σ}
    (hb : b ∈ bindings) {request : Request} {params : List String}
    (hf : request.Fits b.method b.path params) :
    ∃ chain, chains.get? b.chain = some chain ∧ ∀ s,
      router.serve request s =
        let (response, s) := (b.guard chain).serve params request s
        (request.answered response, s) := by
  obtain ⟨guarded, hcollects, rfl, hchains⟩ := collects_of_register h
  obtain ⟨e, he, rfl⟩ := List.mem_map.1 hb
  refine ⟨e.2, hchains e he, fun s => ?_⟩
  obtain ⟨r, hr, hmem, hfind⟩ := hcollects.find?_of_mem hu he hf.path
  have hmethods := hcollects.methods hu.distinct hr
  have htexts : (r.endpoints.map fun g => g.method.text).Nodup := by
    have := hmethods.map methodText_injective
    rwa [List.map_map] at this
  rcases hf.method with hsent | ⟨hsent, hget⟩
  · have hfound : r.endpoints.find? (·.method.text == request.method) = some (e.1.guard e.2) := by
      rw [hsent]
      exact Outcome.find?_of_mem htexts hmem
    have hbody : request.method ≠ "HEAD" := hsent ▸ methodText_ne_head _
    simp only [serve, hfind, hfound, Request.answered, hbody, if_false]
  · -- no endpoint has this method itself, so `GET` is looked for
    have hnone : r.endpoints.find? (·.method.text == "HEAD") = none :=
      List.find?_eq_none.2 fun g _ he => methodText_ne_head g.method (eq_of_beq he)
    have hfound : r.endpoints.find? (·.method == .get) = some (e.1.guard e.2) := by
      rw [← hget]
      exact Outcome.find?_of_mem hmethods hmem
    simp only [serve, hfind, hsent, hnone, hfound, Request.answered, if_true]

end Router

end Serving

end EventSchema.Http
