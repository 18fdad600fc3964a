import EventSchema.Proofs.Emission
import EventSchema.Proofs.RouteArguments
import EventSchema.Proofs.RouteText

set_option autoImplicit false

namespace EventSchema

open Outcome

namespace Text

theorem eraseDups_concat (names : List String) (name : String) :
    (names ++ [name]).eraseDups =
      if name ∈ names then names.eraseDups else names.eraseDups ++ [name] := by
  rw [List.eraseDups_append]
  by_cases h : name ∈ names
  · simp [List.removeAll, h]
  · simp [List.removeAll, h, List.eraseDups_cons]

theorem nodup_eraseDups (names : List String) : names.eraseDups.Nodup := by
  induction names using List.reverseRecOn with
  | nil => exact .nil
  | append_singleton names name ih =>
    rw [eraseDups_concat]
    split
    · exact ih
    · next hm =>
      refine List.nodup_append.2 ⟨ih, List.nodup_singleton _, fun other ho last hl => ?_⟩
      rintro rfl
      rw [List.mem_singleton.1 hl, List.mem_eraseDups] at ho
      exact hm ho

end Text

namespace Backend.RestFile

section Grouping

def pathsOf (items : List EndpointItem) : List String :=
  (items.map EndpointItem.route).eraseDups

def groupOf (items : List EndpointItem) (path : String) : RouteItem :=
  ⟨path, items.filter (·.route = path)⟩

@[simp] theorem path_groupOf (items : List EndpointItem) (path : String) :
    (groupOf items path).path = path := rfl

theorem mem_pathsOf {items : List EndpointItem} {path : String} :
    path ∈ pathsOf items ↔ ∃ item ∈ items, item.route = path := by
  simp [pathsOf]

theorem nodup_pathsOf (items : List EndpointItem) : (pathsOf items).Nodup :=
  Text.nodup_eraseDups _

theorem pathsOf_concat (items : List EndpointItem) (e : EndpointItem) :
    pathsOf (items ++ [e]) =
      if e.route ∈ pathsOf items then pathsOf items else pathsOf items ++ [e.route] := by
  rw [pathsOf, List.map_append, List.map_singleton, Text.eraseDups_concat]
  simp only [pathsOf, List.mem_eraseDups]

theorem groupOf_concat_self (items : List EndpointItem) (e : EndpointItem) :
    groupOf (items ++ [e]) e.route = ⟨e.route, (groupOf items e.route).endpoints ++ [e]⟩ := by
  simp [groupOf]

theorem groupOf_concat_of_ne {e : EndpointItem} {path : String} (h : path ≠ e.route)
    (items : List EndpointItem) : groupOf (items ++ [e]) path = groupOf items path := by
  simp [groupOf, Ne.symm h]

/-- The search adds an endpoint to the group of its path, or starts that group behind all others. -/
theorem insert_groups {items : List EndpointItem} {e : EndpointItem} {paths : List String}
    (hn : paths.Nodup) (h : e.route ∉ paths → (groupOf items e.route).endpoints = []) :
    RouteItem.insert e (paths.map (groupOf items)) =
      (if e.route ∈ paths then paths else paths ++ [e.route]).map (groupOf (items ++ [e])) := by
  induction paths with
  | nil => simp [RouteItem.insert, groupOf_concat_self, h List.not_mem_nil]
  | cons path rest ih =>
    obtain ⟨hp, hrest⟩ := List.nodup_cons.1 hn
    by_cases hroute : path = e.route
    · subst hroute
      have hsame : rest.map (groupOf (items ++ [e])) = rest.map (groupOf items) :=
        List.map_congr_left fun other hm =>
          groupOf_concat_of_ne (fun he => hp (he ▸ hm)) items
      simp [RouteItem.insert, hsame, groupOf_concat_self]
    · have hmem : e.route ∈ path :: rest ↔ e.route ∈ rest := by simp [Ne.symm hroute]
      have hstep := ih hrest fun hr => h (mt hmem.1 hr)
      rw [List.map_cons, RouteItem.insert, path_groupOf, if_neg hroute, hstep,
        ← groupOf_concat_of_ne hroute, ← List.map_cons]
      simp only [hmem]
      split
      · rfl
      · rfl

theorem routesOf_eq (items : List EndpointItem) :
    routesOf items = (pathsOf items).map (groupOf items) := by
  induction items using List.reverseRecOn with
  | nil => rfl
  | append_singleton items e ih =>
    have hstep : routesOf (items ++ [e]) = RouteItem.insert e (routesOf items) := by
      simp [routesOf]
    have hgroup : e.route ∉ pathsOf items → (groupOf items e.route).endpoints = [] := by
      intro hm
      refine List.filter_eq_nil_iff.2 fun item hi => ?_
      simpa using fun he => hm (mem_pathsOf.2 ⟨item, hi, he⟩)
    rw [hstep, ih, insert_groups (nodup_pathsOf items) hgroup, pathsOf_concat]

end Grouping

end Backend.RestFile

namespace Check

section Routes

/-- What an endpoint adds: its route was free and is taken, its skeleton leads to its path, and
skeletons that led to a path still do. -/
structure Routes.Gains (routes : Routes) (e : Endpoint) (later : Routes) : Prop where
  free : (e.method, e.path) ∉ routes.taken
  taken : later.taken = (e.method, e.path) :: routes.taken
  known : ∃ skeleton, Route.skeleton e.path = .ok skeleton ∧
    later.skeletons.lookup skeleton = some e.path
  kept : ∀ skeleton path, routes.skeletons.lookup skeleton = some path →
    later.skeletons.lookup skeleton = some path

theorem Routes.gains_of_add {routes later : Routes} {e : Endpoint} (h : routes.add e = .ok later) :
    routes.Gains e later := by
  unfold add at h
  split at h
  · cases h
  · next ht =>
    have hfree : (e.method, e.path) ∉ routes.taken := by simpa using ht
    split at h
    · cases h
    · next skeleton hs =>
      split at h
      · next other hl =>
        -- the path is known: the same one again, or the endpoint is refused
        split at h
        · next ho =>
          cases h
          exact ⟨hfree, rfl, ⟨skeleton, hs, ho ▸ hl⟩, fun _ _ hk => hk⟩
        · cases h
      · next hl =>
        cases h
        refine ⟨hfree, rfl, ⟨skeleton, hs, List.lookup_cons_self⟩, fun key path hk => ?_⟩
        have hne : key ≠ skeleton := by
          rintro rfl
          cases hl.symm.trans hk
        rw [Text.lookup_cons_ite, if_neg hne, hk]

structure Routes.Cover (routes : Routes) (es : List Endpoint) : Prop where
  taken : ∀ e ∈ es, (e.method, e.path) ∈ routes.taken
  distinct : (es.map fun e => (e.method, e.path)).Nodup
  skeletons : ∀ e ∈ es, ∃ skeleton, Route.skeleton e.path = .ok skeleton ∧
    routes.skeletons.lookup skeleton = some e.path

theorem Routes.Cover.add {routes later : Routes} {es : List Endpoint} {e : Endpoint}
    (h : routes.Cover es) (hg : routes.Gains e later) : later.Cover (es ++ [e]) where
  taken := by
    intro other hm
    rw [hg.taken]
    rcases List.mem_append.1 hm with hm | hm
    · exact List.mem_cons_of_mem _ (h.taken other hm)
    · rw [List.mem_singleton.1 hm]
      exact List.mem_cons_self
  distinct := by
    rw [List.map_append, List.map_singleton]
    refine List.nodup_append.2 ⟨h.distinct, List.nodup_singleton _, fun pair hm other ho he => ?_⟩
    rw [List.mem_singleton.1 ho] at he
    obtain ⟨known, hk, rfl⟩ := List.mem_map.1 hm
    exact hg.free (he ▸ h.taken known hk)
  skeletons := by
    intro other hm
    rcases List.mem_append.1 hm with hm | hm
    · obtain ⟨skeleton, hs, hl⟩ := h.skeletons other hm
      exact ⟨skeleton, hs, hg.kept skeleton other.path hl⟩
    · rw [List.mem_singleton.1 hm]
      exact hg.known

theorem Routes.Cover.endpointsFrom {s : SchemaSet} {m : SchemaModule} {routes : Routes}
    {es rest : List Endpoint} (h : routes.Cover es) (hr : endpointsFrom s m routes rest = .ok ()) :
    ∃ later : Routes, later.Cover (es ++ rest) := by
  induction rest generalizing routes es with
  | nil => exact ⟨routes, by simpa using h⟩
  | cons e rest ih =>
    obtain ⟨-, hr⟩ := andThen_eq_ok.1 hr
    obtain ⟨later, ha, hr⟩ := bind_eq_ok.1 hr
    simpa using ih (h.add (gains_of_add ha)) hr

theorem fill_of_skeleton {path skeleton : String} (h : Route.skeleton path = .ok skeleton) :
    Route.fill (fun _ => "\x7b\x7d") path = skeleton := by
  obtain ⟨parts, hp, rfl⟩ := map_eq_ok.1 h
  rw [Route.fill_eq hp]
  refine congrArg String.join (List.map_congr_left fun part _ => ?_)
  cases part with
  | static text => rfl
  | placeholder name => rfl

theorem Routes.Cover.path_eq {routes : Routes} {es : List Endpoint} (h : routes.Cover es)
    {e other : Endpoint} (he : e ∈ es) (ho : other ∈ es)
    (hf : Route.fill (fun _ => "\x7b\x7d") e.path = Route.fill (fun _ => "\x7b\x7d") other.path) :
    e.path = other.path := by
  obtain ⟨skeleton, hs, hl⟩ := h.skeletons e he
  obtain ⟨key, hk, hlookup⟩ := h.skeletons other ho
  rw [fill_of_skeleton hs, fill_of_skeleton hk] at hf
  subst hf
  exact Option.some.inj (hl.symm.trans hlookup)

theorem cover_of_check {s : SchemaSet} {m : SchemaModule} (h : m.check s = .ok ()) :
    ∃ routes : Routes, routes.Cover m.types.endpoints := by
  simp only [SchemaModule.check, andThen_eq_ok] at h
  obtain ⟨-, -, -, -, he, -⟩ := h
  simp only [endpoints, andThen_eq_ok] at he
  have hnone : ({} : Routes).Cover [] := ⟨by simp, .nil, by simp⟩
  simpa using hnone.endpointsFrom he.2.2

end Routes

end Check

namespace Backend

structure EndpointItem.Serves (e : Endpoint) (item : EndpointItem) : Prop where
  isFor : item.IsFor e
  method : item.method = e.method
  route : item.route = e.path

theorem RestFile.serves_of_endpoints {moduleId : String} {es : List Endpoint} {f : RestFile}
    (h : ofEndpoints moduleId es = .ok f) :
    List.Forall₂ EndpointItem.Serves es f.endpoints ∧ f.routes = routesOf f.endpoints :=
  (keeps_of_endpoints h).imp_left fun hk => hk.imp fun _ _ hk => ⟨hk.isFor, hk.method, hk.route⟩

/-- The routes are the endpoints of the file, each once, by their paths, and no two of them can be
taken for each other. -/
structure RestFile.IsRouted (f : RestFile) : Prop where
  distinct : f.endpoints.Nodup
  once : (f.routes.flatMap RouteItem.endpoints).Perm f.endpoints
  order : f.routes.map RouteItem.path = (f.endpoints.map EndpointItem.route).eraseDups
  paths : (f.routes.map RouteItem.path).Nodup
  groups : ∀ r ∈ f.routes, r.endpoints = f.endpoints.filter (·.route = r.path)
  own : ∀ item ∈ f.endpoints, ∃ r ∈ f.routes, r.path = item.route ∧ item ∈ r.endpoints
  methods : ∀ r ∈ f.routes, (r.endpoints.map EndpointItem.method).Nodup
  skeletons : f.routes.Pairwise fun r other =>
    Route.fill (fun _ => "\x7b\x7d") r.path ≠ Route.fill (fun _ => "\x7b\x7d") other.path

section IsRouted

variable {es : List Endpoint} {items : List EndpointItem}
  (hi : List.Forall₂ EndpointItem.Serves es items)
include hi

theorem RestFile.map_method_route : (items.map fun item => (item.method, item.route)) =
    es.map fun e => (e.method, e.path) :=
  map_eq_of_forall₂ (fun e item h => by rw [h.method, h.route]) hi

theorem RestFile.exists_of_mem_pathsOf {path : String} (h : path ∈ pathsOf items) :
    ∃ e ∈ es, e.path = path := by
  obtain ⟨item, hm, rfl⟩ := mem_pathsOf.1 h
  obtain ⟨e, he, hs⟩ := mem_of_forall₂ hi.flip hm
  exact ⟨e, he, hs.route.symm⟩

theorem RestFile.nodup_methods (hd : (es.map fun e => (e.method, e.path)).Nodup) (path : String) :
    ((groupOf items path).endpoints.map EndpointItem.method).Nodup := by
  have hpairs : ((groupOf items path).endpoints.map fun item => (item.method, item.route)).Nodup :=
    ((map_method_route hi).symm ▸ hd).sublist (List.filter_sublist.map _)
  have hpath : ((groupOf items path).endpoints.map fun item => (item.method, item.route)) =
      ((groupOf items path).endpoints.map EndpointItem.method).map (·, path) := by
    rw [List.map_map]
    refine List.map_congr_left fun item hm => ?_
    have hroute : item.route = path := by simpa using (List.mem_filter.1 hm).2
    rw [hroute]
    rfl
  exact .of_map _ (hpath ▸ hpairs)

theorem RestFile.isRouted_of_cover {routes : Check.Routes} (hc : routes.Cover es)
    (records : List Record) : IsRouted ⟨items, routesOf items, records⟩ := by
  have hpairs : (items.map fun item => (item.method, item.route)).Nodup :=
    (map_method_route hi).symm ▸ hc.distinct
  have hpaths : (routesOf items).map RouteItem.path = pathsOf items := by
    rw [routesOf_eq, List.map_map]
    exact List.map_id _
  have hgroup : ∀ r ∈ routesOf items, r = groupOf items r.path := by
    intro r hr
    rw [routesOf_eq] at hr
    obtain ⟨path, -, rfl⟩ := List.mem_map.1 hr
    rfl
  refine {
    distinct := hpairs.of_map
    once := (routesOf_spec items).1
    order := hpaths
    paths := hpaths ▸ nodup_pathsOf items
    groups := fun r hr => congrArg RouteItem.endpoints (hgroup r hr)
    own := fun item hm => ⟨groupOf items item.route, ?_, rfl, List.mem_filter.2 ⟨hm, by simp⟩⟩
    methods := fun r hr => hgroup r hr ▸ nodup_methods hi hc.distinct r.path
    skeletons := ?_ }
  · rw [routesOf_eq]
    exact List.mem_map_of_mem (mem_pathsOf.2 ⟨item, hm, rfl⟩)
  · rw [routesOf_eq, List.pairwise_map]
    refine (nodup_pathsOf items).imp_of_mem fun {path other} hp ho hne hf => hne ?_
    obtain ⟨e, he, rfl⟩ := exists_of_mem_pathsOf hi hp
    obtain ⟨e', he', rfl⟩ := exists_of_mem_pathsOf hi ho
    exact hc.path_eq he he' hf

end IsRouted

/-- The endpoints of a module that passes its checks are routed, each under its method and path. The
file fails only where an inline object finds the name of its record taken. -/
theorem RestFile.routes_partition_endpoints {s : SchemaSet} {m : SchemaModule}
    (h : m.check s = .ok ()) :
    (∃ f, ofEndpoints m.id m.types.endpoints = .ok f ∧
      List.Forall₂ EndpointItem.Serves m.types.endpoints f.endpoints ∧ f.IsRouted) ∨
    ∃ fault name, ofEndpoints m.id m.types.endpoints = .error fault ∧
      fault.root = .duplicate .generatedType name ∧
        FindsTaken (Section.rest.otherNames m) (Section.rest.objects m) name := by
  obtain ⟨routes, hcover⟩ := Check.cover_of_check h
  rcases (ofEndpoints_clash (SchemaModule.checked_of_check h)).ok_or_error with
    ⟨f, hf⟩ | ⟨fault, hf, name, hroot, hname⟩
  · obtain ⟨hserves, hroutes⟩ := serves_of_endpoints hf
    obtain ⟨items, routed, records⟩ := f
    obtain rfl : routed = routesOf items := hroutes
    exact .inl ⟨_, hf, hserves, isRouted_of_cover hserves hcover records⟩
  · exact .inr ⟨fault, name, hf, hroot, hname⟩

/-- The second endpoint of a path joins the first, over one of another path in between. -/
theorem RestFile.routes_partition_endpoints_interleaved :
    ∃ (m : SchemaModule) (f : RestFile), m.check ⟨[m]⟩ = .ok () ∧
      ofEndpoints m.id m.types.endpoints = .ok f ∧ f.IsRouted ∧
      f.routes.map (fun r => (r.path, r.endpoints.map EndpointItem.method)) =
        [("/a", [.get, .delete]), ("/a/\x7bid\x7d", [.get])] := by
  let m : SchemaModule := {
    id := "m"
    types := { endpoints := [⟨.get, "/a", "list", "public", none, none, none⟩,
      ⟨.get, "/a/\x7bid\x7d", "show", "public", none, none, none⟩,
      ⟨.delete, "/a", "clear", "public", none, none, none⟩] } }
  have hcheck : m.check ⟨[m]⟩ = .ok () := by cbv
  have hroutes : (ofEndpoints m.id m.types.endpoints).map
      (fun f => f.routes.map fun r => (r.path, r.endpoints.map EndpointItem.method)) =
        .ok [("/a", [.get, .delete]), ("/a/\x7bid\x7d", [.get])] :=
    eq_ok_of_toOption (by decide +kernel)
  obtain ⟨f, hf, hmethods⟩ := map_eq_ok.1 hroutes
  rcases routes_partition_endpoints hcheck with ⟨f', hf', -, hrouted⟩ | ⟨fault, name, he, -⟩
  · cases hf.symm.trans hf'
    exact ⟨m, f, hcheck, hf, hrouted, hmethods⟩
  · cases hf.symm.trans he

end Backend

end EventSchema
