import EntityService.Artifacts
import EntityService.Proofs.ModuleNames
import EntityService.Proofs.PathText

/-!
# Which handler answers a request

A route is read segment by segment: the segment for the identifier stands for any segment that is
not empty, and every other segment for itself.  This file shows that the routes of a service do not
get in each other's way, and that none is missing.

Two routes of one entity differ in their methods.  Two routes of different entities differ in the
third segment, the name in lower case: a document is refused if two of its entities share it, and an
identifier is never read as the segment for the identifier, which has braces.

## What is here

* `SegmentMatches`, `Route.Matches` — the requests that a route answers.
* `Entity.pieces_routePath`, `Entity.lowerName_of_matches` — the segments of a route, and what its
  requests have in common.
* `routes_eq` — the routes of a service, entity by entity.
* `Schema.Accepted.pairwise_routes` — two routes never answer the same request.
* `Serves`, `routes_serve` — the main statement.
-/

set_option autoImplicit false

namespace EntityService

open EntityService.Json EntityService.Text

/-! ## Reading routes -/

/-- The segment of a route that stands for an identifier. -/
def identifierSegment : String := "\x7b" ++ identifierName ++ "\x7d"

/-- The segments that a segment of a route stands for. -/
def SegmentMatches (segment given : String) : Prop :=
  if segment = identifierSegment then given ≠ "" else given = segment

instance (segment given : String) : Decidable (SegmentMatches segment given) :=
  inferInstanceAs (Decidable (if segment = identifierSegment then given ≠ "" else given = segment))

/-- A route answers the requests with its method whose paths have its segments. -/
def Route.Matches (route : Route) (method path : String) : Prop :=
  route.method = method ∧
    List.Forall₂ SegmentMatches (Path.pieces route.path) (Path.pieces path)

instance (route : Route) (method path : String) : Decidable (route.Matches method path) :=
  inferInstanceAs (Decidable (_ ∧ _))

/-! ## The routes of an entity -/

namespace Verb

theorem method_injective {v w : Verb} (h : v.method = w.method) : v = w := by
  revert h
  cases v <;> cases w <;> decide

end Verb

namespace Entity

variable (e : Entity)

/-- The route to the handler for a verb. -/
def route (v : Verb) : Route := ⟨e.routePath v.addressesRow, v.method, e.handlerName v.name⟩

theorem routes_resource (schema : Text) : (e.resource schema).routes = e.verbs.map e.route := by
  rw [Resource.routes, resource_handlers, List.map_map]
  rfl

/-- The segments of the path to all rows. -/
def collectionSegments : List String := ["", "api", e.lowerName]

/-- The segments of the path to all rows, or to one row. -/
theorem pieces_routePath (h : IsName e.name) (addressesRow : Bool) :
    Path.pieces (e.routePath addressesRow)
      = e.collectionSegments ++ if addressesRow then [identifierSegment] else [] := by
  have hslash : '/' ∉ e.lowerName.toList := by
    intro hmem
    have hnot : '/' ∉ ['/'] := h.lower.not_mem (by decide) hmem
    exact hnot List.mem_cons_self
  have hjoin : e.routePath addressesRow = "/".intercalate
      (e.collectionSegments ++ if addressesRow then [identifierSegment] else []) := by
    cases addressesRow <;>
      simp [routePath, collectionSegments, identifierSegment, String.intercalate_cons_cons,
        ← String.toList_inj]
  rw [hjoin]
  refine Path.pieces_intercalate (List.cons_ne_nil _ _) ?_
  rw [List.forall_mem_append]
  constructor
  · simp [collectionSegments, hslash]
  · cases addressesRow <;> decide

/-- All requests that a route answers name the entity in their third segment. -/
theorem lowerName_of_matches (h : IsName e.name) {v : Verb} {method path : String}
    (hmatch : (e.route v).Matches method path) : (Path.pieces path)[2]? = some e.lowerName := by
  have hbrace : e.lowerName ≠ identifierSegment := by
    intro heq
    have hmem : '\x7b' ∈ e.lowerName.toList := by
      rw [heq]
      decide
    have hnot : '\x7b' ∉ ['\x7b'] := h.lower.not_mem (by decide) hmem
    exact hnot List.mem_cons_self
  have hsegments := hmatch.2
  rw [route, e.pieces_routePath h] at hsegments
  obtain ⟨first, more, -, hmore, hpath⟩ := List.forall₂_cons_left_iff.1 hsegments
  obtain ⟨second, more', -, hmore', rfl⟩ := List.forall₂_cons_left_iff.1 hmore
  obtain ⟨third, rest, hthird, -, rfl⟩ := List.forall₂_cons_left_iff.1 hmore'
  rw [SegmentMatches, if_neg hbrace] at hthird
  rw [hpath, hthird]
  rfl

/-- The handlers of an entity answer different methods. -/
theorem pairwise_verbs (R : Route → Route → Prop)
    (h : ∀ v w : Verb, v ≠ w → R (e.route v) (e.route w)) : (e.verbs.map e.route).Pairwise R := by
  rw [List.pairwise_map]
  exact (Verb.all_nodup.filter _).imp fun {v w} hne => h v w hne

end Entity

/-! ## The routes of a service -/

theorem routes_eq (entities : List Entity) (schema : Text) :
    (Service.ofEntities entities schema).routes
      = entities.flatMap fun e => e.verbs.map e.route := by
  simp only [Service.routes, Service.ofEntities, List.flatMap_map, Entity.routes_resource]

namespace Schema

variable {earlier : List Text} {members : Mapping Text Value} {entities : List Entity}
  (h : Accepted earlier members entities) (schema : Text)

include h

/-- The names in lower case are different. -/
theorem Accepted.pairwise_lowerName : entities.Pairwise fun e e' => e.lowerName ≠ e'.lowerName := by
  refine h.disjoint.imp fun {e e'} hdisjoint heq => ?_
  have hclaimed : ∀ e : Entity, e.lowerName ∈ claimedBy e.name := fun e =>
    List.mem_cons_of_mem _ List.mem_cons_self
  exact hdisjoint (hclaimed e) (heq ▸ hclaimed e')

/-- **Two routes never answer the same request.** -/
theorem Accepted.pairwise_routes (method path : String) :
    (Service.ofEntities entities schema).routes.Pairwise fun r r' =>
      ¬ (r.Matches method path ∧ r'.Matches method path) := by
  rw [routes_eq, List.pairwise_flatMap]
  constructor
  · intro e _
    refine e.pairwise_verbs _ fun v w hne hboth => hne ?_
    exact Verb.method_injective (hboth.1.1.trans hboth.2.1.symm)
  · refine h.pairwise_lowerName.imp_of_mem fun {e e'} he he' hne => ?_
    intro r hr r' hr' hboth
    obtain ⟨v, -, rfl⟩ := List.mem_map.1 hr
    obtain ⟨w, -, rfl⟩ := List.mem_map.1 hr'
    have hthird := e.lowerName_of_matches (e.isName_name (h.usable he).1) hboth.1
    rw [e'.lowerName_of_matches (e'.isName_name (h.usable he').1) hboth.2] at hthird
    exact hne (Option.some.inj hthird).symm

/-- No two routes have the same handler. -/
theorem Accepted.handlers_nodup :
    ((Service.ofEntities entities schema).routes.map (·.handler)).Nodup := by
  rw [List.Nodup, List.pairwise_map, routes_eq, List.pairwise_flatMap]
  constructor
  · intro e _
    exact e.pairwise_verbs _ fun v w hne heq => hne (e.handlerName_injective heq)
  · refine h.disjoint.imp fun {e e'} hdisjoint => ?_
    have hclaimed : ∀ (e : Entity) (v : Verb), e.handlerName v.name ∈ claimedBy e.name := by
      intro e v
      rw [← claimedNames_eq, Entity.claimedNames]
      exact List.mem_cons_of_mem _ (List.mem_cons_of_mem _ (List.mem_map.2 ⟨v, v.mem_all, rfl⟩))
    intro r hr r' hr' heq
    obtain ⟨v, -, rfl⟩ := List.mem_map.1 hr
    obtain ⟨w, -, rfl⟩ := List.mem_map.1 hr'
    have hname : e.handlerName v.name = e'.handlerName w.name := heq
    exact hdisjoint (hclaimed e v) (hname ▸ hclaimed e' w)

end Schema

/-! ## How many there are -/

theorem Entity.length_verbs (e : Entity) :
    e.verbs.length = 3 + if e.fields = [] then 0 else 1 := by
  by_cases h : e.fields = []
  · simp [verbs, h, Verb.all]
  · simp [verbs, h, Verb.all]

theorem length_routes_ofEntities (entities : List Entity) (schema : Text) :
    (Service.ofEntities entities schema).routes.length
      = 3 * entities.length + (entities.filter fun e => e.fields ≠ []).length := by
  rw [routes_eq]
  induction entities with
  | nil => rfl
  | cons e rest ih =>
    rw [List.flatMap_cons, List.length_append, ih, List.length_map, e.length_verbs,
      List.length_cons, List.filter_cons]
    by_cases h : e.fields = []
    · simp [h]
      omega
    · simp [h]
      omega

/-! ## All together -/

/-- Of things that no two of share a property, at most one has it. -/
theorem length_filter_le_one {α : Type} {p : α → Prop} [DecidablePred p] {things : List α}
    (h : things.Pairwise fun a b => ¬ (p a ∧ p b)) : (things.filter fun a => p a).length ≤ 1 := by
  have hfilter := h.filter fun a => decide (p a)
  have hall : ∀ a ∈ things.filter fun a => decide (p a), p a := fun a ha =>
    of_decide_eq_true (List.mem_filter.1 ha).2
  generalize things.filter (fun a => decide (p a)) = found at hfilter hall
  match found with
  | [] => simp
  | [_] => simp
  | a :: b :: _ =>
    have hab := (List.pairwise_cons.1 hfilter).1 b List.mem_cons_self
    exact absurd ⟨hall a (by simp), hall b (by simp)⟩ hab

/-- Of things with different keys, one has the key of one of them. -/
theorem filter_key_eq {α : Type} {key : α → String} {things : List α}
    (h : (things.map key).Nodup) {a : α} (ha : a ∈ things) :
    things.filter (fun b => key b = key a) = [a] := by
  induction things with
  | nil => exact absurd ha List.not_mem_nil
  | cons b rest ih =>
    rw [List.map_cons, List.nodup_cons] at h
    rw [List.filter_cons]
    rcases List.mem_cons.1 ha with rfl | ha
    · have hnone : rest.filter (fun b => decide (key b = key a)) = [] := by
        rw [List.filter_eq_nil_iff]
        intro c hc heq
        exact h.1 (of_decide_eq_true heq ▸ List.mem_map_of_mem hc)
      simp [hnone]
    · have hne : key b ≠ key a := fun heq => h.1 (heq ▸ List.mem_map_of_mem ha)
      simp [hne, ih h.2 ha]

/-- What the routes of a service do for its entities. -/
structure Serves (entities : List Entity) (schema : Text) (routes : List Route) : Prop where
  /-- A request has at most one answer. -/
  unambiguous : ∀ method path,
    (routes.filter fun r => r.Matches method path).length ≤ 1
  /-- A handler in the program of an entity has one route, and this is a route of the entity. -/
  complete : ∀ e ∈ entities,
    ∀ handler ∈ (Source.handlersLines (e.resource schema)).flatMap Source.Line.bindings,
      ∃ v ∈ e.verbs, routes.filter (fun r => r.handler = handler)
        = [⟨e.routePath v.addressesRow, v.method, handler⟩]
  /-- There are three routes for an entity, and one more if it has fields. -/
  counted : routes.length = 3 * entities.length + (entities.filter fun e => e.fields ≠ []).length
  /-- This is the number that is reported. -/
  reported : (renderService entities schema).events
    = [.sourceRendered entities.length routes.length]

/-- **Routing is unambiguous and complete.** -/
theorem routes_serve {v : Value} (hv : v.WellKeyed) {entities : List Entity}
    (h : (Schema.build v).result = .ok entities) (schema : Text) :
    Serves entities schema (Service.ofEntities entities schema).routes := by
  obtain ⟨members, -, haccepted⟩ := Schema.accepted_of_build hv h
  refine ⟨?_, ?_, length_routes_ofEntities entities schema, ?_⟩
  · intro method path
    exact length_filter_le_one (haccepted.pairwise_routes schema method path)
  · intro e he handler hhandler
    have hwords := e.hasWords (haccepted.usable he).1
    rw [Source.bindings_handlersLines schema hwords, e.resource_handlers, List.map_map] at hhandler
    obtain ⟨v, hv, rfl⟩ := List.mem_map.1 hhandler
    refine ⟨v, hv, ?_⟩
    have hmem : e.route v ∈ (Service.ofEntities entities schema).routes := by
      rw [routes_eq]
      exact List.mem_flatMap.2 ⟨e, he, List.mem_map_of_mem hv⟩
    exact filter_key_eq (haccepted.handlers_nodup schema) hmem
  · simp [renderService, Service.ofEntities]

/-- What `dottedDocument` says. -/
def dottedEntities : List Entity := [⟨"\u0130", [⟨"id", .i64, 0⟩]⟩, ⟨"I", []⟩]

/-- The name of one entity in lower case begins with that of the other. -/
theorem routes_serve_dottedDocument :
    dottedDocument.WellKeyed ∧ (Schema.build dottedDocument).result = .ok dottedEntities ∧
    Serves dottedEntities "public" (Service.ofEntities dottedEntities "public").routes ∧
    ((Service.ofEntities dottedEntities "public").routes.filter
      fun r => r.Matches "DELETE" "/api/i/7") = [⟨"/api/i/\x7bid\x7d", "DELETE", "delete_i"⟩] := by
  have hv : dottedDocument.WellKeyed := by decide
  have hbuild : (Schema.build dottedDocument).result = .ok dottedEntities := by rfl
  exact ⟨hv, hbuild, routes_serve hv hbuild "public", by decide +kernel⟩

end EntityService
