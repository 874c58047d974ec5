import WebDispatch.Router

/-!
# Reports

What the library holds, as structured values for those who look at an application. Times are left
out, so that reports of equal runs are equal.

* `Reported` — what has a report, with the plain kinds of data;
* `Request.state` — what has been found out about a request;
* `Introspector.report`, `Registry.report` — what has been configured.
-/

namespace WebDispatch

open WebDispatch.Http (Headers Response)

/-- What can be reported as a structured value. -/
class Reported (α : Type) where
  report : α → Value

export Reported (report)

def member {α : Type} [Reported α] (name : String) (a : α) : String × Value := (name, report a)

instance : Reported Value := ⟨id⟩

instance : Reported String := ⟨.text⟩

instance : Reported Bool := ⟨.bool⟩

instance : Reported Nat := ⟨fun n => .number n⟩

instance : Reported Int := ⟨.number⟩

instance {α : Type} [Reported α] : Reported (Option α) := ⟨fun a => (a.map report).getD .null⟩

instance {α : Type} [Reported α] : Reported (List α) := ⟨fun as => .array (as.map report)⟩

instance {α β : Type} [Reported α] [Reported β] : Reported (α × β) :=
  ⟨fun p => .array [report p.1, report p.2]⟩

instance {κ α : Type} [Reported κ] [Reported α] : Reported (OrderedMap κ α) :=
  ⟨fun m => report m.toList⟩

instance : Reported MatchValue := ⟨fun
  | .text s => .text s
  | .segments items => .texts items⟩

instance : Reported Interface := ⟨fun i => .text i.name⟩

instance : Reported Resource := ⟨fun r => .text r.label⟩

instance : Reported Site := ⟨fun s => .text s.text⟩

instance : Reported Error := ⟨fun e => .object [member "error" e.kind, member "message" e.message]⟩

instance {α : Type} [Reported α] : Reported (Except Error α) := ⟨fun
  | .ok a => report a
  | .error e => report e⟩

/-- Header fields sorted by their names, without times. -/
def reportedFields (h : Headers) : List (String × String) :=
  (h.mergeSort fun a b => Text.compareText a.1 b.1).map fun (name, value) =>
    (name, if name = "expires" then "<date>" else value)

def responseMembers (r : Response) : List (String × Value) :=
  [member "status" r.status, member "headers" (reportedFields r.headers), member "body" r.text]

instance : Reported Response := ⟨fun r => .object (responseMembers r)⟩

/-- What has been found out about a request. -/
def Request.state (r : Request) : Value :=
  .object [
    member "request_type" r.type.iface,
    member "matchdict" r.matchdict,
    member "route" r.route,
    member "root" r.root,
    member "context" r.context,
    member "view_name" r.viewName,
    member "subpath" r.subpath,
    member "traversed" r.traversed,
    member "virtual_root" r.virtualRoot,
    member "virtual_root_path" r.virtualRootPath,
    member "exception" r.exception,
    member "authdebug" r.accessReason,
    member "has_response" r.prepared.isSome,
    member "view_instance" r.hasInstance]

instance : Reported Traversal.Found := ⟨fun f =>
  .object [
    member "context" f.context,
    member "root" f.root,
    member "view_name" f.viewName,
    member "subpath" f.subpath,
    member "traversed" f.traversed,
    member "virtual_root" f.virtualRoot,
    member "virtual_root_path" f.virtualRootPath]⟩

instance : Reported IntrospectionKey := ⟨fun k => .texts [k.category, k.discriminator]⟩

def Introspectable.members (i : Introspectable) : List (String × Value) :=
  [member "category" i.key.category,
   member "discriminator" i.key.discriminator,
   member "title" i.title,
   member "type_name" i.typeName,
   member "attrs" i.attributes,
   member "order" i.order,
   member "info" i.site]

instance : Reported Introspectable := ⟨fun i => .object i.members⟩

def Introspector.report (s : Introspector) : Value :=
  .array (s.listing.map fun (category, items) => .array [.text category, .array (items.map
    fun (i, related) =>
      .object (i.members ++ [member "related" (related.map Introspectable.key)]))])

def Settings.members (s : Settings) : List (String × Value) :=
  [member "debug_authorization" s.debugAuthorization,
   member "debug_notfound" s.debugNotFound,
   member "debug_routematch" s.debugRouteMatch,
   member "prevent_http_cache" s.preventHttpCache,
   member "default_locale_name" s.defaultLocaleName,
   member "tweens" s.tweens,
   member "values" s.values]

instance : Reported Route := ⟨fun r =>
  .array [.text r.name, .text r.pattern.source, .texts (r.predicates.map Predicate.text),
    .bool r.isStatic]⟩

def namesOf {α : Type} (items : List (String × α)) : List String := items.map (·.1)

def Registry.report (r : Registry) : Value :=
  .object [
    member "routes" (r.routes.elim [] fun t => t.routes.values),
    member "has_routes" (r.routes.map fun t => t.routes.size != 0),
    member "views" r.viewCount,
    member "renderers" r.rendererNames,
    member "default_permission" r.defaultPermission,
    member "tweens" r.tweens.order.names,
    member "explicit" (namesOf r.tweens.explicit),
    member "order" (r.tweens.resolved.map namesOf)]

end WebDispatch
