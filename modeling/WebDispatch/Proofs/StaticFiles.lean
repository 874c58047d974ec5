import WebDispatch.Proofs.Configuration.PrefixedRoutes
import WebDispatch.Proofs.Path.Segments
import WebDispatch.Proofs.Path.Source
import WebDispatch.Proofs.View.Selection

/-!
# Static files stay below their directory

The files that are served are looked up by names, each the name of something directly inside a
directory. A request whose subpath is not made of such names is refused, whatever there is to be
found, and any other is answered from the path that they make up, and from the index there
(`serve_eq`).

The route to the files captures segments, which are no way out either (`segments_of_match?`),
however the path of the request was escaped.

* `PlainName` — names of single components of a path;
* `lookedAt` — the paths that are looked at for names;
* `serves_below_root` — what can be reached through a request.
-/

namespace WebDispatch

/-! ## The route to the files -/

namespace Pattern

variable {source path : String} {p : Pattern} {d : MatchDict} {name : String}

theorem remainder_of_compile {body : List Char}
    (hsource : source.toList = body ++ '*' :: name.toList)
    (hword : name.toList.all Text.isWordChar = true) (hne : name ≠ "")
    (h : compile source = .ok p) : p.remainder = some name := by
  have hname : name.toList ≠ [] := fun hnil => hne (String.toList_eq_nil_iff.mp hnil)
  rw [(parts_of_compile h).2, hsource, splitStar_name hword]
  simp [Option.filter, hname]

/-- What the name at the end of a pattern captures are the segments of a text. -/
theorem segments_of_match? (hremainder : p.remainder = some name) (hmatch : p.match? path = some d)
    {v : MatchValue} (hv : d.get? name = some v) : ∃ text, v = .segments (Path.segments text) := by
  obtain ⟨texts, -, rfl⟩ := Option.map_eq_some_iff.mp hmatch
  obtain ⟨⟨name', text⟩, -, heq⟩ := List.mem_map.mp (OrderedMap.mem_of_get?_ofList hv)
  obtain ⟨rfl, rfl⟩ := Prod.mk.inj heq
  exact ⟨text, if_pos hremainder⟩

end Pattern

namespace RoutePrefix

/-- A prefix keeps the end of a pattern. -/
theorem exists_apply (routePrefix : Option String) {pattern : String} {body ending : List Char}
    {c : Char} (hc : c ≠ '/') (hpattern : pattern.toList = body ++ c :: ending) :
    ∃ body', (apply routePrefix pattern).toList = body' ++ c :: ending := by
  cases routePrefix with
  | none => exact ⟨body, hpattern⟩
  | some p =>
      have htrim : ∀ body : List Char, ∃ body', (body ++ c :: ending).dropWhile (· = '/') =
          body' ++ c :: ending := by
        intro body
        induction body with
        | nil => exact ⟨[], by simp [hc]⟩
        | cons b body ih =>
            by_cases hb : b = '/'
            · simpa [hb] using ih
            · exact ⟨b :: body, by simp [hb]⟩
      obtain ⟨body', hbody'⟩ := htrim body
      refine ⟨(Text.trimEndBy (· = '/') p).toList ++ '/' :: body', ?_⟩
      rw [apply, String.toList_append, String.toList_append, Text.trimStartBy,
        String.toList_ofList, hpattern, hbody']
      simp

end RoutePrefix

namespace Configurator

variable {site : Site} {name pattern : String} {c : Configurator}

/-- A route that is declared without options. -/
theorem addRoute_eq (site : Site) (name pattern : String) (c : Configurator) :
    addRoute site name pattern {} c =
      match Pattern.compile (RoutePrefix.apply c.routePrefix pattern) with
      | .error e => (.error e, c)
      | .ok p =>
        act site (some ["route", name]) (some (connectRoute { name := name, pattern := p })) (-10)
          (routeIntrospectables { name := name, pattern := p }) c := by
  have hoptions : declaredOptions c name {} = .ok (none, []) := rfl
  rw [addRoute_apply, declaredRoute, hoptions]
  cases Pattern.compile (RoutePrefix.apply c.routePrefix pattern) with
  | error e => rfl
  | ok p => exact congrFun (bind_pure_unit (m := Effect Configurator)) c

/-- The pattern of the route to files that are served below an address. -/
def filesPattern (c : Configurator) (name : String) : String :=
  RoutePrefix.apply c.routePrefix (Text.trimEndBy (· = '/') name ++ "/" ++ "*subpath")

/-- Static files are a route, declared first, and a view for it. -/
theorem addStaticFiles_cases (site : Site) (name : String) (files : StaticFiles)
    (permission : Option String) (c : Configurator) :
    (∃ e, Pattern.compile (c.filesPattern name) = .error e ∧
        addStaticFiles site name files permission c = (.error e, c)) ∨
      ∃ route view, addStaticFiles site name files permission c =
          (act site (some ["route", route.name]) (some (connectRoute route)) (-10)
            (routeIntrospectables route) >>= fun _ => addView site view) c ∧
        view.view = some (.value files.callable) ∧ view.routeName = some route.name ∧
        route.predicates = [] ∧ route.pattern.remainder = some "subpath" := by
  rw [addStaticFiles, filesPattern, Effect.bind_apply, Effect.get_apply]
  dsimp only
  generalize Text.trimEndBy (· = '/') name ++ "/" = address
  rw [Effect.bind_apply, addRoute_eq]
  cases hcompile : Pattern.compile (RoutePrefix.apply c.routePrefix (address ++ "*subpath")) with
  | error e => exact Or.inl ⟨e, rfl, rfl⟩
  | ok p =>
      refine Or.inr ⟨{ name := _, pattern := p }, _, (Effect.bind_apply _ _ c).symm, rfl, rfl, rfl,
        ?_⟩
      have haddress : (address ++ "*subpath").toList =
          address.toList ++ '*' :: "subpath".toList := by
        simp
      obtain ⟨body, hbody⟩ := RoutePrefix.exists_apply c.routePrefix (by decide) haddress
      exact Pattern.remainder_of_compile hbody (by decide) (by decide) hcompile

end Configurator

namespace StaticFiles

variable {s t : StaticFiles} {names : List String} {name : String}

/-! ## Names of files -/

structure PlainName (name : String) : Prop where
  nonempty : name ≠ ""
  notDot : name ≠ "."
  notDots : name ≠ ".."
  noSlash : '/' ∉ name.toList
  noBackslash : '\\' ∉ name.toList
  noNull : '\x00' ∉ name.toList

theorem isPlainName_iff : isPlainName name = true ↔ PlainName name := by
  have hiff : isPlainName name = true ↔ name ≠ "" ∧ name ≠ "." ∧ name ≠ ".." ∧
      '/' ∉ name.toList ∧ '\\' ∉ name.toList ∧ '\x00' ∉ name.toList := by
    simp [isPlainName, Text.hasChar, and_assoc]
  rw [hiff]
  exact ⟨fun ⟨h₁, h₂, h₃, h₄, h₅, h₆⟩ => ⟨h₁, h₂, h₃, h₄, h₅, h₆⟩,
    fun h => ⟨h.nonempty, h.notDot, h.notDots, h.noSlash, h.noBackslash, h.noNull⟩⟩

theorem plainName_indexName : PlainName indexName := isPlainName_iff.mp (by decide)

/-- Plain names are the components of the path that they make up. -/
theorem segments_joinWith_of_plain (h : ∀ name ∈ names, PlainName name) :
    Path.segments (Text.joinWith "/" names) = names := by
  apply Path.segments_joinWith
  intro name hname
  have hplain := h name hname
  refine ⟨?_, hplain.noSlash⟩
  exact Path.isProper_iff.mpr ⟨hplain.nonempty, hplain.notDot, hplain.notDots⟩

theorem relative?_of_plain (h : ∀ name ∈ names, PlainName name) : relative? names = some names := by
  rw [relative?, if_pos]
  rw [List.all_eq_true]
  exact fun name hname => isPlainName_iff.mpr (h name hname)

theorem relative?_of_not_plain (h : ∃ name ∈ names, ¬PlainName name) : relative? names = none := by
  obtain ⟨name, hname, hplain⟩ := h
  rw [relative?, if_neg]
  intro hall
  exact hplain (isPlainName_iff.mp (List.all_eq_true.mp hall name hname))

/-! ## What is looked at -/

/-- The paths below the directory that are looked at for names: the path that they make up, and the
index there, if it is a directory. -/
def lookedAt (s : StaticFiles) (names : List String) : List (List String) :=
  names :: if s.status names = .directory then [names ++ [indexName]] else []

theorem plainName_of_lookedAt (hplain : ∀ name ∈ names, PlainName name) {path : List String}
    (hpath : path ∈ s.lookedAt names) (hname : name ∈ path) : PlainName name := by
  rcases List.mem_cons.mp hpath with rfl | hpath
  · exact hplain name hname
  · split at hpath
    · obtain rfl := List.mem_singleton.mp hpath
      rcases List.mem_append.mp hname with hname | hname
      · exact hplain name hname
      · exact List.mem_singleton.mp hname ▸ plainName_indexName
    · cases hpath

/-- Files that are the same at some paths, below one directory and served in one way. -/
structure SameAt (paths : List (List String)) (s t : StaticFiles) : Prop where
  root : s.root = t.root
  maxAge : s.maxAge = t.maxAge
  status : ∀ path ∈ paths, s.status path = t.status path

theorem serveFile_eq {paths : List (List String)} (h : SameAt paths s t) (hmem : names ∈ paths) :
    s.serveFile names = t.serveFile names := by
  obtain ⟨root, status, maxAge⟩ := s
  obtain ⟨root', status', maxAge'⟩ := t
  obtain ⟨hroot, hage, hstatus⟩ := h
  obtain rfl : root = root' := hroot
  obtain rfl : maxAge = maxAge' := hage
  have hfound : status names = status' names := hstatus names hmem
  unfold serveFile
  simp only [hfound]
  rfl

/-- What is served depends on the paths that are looked at, and on no other. -/
theorem serve_eq {env : Environment} {x : Exchange}
    (hplain : ∀ name ∈ subpath x.toRequest, PlainName name)
    (h : SameAt (s.lookedAt (subpath x.toRequest)) s t) : s.serve env x = t.serve env x := by
  have hstatus := h.status (subpath x.toRequest) List.mem_cons_self
  unfold serve
  simp only [Handling.bind_apply, Handling.request_apply, relative?_of_plain hplain, ← hstatus]
  cases hfound : s.status (subpath x.toRequest) with
  | directory =>
      have hindex : subpath x.toRequest ++ [indexName] ∈ s.lookedAt (subpath x.toRequest) := by
        rw [lookedAt, if_pos hfound]
        simp
      simp only [serveFile_eq h hindex]
  | file _ _ => simp only [serveFile_eq h List.mem_cons_self]
  | missing => simp only [serveFile_eq h List.mem_cons_self]
  | unreadable _ => simp only [serveFile_eq h List.mem_cons_self]

/-- Other names are refused, whatever files there are. -/
theorem serve_of_not_plain {env : Environment} {x : Exchange}
    (h : ∃ name ∈ subpath x.toRequest, ¬PlainName name) :
    s.serve env x = (.error (.notFound ("static path " ++
      Text.quoted (Text.joinWith "/" (subpath x.toRequest)) ++ " is not allowed")), x) := by
  simp [serve, relative?_of_not_plain h]

/-- **Static files stay below their directory.** Either all names of the subpath of a request are
plain: then they are the components of the path that they make up, and the answer depends on nothing
but what is found there and, for a directory, at the index there. Or the request is not found,
whatever files there are.

Files that are declared below an address get a route, unless its pattern cannot be compiled. What
this route captures for the subpath are segments, and none of them is a way out of the directory. -/
theorem serves_below_root :
    (∀ (env : Environment) (x : Exchange),
      (∀ name ∈ subpath x.toRequest, PlainName name) ∧
          Path.segments (Text.joinWith "/" (subpath x.toRequest)) = subpath x.toRequest ∧
          (∀ s : StaticFiles, ∀ path ∈ s.lookedAt (subpath x.toRequest), ∀ name ∈ path,
            PlainName name) ∧
          (∀ s t : StaticFiles, SameAt (s.lookedAt (subpath x.toRequest)) s t →
            s.serve env x = t.serve env x) ∨
        (∃ name ∈ subpath x.toRequest, ¬PlainName name) ∧
          ∃ text, ∀ s : StaticFiles, s.serve env x = (.error (.notFound text), x)) ∧
    ∀ (site : Site) (name : String) (files : StaticFiles) (permission : Option String)
      (c : Configurator),
      (∃ e, Pattern.compile (c.filesPattern name) = .error e ∧
          Configurator.addStaticFiles site name files permission c = (.error e, c)) ∨
        ∃ route view, Configurator.addStaticFiles site name files permission c =
            (Configurator.act site (some ["route", route.name])
              (some (Configurator.connectRoute route)) (-10)
              (Configurator.routeIntrospectables route) >>= fun _ =>
                Configurator.addView site view) c ∧
          view.view = some (.value files.callable) ∧ view.routeName = some route.name ∧
          ∀ request d, route.match? request = some d → ∀ v, d.get? "subpath" = some v →
            ∃ items, v = .segments items ∧ ∀ item ∈ items,
              item ≠ "" ∧ item ≠ "." ∧ item ≠ ".." ∧ '/' ∉ item.toList := by
  refine ⟨fun env x => ?_, fun site name files permission c => ?_⟩
  · by_cases hplain : ∀ name ∈ subpath x.toRequest, PlainName name
    · refine Or.inl ⟨hplain, segments_joinWith_of_plain hplain, fun s path hpath name hname => ?_,
        fun s t h => serve_eq hplain h⟩
      exact plainName_of_lookedAt hplain hpath hname
    · simp only [not_forall] at hplain
      obtain ⟨name, hname, hplain⟩ := hplain
      exact Or.inr ⟨⟨name, hname, hplain⟩, _, fun s => serve_of_not_plain ⟨name, hname, hplain⟩⟩
  · rcases Configurator.addStaticFiles_cases site name files permission c with hfailed |
      ⟨route, view, hadd, hview, hroute, hpredicates, hremainder⟩
    · exact Or.inl hfailed
    · refine Or.inr ⟨route, view, hadd, hview, hroute, fun request d hmatch v hv => ?_⟩
      rw [Route.match?, hpredicates] at hmatch
      obtain ⟨captured, hcaptured, hd⟩ := Option.bind_eq_some_iff.mp hmatch
      obtain rfl := Option.some.inj hd
      obtain ⟨text, rfl⟩ := Pattern.segments_of_match? hremainder hcaptured hv
      refine ⟨_, rfl, fun item hitem => ?_⟩
      obtain ⟨hproper, hslash⟩ := Path.mem_segments hitem
      simp only [Path.isProper, Bool.and_eq_true, decide_eq_true_eq, and_assoc] at hproper
      exact ⟨hproper.1, hproper.2.1, hproper.2.2, hslash⟩

/-- A subpath that leads out of the directory. -/
theorem serves_below_root_dots :
    ∃ text, ∀ s : StaticFiles,
      s.serve {} { Request.blank "/files/x" with subpath := ["docs", "..", "..", "secret"] } =
        (.error (.notFound text),
          { Request.blank "/files/x" with subpath := ["docs", "..", "..", "secret"] }) := by
  rcases serves_below_root.1 {} { Request.blank "/files/x" with
    subpath := ["docs", "..", "..", "secret"] } with ⟨hplain, -⟩ | ⟨-, hrefused⟩
  · exact absurd rfl (hplain ".." (by decide)).notDots
  · exact hrefused

end StaticFiles

end WebDispatch
