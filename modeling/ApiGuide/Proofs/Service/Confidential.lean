/-
# Nothing of the catalog without the key

Where a key is configured, a request that does not carry it gets the same answer
whatever the file of the catalog holds, unless it asks for the state of the
service (`respond_eq_without_key`).

Two services with the same settings can differ only in what an endpoint answers. A request
without the key passes the guard by its method or by the path in its address
(`Passes.without_key`). By its method it reaches no endpoint. By its path it reaches none but
the state: the address loses line breaks and is cut at marks, but it keeps the beginning of
the path that an endpoint is found by, and no open path begins so (`eq_health_of_reaches`).
-/

import ApiGuide.Proofs.Service.Start
import ApiGuide.Proofs.Service.Way
import ApiGuide.Proofs.Stock.Router

namespace ApiGuide
namespace Service

/-! ### Paths of endpoints -/

namespace Endpoint

/-- What the path of an endpoint begins with, whatever class it names. -/
def root : Endpoint → Text
  | .classNamed _ => classPath
  | e => e.path

/-- The path of an endpoint begins with its root. -/
theorem root_prefix_path (e : Endpoint) : e.root <+: e.path := by
  cases e with
  | classNamed name => exact List.prefix_append _ _
  | _ => exact List.prefix_refl _

/-- An address shows all of the root of a path. -/
theorem isShown_and_isMark_of_mem_root (e : Endpoint) :
    ∀ c ∈ e.root, isShown c = true ∧ isMark c = false := by
  cases e with
  | classNamed name =>
    show ∀ c ∈ classPath, isShown c = true ∧ isMark c = false
    decide
  | _ => decide

/-- No endpoint has a method that skips the guard. -/
theorem method_ne (e : Endpoint) :
    e.method ≠ Text.ofString "OPTIONS" ∧ e.method ≠ Text.ofString "HEAD" := by
  cases e with
  | classNamed name =>
    show Text.ofString "GET" ≠ "OPTIONS" ∧ Text.ofString "GET" ≠ "HEAD"
    decide
  | _ => decide

/-- No open path begins as that of an endpoint, the state apart. -/
theorem eq_health_of_prefix {s : Settings} {e : Endpoint} {path : Text}
    (hopen : path ∈ Guard.openPaths s) (h : e.root <+: path) : e = .health := by
  -- Whatever the settings, an open path is one of four.
  have hpaths : Guard.openPaths s ⊆ ["/health", "/docs", "/redoc", "/openapi.json"] := by
    unfold Guard.openPaths Settings.pages
    cases s.openDocs <;> cases s.docsPublic <;> decide
  have hnone : e ≠ .health →
      ∀ path ∈ (["/health", "/docs", "/redoc", "/openapi.json"] : List Text),
        ¬ e.root <+: path := by
    intro hne
    cases e with
    | health => exact absurd rfl hne
    | classNamed name =>
      show ∀ path ∈ (["/health", "/docs", "/redoc", "/openapi.json"] : List Text),
        ¬ classPath <+: path
      decide
    | _ => decide
  by_contra hne
  exact hnone hne path (hpaths hopen) h

end Endpoint

namespace Framework

variable {F : Framework}

/-! ### What passes the guard -/

/-- **Without the key a request passes by its method or by the path in its address.** -/
theorem Passes.without_key {s : Settings} {r : Request} (h : F.Passes s r) (hkey : s.key ≠ [])
    (hcarried : Guard.carried r = [] ∨ Guard.carried r ≠ s.key.trim) :
    r.method = "OPTIONS" ∨ r.method = "HEAD" ∨
      ∃ path, F.address r = .ok path ∧ path ∈ Guard.openPaths s := by
  rcases h with hexempt | ⟨path, hpath, hadmits⟩
  · rcases of_decide_eq_true hexempt with hmethod | hmethod | hnone
    · exact Or.inl hmethod
    · exact Or.inr (Or.inl hmethod)
    · exact absurd hnone hkey
  · have hinvalid : Guard.isValid s r = false := by
      refine decide_eq_false fun hvalid => ?_
      rcases hcarried with hnone | hother
      · exact hvalid.1 hnone
      · exact hother hvalid.2
    unfold Guard.admits at hadmits
    rw [hinvalid, Bool.or_false] at hadmits
    exact Or.inr (Or.inr ⟨path, hpath, of_decide_eq_true hadmits⟩)

/-- **Without the key a request reaches the state and no other endpoint.** -/
theorem eq_health_of_reaches (haddress : F.CutsAddresses) (hroute : F.RoutesByPath)
    {s : Settings} {r : Request} (hkey : s.key ≠ []) (hhost : r.host = "testserver")
    (hslash : r.path.head? = some (CodePoint.ofChar '/'))
    (hcarried : Guard.carried r = [] ∨ Guard.carried r ≠ s.key.trim) {e : Endpoint}
    (h : F.Reaches s r e) : e = .health := by
  have hmethod := hroute.method h.routes
  rcases h.passes.without_key hkey hcarried with hoptions | hhead | ⟨path, hpath, hopen⟩
  · exact absurd (hmethod.symm.trans hoptions) e.method_ne.1
  · exact absurd (hmethod.symm.trans hhead) e.method_ne.2
  · obtain rfl := Except.ok.inj ((haddress.address hhost hslash).symm.trans hpath)
    -- A line break that the route does not count stands behind the root.
    have hroot : e.root <+: r.path := by
      rcases hroute.path h.routes with hsame | hbroken
      · exact hsame ▸ e.root_prefix_path
      · exact hbroken ▸ e.root_prefix_path.trans (List.prefix_append _ _)
    exact Endpoint.eq_health_of_prefix hopen
      (prefix_addressPath e.isShown_and_isMark_of_mem_root hroot)

end Framework

/-! ### Two catalogs -/

/-- **Nothing of the catalog shows without the key.** Where a key is configured, two
services that start in the same environment on any two file trees give the same
response to a request that does not carry the key, unless it is answered with the
state of the service. The framework is the same for both; of what it does only how it
cuts addresses and finds endpoints matters. -/
theorem respond_eq_without_key {F : Framework} (haddress : F.CutsAddresses)
    (hroute : F.RoutesByPath) {environment : Table Text} {key : Text}
    (hkey : environment.get? "CARLAPI_KEY" = some key) (hne : key ≠ []) {tree tree' : Tree}
    (hhome : tree'.home = tree.home) {depth : Nat} {service : Service} {log : List LogEntry}
    (hstart : start environment tree depth = .ok (service, log)) (depth' : Nat) :
    ∃ service' log', start environment tree' depth' = .ok (service', log') ∧
      ∀ r : Request, r.host = "testserver" → r.path.head? = some (CodePoint.ofChar '/') →
        (Guard.carried r = [] ∨ Guard.carried r ≠ service.settings.key.trim) →
          ¬ F.Reaches service.settings r .health →
            F.respond service' r = F.respond service r := by
  obtain ⟨service', log', hstart', hsettings⟩ := exists_start hhome hstart depth'
  refine ⟨service', log', hstart', fun r hhost hslash hcarried hstate => ?_⟩
  have hanswer : F.answer service' r = F.answer service r := by
    refine Framework.answer_congr hsettings fun e hreaches => ?_
    obtain rfl := Framework.eq_health_of_reaches haddress hroute
      (key_ne_nil_of_start hstart hkey hne) hhost hslash hcarried hreaches
    exact absurd hreaches hstate
  unfold Framework.respond
  rw [hanswer]

/-- An environment with a key. -/
def keyed : Table Text := ⟨[("CARLAPI_KEY", "k")], by decide⟩

/-- A file tree with a catalog of one class where a service looks for it. -/
def oneClassTree : Tree :=
  ⟨[], [], [(["utils", "carla_api.json"].map fun name => SystemText.octets (Text.ofString name),
    SystemText.octets "\x7b\"classes\":\x7b\"A\":\x7b\x7d\x7d\x7d")]⟩

/-- A request whose address has the open path `/health`, and whose path has a mark
behind it and is none that the routes know. -/
def marked : Request := ⟨"GET", "testserver", "/health?", [], [], []⟩

/-- A file tree with a catalog and one without any file give the same response to a
request that passes the guard by the path in its address alone. -/
theorem respond_eq_without_key_marked :
    ∃ service log service' log', start keyed ⟨[], [], []⟩ = .ok (service, log) ∧
      start keyed oneClassTree = .ok (service', log') ∧
      (Stock.framework 1000).Passes service.settings marked ∧
      (Stock.framework 1000).respond service' marked =
        (Stock.framework 1000).respond service marked := by
  have hok : (start keyed ⟨[], [], []⟩).isOk = true := by decide +kernel
  cases hstart : start keyed ⟨[], [], []⟩ with
  | error fault => rw [hstart] at hok; exact absurd hok Bool.false_ne_true
  | ok started =>
    obtain ⟨service, log⟩ := started
    have hkey : keyed.get? "CARLAPI_KEY" = some (Text.ofString "k") := by decide
    have hhome : oneClassTree.home = [] := rfl
    obtain ⟨service', log', hstart', hrespond⟩ := respond_eq_without_key
      (Stock.cutsAddresses 1000) (Stock.routesByPath 1000) hkey (by decide) hhome hstart
      Json.usualDepth
    have hstate : ¬ (Stock.framework 1000).Reaches service.settings marked .health := by
      intro hreaches
      have hpath := (Stock.routesByPath 1000).path hreaches.routes
      exact absurd hpath (by decide)
    have hpasses : (Stock.framework 1000).Passes service.settings marked := by
      refine Or.inr ⟨"/health", by decide +kernel, ?_⟩
      exact Bool.or_eq_true_iff.2 (Or.inl (decide_eq_true List.mem_cons_self))
    exact ⟨service, log, service', log', rfl, hstart', hpasses,
      hrespond marked rfl rfl (Or.inl (by decide)) hstate⟩

end Service
end ApiGuide
