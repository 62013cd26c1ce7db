/-
# Addresses and routes of the stock framework

The stock framework cuts addresses (`cutsAddresses`) and routes by path (`routesByPath`), as
it is taken for granted of a framework.

An address is taken apart into an authority and a path. Where the host is plain and the
path begins with a slash, the authority is the host; the query behind the path begins with
a mark, so none of it belongs to the path.
-/

import ApiGuide.Proofs.Service.Framework
import ApiGuide.Proofs.Table
import ApiGuide.Proofs.Text.Edge
import ApiGuide.Stock.Framework

namespace ApiGuide
namespace Stock

open Service (Endpoint Framework Pages Request Settings addressPath isMark isShown)

variable {depth : Nat}

/-! ### Addresses -/

namespace Address

/-- What stands behind a mark does not matter to what stands before the first one. -/
theorem takeWhile_append_of_mark {front rest : Text}
    (hrest : ∀ c ∈ rest.head?, isMark c = true) :
    (front ++ rest).takeWhile (fun c => !isMark c) = front.takeWhile fun c => !isMark c := by
  have hnone : rest.takeWhile (fun c => !isMark c) = [] := by
    cases rest with
    | nil => rfl
    | cons c rest => exact List.takeWhile_cons_of_neg (by simp [hrest c rfl])
  rw [List.takeWhile_append, hnone, List.append_nil]
  split
  · rename_i hall
    exact (List.IsPrefix.eq_of_length (List.takeWhile_prefix _) hall).symm
  · rfl

/-- The query behind a path begins with a mark. -/
theorem isMark_head?_suffix (r : Request) :
    ∀ c ∈ ((Query.suffix r).filter isShown).head?, isMark c = true := by
  unfold Query.suffix
  split
  · exact fun c hc => absurd hc (Option.not_mem_none c)
  · intro c hc
    obtain rfl : CodePoint.ofChar '?' = c := Option.some.inj hc
    decide

/-- The host is the authority, and the path is what an address shows of it. -/
theorem authority_and_path {r : Request} (hhost : r.host = "testserver")
    (hslash : r.path.head? = some (CodePoint.ofChar '/')) :
    authority r = Text.ofString "testserver" ∧ path r = addressPath r.path := by
  obtain ⟨rest, hpath⟩ : ∃ rest, r.path = CodePoint.ofChar '/' :: rest :=
    List.head?_eq_some_iff.1 hslash
  have hplain : ∀ c ∈ Text.ofString "testserver", (!isEnd c) = true := by decide
  have hkept : (Text.ofString "testserver").filter isShown = "testserver" := by decide
  have htext : text r = Text.ofString "testserver" ++
      (r.path.filter isShown ++ (Query.suffix r).filter isShown) := by
    unfold text
    rw [hhost, List.append_assoc, List.filter_append, List.filter_append, hkept]
  have hend : ∀ c ∈ (r.path.filter isShown ++ (Query.suffix r).filter isShown).head?,
      (!isEnd c) = false := by
    rw [hpath]
    intro c hc
    obtain rfl : CodePoint.ofChar '/' = c := Option.some.inj hc
    decide
  refine ⟨?_, ?_⟩
  · unfold authority
    rw [htext, Text.takeWhile_run hplain hend]
  · unfold path
    rw [htext, Text.dropWhile_run hplain hend, takeWhile_append_of_mark (isMark_head?_suffix r)]
    rfl

end Address

/-- **The stock framework cuts addresses.** -/
theorem cutsAddresses (depth : Nat) : (framework depth).CutsAddresses where
  address {r} hhost hslash := by
    obtain ⟨hauthority, hpath⟩ := Address.authority_and_path hhost hslash
    have hfault : Address.fault? (Text.ofString "testserver") = none := by decide +kernel
    show Address.path? r = _
    unfold Address.path?
    rw [hauthority, hfault, hpath]

/-! ### Routes -/

namespace Target

/-- A path is what is left of it, or that with the line break that was dropped. -/
theorem eq_or_eq_of_withoutBreak {path known : Text} (h : withoutBreak path = known) :
    path = known ∨ path = known ++ [CodePoint.lineFeed] := by
  unfold withoutBreak at h
  split at h
  · rename_i hlast
    obtain ⟨front, rfl⟩ := List.getLast?_eq_some_iff.1 hlast
    rw [List.dropLast_concat] at h
    exact Or.inr (h ▸ rfl)
  · exact Or.inl h

/-- The pages stand for themselves. -/
theorem ne_endpoint_of_mem_ofPages {pages : Pages} {path : Text} {e : Endpoint} :
    (path, Target.endpoint e) ∉ ofPages pages := by
  simp [ofPages]

/-- A fixed path is that of its endpoint. -/
theorem path_of_mem_fixed {path : Text} {e : Endpoint} (h : (path, Target.endpoint e) ∈ fixed) :
    path = e.path ∧ e.HasPath := by
  obtain ⟨e', he', heq⟩ := List.mem_map.1 h
  obtain ⟨rfl, hendpoint⟩ := Prod.mk.inj heq
  obtain rfl := Target.endpoint.inj hendpoint
  refine ⟨rfl, ?_⟩
  cases e' with
  | classNamed name => simp at he'
  | _ => trivial

/-- The path of a class stands for the class of the name. -/
theorem ofClassPath?_eq_some {path : Text} {e : Endpoint}
    (h : ofClassPath? path = some (.endpoint e)) : path = e.path ∧ e.HasPath := by
  unfold ofClassPath? at h
  simp only at h
  split at h
  · rename_i hname
    obtain rfl := Target.endpoint.inj (Option.some.inj h)
    exact ⟨(List.prefix_iff_eq_append.1 (List.isPrefixOf_iff_prefix.1 hname.1)).symm, hname.2⟩
  · cases h

/-- **A path stands for an endpoint** only if it is the path of it, a line break at its end
apart. -/
theorem path_of_ofPath? {pages : Pages} {path : Text} {e : Endpoint}
    (h : ofPath? pages path = some (.endpoint e)) :
    (path = e.path ∨ path = e.path ++ [CodePoint.lineFeed]) ∧ e.HasPath := by
  unfold ofPath? at h
  cases hknown : Table.lookup? (withoutBreak path) (ofPages pages ++ fixed) with
  | some target =>
    rw [hknown] at h
    obtain rfl := Option.some.inj h
    rcases List.mem_append.1 (Table.mem_of_lookup? hknown) with hpage | hfixed
    · exact absurd hpage ne_endpoint_of_mem_ofPages
    · obtain ⟨hpath, hnamed⟩ := path_of_mem_fixed hfixed
      exact ⟨eq_or_eq_of_withoutBreak hpath, hnamed⟩
  | none =>
    rw [hknown] at h
    obtain ⟨hpath, hnamed⟩ := ofClassPath?_eq_some h
    exact ⟨Or.inl hpath, hnamed⟩

/-- No known path begins as that of a class. -/
theorem not_prefix_of_mem_known (s : Settings) :
    ∀ entry ∈ ofPages s.pages ++ fixed, ¬ Endpoint.classPath <+: entry.1 := by
  unfold Settings.pages
  split <;> decide

/-- The path of a class stands for it: no other path begins so, with or without a line
break at its end. -/
theorem ofPath?_class (s : Settings) {name : Text} (hname : name ≠ [])
    (hslash : CodePoint.ofChar '/' ∉ name) :
    ofPath? s.pages (Endpoint.classPath ++ name) = some (.endpoint (.classNamed name)) := by
  have hbegin : Endpoint.classPath <+: withoutBreak (Endpoint.classPath ++ name) := by
    unfold withoutBreak
    split
    · rw [List.dropLast_append_of_ne_nil hname]
      exact List.prefix_append _ _
    · exact List.prefix_append _ _
  have hunknown : Table.lookup? (withoutBreak (Endpoint.classPath ++ name))
      (ofPages s.pages ++ fixed) = none := by
    cases hfound : Table.lookup? (withoutBreak (Endpoint.classPath ++ name))
        (ofPages s.pages ++ fixed) with
    | none => rfl
    | some target =>
      exact absurd hbegin (not_prefix_of_mem_known s _ (Table.mem_of_lookup? hfound))
  have hclass : ofClassPath? (Endpoint.classPath ++ name) =
      some (.endpoint (.classNamed name)) := by
    unfold ofClassPath?
    simp only [List.drop_left]
    exact if_pos ⟨List.isPrefixOf_iff_prefix.2 (List.prefix_append _ _), hname, hslash⟩
  unfold ofPath?
  rw [hunknown, hclass]
  rfl

/-- **The path of an endpoint stands for it**, whatever pages there are. -/
theorem ofPath?_path (s : Settings) {e : Endpoint} (h : e.HasPath) :
    ofPath? s.pages e.path = some (.endpoint e) := by
  cases e with
  | classNamed name => exact ofPath?_class s h.1 h.2
  | _ =>
    unfold Settings.pages
    split <;> rfl

end Target

/-- An endpoint that is given is that of the path, and its method is that of the request. -/
theorem ofPath?_of_route_eq_given {pages : Pages} {r : Request} {e : Endpoint}
    (h : route pages r = .given e) :
    Target.ofPath? pages r.path = some (.endpoint e) ∧ r.method = e.method := by
  unfold route at h
  split at h
  · rename_i target htarget
    split at h
    · rename_i hmethod
      cases target with
      | endpoint e' =>
        obtain rfl := Service.Taken.given.inj h
        exact ⟨htarget, List.mem_singleton.1 hmethod⟩
      | page body type => cases h
    · cases h
  · split at h <;> cases h

/-- **The stock framework routes by path.** -/
theorem routesByPath (depth : Nat) : (framework depth).RoutesByPath where
  method h := (ofPath?_of_route_eq_given h).2
  path h := (Target.path_of_ofPath? (ofPath?_of_route_eq_given h).1).1
  hasPath h := (Target.path_of_ofPath? (ofPath?_of_route_eq_given h).1).2
  given {s r e} hnamed hmethod hpath := by
    have hallowed : r.method ∈ (Target.endpoint e).methods := List.mem_singleton.2 hmethod
    show route s.pages r = .given e
    unfold route
    rw [hpath, Target.ofPath?_path s hnamed]
    simp only [hallowed, if_true]

end Stock
end ApiGuide
