/-
# How a service starts

The settings of a service come from its variables and the working directory, not
from any file; so two file trees with the same working directory start a service
with the same settings, or neither starts one (`exists_start`). A variable is read as
the system shows it (`Settings.exists_ofShown`). So the key that requests have to carry
is not empty unless its variable is (`key_ne_nil_of_start`), and the origins that are
allowed are those in what is shown of theirs (`Settings.shown_origins`).
-/

import ApiGuide.Service.Basic
import ApiGuide.Proofs.Table

namespace ApiGuide

/-! ### What the system shows -/

/-- What is read behind some text is some text. -/
theorem Utf8.decodeReplacingFrom_ne_nil {replacement : Octets → Text} {octets : Octets}
    {done : Text} (hdone : done ≠ []) : Utf8.decodeReplacingFrom replacement octets done ≠ [] := by
  fun_induction Utf8.decodeReplacingFrom replacement octets done with
  | case1 done => exact fun h => hdone (List.reverse_eq_nil_iff.1 h)
  | case2 done first rest c after _ ih => exact ih (List.cons_ne_nil _ _)
  | case3 done first rest count flaw _ part ih =>
    exact ih fun h => hdone (List.append_eq_nil_iff.1 h).2

/-- A bad part of some octets has one octet at least. -/
theorem Utf8.pos_of_front {first : UInt8} {rest : Octets} {count : Nat} {flaw : Flaw}
    (h : front first rest = .bad count flaw) : 0 < count := by
  unfold front at h
  simp only at h
  repeat' split at h
  all_goals
    first
    | (simp only [Front.bad.injEq] at h; omega)
    | cases h

/-- Some octets are shown as some text. -/
theorem SystemText.ofOctets_ne_nil {octets : Octets} (h : octets ≠ []) : ofOctets octets ≠ [] := by
  obtain ⟨first, rest, rfl⟩ := List.exists_cons_of_ne_nil h
  unfold ofOctets Utf8.decodeReplacing Utf8.decodeReplacingFrom
  split
  · exact Utf8.decodeReplacingFrom_ne_nil (List.cons_ne_nil _ _)
  · rename_i count flaw hfront
    refine Utf8.decodeReplacingFrom_ne_nil fun hnil => ?_
    rw [List.append_nil, List.reverse_eq_nil_iff, List.map_eq_nil_iff, List.take_eq_nil_iff] at hnil
    have hpos := Utf8.pos_of_front hfront
    rcases hnil with hzero | hzero
    · omega
    · exact absurd hzero (List.cons_ne_nil _ _)

/-- A character is kept in one octet at least. -/
theorem SystemText.octetsOne_ne_nil (c : CodePoint) : octetsOne c ≠ [] := by
  unfold octetsOne Utf8.encodeOne
  simp only
  repeat' split
  all_goals simp

/-- **What the system shows for a text is empty only for the empty text.** -/
theorem SystemText.ne_nil_of_shown {t shown : Text} (ht : t ≠ [])
    (h : SystemText.shown t = .ok shown) : shown ≠ [] := by
  unfold SystemText.shown at h
  split at h
  · simp at h
  · obtain rfl := Except.ok.inj h
    obtain ⟨c, t, rfl⟩ := List.exists_cons_of_ne_nil ht
    refine SystemText.ofOctets_ne_nil fun hnil => ?_
    rw [SystemText.octets, List.flatMap_cons] at hnil
    exact SystemText.octetsOne_ne_nil c (List.append_eq_nil_iff.1 hnil).1

namespace Service

/-! ### Variables -/

/-- Showing the values keeps the names, and each value is what is shown of it. -/
theorem Settings.shownVariables_eq_ok {entries shown : List (Text × Text)}
    (h : shownVariables entries = .ok shown) :
    shown.map Prod.fst = entries.map Prod.fst ∧
      ∀ name, (Table.lookup? name entries).map SystemText.shown =
        (Table.lookup? name shown).map .ok := by
  induction entries generalizing shown with
  | nil =>
    obtain rfl := Except.ok.inj h
    exact ⟨rfl, fun name => rfl⟩
  | cons entry rest ih =>
    obtain ⟨name, value⟩ := entry
    unfold shownVariables at h
    split at h
    · simp at h
    · rename_i value' hvalue
      cases hrest : shownVariables rest with
      | error fault =>
        rw [hrest] at h
        cases h
      | ok others =>
        rw [hrest] at h
        obtain rfl := Except.ok.inj h
        obtain ⟨hnames, hvalues⟩ := ih hrest
        refine ⟨by simp [hnames], fun x => ?_⟩
        unfold Table.lookup?
        split
        · rw [Option.map_some, Option.map_some, hvalue]
        · exact hvalues x

/-- **Settings are read from variables as the system shows them.** -/
theorem Settings.exists_ofShown {home : List Text} {environment : Table Text} {settings : Settings}
    (h : ofEnvironment home environment = .ok settings) :
    ∃ shown : Table Text, ofShown home shown = .ok settings ∧
      ∀ name, (environment.get? name).map SystemText.shown = (shown.get? name).map .ok := by
  unfold ofEnvironment at h
  cases hshown : shownVariables environment.entries with
  | error fault => simp [hshown] at h
  | ok shown =>
    obtain ⟨hnames, hvalues⟩ := shownVariables_eq_ok hshown
    have hentries : (Table.ofList shown).entries = shown :=
      Table.entries_ofList (hnames ▸ environment.nodup)
    simp only [hshown] at h
    refine ⟨Table.ofList shown, ?_, fun name => ?_⟩
    · cases hsettings : ofShown home (Table.ofList shown) with
      | error fault =>
        rw [hsettings] at h
        cases h
      | ok read =>
        rw [hsettings] at h
        exact congrArg _ (Except.ok.inj h)
    · unfold Table.get?
      rw [hentries]
      exact hvalues name

/-- The key and the origins in the settings, by the variables that hold them. -/
theorem Settings.key_and_origins_of_ofShown {home : List Text} {shown : Table Text}
    {settings : Settings} (h : ofShown home shown = .ok settings) :
    settings.key = (shown.get? "CARLAPI_KEY").getD "" ∧
      settings.allowedOrigins =
        origins ((shown.get? "ALLOWED_ORIGINS").getD "http://localhost") := by
  unfold ofShown at h
  simp only at h
  cases hlevel : Threshold.ofName ((shown.get? (Text.ofString "CARLAPI_LOG_LEVEL")).getD
      (Text.ofString "INFO")) with
  | error fault =>
    rw [hlevel] at h
    cases h
  | ok threshold =>
    rw [hlevel] at h
    obtain rfl := Except.ok.inj h
    exact ⟨rfl, rfl⟩

/-- **The key in the settings is what is shown of its variable.** -/
theorem Settings.shown_key {home : List Text} {environment : Table Text} {settings : Settings}
    (h : ofEnvironment home environment = .ok settings) {key : Text}
    (hkey : environment.get? "CARLAPI_KEY" = some key) :
    SystemText.shown key = .ok settings.key := by
  obtain ⟨shown, hsettings, hvalues⟩ := exists_ofShown h
  have hvalue := hvalues "CARLAPI_KEY"
  rw [hkey, Option.map_some] at hvalue
  obtain ⟨value, hget, hvalue⟩ := Option.map_eq_some_iff.1 hvalue.symm
  rw [(key_and_origins_of_ofShown hsettings).1, hget, Option.getD_some]
  exact hvalue.symm

/-- **The origins in the settings are those in what is shown of their variable.** -/
theorem Settings.shown_origins {home : List Text} {environment : Table Text} {settings : Settings}
    (h : ofEnvironment home environment = .ok settings) :
    ∃ list, SystemText.shown ((environment.get? "ALLOWED_ORIGINS").getD "http://localhost") =
        .ok list ∧ settings.allowedOrigins = origins list := by
  obtain ⟨shown, hsettings, hvalues⟩ := exists_ofShown h
  have hvalue := hvalues "ALLOWED_ORIGINS"
  rw [(key_and_origins_of_ofShown hsettings).2]
  cases hget : environment.get? "ALLOWED_ORIGINS" with
  | none =>
    rw [hget, Option.map_none, eq_comm, Option.map_eq_none_iff] at hvalue
    rw [hvalue]
    have hdefault : SystemText.ofOctets (SystemText.octets "http://localhost") =
        Text.ofString "http://localhost" := by decide +kernel
    exact ⟨_, congrArg Except.ok hdefault, rfl⟩
  | some value =>
    rw [hget, Option.map_some] at hvalue
    obtain ⟨list, hlist, hvalue⟩ := Option.map_eq_some_iff.1 hvalue.symm
    rw [hlist]
    exact ⟨list, hvalue.symm, rfl⟩

/-! ### Starting -/

variable {depth : Nat}

/-- A started service has the settings of its environment. -/
theorem ofEnvironment_of_start {environment : Table Text} {tree : Tree} {service : Service}
    {log : List LogEntry} (h : start environment tree depth = .ok (service, log)) :
    Settings.ofEnvironment tree.home environment = .ok service.settings := by
  unfold start at h
  split at h
  · simp at h
  · rename_i settings hsettings
    split at h
    · simp at h
    · obtain ⟨rfl, -⟩ := Prod.mk.inj (Except.ok.inj h)
      exact hsettings

/-- **A key that is configured is a key that is asked for.** -/
theorem key_ne_nil_of_start {environment : Table Text} {tree : Tree} {service : Service}
    {log : List LogEntry} (h : start environment tree depth = .ok (service, log)) {key : Text}
    (hkey : environment.get? "CARLAPI_KEY" = some key) (hne : key ≠ []) :
    service.settings.key ≠ [] :=
  SystemText.ne_nil_of_shown hne (Settings.shown_key (ofEnvironment_of_start h) hkey)

/-- **A service starts whatever the files are**, and however deep they may be read, with the
same settings: what keeps it from starting is a variable. -/
theorem exists_start {environment : Table Text} {tree tree' : Tree} (hhome : tree'.home = tree.home)
    {service : Service} {log : List LogEntry}
    (h : start environment tree depth = .ok (service, log)) (depth' : Nat) :
    ∃ service' log', start environment tree' depth' = .ok (service', log') ∧
      service'.settings = service.settings := by
  have hsettings := ofEnvironment_of_start h
  unfold start at h ⊢
  rw [hsettings] at h
  rw [hhome, hsettings]
  simp only at h ⊢
  unfold Guide.load Guide.loadFrom Path.read at h ⊢
  split at h
  · simp at h
  · rename_i loaded hloaded
    cases hfault : SystemText.fault? service.settings.catalogPath.text with
    | some fault => simp [hfault, Except.map] at hloaded
    | none => exact ⟨_, _, rfl, rfl⟩

end Service
end ApiGuide
