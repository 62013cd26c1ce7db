/-
# The service

The application in section 3.6 of the specification, and what it does at its start (sections
4.1 and 4.2).

A service answers requests from a guide, under its settings. It starts with a guide
to the API whose catalog its settings name; a catalog that cannot be loaded does not
keep it from starting.
-/

import ApiGuide.Service.Settings

namespace ApiGuide

/-- A service: its settings and the guide that it answers from. -/
structure Service where
  settings : Service.Settings
  guide : Guide

namespace Service

/-- Starts a service. What is logged is what its threshold admits. -/
def start (environment : Table Text) (tree : Tree) (depth : Nat := Json.usualDepth) :
    Except StartFault (Service × List LogEntry) :=
  match Settings.ofEnvironment tree.home environment with
  | .error fault => .error fault
  | .ok settings =>
    match Guide.load tree settings.catalogPath settings.apiName depth with
    | .error fault => .error (.system fault)
    | .ok (guide, log) => .ok (⟨settings, guide⟩, log.filter settings.threshold.admits)

end Service
end ApiGuide
