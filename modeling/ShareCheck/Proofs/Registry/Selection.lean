import ShareCheck.Proofs.Scenario.Projection
import ShareCheck.Proofs.Table
import ShareCheck.Registry

set_option autoImplicit false

namespace ShareCheck

namespace Registry

open Scenario

variable {σ : Type} {names : List String}

theorem lookup_known {r : Registry σ} {name : String} {s : Scenario σ} :
    r.lookup name = .ok s ↔ r.get? name = some s := by
  unfold lookup
  cases r.get? name <;> simp

theorem lookups_ok {r : Registry σ} {selected : List (Scenario σ)} :
    names.mapM r.lookup = .ok selected ↔
      List.Forall₂ (fun name s => r.get? name = some s) names selected := by
  induction names generalizing selected with
  | nil => cases selected <;> simp [pure, Except.pure]
  | cons name rest ih =>
    rw [List.mapM_cons]
    cases selected with
    | nil =>
      cases r.lookup name <;> cases rest.mapM r.lookup <;>
        simp [bind, Except.bind, pure, Except.pure]
    | cons s selected =>
      rw [List.forall₂_cons, ← lookup_known, ← ih]
      cases r.lookup name <;> cases rest.mapM r.lookup <;>
        simp [bind, Except.bind, pure, Except.pure]

variable (outlines : List Outline)

def outlined : Registry σ := ofList (outlines.map Outline.scenario)

def listed : Table Outline := outlines.foldl (fun t o => t.insert o.name o) Table.empty

def chosen : List String → List Outline
  | [] => (listed outlines).values
  | names => names.filterMap (listed outlines).get?

end Registry

end ShareCheck
