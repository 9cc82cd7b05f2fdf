import ShareCheck.Proofs.Lifecycle.Ownership
import ShareCheck.Proofs.Scenario.Completion
import ShareCheck.Registry

set_option autoImplicit false

namespace ShareCheck.Registry

variable {σ : Type}

inductive Settled : List (Scenario σ) → List Report → Trace → Prop
  | none : Settled [] [] []
  | next {s : Scenario σ} {rest : List (Scenario σ)} {report : Report} {reports : List Report}
      {t u : Trace} : s.Settled report t → Settled rest reports u →
      Settled (s :: rest) (report :: reports) (t ++ u)

theorem runAll_settles {setting : Scenario.Setting σ}
    (complete : setting.collaborators.Complete setting.config.pollInterval)
    (scenarios : List (Scenario (Traced σ)))
    (contained : ∀ s ∈ scenarios, Scenario.Contained setting s) (m : Moment (Traced σ)) :
    ∃ outcome after t, runAll setting.traced scenarios m = some (outcome, after) ∧
      after.world.trace = m.world.trace ++ t ∧
      ((∃ reports, outcome = .ok reports ∧ Settled scenarios reports t ∧ t.panicked = []) ∨
        ∃ o p, outcome = .error p ∧ t.panicked = [(o, p)]) := by
  induction scenarios generalizing m with
  | nil => exact ⟨_, m, [], rfl, (List.append_nil _).symm, .inl ⟨[], rfl, .none, rfl⟩⟩
  | cons s rest ih =>
    obtain ⟨outcome, mid, t, ran, trace, settled⟩ :=
      Scenario.run_settles complete (contained s (List.mem_cons_self ..)) m
    obtain ⟨report, rfl, settled, quiet⟩ | ⟨o, p, rfl, panicked⟩ := settled
    next =>
      obtain ⟨outcome, after, u, more, further, others⟩ :=
        ih (fun s member => contained s (List.mem_cons_of_mem _ member)) mid
      rw [trace, List.append_assoc] at further
      obtain ⟨reports, rfl, others, still⟩ | ⟨o, p, rfl, panicked⟩ := others
      next =>
        refine ⟨.ok (report :: reports), after, t ++ u, ?_, further,
          .inl ⟨_, rfl, .next settled others, by simp [quiet, still]⟩⟩
        exact Activity.bind_ok.2 ⟨report, mid, ran, Activity.bind_ok.2 ⟨reports, after, more, rfl⟩⟩
      next =>
        refine ⟨.error p, after, t ++ u, ?_, further, .inr ⟨o, p, rfl, by simp [quiet, panicked]⟩⟩
        exact Activity.bind_some.2
          (.inl ⟨report, mid, ran, Activity.bind_some.2 (.inr ⟨p, more, rfl⟩)⟩)
    next =>
      refine ⟨.error p, mid, t, ?_, trace, .inr ⟨o, p, rfl, panicked⟩⟩
      exact Activity.bind_some.2 (.inr ⟨p, ran, rfl⟩)

/-- Collaborators that always come back, with an answer, an error or a panic, lead to a report of
each scenario, torn down, unless a removal panics. That panic ends the whole run. -/
theorem run_survives {registry : Registry (Traced σ)} (setting : Scenario.Setting σ)
    {names : List String} {scenarios : List (Scenario (Traced σ))}
    (selected : registry.select names = .ok scenarios)
    (complete : setting.collaborators.Complete setting.config.pollInterval)
    (contained : ∀ s ∈ scenarios, Scenario.Contained setting s) (now : Nat) (w : σ) :
    ∃ outcome after, registry.run setting.traced names ⟨now, ⟨[], w⟩⟩ = some (outcome, after) ∧
      ((∃ reports, outcome = .ok (.ok reports) ∧ Settled scenarios reports after.world.trace) ↔
        after.world.trace.panicked = []) ∧
      ∀ p, outcome = .error p ↔ ∃ o, after.world.trace.panicked = [(o, p)] := by
  obtain ⟨outcome, after, t, ran, trace, settled⟩ :=
    runAll_settles complete scenarios contained ⟨now, ⟨[], w⟩⟩
  obtain rfl : after.world.trace = t := trace
  unfold run
  rw [selected]
  obtain ⟨reports, rfl, settled, quiet⟩ | ⟨o, p, rfl, panicked⟩ := settled
  next =>
    refine ⟨.ok (.ok reports), after, Activity.bind_ok.2 ⟨reports, after, ran, rfl⟩, ?_, ?_⟩
    · exact iff_of_true ⟨reports, rfl, settled⟩ quiet
    · simp [quiet]
  next =>
    refine ⟨.error p, after, Activity.bind_some.2 (.inr ⟨p, ran, rfl⟩), ?_, ?_⟩
    · simp [panicked]
    · simp [panicked]

def boom {α : Type} : Call (List String) α := fun _ names =>
  (.lands 1 fun names => (.error (.text "boom"), names), names)

def frail (stuck : List String) : Collaborators (List String) where
  query := ⟨fun _ _ => boom, fun _ _ => boom, fun _ _ => boom, fun _ => boom⟩
  fixtures :=
    { ensure := Lifecycle.shelf.ensure
      remove := fun o =>
        if stuck.contains o.text then Activity.perform boom else Lifecycle.shelf.remove o }
  shares := ⟨fun _ _ => boom, fun _ _ _ _ => boom, fun _ _ _ => boom, fun _ _ _ => boom⟩
  suffix names := (0, names)

theorem boom_lands {α : Type} : (boom : Call (List String) α).Lands := fun _ _ => ⟨1, _, _, rfl⟩

theorem frail_complete (stuck : List String) (interval : Nat) :
    (frail stuck).Complete interval where
  query := ⟨fun _ _ => boom_lands, fun _ _ => boom_lands, fun _ _ => boom_lands,
    fun _ => boom_lands, fun _ _ _ _ _ _ _ => nofun⟩
  ensure o := (Lifecycle.shelf_answers.ensure o).completes
  remove o := by
    simp only [frail]
    split
    next => exact Activity.perform_completes boom_lands
    next => exact (Lifecycle.shelf_answers.remove o).completes

def frailSetting (stuck : List String) : Scenario.Setting (List String) :=
  ⟨{}, Lifecycle.oneSecret, frail stuck⟩

def double : Scenario (Traced (List String)) where
  name := "double"
  share := ⟨"shares", "one"⟩
  shareName := "One"
  fixtures := [⟨⟨"a.yaml"⟩, "one"⟩, ⟨⟨"a.yaml"⟩, "two"⟩]

theorem double_contained (stuck : List String) :
    ∀ s ∈ [double], Scenario.Contained (frailSetting stuck) s := by
  intro s member
  obtain rfl := List.mem_singleton.1 member
  exact Scenario.contained_kinds (frail_complete stuck _) Step.base_eq

theorem run_survives_double :
    (ofList [double]).select [] = .ok [double] ∧
      (frail []).Complete (frailSetting []).config.pollInterval ∧
      (∀ s ∈ [double], Scenario.Contained (frailSetting []) s) ∧
      ∃ reports after,
        (ofList [double]).run (frailSetting []).traced [] ⟨0, ⟨[], []⟩⟩ =
          some (.ok (.ok reports), after) ∧
        Settled [double] reports after.world.trace ∧
        after.world.trace.handed.map (·.text) = ["Secret two/a", "Secret one/a"] := by
  have selected : (ofList [double]).select [] = .ok [double] := rfl
  have seen : ((ofList [double]).run (frailSetting []).traced [] ⟨0, ⟨[], []⟩⟩).map (fun done =>
      (done.2.world.trace.panicked.length, done.2.world.trace.handed.map (·.text))) =
      some (0, ["Secret two/a", "Secret one/a"]) := by
    decide +kernel
  obtain ⟨outcome, after, ran, survived, -⟩ :=
    run_survives (frailSetting []) selected (frail_complete [] _) (double_contained []) 0 []
  rw [ran, Option.map_some, Option.some.injEq, Prod.mk.injEq] at seen
  obtain ⟨quiet, handed⟩ := seen
  obtain ⟨reports, rfl, settled⟩ := survived.2 (List.length_eq_zero_iff.1 quiet)
  exact ⟨selected, frail_complete [] _, double_contained [], reports, after, ran, settled, handed⟩

theorem run_stopped :
    (frail ["Secret two/a"]).Complete (frailSetting []).config.pollInterval ∧
      (∀ s ∈ [double], Scenario.Contained (frailSetting ["Secret two/a"]) s) ∧
      ∃ after,
        (ofList [double]).run (frailSetting ["Secret two/a"]).traced [] ⟨0, ⟨[], []⟩⟩ =
          some (.error (.text "boom"), after) ∧
        after.world.trace.created.map (·.text) = ["Secret one/a", "Secret two/a"] ∧
        after.world.trace.handed.map (·.text) = ["Secret two/a"] := by
  have seen : ((ofList [double]).run (frailSetting ["Secret two/a"]).traced []
      ⟨0, ⟨[], []⟩⟩).map (fun done => (done.1.map fun _ => (),
        done.2.world.trace.created.map (·.text), done.2.world.trace.handed.map (·.text))) =
      some (.error (.text "boom"), ["Secret one/a", "Secret two/a"], ["Secret two/a"]) := by
    decide +kernel
  obtain ⟨⟨outcome, after⟩, ran, same⟩ := Option.map_eq_some_iff.1 seen
  simp only [Prod.mk.injEq] at same
  obtain ⟨stopped, created, handed⟩ := same
  match outcome with
  | .error p =>
    cases stopped
    exact ⟨frail_complete _ _, double_contained _, after, ran, created, handed⟩

end ShareCheck.Registry
