import ShareCheck.Proofs.Registry
import ShareCheck.Proofs.Registry.Selection
import ShareCheck.Proofs.Text.Encoding

set_option autoImplicit false

namespace ShareCheck

namespace Registry

variable {σ : Type} {registered : List (Scenario σ)} {names : List String}

def lastNamed (registered : List (Scenario σ)) (name : String) : Option (Scenario σ) :=
  registered.reverse.find? (·.name == name)

def Known (registered : List (Scenario σ)) (name : String) : Prop :=
  ∃ s ∈ registered, s.name = name

theorem lastNamed_known {name : String} :
    (∃ s, lastNamed registered name = some s) ↔ Known registered name := by
  simp [lastNamed, Known, ← Option.isSome_iff_exists, List.find?_isSome]

theorem lastNamed_name {name : String} {s : Scenario σ}
    (last : lastNamed registered name = some s) : s.name = name := by
  simpa using List.find?_some last

theorem get?_ofList (registered : List (Scenario σ)) (name : String) :
    (ofList registered).get? name = lastNamed registered name := by
  have found := Table.get?_foldl_insert (·.name) registered Table.empty name
  rwa [Table.get?_empty, Option.or_none] at found

theorem lookup_unknown {r : Registry σ} {name : String} (missing : r.get? name = none) :
    r.lookup name = .error (r.unknown name) := by
  rw [lookup, missing]

theorem lookups_error {r : Registry σ} {before after : List String} {name : String}
    (found : ∀ other ∈ before, ∃ s, r.get? other = some s) (missing : r.get? name = none) :
    (before ++ name :: after).mapM r.lookup = .error (r.unknown name) := by
  induction before with
  | nil =>
    rw [List.nil_append, List.mapM_cons, lookup_unknown missing]
    rfl
  | cons other before ih =>
    obtain ⟨⟨s, here⟩, later⟩ := List.forall_mem_cons.1 found
    rw [List.cons_append, List.mapM_cons, lookup_known.2 here, ih later]
    rfl

theorem exists_lookups {r : Registry σ} :
    (∃ selected, names.mapM r.lookup = .ok selected) ↔
      ∀ name ∈ names, ∃ s, r.get? name = some s := by
  simp only [lookups_ok]
  induction names with
  | nil => simp
  | cons name rest ih =>
    rw [List.forall_mem_cons, ← ih]
    simp only [List.forall₂_cons_left_iff]
    grind

def Ascending (names : List String) : Prop :=
  names.Pairwise fun a b => Text.encode a.toList < Text.encode b.toList

inductive Means (registered : List (Scenario σ)) : List String → List String → Prop
  | given {names : List String} : names ≠ [] → Means registered names names
  | all {known : List String} : Ascending known →
      (∀ name, name ∈ known ↔ Known registered name) → Means registered [] known

theorem means_keys (registered : List (Scenario σ)) :
    Means registered [] (ofList registered).keys := by
  refine .all ?_ fun name => ?_
  · exact List.pairwise_map.2 ((ofList registered).ordered.imp fun before => Text.encode_lt before)
  · rw [Table.mem_keys, get?_ofList, lastNamed_known]

theorem select_ok {selected : List (Scenario σ)}
    (chosen : (ofList registered).select names = .ok selected) :
    ∃ meant, Means registered names meant ∧
      List.Forall₂ (fun name s => lastNamed registered name = some s) meant selected := by
  cases names with
  | nil =>
    cases chosen
    refine ⟨_, means_keys registered, ?_⟩
    rw [Table.keys, Table.values, List.forall₂_map_left_iff, List.forall₂_map_right_iff,
      List.forall₂_same]
    exact fun e member => get?_ofList registered e.1 ▸ Table.mem_entries.1 member
  | cons name rest =>
    refine ⟨name :: rest, .given (List.cons_ne_nil _ _), ?_⟩
    simpa only [get?_ofList] using lookups_ok.1 chosen

theorem exists_select_iff :
    (∃ selected, (ofList registered).select names = .ok selected) ↔
      ∀ name ∈ names, Known registered name := by
  simp only [← lastNamed_known, ← get?_ofList]
  cases names with
  | nil => exact iff_of_true ⟨_, rfl⟩ nofun
  | cons name rest => exact exists_lookups

inductive OneByOne (setting : Scenario.Setting σ) :
    List (Scenario σ) → Moment σ → List Report → Moment σ → Prop
  | none {m : Moment σ} : OneByOne setting [] m [] m
  | next {m mid after : Moment σ} {s : Scenario σ} {rest : List (Scenario σ)} {report : Report}
      {reports : List Report} : s.run setting m = some (.ok report, mid) →
      OneByOne setting rest mid reports after →
      OneByOne setting (s :: rest) m (report :: reports) after

variable {setting : Scenario.Setting σ} {selected : List (Scenario σ)} {reports : List Report}
  {m after : Moment σ}

theorem runAll_ok (ran : runAll setting selected m = some (.ok reports, after)) :
    OneByOne setting selected m reports after := by
  induction selected generalizing m reports with
  | nil =>
    obtain ⟨⟨⟩, rfl⟩ := Activity.pure_some.1 ran
    exact .none
  | cons s rest ih =>
    obtain ⟨report, mid, first, more⟩ := Activity.bind_ok.1 ran
    obtain ⟨others, last, later, joined⟩ := Activity.bind_ok.1 more
    obtain ⟨⟨⟩, rfl⟩ := Activity.pure_some.1 joined
    exact .next first (ih later)

theorem OneByOne.reported (ran : OneByOne setting selected m reports after) :
    reports.map (·.scenario) = selected.map (·.name) := by
  induction ran with
  | none => rfl
  | next first _ ih =>
    obtain ⟨parts⟩ := Scenario.run_parts first
    rw [List.map_cons, List.map_cons, ih, parts.report_eq]

end Registry

def Report.Fails (r : Report) : Prop := ∃ c ∈ r.checks, c.error ≠ none

instance : DecidablePred Report.Fails := fun r =>
  inferInstanceAs (Decidable (∃ c ∈ r.checks, c.error ≠ none))

theorem Report.not_fails {r : Report} : ¬ r.Fails ↔ ∀ c ∈ r.checks, c.error = none := by
  simp only [Fails, ne_eq, not_exists, not_and, not_not]

theorem Report.passed_eq (r : Report) : r.passed = !decide r.Fails := by
  rw [Bool.eq_iff_iff, Bool.not_eq_true', decide_eq_false_iff_not, not_fails]
  simp only [passed, Check.passed, List.all_eq_true, Option.isNone_iff_eq_none]

namespace Run

variable (reports : List Report)

theorem failed_eq : failed reports = (reports.filter (·.Fails)).map (·.scenario) := by
  simp [failed, Report.passed_eq]

theorem length_failed : (failed reports).length = reports.countP (·.Fails) := by
  rw [failed_eq, List.length_map, List.countP_eq_length_filter]

structure Judged : Prop where
  clean : finish reports = .ok () ↔ ∀ r ∈ reports, ∀ c ∈ r.checks, c.error = none
  told : (∃ r ∈ reports, r.Fails) → finish reports =
    .error (s!"{reports.countP (·.Fails)} scenario(s) failed: " ++
      ", ".intercalate ((reports.filter (·.Fails)).map (·.scenario)))
  counted : ∃ passed failed, totals reports = s!"{passed} scenario(s) passed, {failed} failed" ∧
    passed = reports.countP (¬ ·.Fails) ∧ failed = reports.countP (·.Fails) ∧
    passed + failed = reports.length

theorem finish_ok : finish reports = .ok () ↔ failed reports = [] := by
  unfold finish
  cases failed reports <;> simp

theorem finish_failed (some_failed : failed reports ≠ []) :
    finish reports = .error (s!"{(failed reports).length} scenario(s) failed: " ++
      ", ".intercalate (failed reports)) := by
  unfold finish
  split
  next none => exact absurd none some_failed
  next => rfl

theorem judged : Judged reports where
  clean := by
    rw [finish_ok, failed_eq, List.map_eq_nil_iff, List.filter_eq_nil_iff]
    simp only [decide_eq_true_eq, Report.not_fails]
  told := by
    rintro ⟨r, member, fails⟩
    rw [finish_failed, length_failed, failed_eq]
    rw [failed_eq, ne_eq, List.map_eq_nil_iff, List.filter_eq_nil_iff]
    exact fun none => none r member (decide_eq_true fails)
  counted := by
    have both : reports.length = reports.countP (·.Fails) + reports.countP (¬ ·.Fails) := by
      simpa using List.length_eq_countP_add_countP (fun r : Report => decide r.Fails)
    have failures := length_failed reports
    refine ⟨reports.length - (failed reports).length, (failed reports).length, ?_, ?_, failures, ?_⟩
    next => rw [totals, ← String.append_assoc]
    next => omega
    next => omega

end Run

namespace Registry

variable {σ : Type}

/-- A selection is for the scenarios registered last under its names, and for all of them if it
has no names. A run of it reports on each, in that order, and its verdict is on those reports. A
name that is not known ends it before anything has happened. -/
theorem run_reports (registered : List (Scenario σ)) (setting : Scenario.Setting σ)
    (names : List String) :
    ((∃ selected, (ofList registered).select names = .ok selected) ↔
      ∀ name ∈ names, Known registered name) ∧
    (∀ selected, (ofList registered).select names = .ok selected →
      ∃ meant, Means registered names meant ∧
        List.Forall₂ (fun name s => lastNamed registered name = some s) meant selected ∧
        ∀ m answer after, (ofList registered).run setting names m = some (.ok answer, after) →
          ∃ reports, answer = .ok reports ∧ OneByOne setting selected m reports after ∧
            reports.map (·.scenario) = meant ∧ Run.Judged reports) ∧
    ∀ before name others, names = before ++ name :: others →
      (∀ other ∈ before, Known registered other) → ¬ Known registered name →
      ∃ known, Means registered [] known ∧
        ∀ m, (ofList registered).run setting names m =
          some (.ok (.error (.internal "scenario selection" ("unknown scenario " ++
            Text.quoted name ++ "; known: " ++ ", ".intercalate known))), m) := by
  refine ⟨exists_select_iff, fun selected chosen => ?_, ?_⟩
  next =>
    obtain ⟨meant, means, each⟩ := select_ok chosen
    refine ⟨meant, means, each, fun m answer after ran => ?_⟩
    unfold run at ran
    rw [chosen] at ran
    obtain ⟨reports, mid, ran, ended⟩ := Activity.bind_ok.1 ran
    obtain ⟨⟨⟩, rfl⟩ := Activity.pure_some.1 ended
    have turns := runAll_ok ran
    refine ⟨reports, rfl, turns, ?_, Run.judged reports⟩
    have named : List.Forall₂ (· = ·) meant (selected.map (·.name)) :=
      List.forall₂_map_right_iff.2 (each.imp fun _ _ last => (lastNamed_name last).symm)
    rw [List.forall₂_eq_eq_eq] at named
    rw [turns.reported, named]
  next =>
    rintro before name others rfl known missing
    refine ⟨_, means_keys registered, fun m => ?_⟩
    have found : ∀ other ∈ before, ∃ s, (ofList registered).get? other = some s := by
      simpa only [get?_ofList, lastNamed_known] using known
    have none : (ofList registered).get? name = none := by
      rw [get?_ofList, Option.eq_none_iff_forall_ne_some]
      exact fun s last => missing (lastNamed_known.1 ⟨s, last⟩)
    have stopped : (before ++ name :: others).mapM (ofList registered).lookup =
        .error ((ofList registered).unknown name) := lookups_error found none
    have refused : (ofList registered).select (before ++ name :: others) =
        .error ((ofList registered).unknown name) := by
      cases before <;> exact stopped
    unfold run
    rw [refused]
    rfl

theorem run_reports_twice :
    (∃ reports after,
      OneByOne (frailSetting []).traced [double, double] ⟨0, ⟨[], []⟩⟩ reports after ∧
      reports.map (·.scenario) = ["double", "double"] ∧
      Run.finish reports = .error "2 scenario(s) failed: double, double") ∧
    ∃ known, Means [double] [] known ∧
      (ofList [double]).run (frailSetting []).traced ["double", "absent", "none"] ⟨0, ⟨[], []⟩⟩ =
        some (.ok (.error (.internal "scenario selection" ("unknown scenario " ++
          Text.quoted "absent" ++ "; known: " ++ ", ".intercalate known))), ⟨0, ⟨[], []⟩⟩) := by
  constructor
  next =>
    have seen : ((ofList [double]).run (frailSetting []).traced ["double", "double"]
        ⟨0, ⟨[], []⟩⟩).map (fun done => done.1.map fun answer => answer.map Run.finish) =
        some (.ok (.ok (.error "2 scenario(s) failed: double, double"))) := by
      decide +kernel
    obtain ⟨⟨outcome, after⟩, ran, same⟩ := Option.map_eq_some_iff.1 seen
    match outcome with
    | .ok answer =>
      obtain ⟨meant, means, -, told⟩ := (run_reports [double] (frailSetting []).traced
        ["double", "double"]).2.1 [double, double] rfl
      obtain ⟨reports, rfl, turns, named, -⟩ := told _ _ _ ran
      cases means
      refine ⟨reports, after, turns, named, ?_⟩
      simpa [Except.map] using same
  next =>
    obtain ⟨known, means, refused⟩ := (run_reports [double] (frailSetting []).traced
      ["double", "absent", "none"]).2.2 ["double"] "absent" ["none"] rfl
      (by simp [Known, double]) (by simp [Known, double])
    exact ⟨known, means, refused _⟩

end Registry

end ShareCheck
