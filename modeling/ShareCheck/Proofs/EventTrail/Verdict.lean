import ShareCheck.Proofs.Activity
import ShareCheck.Proofs.EventTrail
import ShareCheck.Proofs.Table
import ShareCheck.Scripted.Cluster

set_option autoImplicit false

namespace ShareCheck

namespace EventTrail

/-! ### Expected counts -/

def lastGiven (counts : List (String × Nat)) (reason : String) : Option Nat :=
  counts.reverse.lookup reason

def occurrences (events : List Event) (reason : String) : Nat :=
  (events.map (·.reason)).count (some reason)

theorem get?_expectAll (counts : List (String × Nat)) (reason : String) :
    (expectAll counts).get? reason = lastGiven counts reason := by
  have folded (t : Tally) : (counts.foldl (fun t given => t.insert given.1 given.2) t).get? reason =
      (lastGiven counts reason).or (t.get? reason) := by
    unfold lastGiven
    induction counts generalizing t with
    | nil => simp
    | cons first rest ih =>
      obtain ⟨name, count⟩ := first
      rw [List.foldl_cons, ih, List.reverse_cons, List.lookup_append, Option.or_assoc,
        Table.get?_insert, List.lookup_cons, List.lookup_nil]
      grind
  have all := folded Table.empty
  rwa [Table.get?_empty, Option.or_none] at all

/-! ### Tallies -/

def Tallies (events : List Event) (t : Tally) : Prop :=
  ∀ reason, t.get? reason =
    if occurrences events reason = 0 then none else some (occurrences events reason)

theorem get?_record (t : Tally) (found : Option String) (reason : String) :
    (record t found).get? reason =
      if found = some reason then some (count t reason + 1) else t.get? reason := by
  cases found with
  | none => simp [record]
  | some other => simp only [record, Table.get?_insert, Option.some.injEq]; grind

theorem get?_foldl_record (reasons : List (Option String)) (t : Tally) (reason : String) :
    (reasons.foldl record t).get? reason =
      if reasons.count (some reason) = 0 then t.get? reason
      else some (count t reason + reasons.count (some reason)) := by
  induction reasons generalizing t with
  | nil => simp
  | cons found rest ih =>
    rw [List.foldl_cons, ih, get?_record, count_record, List.count_cons]
    by_cases same : found = some reason
    next =>
      simp only [same, beq_self_eq_true, if_true]
      grind
    next => simp [same]

theorem tally_tallies (events : List Event) : Tallies events (tally (events.map (·.reason))) := by
  intro reason
  have empty : count (Table.empty : Tally) reason = 0 := rfl
  rw [tally, get?_foldl_record, empty, Nat.zero_add, Table.get?_empty]
  rfl

theorem Tallies.unique {events : List Event} {t u : Tally} (one : Tallies events t)
    (two : Tallies events u) : t = u :=
  Table.ext fun reason => (one reason).trans (two reason).symm

theorem occurrences_perm {events others : List Event} (perm : events.Perm others)
    (reason : String) : occurrences events reason = occurrences others reason :=
  (perm.map _).count_eq _

theorem tally_perm {events others : List Event} (perm : events.Perm others) :
    tally (events.map (·.reason)) = tally (others.map (·.reason)) := by
  refine (tally_tallies events).unique fun reason => ?_
  rw [occurrences_perm perm]
  exact tally_tallies others reason

/-! ### Mismatches -/

structure Mismatch where
  reason : String
  want : Nat
  got : Nat
deriving DecidableEq, Repr

def Mismatch.text (x : Mismatch) : String :=
  s!"want {x.want} {x.reason} event(s), got {x.got}"

def Exact (counts : List (String × Nat)) (events : List Event) : Prop :=
  ∀ reason want, lastGiven counts reason = some want → occurrences events reason = want

structure Lists (counts : List (String × Nat)) (events : List Event) (found : List Mismatch) :
    Prop where
  ascending : found.Pairwise fun x y => x.reason < y.reason
  complete : ∀ x, x ∈ found ↔ lastGiven counts x.reason = some x.want ∧
    occurrences events x.reason = x.got ∧ x.got ≠ x.want

def mismatches (expected observed : Tally) : List Mismatch :=
  expected.entries.filterMap fun (reason, want) =>
    if count observed reason = want then none else some ⟨reason, want, count observed reason⟩

theorem mismatches_text (expected observed : Tally) :
    (expected.entries.filterMap fun (reason, want) => mismatch? observed reason want) =
      (mismatches expected observed).map Mismatch.text := by
  rw [mismatches, List.map_filterMap]
  refine List.filterMap_congr fun (reason, want) _ => ?_
  by_cases same : count observed reason = want
  next => simp [mismatch?, same]
  next => simp [mismatch?, same, Mismatch.text]

theorem compare_error {expected observed : Tally} (unmet : mismatches expected observed ≠ []) :
    compare expected observed = .error (.verification checkName
      ("; ".intercalate ((mismatches expected observed).map Mismatch.text))) := by
  unfold compare
  rw [mismatches_text]
  split
  next none => exact absurd (List.map_eq_nil_iff.1 none) unmet
  next => rfl

theorem mismatches_lists (counts : List (String × Nat)) (events : List Event) :
    Lists counts events (mismatches (expectAll counts) (tally (events.map (·.reason)))) where
  ascending := by
    refine List.Pairwise.filterMap _ ?_ (expectAll counts).ordered
    rintro ⟨a, _⟩ ⟨b, _⟩ before x first y second
    grind
  complete x := by
    obtain ⟨reason, want, got⟩ := x
    simp only [mismatches, List.mem_filterMap, Prod.exists, Table.mem_entries, get?_expectAll,
      count_tally]
    grind [occurrences]

/-! ### The verdict on events -/

theorem exact_iff {counts : List (String × Nat)} {events : List Event} :
    Exact counts events ↔ ∀ reason want, (reason, want) ∈ (expectAll counts).entries →
      count (tally (events.map (·.reason))) reason = want := by
  simp only [Table.mem_entries, get?_expectAll, count_tally]
  rfl

theorem Lists.exact_of_nil {counts : List (String × Nat)} {events : List Event}
    (lists : Lists counts events []) : Exact counts events := by
  intro reason want given
  by_contra other
  exact List.not_mem_nil ((lists.complete ⟨reason, want, _⟩).2 ⟨given, rfl, other⟩)

theorem judge_exact {kind : String} {share : ShareIdentity} {counts : List (String × Nat)}
    {events : List Event} (some : events ≠ []) (met : Exact counts events) :
    judge kind share (expectAll counts) events = .ok (tally (events.map (·.reason))) := by
  have compared := (compare_ok _ _).2 (exact_iff.1 met)
  have filled : events.isEmpty = false := by simpa using some
  simp [judge, filled, compared, Except.map]

theorem judge_inexact (kind : String) {share : ShareIdentity} {counts : List (String × Nat)}
    {events : List Event} (some : events ≠ []) (unmet : ¬ Exact counts events) :
    ∃ found, Lists counts events found ∧ judge kind share (expectAll counts) events =
      .error (.verification checkName ("; ".intercalate (found.map Mismatch.text))) := by
  have lists := mismatches_lists counts events
  have compared := compare_error fun none => unmet (none ▸ lists).exact_of_nil
  have filled : events.isEmpty = false := by simpa using some
  exact ⟨_, lists, by simp [judge, filled, compared, Except.map]⟩

theorem judge_ok_iff {kind : String} {share : ShareIdentity} {counts : List (String × Nat)}
    {events : List Event} {t : Tally} :
    judge kind share (expectAll counts) events = .ok t ↔
      events ≠ [] ∧ Exact counts events ∧ Tallies events t := by
  constructor
  next =>
    intro judged
    obtain ⟨some, counted⟩ := judge_ok judged
    have met : Exact counts events := exact_iff.2 (by simpa using counted)
    rw [judge_exact some met] at judged
    cases judged
    exact ⟨some, met, tally_tallies events⟩
  next =>
    rintro ⟨some, met, tallies⟩
    rw [judge_exact some met, tallies.unique (tally_tallies events)]

theorem judge_perm (kind : String) (share : ShareIdentity) (expected : Tally)
    {events others : List Event} (perm : events.Perm others) :
    judge kind share expected events = judge kind share expected others := by
  rw [judge, judge, tally_perm perm, perm.isEmpty_eq]

def Pads (counts : List (String × Nat)) (events padded : List Event) : Prop :=
  ∃ extra, padded.Perm (events ++ extra) ∧
    ∀ e ∈ extra, ∀ reason, e.reason = some reason → lastGiven counts reason = none

theorem Pads.exact {counts : List (String × Nat)} {events padded : List Event}
    (pads : Pads counts events padded) (met : Exact counts events) : Exact counts padded := by
  obtain ⟨extra, perm, foreign⟩ := pads
  intro reason want given
  have none : occurrences extra reason = 0 := by
    refine List.count_eq_zero.2 fun member => ?_
    obtain ⟨e, among, same⟩ := List.mem_map.1 member
    cases given.symm.trans (foreign e among reason same)
  have added : occurrences (events ++ extra) reason = occurrences events reason := by
    rw [occurrences, List.map_append, List.count_append, ← occurrences, ← occurrences, none,
      Nat.add_zero]
  rw [occurrences_perm perm, added]
  exact met reason want given

/-! ### Verification -/

variable {σ : Type} {query : ClusterQuery σ} {config : Config} {share : ShareIdentity}
  {m after : Moment σ}

def Answered (query : ClusterQuery σ) (config : Config) (share : ShareIdentity) (m : Moment σ)
    (identity : ResourceIdentity) (events : List Event) (after : Moment σ) : Prop :=
  ∃ mid, Activity.perform (query.identity (reference config share)) m =
      some (.ok (.ok identity), mid) ∧
    Activity.perform (query.events share.ns identity.eventSelector) mid =
      some (.ok (.ok events), after)

theorem Answered.runs {α : Type} {identity : ResourceIdentity} {events : List Event}
    (answered : Answered query config share m identity events after)
    (rest : ResourceIdentity → List Event → Except Error α) :
    ((Activity.perform (query.identity (reference config share))).andThen fun identity =>
      (Activity.perform (query.events share.ns identity.eventSelector)).andThen fun events =>
        Activity.pure (rest identity events)) m = some (.ok (rest identity events), after) := by
  obtain ⟨mid, found, listed⟩ := answered
  refine Activity.andThen_some.2 (.inl ⟨identity, mid, found, ?_⟩)
  exact Activity.andThen_some.2 (.inl ⟨events, after, listed, rfl⟩)

theorem Answered.verify {identity : ResourceIdentity} {events : List Event} (expected : Tally)
    (answered : Answered query config share m identity events after) :
    verify query config share expected m =
      some (.ok (judge identity.kind share expected events), after) :=
  answered.runs fun identity => judge identity.kind share expected

theorem verify_ok {expected t : Tally} :
    verify query config share expected m = some (.ok (.ok t), after) ↔
      ∃ identity events, Answered query config share m identity events after ∧
        judge identity.kind share expected events = .ok t := by
  constructor
  next =>
    intro ran
    obtain ⟨identity, mid, found, rest⟩ := Activity.andThen_ok.1 ran
    obtain ⟨events, last, listed, ended⟩ := Activity.andThen_ok.1 rest
    obtain ⟨judged, rfl⟩ := Activity.pure_some.1 ended
    exact ⟨identity, events, ⟨mid, found, listed⟩, (Except.ok.inj judged).symm⟩
  next =>
    rintro ⟨identity, events, answered, judged⟩
    rw [answered.verify, judged]

def listing (f : List Event → List Event) (query : ClusterQuery σ) : ClusterQuery σ :=
  { query with events := fun ns selector => (query.events ns selector).map (·.map f) }

theorem perform_map_andThen {α β γ : Type} (c : Request σ α) (f : α → β)
    (rest : β → Activity σ (Except Error γ)) :
    (Activity.perform (c.map (·.map f))).andThen rest =
      (Activity.perform c).andThen fun a => rest (f a) := by
  funext m
  unfold Activity.andThen Activity.bind Activity.perform Call.map
  match c m.now m.world with
  | (.never, _) => rfl
  | (.lands delay finish, w) =>
    dsimp only [Flight.map]
    match finish w with
    | (.ok (.ok a), _) => rfl
    | (.ok (.error e), _) => rfl
    | (.error p, _) => rfl

theorem verify_listing (f : List Event → List Event) (expected : Tally) :
    verify (listing f query) config share expected =
      (Activity.perform (query.identity (reference config share))).andThen fun identity =>
        (Activity.perform (query.events share.ns identity.eventSelector)).andThen fun events =>
          Activity.pure (judge identity.kind share expected (f events)) :=
  congrArg _ (funext fun _ => perform_map_andThen ..)

/-- A verification succeeds exactly if some events are listed and every reason of the table was
counted as often as was said of it last. If not, it names the reasons with other counts. The order
of the events does not matter, nor do events that the table does not ask for. -/
theorem verify_exact (query : ClusterQuery σ) (config : Config) (share : ShareIdentity)
    (counts : List (String × Nat)) (m : Moment σ) :
    (∀ t after, verify query config share (expectAll counts) m = some (.ok (.ok t), after) ↔
      ∃ identity events, Answered query config share m identity events after ∧ events ≠ [] ∧
        Exact counts events ∧ Tallies events t) ∧
    (∀ identity events after, Answered query config share m identity events after →
      events ≠ [] → ¬ Exact counts events → ∃ found, Lists counts events found ∧
        verify query config share (expectAll counts) m = some (.ok (.error
          (.verification checkName ("; ".intercalate (found.map Mismatch.text)))), after)) ∧
    (∀ f : List Event → List Event, (∀ events, (f events).Perm events) →
      verify (listing f query) config share (expectAll counts) m =
        verify query config share (expectAll counts) m) ∧
    ∀ f : List Event → List Event, (∀ events, Pads counts events (f events)) →
      ∀ t after, verify query config share (expectAll counts) m = some (.ok (.ok t), after) →
        ∃ u, verify (listing f query) config share (expectAll counts) m =
          some (.ok (.ok u), after) := by
  refine ⟨fun t after => ?_, fun identity events after answered some unmet => ?_,
    fun f permutes => ?_, fun f pads t after ran => ?_⟩
  · simp only [verify_ok, judge_ok_iff]
  · obtain ⟨found, lists, judged⟩ := judge_inexact identity.kind some unmet
    exact ⟨found, lists, by rw [answered.verify, judged]⟩
  · rw [verify_listing]
    simp only [judge_perm _ _ _ (permutes _)]
    rfl
  · obtain ⟨identity, events, answered, judged⟩ := verify_ok.1 ran
    obtain ⟨some, met, -⟩ := judge_ok_iff.1 judged
    have filled : f events ≠ [] := by
      obtain ⟨extra, perm, -⟩ := pads events
      rintro none
      rw [none] at perm
      exact some (List.append_eq_nil_iff.1 (List.nil_perm.1 perm)).1
    rw [verify_listing, answered.runs fun identity events =>
      judge identity.kind share (expectAll counts) (f events)]
    exact ⟨_, by rw [judge_exact filled ((pads events).exact met)]⟩

def logged : List Event := [⟨some "Scaled"⟩, ⟨none⟩, ⟨some "Pulled"⟩, ⟨some "Scaled"⟩]

open Scripted in
def logbook : Cluster where
  events := Table.empty.insert anySelector ⟨[⟨{}, logged⟩], 0⟩

def recounted : List (String × Nat) := [("Scaled", 1), ("Deleted", 0), ("Scaled", 2)]

def verdict (query : ClusterQuery Scripted.Cluster) (counts : List (String × Nat)) :
    Option (Except Panic (Except Error Tally) × Moment Scripted.Cluster) :=
  verify query {} ⟨"shares", "one"⟩ (expectAll counts) ⟨0, logbook⟩

open Scripted in
theorem verify_exact_logbook :
    (∃ t after, verdict Cluster.query recounted = some (.ok (.ok t), after) ∧
      t.get? "Scaled" = some 2 ∧ t.get? "Deleted" = none ∧
      verdict (listing List.reverse Cluster.query) recounted = some (.ok (.ok t), after) ∧
      ∃ u, verdict (listing (· ++ [⟨some "Pulled"⟩]) Cluster.query) recounted =
        some (.ok (.ok u), after)) ∧
      ∃ found after, Lists [("Scaled", 3)] logged found ∧
        verdict Cluster.query [("Scaled", 3)] = some (.ok (.error (.verification checkName
          ("; ".intercalate (found.map Mismatch.text)))), after) := by
  obtain ⟨-, -, same, more⟩ :=
    verify_exact Cluster.query {} ⟨"shares", "one"⟩ recounted ⟨0, logbook⟩
  obtain ⟨-, unmet, -, -⟩ :=
    verify_exact Cluster.query {} ⟨"shares", "one"⟩ [("Scaled", 3)] ⟨0, logbook⟩
  have pads (events : List Event) : Pads recounted events (events ++ [⟨some "Pulled"⟩]) := by
    refine ⟨_, .refl _, fun e member reason same => ?_⟩
    cases List.mem_singleton.1 member
    cases same
    rfl
  refine ⟨⟨_, _, rfl, rfl, rfl, same _ List.reverse_perm, more _ pads _ _ rfl⟩, ?_⟩
  obtain ⟨found, lists, refused⟩ := unmet _ logged _ ⟨_, rfl, rfl⟩ nofun fun met =>
    absurd (met "Scaled" 3 rfl) (by decide)
  exact ⟨found, _, lists, refused⟩

end EventTrail

end ShareCheck
