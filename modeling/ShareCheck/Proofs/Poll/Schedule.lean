import Mathlib.Data.List.Chain
import ShareCheck.Proofs.Projection

set_option autoImplicit false

namespace ShareCheck

variable {σ : Type}

/-- `lasts` is how long the evaluation takes, if it ever ends. -/
inductive Note
  | began (start : Nat) (lasts : Option Nat)
  | ended (stop : Nat) (answer : Except Panic (Except Error Probe))

structure Noted (σ : Type) where
  notes : List Note
  world : σ

def Call.noted (probe : Request σ Probe) : Request (Noted σ) Probe := fun now n =>
  match probe now n.world with
  | (.never, w) => (.never, ⟨n.notes ++ [.began now none], w⟩)
  | (.lands delay finish, w) =>
    (.lands delay fun n =>
      let (answer, w) := finish n.world
      (answer, ⟨n.notes ++ [.ended (now + delay) answer], w⟩),
      ⟨n.notes ++ [.began now (some delay)], w⟩)

theorem Call.noted_lifts (probe : Request σ Probe) :
    (Call.noted probe).Lifts (.of Noted.world) probe := by
  intro now n
  unfold Call.noted
  match probe now n.world with
  | (.never, w) => exact .never _
  | (.lands delay finish, w) => exact .lands delay _ finish _ fun _ => rfl

def Call.Answers (probe : Request σ Probe) : Prop :=
  ∀ now w delay finish v, probe now w = (.lands delay finish, v) →
    ∀ u, ∃ answer, (finish u).1 = .ok answer

inductive Attempt
  | completed (start lasts : Nat) (answer : Except Error Probe)
  | cutOff (start : Nat) (lasts : Option Nat)

namespace Attempt

def start : Attempt → Nat
  | completed start _ _ => start
  | cutOff start _ => start

def stop (hardStop : Nat) : Attempt → Nat
  | completed start lasts _ => start + lasts
  | cutOff _ _ => hardStop

/-- An evaluation that ends exactly at the hard stop is not cut off. -/
def Judged (hardStop : Nat) : Attempt → Prop
  | completed start lasts _ => start + lasts ≤ hardStop
  | cutOff start lasts => ∀ d ∈ lasts, hardStop < start + d

def Satisfied : Attempt → Prop
  | completed _ _ answer => answer = .ok .satisfied
  | cutOff _ _ => False

def observed : Attempt → String
  | completed _ _ (.ok .satisfied) => ""
  | completed _ _ (.ok (.pending observed)) => observed
  | completed _ _ (.error e) => "query error: " ++ e.message
  | cutOff _ _ => "probe did not complete"

def notes : Attempt → List Note
  | completed start lasts answer =>
    [.began start (some lasts), .ended (start + lasts) (.ok answer)]
  | cutOff start lasts => [.began start lasts]

structure InTurn (deadline interval : Nat) (a b : Attempt) : Prop where
  early : a.stop (deadline + interval) < deadline
  apart : a.stop (deadline + interval) ≤ b.start
  start : b.start = min (a.stop (deadline + interval) + interval) deadline

end Attempt

structure Evaluated (probe : Request σ Probe) (stop : Nat) (m : Moment (Noted σ)) (a : Attempt)
    (after : Moment (Noted σ)) : Prop where
  start : a.start = m.now
  judged : a.Judged stop
  ended : after.now = a.stop stop
  notes : after.world.notes = m.world.notes ++ a.notes
  satisfied : a.Satisfied → evaluate (Call.noted probe) stop m = .satisfied after
  unmet : ¬ a.Satisfied → evaluate (Call.noted probe) stop m = .unmet a.observed after

theorem evaluate_noted {probe : Request σ Probe} (answers : probe.Answers) (stop : Nat)
    (m : Moment (Noted σ)) : ∃ a after, Evaluated probe stop m a after := by
  match begun : probe m.now m.world.world with
  | (.never, w) =>
    have given : evaluate (Call.noted probe) stop m = .unmet "probe did not complete"
        ⟨stop, ⟨m.world.notes ++ [.began m.now none], w⟩⟩ := by
      simp only [evaluate, Call.noted, begun]
    exact ⟨.cutOff m.now none, _, rfl, nofun, rfl, rfl, nofun, fun _ => given⟩
  | (.lands delay finish, w) =>
    by_cases intime : m.now + delay ≤ stop
    next =>
      obtain ⟨answer, landed⟩ := answers _ _ _ _ _ begun w
      refine ⟨.completed m.now delay answer,
        ⟨m.now + delay, ⟨m.world.notes ++ [.began m.now (some delay)] ++
          [.ended (m.now + delay) (.ok answer)], (finish w).2⟩⟩, rfl, intime, rfl, ?_, ?_, ?_⟩
      · simp [Attempt.notes]
      · rintro rfl
        simp only [evaluate, Call.noted, begun, intime, if_true, landed]
      · intro other
        match answer with
        | .ok .satisfied => exact absurd rfl other
        | .ok (.pending observed) =>
          simp only [evaluate, Call.noted, begun, intime, if_true, landed, Attempt.observed]
        | .error e =>
          simp only [evaluate, Call.noted, begun, intime, if_true, landed, Attempt.observed]
    next =>
      have given : evaluate (Call.noted probe) stop m = .unmet "probe did not complete"
          ⟨stop, ⟨m.world.notes ++ [.began m.now (some delay)], w⟩⟩ := by
        simp only [evaluate, Call.noted, begun, intime, if_false]
      refine ⟨.cutOff m.now (some delay), _, rfl, ?_, rfl, rfl, nofun, fun _ => given⟩
      rintro d ⟨⟩
      exact Nat.lt_of_not_le intime

structure Course (deadline interval : Nat) (late : String → Error) (m : Moment (Noted σ))
    (earlier : List Attempt) (last : Attempt) (r : Except Error Unit)
    (after : Moment (Noted σ)) : Prop where
  first : ∀ a ∈ (earlier ++ [last]).head?, a.start = m.now
  inTurn : (earlier ++ [last]).IsChain (Attempt.InTurn deadline interval)
  judged : ∀ a ∈ earlier ++ [last], a.start ≤ deadline ∧ a.Judged (deadline + interval)
  unmet : ∀ a ∈ earlier, ¬ a.Satisfied
  notes : after.world.notes = m.world.notes ++ (earlier ++ [last]).flatMap Attempt.notes
  ended : after.now = last.stop (deadline + interval)
  satisfied : last.Satisfied → r = .ok ()
  late : ¬ last.Satisfied → deadline ≤ after.now ∧ r = .error (late last.observed)

theorem Attempt.Judged.stop_le {hardStop : Nat} {a : Attempt} (judged : a.Judged hardStop) :
    a.stop hardStop ≤ hardStop := by
  cases a with
  | completed start lasts answer => exact judged
  | cutOff start lasts => exact Nat.le_refl _

namespace Course

variable {probe : Request σ Probe} {deadline interval : Nat} {late : String → Error}
  {m mid after : Moment (Noted σ)} {a last : Attempt} {earlier : List Attempt}
  {r : Except Error Unit}

theorem final (evaluated : Evaluated probe (deadline + interval) m a after)
    (begins : m.now ≤ deadline) (satisfied : a.Satisfied → r = .ok ())
    (expired : ¬ a.Satisfied → deadline ≤ after.now ∧ r = .error (late a.observed)) :
    Course deadline interval late m [] a r after where
  first := by
    rintro b ⟨⟩
    exact evaluated.start
  inTurn := .singleton a
  judged := by
    intro b member
    obtain rfl := List.mem_singleton.1 member
    exact ⟨evaluated.start ▸ begins, evaluated.judged⟩
  unmet := nofun
  notes := by
    rw [evaluated.notes]
    simp
  ended := evaluated.ended
  satisfied := satisfied
  late := expired

theorem later (evaluated : Evaluated probe (deadline + interval) m a mid)
    (begins : m.now ≤ deadline) (other : ¬ a.Satisfied) (early : mid.now < deadline)
    (rest : Course deadline interval late ⟨min (mid.now + interval) deadline, mid.world⟩
      earlier last r after) :
    Course deadline interval late m (a :: earlier) last r after where
  first := by
    rintro b ⟨⟩
    exact evaluated.start
  inTurn := by
    refine rest.inTurn.cons fun b next => ?_
    have start : b.start = min (mid.now + interval) deadline := rest.first b next
    rw [evaluated.ended] at early start
    exact ⟨early, by omega, start⟩
  judged := by
    intro b member
    obtain rfl | member := List.mem_cons.1 member
    next => exact ⟨evaluated.start ▸ begins, evaluated.judged⟩
    next => exact rest.judged b member
  unmet := by
    intro b member
    obtain rfl | member := List.mem_cons.1 member
    next => exact other
    next => exact rest.unmet b member
  notes := by
    rw [rest.notes, evaluated.notes]
    simp
  ended := rest.ended
  satisfied := rest.satisfied
  late := rest.late

end Course

theorem pollUntil_course {probe : Request σ Probe} {interval : Nat} (answers : probe.Answers)
    (paced : probe.Paced interval) (deadline patience : Nat) (late : String → Error)
    (m : Moment (Noted σ)) (begins : m.now ≤ deadline) :
    ∃ earlier last r after,
      pollUntil (Call.noted probe) deadline interval late patience m = some (.ok r, after) ∧
        Course deadline interval late m earlier last r after := by
  have evaluation {m done : Moment (Noted σ)} {observed : String}
      (given : evaluate (Call.noted probe) (deadline + interval) m = .unmet observed done) :
      ∃ a, Evaluated probe (deadline + interval) m a done ∧ ¬ a.Satisfied ∧
        observed = a.observed := by
    obtain ⟨a, after, evaluated⟩ := evaluate_noted answers (deadline + interval) m
    by_cases satisfied : a.Satisfied
    next => cases given.symm.trans (evaluated.satisfied satisfied)
    next =>
      cases given.symm.trans (evaluated.unmet satisfied)
      exact ⟨a, evaluated, satisfied, rfl⟩
  have noted : (Call.noted probe).Paced interval := (Call.noted_lifts probe).paced paced
  -- The induction goes on from where the next evaluation begins.
  fun_induction pollUntil (Call.noted probe) deadline interval late patience m with
  | case1 patience m done given =>
    obtain ⟨a, after, evaluated⟩ := evaluate_noted answers (deadline + interval) m
    by_cases satisfied : a.Satisfied
    next =>
      cases given.symm.trans (evaluated.satisfied satisfied)
      exact ⟨[], a, .ok (), done, rfl, .final evaluated begins (fun _ => rfl)
        fun other => absurd satisfied other⟩
    next => cases given.symm.trans (evaluated.unmet satisfied)
  | case2 patience m p done given =>
    obtain ⟨a, after, evaluated⟩ := evaluate_noted answers (deadline + interval) m
    by_cases satisfied : a.Satisfied
    next => cases given.symm.trans (evaluated.satisfied satisfied)
    next => cases given.symm.trans (evaluated.unmet satisfied)
  | case3 patience m observed done given expired =>
    obtain ⟨a, evaluated, other, rfl⟩ := evaluation given
    exact ⟨[], a, _, done, rfl, .final evaluated begins (fun satisfied => absurd satisfied other)
      fun _ => ⟨expired, rfl⟩⟩
  | case4 patience m observed done given early _ ih =>
    obtain ⟨-, -, start⟩ := nextStart_moves noted begins given (Nat.lt_of_not_le early)
    obtain ⟨a, evaluated, other, rfl⟩ := evaluation given
    rw [start] at ih ⊢
    obtain ⟨earlier, last, r, after, ran, course⟩ := ih (Nat.min_le_right _ _)
    exact ⟨a :: earlier, last, r, after, ran,
      .later evaluated begins other (Nat.lt_of_not_le early) course⟩
  | case5 m observed done given early stays =>
    exact absurd (nextStart_moves noted begins given (Nat.lt_of_not_le early)).2.1 stays
  | case6 m observed done given early stays patience ih =>
    exact absurd (nextStart_moves noted begins given (Nat.lt_of_not_le early)).2.1 stays

theorem Course.satisfied_iff {deadline interval : Nat} {late : String → Error}
    {m after : Moment (Noted σ)} {earlier : List Attempt} {last : Attempt} {r : Except Error Unit}
    (course : Course deadline interval late m earlier last r after) :
    r = .ok () ↔ ∃ a ∈ earlier ++ [last], a.Satisfied := by
  constructor
  next =>
    rintro rfl
    refine ⟨last, by simp, Classical.byContradiction fun other => ?_⟩
    cases (course.late other).2
  next =>
    rintro ⟨a, member, satisfied⟩
    obtain member | member := List.mem_append.1 member
    next => exact absurd satisfied (course.unmet a member)
    next => exact course.satisfied (List.mem_singleton.1 member ▸ satisfied)

/-- A wait that the clock can tell the end of ends one interval after the deadline at the latest. It
made at least one evaluation, each in its turn, and its result is that of the last one, the only one
that may be satisfied. Any other wait panics without an evaluation. -/
theorem waitFor_schedule (description : String) (timeout interval reach : Nat)
    (probe : Request σ Probe) (answers : probe.Answers) (paced : probe.Paced interval) (now : Nat)
    (w : σ) :
    (timeout + interval ≤ reach → ∃ earlier last r after,
      waitFor description timeout interval (Call.noted probe) reach ⟨now, ⟨[], w⟩⟩ =
        some (.ok r, after) ∧
      waitFor description timeout interval probe reach ⟨now, w⟩ =
        some (.ok r, ⟨after.now, after.world.world⟩) ∧
      after.now ≤ now + timeout + interval ∧
      Course (now + timeout) interval
        (fun observed => .timeout description (.ofMillis timeout) observed) ⟨now, ⟨[], w⟩⟩
        earlier last r after ∧
      (r = .ok () ↔ ∃ a ∈ earlier ++ [last], a.Satisfied)) ∧
    (reach < timeout + interval →
      waitFor description timeout interval (Call.noted probe) reach ⟨now, ⟨[], w⟩⟩ =
        some (.error beyondReach, ⟨now, ⟨[], w⟩⟩) ∧
      waitFor description timeout interval probe reach ⟨now, w⟩ =
        some (.error beyondReach, ⟨now, w⟩)) := by
  constructor
  next =>
    intro within
    obtain ⟨earlier, last, r, after, polled, course⟩ :=
      pollUntil_course answers paced (now + timeout) patience
        (fun observed => .timeout description (.ofMillis timeout) observed) ⟨now, ⟨[], w⟩⟩
        (Nat.le_add_right now timeout)
    have ran : waitFor description timeout interval (Call.noted probe) reach ⟨now, ⟨[], w⟩⟩ =
        some (.ok r, after) :=
      (waitFor_within description within).trans polled
    have unnoted := waitFor_lifts (Call.noted_lifts probe) description timeout interval reach
      ⟨now, ⟨[], w⟩⟩
    rw [ran] at unnoted
    refine ⟨earlier, last, r, after, ran, unnoted, ?_, course, course.satisfied_iff⟩
    rw [course.ended]
    exact (course.judged last (by simp)).2.stop_le
  next => exact fun beyond => ⟨waitFor_beyond description beyond, waitFor_beyond description beyond⟩

def settling : Request Nat Probe := fun _ n =>
  (.lands 10 fun n =>
    (.ok (match n with
      | 1 => .ok (.pending "starting")
      | 2 => .error (.internal "pods" "out of reach")
      | _ => .ok .satisfied), n),
    n + 1)

theorem settling_answers : settling.Answers := by
  rintro now w delay finish v begun u
  cases begun
  exact ⟨_, rfl⟩

theorem waitFor_schedule_settling :
    settling.Answers ∧ settling.Paced 250 ∧ 1000 + 250 ≤ clockReach ∧
      ∃ earlier last after,
        waitFor "pods" 1000 250 (Call.noted settling) clockReach ⟨0, ⟨[], 0⟩⟩ =
          some (.ok (.ok ()), after) ∧
        Course (0 + 1000) 250 (fun observed => .timeout "pods" (.ofMillis 1000) observed)
          ⟨0, ⟨[], 0⟩⟩ earlier last (.ok ()) after ∧
        last.Satisfied ∧ after.now = 530 := by
  have answers := settling_answers
  have paced : settling.Paced 250 := nofun
  have settled : (waitFor "pods" 1000 250 settling clockReach ⟨0, 0⟩).map
      (fun (r, after) => (r, after.now)) = some (.ok (.ok ()), 530) := by
    decide +kernel
  obtain ⟨earlier, last, r, after, ran, unnoted, -, course, -⟩ :=
    (waitFor_schedule "pods" 1000 250 clockReach settling answers paced 0 0).1 (by decide)
  rw [unnoted, Option.map_some, Option.some.injEq, Prod.mk.injEq] at settled
  obtain ⟨⟨⟩, stop⟩ := settled
  refine ⟨answers, paced, by decide, earlier, last, after, ran, course, ?_, stop⟩
  exact Classical.byContradiction fun other => by cases (course.late other).2

/-- The longest timeout that can be asked for, in whole seconds. -/
theorem waitFor_schedule_broken :
    settling.Answers ∧ settling.Paced 250 ∧
      waitFor "pods" 18446744073709551615000 250 (Call.noted settling) clockReach ⟨0, ⟨[], 0⟩⟩ =
        some (.error beyondReach, ⟨0, ⟨[], 0⟩⟩) := by
  have beyond : clockReach < 18446744073709551615000 + 250 := by decide
  exact ⟨settling_answers, nofun, waitFor_beyond "pods" beyond⟩

end ShareCheck
