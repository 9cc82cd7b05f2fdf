import ShareCheck.Poll
import ShareCheck.Proofs.Activity

set_option autoImplicit false

namespace ShareCheck

variable {σ : Type}

/-- Whatever comes of the call, `I` holds after it began and after it landed. -/
structure Call.Keeps {α : Type} (I : σ → Prop) (c : Call σ α) : Prop where
  beginning : ∀ now w, I w → I (c now w).2
  landing : ∀ now w delay finish, (c now w).1 = .lands delay finish → ∀ v, I v → I (finish v).2

theorem Call.keeps_constant {α : Type} (c : Call σ α) (p : Prop) : c.Keeps fun _ => p :=
  ⟨fun _ _ => id, fun _ _ _ _ _ _ => id⟩

theorem Call.Keeps.lands {α : Type} {I : σ → Prop} {c : Call σ α} (kept : c.Keeps I)
    {now delay : Nat} {w v : σ} {finish : σ → Except Panic α × σ}
    (begun : c now w = (.lands delay finish, v)) : (I w → I v) ∧ ∀ u, I u → I (finish u).2 := by
  have beginning := kept.beginning now w
  rw [begun] at beginning
  exact ⟨beginning, kept.landing now w delay finish (by rw [begun])⟩

theorem Activity.perform_keeps {α : Type} {I : σ → Prop} {c : Call σ α} (kept : c.Keeps I) :
    (Activity.perform c).Keeps I := by
  intro m r after ran holds
  unfold Activity.perform at ran
  match h : c m.now m.world with
  | (.never, w) => simp [h] at ran
  | (.lands delay finish, w) =>
    obtain ⟨beginning, landing⟩ := kept.lands h
    simp only [h, Option.some.injEq, Prod.mk.injEq] at ran
    obtain ⟨-, rfl⟩ := ran
    exact landing w (beginning holds)

def Evaluation.after : Evaluation σ → Moment σ
  | .satisfied m => m
  | .panicked _ m => m
  | .unmet _ m => m

theorem evaluate_cases (probe : Request σ Probe) (stop : Nat) (m : Moment σ) :
    (∃ observed, evaluate probe stop m = .unmet observed ⟨stop, (probe m.now m.world).2⟩) ∨
      ∃ delay finish w, probe m.now m.world = (.lands delay finish, w) ∧
        (evaluate probe stop m).after = ⟨m.now + delay, (finish w).2⟩ ∧
        ∀ done, evaluate probe stop m = .satisfied done →
          (finish w).1 = .ok (.ok .satisfied) := by
  unfold evaluate
  match h : probe m.now m.world with
  | (.never, w) => exact .inl ⟨_, rfl⟩
  | (.lands delay finish, w) =>
    simp only
    split
    next =>
      -- Only an answer that satisfies the probe ends the wait well.
      refine .inr ⟨delay, finish, w, rfl, ?_⟩
      match landed : finish w with
      | (.ok (.ok .satisfied), v) => exact ⟨rfl, fun _ _ => rfl⟩
      | (.ok (.ok (.pending observed)), v) => exact ⟨rfl, fun _ same => nomatch same⟩
      | (.ok (.error e), v) => exact ⟨rfl, fun _ same => nomatch same⟩
      | (.error p, v) => exact ⟨rfl, fun _ same => nomatch same⟩
    next => exact .inl ⟨_, rfl⟩

inductive Awaits (probe : Request σ Probe) (stop : Nat) : Moment σ → Moment σ → Prop
  | now {m : Moment σ} : Awaits probe stop m m
  | later {m after last : Moment σ} {observed : String} {start : Nat} :
      evaluate probe stop m = .unmet observed after →
        Awaits probe stop ⟨start, after.world⟩ last → Awaits probe stop m last

inductive Decides (late : String → Error) :
    Evaluation σ → Except Panic (Except Error Unit) → Moment σ → Prop
  | satisfied {m : Moment σ} : Decides late (.satisfied m) (.ok (.ok ())) m
  | panicked {p : Panic} {m : Moment σ} : Decides late (.panicked p m) (.error p) m
  | late {observed : String} {m : Moment σ} :
      Decides late (.unmet observed m) (.ok (.error (late observed))) m

theorem Decides.after_eq {late : String → Error} {e : Evaluation σ}
    {r : Except Panic (Except Error Unit)} {m : Moment σ} (decided : Decides late e r m) :
    e.after = m := by
  cases decided <;> rfl

theorem Decides.satisfied_eq {late : String → Error} {e : Evaluation σ} {m : Moment σ}
    (decided : Decides late e (.ok (.ok ())) m) : e = .satisfied m := by
  cases decided
  rfl

theorem pollUntil_some {probe : Request σ Probe} {deadline interval patience : Nat}
    {late : String → Error} {m after : Moment σ} {r : Except Panic (Except Error Unit)}
    (ran : pollUntil probe deadline interval late patience m = some (r, after)) :
    ∃ last, Awaits probe (deadline + interval) m last ∧
      Decides late (evaluate probe (deadline + interval) last) r after := by
  -- The evaluations that come before the last one are those that the recursion goes through.
  fun_induction pollUntil probe deadline interval late patience m with
  | case1 patience m done h =>
    cases ran
    exact ⟨m, .now, h ▸ .satisfied⟩
  | case2 patience m p done h =>
    cases ran
    exact ⟨m, .now, h ▸ .panicked⟩
  | case3 patience m observed done h expired =>
    cases ran
    exact ⟨m, .now, h ▸ .late⟩
  | case4 patience m observed done h expired moves ih =>
    obtain ⟨last, awaited, decided⟩ := ih ran
    exact ⟨last, .later h awaited, decided⟩
  -- An interval of zero has used up all patience.
  | case5 => cases ran
  | case6 m observed done h expired stays patience ih =>
    obtain ⟨last, awaited, decided⟩ := ih ran
    exact ⟨last, .later h awaited, decided⟩

/-- A call that takes no time is not made again and again in no time. -/
def Call.Paced {α : Type} (c : Call σ α) (interval : Nat) : Prop :=
  interval = 0 → ∀ now w finish v, c now w ≠ (.lands 0 finish, v)

theorem nextStart_moves {probe : Request σ Probe} {deadline interval : Nat} {m done : Moment σ}
    {observed : String} (paced : probe.Paced interval) (begins : m.now ≤ deadline)
    (given : evaluate probe (deadline + interval) m = .unmet observed done)
    (early : done.now < deadline) :
    m.now ≤ done.now ∧ m.now < nextStart m.now done.now interval deadline ∧
      nextStart m.now done.now interval deadline = min (done.now + interval) deadline := by
  obtain ⟨other, cut⟩ | ⟨delay, finish, w, begun, ended, -⟩ :=
    evaluate_cases probe (deadline + interval) m
  next =>
    -- One that is given up ends after the deadline.
    cases given.symm.trans cut
    exact absurd early (by simp)
  next =>
    rw [given] at ended
    have lasted : done.now = m.now + delay := congrArg Moment.now ended
    have takes : interval = 0 → delay ≠ 0 := by
      rintro none rfl
      exact paced none _ _ _ _ begun
    unfold nextStart
    omega

theorem evaluate_stops (probe : Request σ Probe) (stop : Nat) (m : Moment σ) :
    (evaluate probe stop m).after.now ≤ stop := by
  unfold evaluate
  match probe m.now m.world with
  | (.never, w) => exact Nat.le_refl stop
  | (.lands delay finish, w) =>
    simp only
    split
    next intime =>
      match finish w with
      | (.ok (.ok .satisfied), v) => exact intime
      | (.ok (.ok (.pending observed)), v) => exact intime
      | (.ok (.error e), v) => exact intime
      | (.error p, v) => exact intime
    next => exact Nat.le_refl stop

theorem pollUntil_completes {probe : Request σ Probe} {deadline interval patience : Nat}
    {late : String → Error} {m : Moment σ} (paced : probe.Paced interval)
    (begins : m.now ≤ deadline) :
    ∃ r after, pollUntil probe deadline interval late patience m = some (r, after) ∧
      after.now ≤ deadline + interval := by
  have stops m := evaluate_stops probe (deadline + interval) m
  fun_induction pollUntil probe deadline interval late patience m with
  | case1 patience m done given =>
    have stopped := stops m
    rw [given] at stopped
    exact ⟨_, _, rfl, stopped⟩
  | case2 patience m p done given =>
    have stopped := stops m
    rw [given] at stopped
    exact ⟨_, _, rfl, stopped⟩
  | case3 patience m observed done given expired =>
    have stopped := stops m
    rw [given] at stopped
    exact ⟨_, _, rfl, stopped⟩
  | case4 patience m observed done given early _ ih =>
    obtain ⟨-, -, start⟩ := nextStart_moves paced begins given (Nat.lt_of_not_le early)
    exact ih (start ▸ Nat.min_le_right _ _)
  | case5 m observed done given early stays =>
    exact absurd (nextStart_moves paced begins given (Nat.lt_of_not_le early)).2.1 stays
  | case6 m observed done given early stays =>
    exact absurd (nextStart_moves paced begins given (Nat.lt_of_not_le early)).2.1 stays

section

variable {probe : Request σ Probe} {timeout interval reach : Nat} {m : Moment σ}

theorem waitFor_beyond (description : String) (beyond : reach < timeout + interval) :
    waitFor description timeout interval probe reach m = some (.error beyondReach, m) :=
  if_pos beyond

theorem waitFor_within (description : String) (within : timeout + interval ≤ reach) :
    waitFor description timeout interval probe reach m =
      pollUntil probe (m.now + timeout) interval
        (fun observed => .timeout description (.ofMillis timeout) observed) patience m :=
  if_neg (Nat.not_lt.2 within)

theorem waitFor_completes (paced : probe.Paced interval) (description : String) (timeout : Nat)
    (reach : Nat) : (waitFor description timeout interval probe reach).Completes := by
  intro m
  by_cases within : timeout + interval ≤ reach
  next =>
    obtain ⟨r, after, ran, -⟩ := pollUntil_completes paced (Nat.le_add_right m.now timeout)
    exact ⟨r, after, (waitFor_within description within).trans ran⟩
  next => exact ⟨.error beyondReach, m, waitFor_beyond description (Nat.lt_of_not_le within)⟩

end

def Call.Lands {α : Type} (c : Call σ α) : Prop :=
  ∀ now w, ∃ delay finish v, c now w = (.lands delay finish, v)

theorem Activity.perform_completes {α : Type} {c : Call σ α} (lands : c.Lands) :
    (Activity.perform c).Completes := by
  intro m
  obtain ⟨delay, finish, w, begun⟩ := lands m.now m.world
  exact ⟨(finish w).1, ⟨m.now + delay, (finish w).2⟩, by simp only [Activity.perform, begun]⟩

theorem evaluate_keeps {I : σ → Prop} {probe : Request σ Probe} (kept : probe.Keeps I) (stop : Nat)
    {m : Moment σ} (holds : I m.world) : I (evaluate probe stop m).after.world := by
  obtain ⟨observed, given⟩ | ⟨delay, finish, w, begun, ended, -⟩ := evaluate_cases probe stop m
  next =>
    rw [given]
    exact kept.beginning m.now m.world holds
  next =>
    obtain ⟨beginning, landing⟩ := kept.lands begun
    rw [ended]
    exact landing w (beginning holds)

theorem Awaits.keeps {I : σ → Prop} {probe : Request σ Probe} {stop : Nat} {m last : Moment σ}
    (awaited : Awaits probe stop m last) (kept : probe.Keeps I) (holds : I m.world) :
    I last.world := by
  induction awaited with
  | now => exact holds
  | later given _ ih =>
    have between := evaluate_keeps kept stop holds
    rw [given] at between
    exact ih between

theorem waitFor_keeps {I : σ → Prop} {probe : Request σ Probe} (kept : probe.Keeps I)
    (description : String) (timeout interval reach : Nat) :
    (waitFor description timeout interval probe reach).Keeps I := by
  intro m r after ran holds
  by_cases within : timeout + interval ≤ reach
  next =>
    rw [waitFor_within description within] at ran
    obtain ⟨last, awaited, decided⟩ := pollUntil_some ran
    have ended := evaluate_keeps kept (m.now + timeout + interval) (awaited.keeps kept holds)
    rwa [decided.after_eq] at ended
  next =>
    rw [waitFor_beyond description (Nat.lt_of_not_le within)] at ran
    cases ran
    exact holds

theorem Call.map_paced {α β : Type} {c : Call σ α} {interval : Nat} (paced : c.Paced interval)
    (f : α → β) : (c.map f).Paced interval := by
  intro none now w finish v begun
  unfold Call.map at begun
  match h : c now w with
  | (.never, u) => simp [h, Flight.map] at begun
  | (.lands delay done, u) =>
    simp only [h, Flight.map, Prod.mk.injEq, Flight.lands.injEq] at begun
    obtain ⟨⟨rfl, -⟩, -⟩ := begun
    exact paced none _ _ _ _ h

theorem Call.map_keeps {α β : Type} {I : σ → Prop} {c : Call σ α} (kept : c.Keeps I) (f : α → β) :
    (c.map f).Keeps I where
  beginning now w holds := kept.beginning now w holds
  landing now w delay finish lands v holds := by
    unfold Call.map at lands
    match h : c now w with
    | (.never, _) => simp [h, Flight.map] at lands
    | (.lands _ done, _) =>
      simp only [h, Flight.map, Flight.lands.injEq] at lands
      obtain ⟨-, rfl⟩ := lands
      have landed := kept.landing now w _ done (by rw [h]) v holds
      match answered : done v with
      | (.ok _, _) => simpa [answered] using landed
      | (.error _, _) => simpa [answered] using landed

end ShareCheck
