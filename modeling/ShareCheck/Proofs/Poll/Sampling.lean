import Mathlib.Algebra.Order.Floor.Div
import ShareCheck.Proofs.Poll.Schedule

set_option autoImplicit false

namespace ShareCheck

variable {σ : Type} {I : σ → Prop}

/-- From `start` on, in a world such as `I` describes, and evaluating leaves it so, the condition is
evaluated in no time. It is satisfied once `ripe` has passed, and before that it is pending or cannot
be told. -/
def Call.Ripens (probe : Request σ Probe) (I : σ → Prop) (start ripe : Nat) : Prop :=
  ∀ now w, start ≤ now → I w → ∃ finish v answer u,
    probe now w = (.lands 0 finish, v) ∧ finish v = (.ok answer, u) ∧ I u ∧
      (answer = .ok .satisfied ↔ start + ripe ≤ now)

def Noted.starts (n : Noted σ) : List Nat :=
  n.notes.filterMap fun
    | .began start _ => some start
    | .ended _ _ => none

theorem evaluate_ripens {probe : Request σ Probe} {start ripe : Nat} {m : Moment (Noted σ)}
    (stop : Nat) (ripens : probe.Ripens I start ripe) (since : start ≤ m.now) (begins : m.now ≤ stop)
    (holds : I m.world.world) :
    ∃ done, done.now = m.now ∧ I done.world.world ∧
      done.world.starts = m.world.starts ++ [m.now] ∧
      (start + ripe ≤ m.now → evaluate (Call.noted probe) stop m = .satisfied done) ∧
      (m.now < start + ripe → ∃ observed, evaluate (Call.noted probe) stop m = .unmet observed done) := by
  obtain ⟨finish, v, answer, u, begun, landed, kept, satisfied⟩ :=
    ripens m.now m.world.world since holds
  refine ⟨⟨m.now, ⟨m.world.notes ++ [.began m.now (some 0)] ++ [.ended m.now (.ok answer)], u⟩⟩,
    rfl, kept, by simp [Noted.starts], ?_, ?_⟩
  · intro late
    have same := satisfied.2 late
    simp only [evaluate, Call.noted, begun, Nat.add_zero, begins, if_true, landed, same]
  · intro early
    cases answer with
    | ok probed =>
      cases probed with
      | satisfied => exact absurd (satisfied.1 rfl) (Nat.not_le.2 early)
      | pending observed =>
        exact ⟨observed, by
          simp only [evaluate, Call.noted, begun, Nat.add_zero, begins, if_true, landed]⟩
    | error e =>
      exact ⟨"query error: " ++ e.message, by
        simp only [evaluate, Call.noted, begun, Nat.add_zero, begins, if_true, landed]⟩

def sampleAt (timeout interval k : Nat) : Nat := min (interval * k) timeout

theorem nextStart_sampleAt {timeout interval k : Nat} (start : Nat) (early : interval * k < timeout) :
    nextStart (start + sampleAt timeout interval k) (start + sampleAt timeout interval k) interval
      (start + timeout) = start + sampleAt timeout interval (k + 1) := by
  unfold nextStart sampleAt
  rw [Nat.mul_succ]
  omega

theorem sampleAt_le (timeout interval k : Nat) : sampleAt timeout interval k ≤ timeout :=
  Nat.min_le_right _ _

theorem pollUntil_samples {probe : Request σ Probe} {start ripe timeout interval : Nat}
    (pos : 0 < interval) (ripens : probe.Ripens I start ripe) (late : String → Error)
    (patience more : Nat) {k : Nat} {m : Moment (Noted σ)} (left : k + more = min ripe timeout ⌈/⌉ interval)
    (begins : m.now = start + sampleAt timeout interval k) (holds : I m.world.world) :
    ∃ r after,
      pollUntil (Call.noted probe) (start + timeout) interval late patience m =
        some (.ok r, after) ∧
      after.now = start + sampleAt timeout interval (min ripe timeout ⌈/⌉ interval) ∧
      after.world.starts =
        m.world.starts ++ (List.range' k (more + 1)).map (start + sampleAt timeout interval ·) ∧
      (ripe ≤ timeout → r = .ok ()) ∧
      (timeout < ripe → ∃ observed, r = .error (late observed)) := by
  -- By how many samples are left: the last one decides, and the others come too early.
  induction more generalizing k m patience with
  | zero =>
    have intime := sampleAt_le timeout interval k
    obtain ⟨done, ended, -, starts, satisfied, unmet⟩ :=
      evaluate_ripens (start + timeout + interval) ripens (by omega) (by omega) holds
    have enough : min ripe timeout ≤ interval * k :=
      (ceilDiv_le_iff_le_mul pos).1 (Nat.le_of_eq left.symm)
    have stopped : done.now =
        start + sampleAt timeout interval (min ripe timeout ⌈/⌉ interval) := by
      rw [ended, begins, ← left, Nat.add_zero]
    rw [pollUntil]
    by_cases reached : ripe ≤ timeout
    next =>
      have ripened : start + ripe ≤ m.now := by
        rw [begins, sampleAt]
        omega
      rw [satisfied ripened]
      exact ⟨.ok (), done, rfl, stopped, by simp [starts, begins], fun _ => rfl,
        fun missed => absurd reached (Nat.not_le.2 missed)⟩
    next =>
      have last : m.now = start + timeout := by
        rw [begins, sampleAt]
        omega
      obtain ⟨observed, given⟩ := unmet (by omega)
      rw [given]
      simp only [ended, last, Nat.le_refl, if_true]
      exact ⟨_, done, rfl, stopped, by simp [starts, begins],
        fun intime => absurd intime reached, fun _ => ⟨observed, rfl⟩⟩
  | succ more ih =>
    have early : interval * k < min ripe timeout := by
      refine Nat.lt_of_not_le fun enough => ?_
      have arrived := (ceilDiv_le_iff_le_mul pos).2 enough
      omega
    have here : sampleAt timeout interval k = interval * k := Nat.min_eq_left (by omega)
    have moves : sampleAt timeout interval k < sampleAt timeout interval (k + 1) := by
      rw [here, sampleAt, Nat.mul_succ]
      omega
    obtain ⟨done, ended, kept, starts, -, unmet⟩ :=
      evaluate_ripens (start + timeout + interval) ripens (by omega) (by omega) holds
    obtain ⟨observed, given⟩ := unmet (by omega)
    have next : nextStart m.now done.now interval (start + timeout) =
        start + sampleAt timeout interval (k + 1) := by
      rw [ended, begins]
      exact nextStart_sampleAt start (by omega)
    rw [pollUntil, given]
    simp only [show ¬ start + timeout ≤ done.now by omega, if_false, next,
      show m.now < start + sampleAt timeout interval (k + 1) by omega, if_true]
    obtain ⟨r, after, ran, stopped, all, result⟩ :=
      @ih patience (k + 1) ⟨start + sampleAt timeout interval (k + 1), done.world⟩ (by omega) rfl kept
    refine ⟨r, after, ran, stopped, ?_, result⟩
    rw [all, starts, begins, List.append_assoc]
    rfl

/-- A wait that the clock can tell the end of finds a condition that comes to hold in time at the
first sample from then on, and gives up at the deadline otherwise. Any other wait takes no sample. -/
theorem waitFor_samples (description : String) (timeout interval ripe reach : Nat)
    (pos : 0 < interval) (probe : Request σ Probe) (I : σ → Prop) (now : Nat) (w : σ) (holds : I w)
    (ripens : probe.Ripens I now ripe) :
    (timeout + interval ≤ reach → ∃ r after,
      waitFor description timeout interval (Call.noted probe) reach ⟨now, ⟨[], w⟩⟩ =
        some (.ok r, after) ∧
      waitFor description timeout interval probe reach ⟨now, w⟩ =
        some (.ok r, ⟨after.now, after.world.world⟩) ∧
      after.world.starts = (List.range (min ripe timeout ⌈/⌉ interval + 1)).map (fun k =>
        now + min (interval * k) timeout) ∧
      after.world.starts.length ≤ timeout ⌈/⌉ interval + 1 ∧
      (r = .ok () ↔ ripe ≤ timeout) ∧
      (ripe ≤ timeout → after.now = now + min (ripe ⌈/⌉ interval * interval) timeout) ∧
      (timeout < ripe → after.now = now + timeout ∧
        ∃ observed, r = .error (.timeout description (.ofMillis timeout) observed))) ∧
    (reach < timeout + interval →
      waitFor description timeout interval (Call.noted probe) reach ⟨now, ⟨[], w⟩⟩ =
        some (.error beyondReach, ⟨now, ⟨[], w⟩⟩) ∧
      waitFor description timeout interval probe reach ⟨now, w⟩ =
        some (.error beyondReach, ⟨now, w⟩)) := by
  refine ⟨fun within => ?_, fun beyond => ?_⟩
  next =>
    obtain ⟨r, after, polled, stopped, starts, suits, misses⟩ :=
      pollUntil_samples (k := 0) (m := ⟨now, ⟨[], w⟩⟩) pos ripens
        (fun observed => .timeout description (.ofMillis timeout) observed) patience
        (min ripe timeout ⌈/⌉ interval) (Nat.zero_add _) (by simp [sampleAt]) holds
    have ran : waitFor description timeout interval (Call.noted probe) reach ⟨now, ⟨[], w⟩⟩ =
        some (.ok r, after) :=
      (waitFor_within description within).trans polled
    have unnoted := waitFor_lifts (Call.noted_lifts probe) description timeout interval reach
      ⟨now, ⟨[], w⟩⟩
    rw [ran] at unnoted
    refine ⟨r, after, ran, unnoted, ?_, ?_, ?_, fun intime => ?_, fun missed => ⟨?_, misses missed⟩⟩
    · rw [starts, List.range_eq_range']
      rfl
    · have fewer : min ripe timeout ⌈/⌉ interval ≤ timeout ⌈/⌉ interval :=
        (ceilDiv_le_iff_le_mul pos).2
          (Nat.le_trans (Nat.min_le_right _ _) ((ceilDiv_le_iff_le_mul pos).1 (Nat.le_refl _)))
      have counted := congrArg List.length starts
      rw [List.length_append, List.length_map, List.length_range'] at counted
      exact counted.trans_le (by simpa [Noted.starts] using fewer)
    · refine ⟨fun same => Nat.le_of_not_lt fun missed => ?_, suits⟩
      obtain ⟨observed, other⟩ := misses missed
      cases same.symm.trans other
    · rw [stopped, Nat.min_eq_left intime, Nat.mul_comm]
      rfl
    · have enough : timeout ≤ interval * (timeout ⌈/⌉ interval) :=
        (ceilDiv_le_iff_le_mul pos).1 (Nat.le_refl _)
      rw [stopped, Nat.min_eq_right (Nat.le_of_lt missed), sampleAt, Nat.min_eq_right enough]
  next => exact ⟨waitFor_beyond description beyond, waitFor_beyond description beyond⟩

def ripening : Request Nat Probe := fun now n =>
  (.lands 0 fun n =>
    (.ok (if 690 ≤ now then .ok .satisfied
      else if n % 2 = 1 then .ok (.pending "starting")
      else .error (.internal "pods" "out of reach")), n),
    n + 1)

theorem ripening_ripens : ripening.Ripens (fun _ => True) 0 690 := by
  intro now n _ _
  refine ⟨_, _, _, _, rfl, rfl, trivial, ?_⟩
  split
  next late => simpa using late
  next early => split <;> simpa using Nat.lt_of_not_le early

theorem waitFor_samples_ripening :
    0 < 250 ∧ ripening.Ripens (fun _ => True) 0 690 ∧ 700 + 250 ≤ clockReach ∧
      ∃ after,
        waitFor "pods" 700 250 (Call.noted ripening) clockReach ⟨0, ⟨[], 0⟩⟩ =
          some (.ok (.ok ()), after) ∧
        after.world.starts = [0, 250, 500, 700] ∧ after.now = 700 := by
  obtain ⟨r, after, ran, -, starts, -, verdict, stopped, -⟩ :=
    (waitFor_samples "pods" 700 250 690 clockReach (by decide) ripening (fun _ => True) 0 0 trivial
      ripening_ripens).1 (by decide)
  obtain rfl := verdict.2 (by decide)
  exact ⟨by decide, ripening_ripens, by decide, after, ran, starts, stopped (by decide)⟩

theorem waitFor_samples_missed :
    0 < 250 ∧ ripening.Ripens (fun _ => True) 0 690 ∧ 690 ≤ 18446744073709551615000 ∧
      waitFor "pods" 18446744073709551615000 250 (Call.noted ripening) clockReach ⟨0, ⟨[], 0⟩⟩ =
        some (.error beyondReach, ⟨0, ⟨[], 0⟩⟩) := by
  have beyond : clockReach < 18446744073709551615000 + 250 := by decide
  exact ⟨by decide, ripening_ripens, by decide, waitFor_beyond "pods" beyond⟩

end ShareCheck
