import Mathlib.Algebra.Order.Field.Rat
import Mathlib.Algebra.Order.Ring.NNRat
import Mathlib.Tactic.NormNum
import ShareCheck.Backoff
import ShareCheck.Proofs.Activity

set_option autoImplicit false

namespace ShareCheck

namespace Backoff

variable {τ σ α ε : Type}

/-! ### Calls -/

inductive Retried (pause : τ → Activity σ Nat) (attempt : Activity σ (Except ε α)) :
    List τ → Moment σ → List ε → Except ε α → Moment σ → Prop
  | last {m after : Moment σ} {answer : Except ε α} : attempt m = some (.ok answer, after) →
      Retried pause attempt [] m [] answer after
  | again {m missed drawn after : Moment σ} {e : ε} {delay : τ} {ms : Nat} {delays : List τ}
      {errors : List ε} {answer : Except ε α} : attempt m = some (.ok (.error e), missed) →
      pause delay missed = some (.ok ms, drawn) →
      Retried pause attempt delays { drawn with now := drawn.now + ms } errors answer after →
      Retried pause attempt (delay :: delays) m (e :: errors) answer after

structure FirstSuccess (outcomes : Nat → Except ε α) (k : Nat) : Prop where
  success : (outcomes k).isOk
  before : ∀ i < k, ¬ (outcomes i).isOk

theorem calls_eq {retries : Nat} {errors : List ε} {answer : Except ε α}
    {outcomes : Nat → Except ε α}
    (within : errors.length ≤ retries) (ended : errors.length = retries ∨ answer.isOk)
    (agree : errors.map .error ++ [answer] = (List.range (errors.length + 1)).map outcomes) :
    answer = outcomes errors.length ∧
      (∀ k, FirstSuccess outcomes k → errors.length = min k retries) ∧
      ((∀ i, ¬ (outcomes i).isOk) → errors.length = retries) := by
  rw [List.range_succ, List.map_append, List.map_singleton] at agree
  obtain ⟨failures, last⟩ := List.append_inj' agree rfl
  obtain rfl := List.singleton_inj.1 last
  have failed : ∀ i < errors.length, ¬ (outcomes i).isOk := by
    intro i below
    have failure := congrArg (·[i]?) failures
    simp only [List.getElem?_map, List.getElem?_range below, List.getElem?_eq_getElem below,
      Option.map_some, Option.some.injEq] at failure
    rw [← failure]
    exact Bool.false_ne_true
  refine ⟨rfl, fun k first => ?_, fun never => ended.resolve_right (never _)⟩
  have reached : errors.length ≤ k := by
    by_contra! past
    exact failed k past first.success
  obtain spent | answered := ended
  next => omega
  next =>
    have only : ¬ errors.length < k := fun early => first.before _ early answered
    omega

/-! ### Delays -/

variable [Min τ] {b : Backoff τ} {retries : Nat} {given : List τ}

def Gives (b : Backoff τ) (retries : Nat) (given : List τ) : Prop :=
  b.delays retries (retries + 1) = (given, .exhausted)

theorem gives_zero : b.Gives 0 given ↔ given = [] := by
  simp [Gives, delays, eq_comm]

theorem gives_succ : b.Gives (retries + 1) given ↔
    ∃ grown more, b.grow (min b.upcoming b.ceiling) = .ok grown ∧
      Gives { b with upcoming := min grown b.ceiling } retries more ∧
      given = min b.upcoming b.ceiling :: more := by
  unfold Gives
  rw [delays, next]
  cases b.grow (min b.upcoming b.ceiling) with
  | error p => simp [Except.map]
  | ok grown =>
    simp only [Except.map, Prod.mk.injEq, Except.ok.injEq]
    grind

theorem Gives.length (gives : b.Gives retries given) : given.length = retries := by
  induction retries generalizing b given with
  | zero => rw [gives_zero.1 gives, List.length_nil]
  | succ retries ih =>
    obtain ⟨_, more, -, later, rfl⟩ := gives_succ.1 gives
    rw [List.length_cons, ih later]

theorem Gives.eq_min (gives : b.Gives retries given) :
    ∀ d ∈ given, ∃ upcoming, d = min upcoming b.ceiling := by
  induction retries generalizing b given with
  | zero => simp [gives_zero.1 gives]
  | succ retries ih =>
    obtain ⟨_, more, -, later, rfl⟩ := gives_succ.1 gives
    have others := ih later
    exact List.forall_mem_cons.2 ⟨⟨_, rfl⟩, others⟩

theorem exists_gives (grows : ∀ upcoming, ∃ grown, b.grow (min upcoming b.ceiling) = .ok grown)
    (retries : Nat) : ∃ given, b.Gives retries given := by
  induction retries generalizing b with
  | zero => exact ⟨_, gives_zero.2 rfl⟩
  | succ retries ih =>
    obtain ⟨grown, growth⟩ := grows b.upcoming
    have ⟨more, later⟩ := @ih { b with upcoming := min grown b.ceiling } grows
    exact ⟨_, gives_succ.2 ⟨grown, more, growth, later, rfl⟩⟩

theorem min_min_mul {q : ℚ≥0} (grows : 1 ≤ q) (ceiling length : ℚ≥0) :
    min ceiling (min length ceiling * q) = min ceiling (length * q) := by
  have more : ceiling ≤ ceiling * q := le_mul_of_one_le_right zero_le grows
  rw [min_mul_of_nonneg _ _ zero_le, min_comm (length * q), ← min_assoc, min_eq_left more]

theorem Gives.lengths {q : ℚ≥0} {length : τ → ℚ≥0} (gives : b.Gives retries given)
    (shorter : ∀ c d, length (min c d) = min (length c) (length d)) (grows : 1 ≤ q)
    (exact : ∀ d ∈ given, ∀ grown, b.grow d = .ok grown → length grown = length d * q) :
    given.map length = (List.range retries).map fun i =>
      min (length b.ceiling) (length b.upcoming * q ^ i) := by
  induction retries generalizing b given with
  | zero => rw [gives_zero.1 gives, List.range_zero, List.map_nil, List.map_nil]
  | succ retries ih =>
    obtain ⟨grown, more, growth, later, rfl⟩ := gives_succ.1 gives
    obtain ⟨here, others⟩ := List.forall_mem_cons.1 exact
    rw [List.map_cons, ih later others, List.range_succ_eq_map, List.map_cons, List.map_map,
      shorter, min_comm (length b.upcoming), pow_zero, mul_one]
    refine congrArg _ (List.map_congr_left fun i _ => ?_)
    calc
      min (length b.ceiling) (length (min grown b.ceiling) * q ^ i)
      _ = min (length b.ceiling) (length grown * q ^ i) := by
        rw [shorter, min_min_mul (one_le_pow₀ grows)]
      _ = min (length b.ceiling) (min (length b.upcoming) (length b.ceiling) * q ^ (i + 1)) := by
        rw [here grown growth, shorter, mul_assoc, ← pow_succ']
      _ = min (length b.ceiling) (length b.upcoming * q ^ (i + 1)) :=
        min_min_mul (one_le_pow₀ grows) _ _

/-! ### Retries -/

variable {pause : τ → Activity σ Nat} {attempt : Activity σ (Except ε α)}

theorem retry_retried (gives : b.Gives retries given) (returns : attempt.Returns)
    (pauses : ∀ d ∈ given, (pause d).Returns) (m : Moment σ) :
    ∃ errors answer after, b.retry pause attempt retries m = some (.ok answer, after) ∧
      Retried pause attempt (given.take errors.length) m errors answer after ∧
      errors.length ≤ retries ∧ (errors.length = retries ∨ answer.isOk) := by
  induction retries generalizing b given m with
  | zero =>
    obtain ⟨answer, after, called⟩ := returns m
    exact ⟨[], answer, after, called, .last called, le_rfl, .inl rfl⟩
  | succ retries ih =>
    obtain ⟨grown, more, growth, later, rfl⟩ := gives_succ.1 gives
    obtain ⟨here, others⟩ := List.forall_mem_cons.1 pauses
    obtain ⟨answer, missed, called⟩ := returns m
    cases answer with
    | ok a =>
      refine ⟨[], .ok a, missed, ?_, .last called, Nat.zero_le _, .inr rfl⟩
      exact Activity.bind_ok.2 ⟨_, _, called, rfl⟩
    | error e =>
      obtain ⟨ms, drawn, paused⟩ := here missed
      obtain ⟨errors, answer, after, ran, turns, within, ended⟩ :=
        ih later others { drawn with now := drawn.now + ms }
      refine ⟨e :: errors, answer, after, ?_, .again called paused turns,
        Nat.succ_le_succ within, ?_⟩
      next =>
        refine Activity.bind_ok.2 ⟨_, _, called, ?_⟩
        simp only [next, growth, Except.map]
        exact Activity.bind_ok.2 ⟨ms, drawn, paused, Activity.bind_ok.2 ⟨(), _, rfl, ran⟩⟩
      next => simpa using ended

def Bounded (attempts : Nat) (given : List τ) (pause : τ → Activity σ Nat)
    (attempt run : Activity σ (Except ε α)) : Prop :=
  ∀ m, ∃ errors answer after, run m = some (.ok answer, after) ∧
    Retried pause attempt (given.take errors.length) m errors answer after ∧
    ∀ outcomes : Nat → Except ε α,
      errors.map .error ++ [answer] = (List.range (errors.length + 1)).map outcomes →
      answer = outcomes errors.length ∧
        (∀ k, FirstSuccess outcomes k → errors.length + 1 = min (k + 1) (max 1 attempts)) ∧
        ((∀ i, ¬ (outcomes i).isOk) → errors.length + 1 = max 1 attempts)

end Backoff

/-! ### Policies -/

def Number.Binary64.ratio? : Number.Binary64 → Option ℚ≥0
  | .finite negative m e => if negative && m != 0 then none else some (m * 2 ^ e)
  | _ => none

theorem Duration.nanos_min (c d : Duration) : (min c d).nanos = min c.nanos d.nanos := by
  change (if c.nanos ≤ d.nanos then c else d).nanos = _
  grind

namespace RetryPolicy

variable {p : RetryPolicy} {q : ℚ≥0}

def limit : ℚ≥0 := 2 ^ 64 * Duration.perSecond

def tooLong : Panic := .text Duration.ScaleError.tooLarge.message

/-- Delays as a policy means them, as numbers of nanoseconds that nothing rounds. -/
def exact (p : RetryPolicy) : Backoff ℚ≥0 where
  upcoming := p.initial.nanos
  ceiling := p.ceiling.nanos
  grow d :=
    match p.factor.ratio? with
    | some q => if d * q < limit then .ok (d * q) else .error tooLong
    | none => .error tooLong

theorem exact_grow (factor : p.factor.ratio? = some q) {d grown : ℚ≥0} :
    p.exact.grow d = .ok grown ↔ d * q < limit ∧ grown = d * q := by
  simp only [exact, factor]
  grind

structure Capped (p : RetryPolicy) (q : ℚ≥0) (lengths : List ℚ≥0) : Prop where
  count : lengths.length = max 1 p.attempts - 1
  ceiling : ∀ l ∈ lengths, l ≤ p.ceiling.nanos
  closed : 1 ≤ q → lengths = (List.range (max 1 p.attempts - 1)).map fun i =>
    min (p.ceiling.nanos : ℚ≥0) (p.initial.nanos * q ^ i)
  ordered : 1 ≤ q → lengths.Pairwise (· ≤ ·)

variable {τ : Type} [Min τ] {b : Backoff τ} {given : List τ}

theorem retries_eq : p.retries = max 1 p.attempts - 1 := by
  rw [retries, max_comm]

theorem gives_capped (length : τ → ℚ≥0) (initial : length b.upcoming = p.initial.nanos)
    (ceiling : length b.ceiling = p.ceiling.nanos)
    (shorter : ∀ c d, length (min c d) = min (length c) (length d))
    (exact : ∀ d ∈ given, ∀ grown, b.grow d = .ok grown → length grown = length d * q)
    (gives : b.Gives p.retries given) : p.Capped q (given.map length) where
  count := by rw [List.length_map, gives.length, retries_eq]
  ceiling := by
    rw [List.forall_mem_map]
    intro d member
    obtain ⟨upcoming, rfl⟩ := gives.eq_min d member
    rw [shorter, ceiling]
    exact min_le_right _ _
  closed grows := by
    rw [gives.lengths shorter grows exact, initial, ceiling, retries_eq]
  ordered grows := by
    rw [gives.lengths shorter grows exact, List.pairwise_map]
    refine List.pairwise_lt_range.imp fun earlier => ?_
    exact min_le_min_left _ (mul_le_mul_right (pow_le_pow_right₀ grows earlier.le) _)

variable {σ α ε : Type}

theorem retry_bounded {pause : τ → Activity σ Nat} {attempt : Activity σ (Except ε α)}
    (gives : b.Gives p.retries given) (returns : attempt.Returns)
    (pauses : ∀ d ∈ given, (pause d).Returns) :
    Backoff.Bounded p.attempts given pause attempt (b.retry pause attempt p.retries) := by
  intro m
  obtain ⟨errors, answer, after, ran, turns, within, ended⟩ :=
    Backoff.retry_retried gives returns pauses m
  refine ⟨errors, answer, after, ran, turns, fun outcomes agree => ?_⟩
  obtain ⟨result, first, never⟩ := Backoff.calls_eq within ended agree
  have budget : p.retries + 1 = max 1 p.attempts := by
    unfold retries
    omega
  refine ⟨result, fun k success => ?_, fun failing => ?_⟩
  next =>
    have calls := first k success
    omega
  next => rw [never failing, budget]

theorem pause_returns {jitter : σ → Number.Binary64 × σ} {d : Duration}
    (inRange : ∀ w, ∃ product, grow (jitter w).1 d = .ok product) : (pause jitter d).Returns := by
  intro m
  obtain ⟨product, growth⟩ := inRange m.world
  refine ⟨product.wholeMillis, ⟨m.now, (jitter m.world).2⟩,
    Activity.bind_ok.2 ⟨_, _, rfl, ?_⟩⟩
  rw [growth]
  rfl

/-- Calls and delays under a policy whose factor is a finite number that is not below zero, as long
as no delay grows past the end of time. The first two parts are on the delays that are meant, the
last on those of a run, which are rounded where they grow. -/
theorem run_bounded (p : RetryPolicy) (q : ℚ≥0) (factor : p.factor.ratio? = some q) :
    (p.ceiling.nanos * q < limit → ∃ given, p.exact.Gives p.retries given) ∧
    (∀ given, p.exact.Gives p.retries given → p.Capped q given ∧
      ∀ {σ α ε : Type} (pause : ℚ≥0 → Activity σ Nat) (attempt : Activity σ (Except ε α)),
        (∀ d ∈ given, (pause d).Returns) → attempt.Returns →
          Backoff.Bounded p.attempts given pause attempt (p.exact.retry pause attempt p.retries)) ∧
    ∀ given, p.backoff.Gives p.retries given →
      (∀ d ∈ given, d.nanos ≤ p.ceiling.nanos) ∧
      ((∀ d ∈ given, ∀ grown, grow p.factor d = .ok grown → (grown.nanos : ℚ≥0) = d.nanos * q) →
        p.Capped q (given.map fun d => d.nanos)) ∧
      ∀ {σ α ε : Type} (jitter : σ → Number.Binary64 × σ) (attempt : Activity σ (Except ε α)),
        (∀ d ∈ given, ∀ w, ∃ product, grow (jitter w).1 d = .ok product) → attempt.Returns →
          Backoff.Bounded p.attempts given (pause jitter) attempt (p.run jitter attempt) := by
  refine ⟨fun below => ?_, fun given gives => ⟨?_, fun pause attempt pauses returns => ?_⟩,
    fun given gives => ⟨?_, fun unrounded => ?_, fun jitter attempt inRange returns => ?_⟩⟩
  next =>
    refine Backoff.exists_gives (fun upcoming => ⟨_, (exact_grow factor).2 ⟨?_, rfl⟩⟩) _
    exact (mul_le_mul_left (min_le_right upcoming _) q).trans_lt below
  next =>
    have capped := gives_capped id rfl rfl (fun _ _ => rfl)
      (fun _ _ _ growth => ((exact_grow factor).1 growth).2) gives
    rwa [List.map_id] at capped
  next => exact retry_bounded gives returns pauses
  next =>
    intro d member
    obtain ⟨upcoming, rfl⟩ := gives.eq_min d member
    rw [Duration.nanos_min]
    exact min_le_right _ _
  next =>
    refine gives_capped (fun d => d.nanos) rfl rfl (fun c d => ?_) unrounded gives
    rw [Duration.nanos_min, Nat.cast_min]
  next => exact retry_bounded gives returns fun d member => pause_returns (inRange d member)

def halfAgain : RetryPolicy := ⟨5, .ofMillis 200, .ofMillis 400, .ofRatio false 3 2⟩

def steady (n : Nat) : Number.Binary64 × Nat := (.ofRatio false 1 1, n)

def flaky : Activity Nat (Except Nat Nat) :=
  Activity.change fun n => (if n < 2 then .error n else .ok n, n + 1)

theorem run_bounded_flaky :
    halfAgain.factor.ratio? = some (3 / 2) ∧
      ∃ given, halfAgain.backoff.Gives halfAgain.retries given ∧
        halfAgain.Capped (3 / 2) (given.map fun d => d.nanos) ∧
        given = [.ofMillis 200, .ofMillis 300, .ofMillis 400, .ofMillis 400] ∧
        Backoff.Bounded halfAgain.attempts given (pause steady) flaky (halfAgain.run steady flaky) ∧
        (halfAgain.run steady flaky ⟨0, 0⟩).map (fun done => (done.1, done.2.now)) =
          some (.ok (.ok 2), 500) := by
  have factor : halfAgain.factor.ratio? = some (3 / 2) := by
    have shape : halfAgain.factor = .finite false 6755399441055744 (-52) := by decide +kernel
    rw [shape]
    simp only [Number.Binary64.ratio?]
    norm_num
  have gives : halfAgain.backoff.Gives halfAgain.retries
      [.ofMillis 200, .ofMillis 300, .ofMillis 400, .ofMillis 400] := by
    unfold Backoff.Gives
    decide +kernel
  have grown : ∀ d ∈ [Duration.ofMillis 200, .ofMillis 300, .ofMillis 400, .ofMillis 400],
      grow halfAgain.factor d = .ok ⟨d.nanos / 2 * 3⟩ ∧ d.nanos = d.nanos / 2 * 2 := by
    decide +kernel
  have same : ∀ d ∈ [Duration.ofMillis 200, .ofMillis 300, .ofMillis 400, .ofMillis 400],
      grow (.ofRatio false 1 1) d = .ok d := by
    decide +kernel
  obtain ⟨-, capped, runs⟩ := (run_bounded halfAgain (3 / 2) factor).2.2 _ gives
  refine ⟨factor, _, gives, capped fun d member product growth => ?_, rfl,
    runs steady flaky (fun d member _ => ⟨d, same d member⟩) (Activity.change_returns _),
    by decide +kernel⟩
  obtain ⟨exact, even⟩ := grown d member
  obtain rfl := Except.ok.inj (exact.symm.trans growth)
  have halves : (d.nanos : ℚ≥0) = (d.nanos / 2 : Nat) * 2 := by exact_mod_cast even
  rw [halves, mul_assoc, mul_div_cancel₀ _ two_ne_zero]
  push_cast
  rfl

end RetryPolicy

end ShareCheck
