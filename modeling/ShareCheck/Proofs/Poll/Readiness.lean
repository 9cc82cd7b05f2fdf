import ShareCheck.Proofs.Poll

set_option autoImplicit false

namespace ShareCheck

def Pod.Ready (p : Pod) : Prop :=
  ∃ conditions, p.conditions = some conditions ∧ conditions ≠ [] ∧
    ∀ c ∈ conditions, c.status = "True"

theorem Pod.isReady_iff (p : Pod) : p.isReady = true ↔ p.Ready := by
  unfold Pod.isReady Pod.Ready
  cases p.conditions with
  | none => simp
  | some conditions => simp [Condition.holds]

instance (p : Pod) : Decidable p.Ready := decidable_of_iff _ p.isReady_iff

theorem podReady_iff (selector : String) (pods : List Pod) :
    podReady selector pods = .satisfied ↔ ∃ p ∈ pods.head?, p.Ready := by
  cases pods with
  | nil => simp [podReady]
  | cons p rest =>
    have head : (∃ q ∈ (p :: rest).head?, q.Ready) ↔ p.isReady = true := by simp [p.isReady_iff]
    rw [podReady, head]
    split <;> simp [*]

theorem exists_order (selector : String) (pods : List Pod) :
    (∃ p ∈ pods, p.Ready) ↔
      ∃ order : List Pod, order.Perm pods ∧ podReady selector order = .satisfied := by
  constructor
  next =>
    rintro ⟨p, member, ready⟩
    exact ⟨p :: pods.erase p, (List.perm_cons_erase member).symm,
      (podReady_iff selector _).2 ⟨p, rfl, ready⟩⟩
  next =>
    rintro ⟨order, perm, satisfied⟩
    obtain ⟨p, first, ready⟩ := (podReady_iff selector order).1 satisfied
    exact ⟨p, perm.subset (List.mem_of_mem_head? first), ready⟩

theorem orders_agree_iff (selector : String) (pods : List Pod) :
    (∀ order : List Pod, order.Perm pods →
      (podReady selector order = .satisfied ↔ ∃ p ∈ pods, p.Ready)) ↔
      (∀ p ∈ pods, p.Ready) ∨ ∀ p ∈ pods, ¬ p.Ready := by
  constructor
  next =>
    intro agree
    by_cases some_ready : ∃ p ∈ pods, p.Ready
    next =>
      refine .inl fun p member => ?_
      -- The pod itself is put first.
      have satisfied := (agree _ (List.perm_cons_erase member).symm).2 some_ready
      obtain ⟨q, first, ready⟩ := (podReady_iff selector _).1 satisfied
      cases first
      exact ready
    next => exact .inr fun p member ready => some_ready ⟨p, member, ready⟩
  next =>
    rintro (all | none) order perm
    next =>
      rw [podReady_iff]
      constructor
      next =>
        rintro ⟨p, first, ready⟩
        exact ⟨p, perm.subset (List.mem_of_mem_head? first), ready⟩
      next =>
        rintro ⟨p, member, -⟩
        have listed : order ≠ [] := List.ne_nil_of_mem (perm.symm.subset member)
        obtain ⟨q, rest, rfl⟩ := List.exists_cons_of_ne_nil listed
        exact ⟨q, rfl, all q (perm.subset (List.mem_cons_self ..))⟩
    next =>
      refine iff_of_false (fun satisfied => ?_) fun ⟨p, member, ready⟩ => none p member ready
      obtain ⟨p, member, ready⟩ := (exists_order selector pods).2 ⟨order, perm, satisfied⟩
      exact none p member ready

variable {σ : Type}

def ClusterQuery.Steady (query : ClusterQuery σ) (ns selector : String) (delay : Nat)
    (pods : List Pod) : Prop :=
  ∀ now w, ∃ finish v, query.pods ns selector now w = (.lands delay finish, v) ∧
    ∀ u, (finish u).1 = .ok (.ok pods)

def Probe.evaluation (after : Moment σ) : Probe → Evaluation σ
  | satisfied => .satisfied after
  | pending observed => .unmet observed after

def Probe.outcome (late : String → Error) : Probe → Except Error Unit
  | satisfied => .ok ()
  | pending observed => .error (late observed)

variable {query : ClusterQuery σ} {ns selector : String} {delay : Nat} {pods : List Pod}

theorem evaluate_podsProbe {m : Moment σ} {v : σ}
    {finish : σ → Except Panic (Except Error (List Pod)) × σ} {stop : Nat}
    (judge : List Pod → Probe)
    (begun : query.pods ns selector m.now m.world = (.lands delay finish, v))
    (listed : (finish v).1 = .ok (.ok pods)) (intime : m.now + delay ≤ stop) :
    evaluate (podsProbe query ns selector judge) stop m =
      (judge pods).evaluation ⟨m.now + delay, (finish v).2⟩ := by
  match ended : finish v with
  | (answer, u) =>
    rw [ended] at listed
    cases listed
    simp only [evaluate, podsProbe, Call.map, begun, Flight.map, intime, if_true, ended, Except.map]
    cases judge pods <;> rfl

theorem waitFor_steady {interval timeout reach : Nat}
    (steady : query.Steady ns selector delay pods) (quick : delay ≤ interval) (pos : 0 < interval)
    (within : timeout + interval ≤ reach) (judge : List Pod → Probe) (description : String)
    (m : Moment σ) :
    ∃ after, waitFor description timeout interval (podsProbe query ns selector judge) reach m =
      some (.ok ((judge pods).outcome fun observed =>
        .timeout description (.ofMillis timeout) observed), after) := by
  rw [waitFor_within description within]
  have begins : m.now ≤ m.now + timeout := Nat.le_add_right ..
  generalize m.now + timeout = deadline at begins
  generalize patience = patience
  have evaluated (m : Moment σ) (begins : m.now ≤ deadline) :
      ∃ after, evaluate (podsProbe query ns selector judge) (deadline + interval) m =
        (judge pods).evaluation after := by
    obtain ⟨finish, v, begun, listed⟩ := steady m.now m.world
    exact ⟨_, evaluate_podsProbe judge begun (listed v) (by omega)⟩
  cases judged : judge pods with
  | satisfied =>
    obtain ⟨after, given⟩ := evaluated m begins
    rw [judged] at given
    exact ⟨after, by rw [pollUntil, given]; rfl⟩
  | pending observed =>
    have unmet (m : Moment σ) (begins : m.now ≤ deadline) := judged ▸ evaluated m begins
    have paced : (podsProbe query ns selector judge).Paced interval :=
      fun none => absurd none (Nat.ne_of_gt pos)
    fun_induction pollUntil (podsProbe query ns selector judge) deadline interval
      (fun observed => .timeout description (.ofMillis timeout) observed) patience m with
    | case1 patience m done given =>
      obtain ⟨after, same⟩ := unmet m begins
      cases given.symm.trans same
    | case2 patience m p done given =>
      obtain ⟨after, same⟩ := unmet m begins
      cases given.symm.trans same
    | case3 patience m seen done given expired =>
      obtain ⟨after, same⟩ := unmet m begins
      cases given.symm.trans same
      exact ⟨done, rfl⟩
    | case4 patience m seen done given early _ ih =>
      obtain ⟨-, -, start⟩ := nextStart_moves paced begins given (Nat.lt_of_not_le early)
      exact ih (start ▸ Nat.min_le_right _ _)
    -- Time passes between the evaluations, since the interval is not zero.
    | case5 m seen done given early stays =>
      exact absurd (nextStart_moves paced begins given (Nat.lt_of_not_le early)).2.1 stays
    | case6 m seen done given early stays =>
      exact absurd (nextStart_moves paced begins given (Nat.lt_of_not_le early)).2.1 stays

/-- Whatever else is listed, the pod that stands first decides: what one evaluation says, and what
comes of a wait as long as the listing stays. That one of the pods is ready, and no more, is what
some order of them shows, and every order only if all of them agree. -/
theorem podReady_first (query : ClusterQuery σ) (ns selector : String) (pods : List Pod) :
    (∀ (m : Moment σ) (stop delay : Nat) (finish : σ → Except Panic (Except Error (List Pod)) × σ)
        (v : σ), query.pods ns selector m.now m.world = (.lands delay finish, v) →
      (finish v).1 = .ok (.ok pods) → m.now + delay ≤ stop →
      ((∃ after, evaluate (podsProbe query ns selector (podReady selector)) stop m =
        .satisfied after) ↔ ∃ p ∈ pods.head?, p.Ready)) ∧
    ((∃ p ∈ pods, p.Ready) ↔
      ∃ order : List Pod, order.Perm pods ∧ podReady selector order = .satisfied) ∧
    ((∀ order : List Pod, order.Perm pods →
        (podReady selector order = .satisfied ↔ ∃ p ∈ pods, p.Ready)) ↔
      (∀ p ∈ pods, p.Ready) ∨ ∀ p ∈ pods, ¬ p.Ready) ∧
    ∀ (delay interval timeout reach : Nat) (description : String) (m : Moment σ),
      query.Steady ns selector delay pods → delay ≤ interval → 0 < interval →
      timeout + interval ≤ reach →
      ∃ r after, waitFor description timeout interval
          (podsProbe query ns selector (podReady selector)) reach m = some (.ok r, after) ∧
        (r = .ok () ↔ ∃ p ∈ pods.head?, p.Ready) := by
  refine ⟨?_, exists_order selector pods, orders_agree_iff selector pods, ?_⟩
  next =>
    intro m stop delay finish v begun listed intime
    rw [evaluate_podsProbe (podReady selector) begun listed intime, ← podReady_iff selector]
    cases podReady selector pods with
    | satisfied => exact iff_of_true ⟨_, rfl⟩ rfl
    | pending observed => exact iff_of_false nofun nofun
  next =>
    intro delay interval timeout reach description m steady quick pos within
    obtain ⟨after, ran⟩ :=
      waitFor_steady steady quick pos within (podReady selector) description m
    refine ⟨_, after, ran, ?_⟩
    rw [← podReady_iff selector]
    cases podReady selector pods with
    | satisfied => exact iff_of_true rfl rfl
    | pending observed => exact iff_of_false nofun nofun

def leaving : Pod where
  name := some "old"
  status := some { conditions := some [⟨"Ready", "False"⟩] }

def arrived : Pod where
  name := some "new"
  status := some { conditions := some [⟨"Initialized", "True"⟩, ⟨"Ready", "True"⟩] }

def listing (pods : List Pod) : ClusterQuery Unit where
  pods _ _ := fun _ w => (.lands 5 fun w => (.ok (.ok pods), w), w)
  services _ _ := fun _ w => (.never, w)
  events _ _ := fun _ w => (.never, w)
  identity _ := fun _ w => (.never, w)

theorem listing_steady (ns selector : String) (pods : List Pod) :
    (listing pods).Steady ns selector 5 pods := fun _ w => ⟨_, w, rfl, fun _ => rfl⟩

theorem podReady_first_rollout :
    (listing [leaving, arrived]).Steady "shares" "app=one" 5 [leaving, arrived] ∧ 0 < 250 ∧
      (∃ r after, waitFor "pod-ready" 60000 250 (podsProbe (listing [leaving, arrived]) "shares"
          "app=one" (podReady "app=one")) clockReach ⟨0, ()⟩ = some (.ok r, after) ∧
        r ≠ .ok ()) ∧
      ∃ order : List Pod, order.Perm [leaving, arrived] ∧
        podReady "app=one" order = .satisfied := by
  have steady := listing_steady "shares" "app=one" [leaving, arrived]
  obtain ⟨-, ordered, -, waited⟩ :=
    podReady_first (listing [leaving, arrived]) "shares" "app=one" [leaving, arrived]
  obtain ⟨r, after, ran, ready⟩ :=
    waited 5 250 60000 clockReach "pod-ready" ⟨0, ()⟩ steady (by decide) (by decide) (by decide)
  refine ⟨steady, by decide, ⟨r, after, ran, fun same => ?_⟩, ordered.1 ⟨arrived, ?_, ?_⟩⟩
  · obtain ⟨p, ⟨⟩, notYet⟩ := ready.1 same
    exact absurd notYet (by decide)
  · decide
  · decide

theorem podReady_misses :
    (∃ p ∈ [leaving, arrived], p.Ready) ∧ podReady "app=one" [leaving, arrived] ≠ .satisfied ∧
      [arrived, leaving].Perm [leaving, arrived] ∧
      podReady "app=one" [arrived, leaving] = .satisfied :=
  ⟨⟨arrived, by decide, by decide⟩, by decide, .swap .., by decide⟩

end ShareCheck
