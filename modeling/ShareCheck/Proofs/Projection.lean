import ShareCheck.Proofs.Trace

set_option autoImplicit false

namespace ShareCheck

variable {τ σ α β : Type}

/-- A part of a larger world, with a clock that may be ahead of the one there. -/
structure View (τ σ : Type) where
  see : τ → σ
  ahead : Nat

def View.of (see : τ → σ) : View τ σ := ⟨see, 0⟩

instance : CoeFun (View τ σ) fun _ => τ → σ := ⟨View.see⟩

@[simp] theorem View.of_see (see : τ → σ) : (View.of see).see = see := rfl

variable {h : View τ σ}

def Moment.map (h : View τ σ) (m : Moment τ) : Moment σ := ⟨m.now + h.ahead, h m.world⟩

def Tracked.map (h : View τ σ) : View (Tracked τ) (Tracked σ) :=
  ⟨fun t => ⟨t.owned, h t.world⟩, h.ahead⟩

/-- What is under way, in the larger world and in the part of it, together with these. Both land
after the same delay, with the same result, or neither lands. -/
inductive Flight.Lifts (h : τ → σ) : Flight τ α × τ → Flight σ α × σ → Prop
  | never (w : τ) : Lifts h (.never, w) (.never, h w)
  | lands (delay : Nat) (finish : τ → Except Panic α × τ) (image : σ → Except Panic α × σ) (w : τ) :
      (∀ v, image (h v) = ((finish v).1, h (finish v).2)) →
        Lifts h (.lands delay finish, w) (.lands delay image, h w)

def Call.Lifts (h : View τ σ) (c : Call τ α) (d : Call σ α) : Prop :=
  ∀ now w, Flight.Lifts h (c now w) (d (now + h.ahead) (h w))

theorem Call.map_lifts {c : Call τ α} {d : Call σ α} (lifts : c.Lifts h d) (f : α → β) :
    (c.map f).Lifts h (d.map f) := by
  intro now w
  unfold Call.map
  match c now w, d (now + h.ahead) (h w), lifts now w with
  | _, _, .never w => exact .never w
  | _, _, .lands delay finish image w lands =>
    refine .lands delay _ _ w fun v => ?_
    rw [lands v]
    match finish v with
    | (.ok a, u) => rfl
    | (.error p, u) => rfl

theorem Call.Lifts.lands {c : Call τ α} {d : Call σ α} (lifts : c.Lifts h d) (lands : d.Lands) :
    c.Lands := by
  intro now w
  obtain ⟨delay, finish, v, begun⟩ := lands (now + h.ahead) (h w)
  have lifted := lifts now w
  rw [begun] at lifted
  generalize c now w = source at lifted
  cases lifted with
  | lands _ finish _ v _ => exact ⟨delay, finish, v, rfl⟩

theorem Call.Lifts.paced {c : Call τ α} {d : Call σ α} (lifts : c.Lifts h d) {interval : Nat}
    (paced : d.Paced interval) : c.Paced interval := by
  intro none now w finish v begun
  have lifted := lifts now w
  rw [begun] at lifted
  generalize image : d (now + h.ahead) (h w) = other at lifted
  cases lifted with
  | lands _ _ finish _ _ => exact paced none _ _ _ _ image

theorem Call.within_lifts {part : Part τ σ} (own : ∀ v w, part.get (part.put v w) = v) {ahead : Nat}
    {c : Call σ α} (timeless : ∀ now w, c (now + ahead) w = c now w) :
    (c.within part).Lifts ⟨part.get, ahead⟩ c := by
  intro now w
  change Flight.Lifts part.get _ (c (now + ahead) (part.get w))
  rw [timeless]
  unfold Call.within
  rcases c now (part.get w) with ⟨_ | ⟨delay, finish⟩, v⟩
  next =>
    have lifts := Flight.Lifts.never (α := α) (h := part.get) (part.put v w)
    rwa [own] at lifts
  next =>
    have lifts := Flight.Lifts.lands (h := part.get) delay
      (fun u => ((finish (part.get u)).1, part.put (finish (part.get u)).2 u)) finish
      (part.put v w) fun u => by rw [own]
    rwa [own] at lifts

namespace Activity

def Lifts (h : View τ σ) (x : Activity τ α) (y : Activity σ α) : Prop :=
  ∀ m, y (m.map h) = (x m).map fun (r, after) => (r, after.map h)

theorem Lifts.some {x : Activity τ α} {y : Activity σ α} {m : Moment τ} {after : Moment σ}
    {r : Except Panic α} (lifts : x.Lifts h y) (ran : y (m.map h) = some (r, after)) :
    ∃ last, x m = some (r, last) ∧ last.map h = after := by
  rw [lifts m, Option.map_eq_some_iff] at ran
  obtain ⟨⟨answer, last⟩, ended, same⟩ := ran
  cases same
  exact ⟨last, ended, rfl⟩

theorem pure_lifts (a : α) : (pure a : Activity τ α).Lifts h (pure a) := fun _ => rfl

theorem panic_lifts (p : Panic) : (panic p : Activity τ α).Lifts h (panic p) := fun _ => rfl

theorem sleep_lifts (delay : Nat) : (sleep delay : Activity τ Unit).Lifts h (sleep delay) := by
  intro m
  simp [sleep, Moment.map, Nat.add_right_comm]

theorem change_lifts {f : τ → α × τ} {g : σ → α × σ} (same : ∀ w, g (h w) = ((f w).1, h (f w).2)) :
    (change f).Lifts h (change g) := by
  intro m
  unfold change Moment.map
  rw [same]
  rfl

theorem bind_lifts {x : Activity τ α} {y : Activity σ α} {f : α → Activity τ β}
    {g : α → Activity σ β} (first : x.Lifts h y) (rest : ∀ a, (f a).Lifts h (g a)) :
    (x >>= f).Lifts h (y >>= g) := by
  intro m
  change Activity.bind y g (m.map h) = (Activity.bind x f m).map _
  unfold Activity.bind
  rw [first m]
  match x m with
  | none => rfl
  | some (.ok a, mid) => exact rest a mid
  | some (.error p, mid) => rfl

theorem lifts_composes : Composes fun {α} (x : Activity τ α) (y : Activity σ α) => x.Lifts h y :=
  ⟨pure_lifts, bind_lifts⟩

theorem perform_lifts {c : Call τ α} {d : Call σ α} (lifts : c.Lifts h d) :
    (perform c).Lifts h (perform d) := by
  intro m
  unfold perform Moment.map
  match c m.now m.world, d (m.now + h.ahead) (h m.world), lifts m.now m.world with
  | _, _, .never w => rfl
  | _, _, .lands delay finish image w lands =>
    simp only [lands w, Option.map_some, Nat.add_right_comm]

theorem check_lifts {x : Activity τ (Except Error Unit)} {y : Activity σ (Except Error Unit)}
    (lifts : x.Lifts h y) (name : String) : (Check.run name x).Lifts h (Check.run name y) := by
  intro m
  unfold Check.run
  rw [lifts m]
  cases x m <;> simp [Moment.map, Nat.add_sub_add_right]

theorem timed_lifts {x : Activity τ α} {y : Activity σ α} (lifts : x.Lifts h y)
    (f : α → Nat → β) :
    (do let start ← now; let a ← x; let stop ← now; pure (f a (stop - start))).Lifts h
      (do let start ← now; let a ← y; let stop ← now; pure (f a (stop - start))) := by
  intro m
  change Activity.bind y (fun a after => some (.ok (f a (after.now - (m.map h).now)), after))
    (m.map h) = (Activity.bind x (fun a after => some (.ok (f a (after.now - m.now)), after))
      m).map _
  unfold Activity.bind
  rw [lifts m]
  match x m with
  | none => rfl
  | some (.ok a, after) => simp [Moment.map, Nat.add_sub_add_right]
  | some (.error p, after) => rfl

theorem within_lifts {x : Activity τ α} {y : Activity σ α} (lifts : x.Lifts h y) :
    (x.within Tracked.inner).Lifts (Tracked.map h) (y.within Tracked.inner) := by
  intro m
  have inner := lifts ⟨m.now, m.world.world⟩
  unfold within Tracked.inner Moment.map Tracked.map at *
  simp only [inner]
  cases x ⟨m.now, m.world.world⟩ <;> rfl

theorem owning_lifts {x : Activity (Tracked τ) α} {y : Activity (Tracked σ) α}
    (lifts : x.Lifts (Tracked.map h) y) (owned : List OwnedObject) :
    (x.owning owned).Lifts h (y.owning owned) := by
  intro m
  have inner := lifts ⟨m.now, ⟨owned, m.world⟩⟩
  unfold owning Moment.map Tracked.map at *
  simp only [inner]
  match x ⟨m.now, ⟨owned, m.world⟩⟩ with
  | none => rfl
  | some (.ok a, after) => rfl
  | some (.error p, after) => rfl

end Activity

/-! ### Views that run out -/

/-- What a world shows while it is known which numbers come next, by how many of them are known. -/
structure Views (τ σ : Type) where
  see : Nat → τ → σ
  ahead : Nat

def Views.at (h : Views τ σ) (left : Nat) : View τ σ := ⟨h.see left, h.ahead⟩

def Views.const (h : View τ σ) : Views τ σ := ⟨fun _ => h.see, h.ahead⟩

namespace Activity

def Draws (h : Views τ σ) (most : Nat) (x : Activity τ α) (y : Activity σ α) : Prop :=
  ∀ m known, most ≤ known → ∃ left, known ≤ left + most ∧
    y (m.map (h.at known)) = (x m).map fun (r, after) => (r, after.map (h.at left))

variable {h : Views τ σ} {most : Nat}

theorem Lifts.draws {x : Activity τ α} {y : Activity σ α} (lifts : ∀ left, x.Lifts (h.at left) y) :
    x.Draws h 0 y :=
  fun m known _ => ⟨known, Nat.le_refl _, lifts known m⟩

theorem Draws.lifts {h : View τ σ} {x : Activity τ α} {y : Activity σ α}
    (draws : x.Draws (.const h) most y) : x.Lifts h y := by
  intro m
  obtain ⟨_, -, same⟩ := draws m most (Nat.le_refl _)
  exact same

theorem pure_draws (a : α) : (pure a : Activity τ α).Draws h 0 (pure a) :=
  Lifts.draws fun _ => pure_lifts a

theorem Draws.weaken {x : Activity τ α} {y : Activity σ α} {more : Nat}
    (draws : x.Draws h most y) (le : most ≤ more) : x.Draws h more y := by
  intro m known enough
  obtain ⟨left, used, same⟩ := draws m known (Nat.le_trans le enough)
  exact ⟨left, by omega, same⟩

theorem bind_draws {x : Activity τ α} {y : Activity σ α} {f : α → Activity τ β}
    {g : α → Activity σ β} {further : Nat} (first : x.Draws h most y)
    (rest : ∀ a, (f a).Draws h further (g a)) : (x >>= f).Draws h (most + further) (y >>= g) := by
  intro m known enough
  obtain ⟨mid, used, same⟩ := first m known (by omega)
  change ∃ left, _ ∧ Activity.bind y g (m.map (h.at known)) = (Activity.bind x f m).map _
  unfold Activity.bind
  rw [same]
  match x m with
  | none => exact ⟨mid, by omega, rfl⟩
  | some (.error p, _) => exact ⟨mid, by omega, rfl⟩
  | some (.ok a, after) =>
    obtain ⟨left, more, ends⟩ := rest a after mid (by omega)
    exact ⟨left, by omega, ends⟩

theorem Lifts.bind_draws {x : Activity τ α} {y : Activity σ α} {f : α → Activity τ β}
    {g : α → Activity σ β} (first : ∀ left, x.Lifts (h.at left) y)
    (rest : ∀ a, (f a).Draws h most (g a)) : (x >>= f).Draws h most (y >>= g) :=
  (Activity.bind_draws (Lifts.draws first) rest).weaken (Nat.le_of_eq (Nat.zero_add most))

theorem change_draws {f : τ → α × τ} {g : σ → α × σ}
    (same : ∀ left w, g (h.at (left + 1) w) = ((f w).1, h.at left (f w).2)) :
    (change f).Draws h 1 (change g) := by
  intro m known enough
  obtain ⟨left, rfl⟩ := Nat.exists_eq_add_of_le' enough
  refine ⟨left, Nat.le_refl _, ?_⟩
  unfold change Moment.map
  rw [same]
  rfl

end Activity

/-! ### Waits -/

def Evaluation.map (h : View τ σ) : Evaluation τ → Evaluation σ
  | .satisfied m => .satisfied (m.map h)
  | .panicked p m => .panicked p (m.map h)
  | .unmet observed m => .unmet observed (m.map h)

theorem evaluate_lifts {c : Request τ Probe} {d : Request σ Probe} (lifts : c.Lifts h d)
    (stop : Nat) (m : Moment τ) :
    evaluate d (stop + h.ahead) (m.map h) = (evaluate c stop m).map h := by
  unfold evaluate Moment.map
  match c m.now m.world, d (m.now + h.ahead) (h m.world), lifts m.now m.world with
  | _, _, .never w => rfl
  | _, _, .lands delay finish image w lands =>
    simp only [Nat.add_right_comm m.now h.ahead delay, Nat.add_le_add_iff_right]
    by_cases intime : m.now + delay ≤ stop
    next =>
      simp only [intime, if_true, lands w]
      match finish w with
      | (.ok (.ok .satisfied), v) => rfl
      | (.ok (.ok (.pending observed)), v) => rfl
      | (.ok (.error e), v) => rfl
      | (.error p, v) => rfl
    next =>
      simp only [intime, if_false]
      rfl

theorem nextStart_add (began ended interval deadline ahead : Nat) :
    nextStart (began + ahead) (ended + ahead) interval (deadline + ahead) =
      nextStart began ended interval deadline + ahead := by
  unfold nextStart
  omega

theorem pollUntil_lifts {c : Request τ Probe} {d : Request σ Probe} (lifts : c.Lifts h d)
    (deadline interval patience : Nat) (late : String → Error) (m : Moment τ) :
    pollUntil d (deadline + h.ahead) interval late patience (m.map h) =
      (pollUntil c deadline interval late patience m).map fun (r, after) => (r, after.map h) := by
  have evaluated m : evaluate d (deadline + h.ahead + interval) (m.map h) =
      (evaluate c (deadline + interval) m).map h := by
    rw [Nat.add_right_comm]
    exact evaluate_lifts lifts (deadline + interval) m
  fun_induction pollUntil c deadline interval late patience m with
  | case1 patience m done given =>
    rw [pollUntil, evaluated, given]
    rfl
  | case2 patience m p done given =>
    rw [pollUntil, evaluated, given]
    rfl
  | case3 patience m observed done given expired =>
    rw [pollUntil, evaluated, given]
    simp [Evaluation.map, Moment.map, expired]
  | case4 patience m observed done given expired moves ih =>
    rw [pollUntil, evaluated, given]
    simp only [Evaluation.map, Moment.map, Nat.add_le_add_iff_right, expired, if_false,
      nextStart_add, Nat.add_lt_add_iff_right, moves, if_true] at ih ⊢
    exact ih
  | case5 m observed done given expired stays =>
    rw [pollUntil, evaluated, given]
    simp [Evaluation.map, Moment.map, expired, nextStart_add, stays]
  | case6 m observed done given expired stays patience ih =>
    rw [pollUntil, evaluated, given]
    simp only [Evaluation.map, Moment.map, Nat.add_le_add_iff_right, expired, if_false,
      nextStart_add, Nat.add_lt_add_iff_right, stays] at ih ⊢
    exact ih

theorem waitFor_lifts {c : Request τ Probe} {d : Request σ Probe} (lifts : c.Lifts h d)
    (description : String) (timeout interval reach : Nat) :
    (waitFor description timeout interval c reach).Lifts h
      (waitFor description timeout interval d reach) := by
  intro m
  by_cases within : timeout + interval ≤ reach
  next =>
    have polled := pollUntil_lifts lifts (m.now + timeout) interval patience
      (fun observed => .timeout description (.ofMillis timeout) observed) m
    rw [waitFor_within description within, waitFor_within description within]
    rwa [Nat.add_right_comm] at polled
  next =>
    have beyond := Nat.lt_of_not_le within
    rw [waitFor_beyond description beyond, waitFor_beyond description beyond]
    rfl

/-! ### Tracing -/

theorem Call.traced_lifts {o : Operation} (c : Request σ o.Answer) :
    (Call.traced o c).Lifts (.of Traced.world) c := by
  intro now t
  unfold Call.traced
  match c now t.world with
  | (.never, w) => exact .never _
  | (.lands delay finish, w) => exact .lands delay _ finish _ fun _ => rfl

theorem Activity.traced_lifts {o : Operation} (x : Activity σ (Except Error o.Answer)) :
    (Activity.traced o x).Lifts (.of Traced.world) x := by
  intro m
  change x ⟨m.now, m.world.world⟩ = _
  unfold Activity.traced
  cases x ⟨m.now, m.world.world⟩ <;> rfl

end ShareCheck
