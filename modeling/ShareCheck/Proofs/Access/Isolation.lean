import ShareCheck.Proofs.Access.Projection
import ShareCheck.Proofs.Access.Verify

set_option autoImplicit false

namespace ShareCheck

variable {σ υ : Type}

def Activity.ending {α : Type} (x : Activity σ α) (m : Moment σ) : Option (Except Panic α × Nat) :=
  (x m).map fun (r, after) => (r, after.now)

theorem Activity.Lifts.ending {α : Type} {own : σ → υ} {x : Activity σ α} {y : Activity υ α}
    (lifts : x.Lifts (.of own) y) (m : Moment σ) : y.ending ⟨m.now, own m.world⟩ = x.ending m := by
  unfold Activity.ending
  rw [show y ⟨m.now, own m.world⟩ = _ from lifts m, Option.map_map]
  rfl

theorem Call.lifts_same {α : Type} (c : Call σ α) : c.Lifts (.of id) c := by
  intro now w
  change Flight.Lifts id (c now w) (c now w)
  match c now w with
  | (.never, v) => exact .never v
  | (.lands delay finish, v) => exact .lands delay finish finish v fun _ => rfl

namespace RoundTrip

def uncut (client : ShareClient σ) (t : RoundTrip) (s : Stage) :
    Activity σ (Except Error Unit) := do
  match ← Activity.perform (t.call client s) with
  | .next after _ => uncut client t after
  | .finished r => pure r
termination_by s.rank

def course (client : ShareClient σ) (t : RoundTrip) (w : σ) :
    Strand σ → Option (Except Panic (Except Error Unit) × Nat)
  | .lost => none
  | .waiting _ landing finish =>
    match finish w with
    | (.ok (.next after _), w) => (t.uncut client after).ending ⟨landing, w⟩
    | (.ok (.finished r), _) => some (.ok r, landing)
    | (.error p, _) => some (.error p, landing)
  | .done ended outcome => some (outcome, ended)

variable {client : ShareClient σ} {image : ShareClient υ} {t : RoundTrip} {own : σ → υ}

theorem uncut_lifts (lifts : ∀ s, (t.call client s).Lifts (.of own) (t.call image s)) (s : Stage) :
    (t.uncut client s).Lifts (.of own) (t.uncut image s) := by
  rw [uncut, uncut]
  refine Activity.bind_lifts (Activity.perform_lifts (lifts s)) fun progress => ?_
  match progress with
  | .next after later => exact uncut_lifts lifts after
  | .finished r => exact Activity.pure_lifts r
termination_by s.rank

theorem uncut_never {s : Stage} {now : Nat} {v w : σ}
    (begun : t.call client s now w = (.never, v)) : (t.uncut client s).ending ⟨now, w⟩ = none := by
  rw [uncut]
  unfold Activity.ending
  change (Activity.bind _ _ _).map _ = none
  simp only [Activity.bind, Activity.perform, begun, Option.map_none]

theorem uncut_lands {s : Stage} {now delay : Nat} {v w : σ}
    {finish : σ → Except Panic (Progress s) × σ}
    (begun : t.call client s now w = (.lands delay finish, v)) :
    (t.uncut client s).ending ⟨now, w⟩ = t.course client v (.waiting s (now + delay) finish) := by
  rw [uncut]
  unfold Activity.ending course
  change (Activity.bind _ _ _).map _ = _
  simp only [Activity.bind, Activity.perform, begun]
  match finish v with
  | (.ok (.next after later), u) => rfl
  | (.ok (.finished r), u) => rfl
  | (.error p, u) => rfl

theorem uncut_later {s : Stage} {m : Moment σ} {r : Except Panic (Except Error Unit)} {ended : Nat}
    (ran : (t.uncut client s).ending m = some (r, ended)) : m.now ≤ ended := by
  match begun : t.call client s m.now m.world with
  | (.never, w) => simp [uncut_never begun] at ran
  | (.lands delay finish, w) =>
    have lands : t.course client w (.waiting s (m.now + delay) finish) = some (r, ended) :=
      (uncut_lands begun).symm.trans ran
    unfold course at lands
    match landed : finish w with
    | (.ok (.next after later), u) =>
      simp only [landed] at lands
      have next : m.now + delay ≤ ended := uncut_later lands
      omega
    | (.ok (.finished r), u) =>
      simp only [landed, Option.some.injEq, Prod.mk.injEq] at lands
      omega
    | (.error p, u) =>
      simp only [landed, Option.some.injEq, Prod.mk.injEq] at lands
      omega
termination_by s.rank

theorem course_later {s : Stage} {landing : Nat} {finish : σ → Except Panic (Progress s) × σ}
    {w : σ} {r : Except Panic (Except Error Unit)} {ended : Nat}
    (ran : t.course client w (.waiting s landing finish) = some (r, ended)) : landing ≤ ended := by
  unfold course at ran
  match landed : finish w with
  | (.ok (.next after later), u) =>
    simp only [landed] at ran
    exact uncut_later ran
  | (.ok (.finished r), u) =>
    simp only [landed, Option.some.injEq, Prod.mk.injEq] at ran
    omega
  | (.error p, u) =>
    simp only [landed, Option.some.injEq, Prod.mk.injEq] at ran
    omega

theorem proceed_course (now : Nat) (s : Stage) (w : σ) :
    t.course client (t.proceed client now s w).2 (t.proceed client now s w).1 =
      (t.uncut client s).ending ⟨now, w⟩ := by
  fun_induction proceed client t now s w with
  | case1 s w v begun => rw [uncut_never begun, course]
  | case2 s w finish v next later u landed begun ih =>
    rw [uncut_lands begun, course, landed]
    exact ih
  | case3 s w finish v result u landed begun =>
    rw [uncut_lands begun, course, course, landed]
    rfl
  | case4 s w finish v p u landed begun =>
    rw [uncut_lands begun, course, course, landed]
    rfl
  | case5 s w delay finish v begun late => rw [uncut_lands begun]

def At (now : Nat) : Strand σ → Prop
  | .lost => True
  | .waiting _ landing _ => now ≤ landing
  | .done ended _ => ended ≤ now

theorem proceed_at (now : Nat) (s : Stage) (w : σ) : At now (t.proceed client now s w).1 := by
  fun_induction proceed client t now s w with
  | case1 => trivial
  | case2 s w finish v next later u landed begun ih => exact ih
  | case3 | case4 => exact Nat.le_refl now
  | case5 s w delay finish v begun late => exact Nat.le_add_right now delay

variable (client) in
theorem wake_course {now : Nat} {strand : Strand σ} {w : σ} (due : At now strand) :
    t.course client (t.wake client now strand w).2 (t.wake client now strand w).1 =
        t.course client w strand ∧ At now (t.wake client now strand w).1 := by
  fun_cases wake client t now strand w with
  | case1 s landing finish w late next later u landed =>
    -- The clock has come to the landing and no further.
    obtain rfl : landing = now := Nat.le_antisymm late due
    rw [proceed_course, course, landed]
    exact ⟨rfl, proceed_at landing next u⟩
  | case2 s landing finish w late result u landed =>
    obtain rfl : landing = now := Nat.le_antisymm late due
    rw [course, course, landed]
    exact ⟨rfl, Nat.le_refl landing⟩
  | case3 s landing finish w late p u landed =>
    obtain rfl : landing = now := Nat.le_antisymm late due
    rw [course, course, landed]
    exact ⟨rfl, Nat.le_refl landing⟩
  | case4 s landing finish w early => exact ⟨rfl, due⟩
  | case5 strand w other => exact ⟨rfl, due⟩

def Follows (image : ShareClient υ) (own : σ → υ) (t : RoundTrip)
    (ending : Option (Except Panic (Except Error Unit) × Nat)) (now : Nat) (w : σ)
    (strand : Strand σ) : Prop :=
  ∃ part, strand.Lifts (.of own) part ∧ At now part ∧ t.course image (own w) part = ending

section

variable {ending : Option (Except Panic (Except Error Unit) × Nat)} {now : Nat} {w : σ}
  {strand : Strand σ}

theorem Follows.begins (lifts : ∀ s, (t.call client s).Lifts (.of own) (t.call image s)) (now : Nat)
    (w : σ) :
    t.Follows image own ((t.uncut image .listing).ending ⟨now, own w⟩) now
      (t.proceed client now .listing w).2 (t.proceed client now .listing w).1 := by
  obtain ⟨strands, world⟩ := proceed_lifts lifts now .listing w
  refine ⟨_, strands, proceed_at now .listing (own w), ?_⟩
  rw [← proceed_course, ← show _ = own _ from world]
  rfl

theorem Follows.wakes (lifts : ∀ s, (t.call client s).Lifts (.of own) (t.call image s))
    (follows : t.Follows image own ending now w strand) :
    t.Follows image own ending now (t.wake client now strand w).2
      (t.wake client now strand w).1 := by
  obtain ⟨part, strands, due, rfl⟩ := follows
  obtain ⟨woken, world⟩ := wake_lifts lifts now strands w
  obtain ⟨same, still⟩ := wake_course image (t := t) (w := own w) due
  refine ⟨_, woken, still, ?_⟩
  rw [← same, ← show _ = own _ from world]
  rfl

theorem Follows.passes {later : Nat} (le : now ≤ later)
    (due : ∀ landing, strand.landing? = some landing → later ≤ landing)
    (follows : t.Follows image own ending now w strand) :
    t.Follows image own ending later w strand := by
  obtain ⟨part, strands, still, same⟩ := follows
  refine ⟨part, strands, ?_, same⟩
  cases strands with
  | lost => trivial
  | waiting s landing finish other lands => exact due landing rfl
  | done ended outcome => exact Nat.le_trans still le

theorem Follows.elsewhere {v : σ} (same : own v = own w)
    (follows : t.Follows image own ending now w strand) :
    t.Follows image own ending now v strand := by
  unfold Follows
  rwa [same]

def cutOff (limit : Nat) (late : Error) :
    Option (Except Panic (Except Error Unit) × Nat) → Nat × Except Panic (Except Error Unit)
  | some (outcome, ended) => if ended ≤ limit then (ended, outcome) else (limit, .ok (.error late))
  | none => (limit, .ok (.error late))

theorem Follows.verdict {limit : Nat} (follows : t.Follows image own ending now w strand)
    (intime : now ≤ limit) (after : strand.After limit) (late : Error) :
    strand.verdict limit late = cutOff limit late ending := by
  obtain ⟨part, strands, still, rfl⟩ := follows
  cases strands with
  | lost => rfl
  | done ended outcome =>
    have passed : ended ≤ limit := Nat.le_trans still intime
    simp [course, cutOff, Strand.verdict, View.of, passed]
  | waiting s landing finish other lands =>
    -- It lands too late, so whatever it leads to does.
    have beyond := after landing rfl
    change (limit, _) = cutOff limit late (t.course image (own w) (.waiting s landing other))
    match same : t.course image (own w) (.waiting s landing other) with
    | none => rfl
    | some (outcome, ended) =>
      have later : landing ≤ ended := course_later same
      have expired : ¬ ended ≤ limit := by omega
      simp [cutOff, expired]

end

end RoundTrip

/-- A part of the world from which the calls of one entry are answered, and which no other entry
touches. -/
structure Isolates (clients : Nat → ShareClient σ) (trips : List RoundTrip) (i : Nat)
    (t : RoundTrip) (own : σ → υ) (image : ShareClient υ) : Prop where
  serves : ∀ s, (t.call (clients i) s).Lifts (.of own) (t.call image s)
  apart : ∀ j u, trips[j]? = some u → j ≠ i → ∀ s part,
    (u.call (clients j) s).Keeps fun w => own w = part

namespace Lane

variable {clients : Nat → ShareClient σ} {trips : List RoundTrip} {i : Nat} {t : RoundTrip}
  {own : σ → υ} {image : ShareClient υ}

structure Sees (i : Nat) (t : RoundTrip) (own : σ → υ) (image : ShareClient υ) (m : Moment σ)
    (now : Nat) (pending : List (RoundTrip × Nat)) (lanes : List (Lane σ)) (w : σ) : Prop where
  waits : ∀ p ∈ pending, p.2 = i → now = m.now ∧ own w = own m.world
  others : ∀ l ∈ lanes, l.position ≠ i → ∀ part, l.strand.Keeps fun w => own w = part
  follows : ∀ l ∈ lanes, l.position = i → t.Follows image own
    ((t.uncut image .listing).ending ⟨m.now, own m.world⟩) now w l.strand

section

variable {m : Moment σ} {now position : Nat} {u : RoundTrip} {strand : Strand σ}
  {pending : List (RoundTrip × Nat)} {lanes : List (Lane σ)} {w : σ}

theorem Sees.here (follows : t.Follows image own
      ((t.uncut image .listing).ending ⟨m.now, own m.world⟩) now w strand)
    (remain : ∀ p ∈ pending, p.2 ≠ i) (apart : ∀ l ∈ lanes, l.position ≠ i)
    (others : ∀ l ∈ lanes, l.position ≠ i → ∀ part, l.strand.Keeps fun w => own w = part) :
    Sees i t own image m now pending (⟨i, t, strand⟩ :: lanes) w := by
  refine ⟨fun p member same => absurd same (remain p member), ?_, ?_⟩
  · intro l member elsewhere
    obtain rfl | member := List.mem_cons.1 member
    next => exact absurd rfl elsewhere
    next => exact others l member elsewhere
  · intro l member same
    obtain rfl | member := List.mem_cons.1 member
    next => exact follows
    next => exact absurd same (apart l member)

theorem Sees.elsewhere {v : σ} (sees : Sees i t own image m now pending lanes w)
    (other : position ≠ i) (same : own v = own w)
    (kept : ∀ part, strand.Keeps fun w => own w = part) :
    Sees i t own image m now pending (⟨position, u, strand⟩ :: lanes) v := by
  refine ⟨fun p member here => ?_, ?_, ?_⟩
  · rw [same]
    exact sees.waits p member here
  · intro l member elsewhere
    obtain rfl | member := List.mem_cons.1 member
    next => exact kept
    next => exact sees.others l member elsewhere
  · intro l member here
    obtain rfl | member := List.mem_cons.1 member
    next => exact absurd here other
    next => exact (sees.follows l member here).elsewhere same

theorem Sees.tail {l : Lane σ} (sees : Sees i t own image m now pending (l :: lanes) w) :
    Sees i t own image m now pending lanes w :=
  ⟨sees.waits, fun k member => sees.others k (List.mem_cons_of_mem _ member),
    fun k member => sees.follows k (List.mem_cons_of_mem _ member)⟩

end

theorem joint_sees (isolates : Isolates clients trips i t own image) (known : trips[i]? = some t)
    (m : Moment σ) : Joint clients trips (Sees i t own image m) where
  reordered same sees :=
    ⟨sees.waits, fun l member => sees.others l (same.mem_iff.2 member),
      fun l member => sees.follows l (same.mem_iff.2 member)⟩
  passes le due sees :=
    ⟨nofun, sees.others, fun l member here => (sees.follows l member here).passes le (due l member)⟩
  begins {now u position pending lanes w} tagged sees := by
    have trip : trips[position]? = some u := tagged.awaited (List.mem_cons_self ..)
    by_cases here : position = i
    next =>
      subst here
      obtain rfl : u = t := Option.some.inj (trip.symm.trans known)
      obtain ⟨rfl, started⟩ := sees.waits (u, position) (List.mem_cons_self ..) rfl
      have begun := RoundTrip.Follows.begins isolates.serves m.now w
      rw [started] at begun
      obtain ⟨remain, apart⟩ := (tagged.begins (.lost : Strand σ)).apart
      exact .here begun remain apart sees.others
    next =>
      have kept part := RoundTrip.proceed_keeps
        (fun s => isolates.apart position u trip here s part) now .listing w
      have rest : Sees i t own image m now pending lanes w :=
        ⟨fun p member => sees.waits p (List.mem_cons_of_mem _ member), sees.others, sees.follows⟩
      exact rest.elsewhere here ((kept (own w)).1 rfl) fun part => (kept part).2
  wakes {now u position strand lanes w} tagged sees := by
    have trip : trips[position]? = some u := tagged.known (List.mem_cons_self ..)
    by_cases here : position = i
    next =>
      subst here
      obtain rfl : u = t := Option.some.inj (trip.symm.trans known)
      have woken := (sees.follows _ (List.mem_cons_self ..) rfl).wakes isolates.serves
      exact .here woken nofun tagged.apart.2 sees.tail.others
    next =>
      have kept part := RoundTrip.wake_keeps (fun s => isolates.apart position u trip here s part)
        now strand w (sees.others _ (List.mem_cons_self ..) here part)
      exact sees.tail.elsewhere here ((kept (own w)).1 rfl) fun part => (kept part).2

theorem conclude_isolated (isolates : Isolates clients trips i t own image)
    (known : trips[i]? = some t) {limit : Nat} {m : Moment σ} (intime : m.now ≤ limit)
    (late : Error) :
    ∃ l, (conclude clients limit trips m).1[i]? = some l ∧ l.trip = t ∧
      l.strand.verdict limit late =
        RoundTrip.cutOff limit late ((t.uncut (clients i) .listing).ending m) := by
  obtain ⟨concluded, stop, -, stopped, sees⟩ := conclude_joint (joint_sees isolates known m) intime
    ⟨fun _ _ _ => ⟨rfl, rfl⟩, nofun, nofun⟩
  have tag := congrArg (·[i]?) concluded.tags
  simp only [List.getElem?_map, List.getElem?_zipIdx, known, Option.map_some, Nat.zero_add,
    Option.map_eq_some_iff] at tag
  obtain ⟨l, found, same⟩ := tag
  have member := List.mem_of_getElem? found
  obtain ⟨rfl, rfl⟩ := Prod.mk.inj same
  have follows := sees.follows l member rfl
  rw [(RoundTrip.uncut_lifts isolates.serves .listing).ending] at follows
  exact ⟨l, found, rfl, follows.verdict stopped (concluded.after l member) late⟩

end Lane

inductive Check.Times (name : String) (timeout start : Nat) (late : Error) :
    Option (Except Panic (Except Error Unit) × Nat) → Check → Prop
  | intime {outcome : Except Panic (Except Error Unit)} {ended : Nat} : ended - start ≤ timeout →
      Times name timeout start late (some (outcome, ended))
        (.ofOutcome name (ended - start) outcome)
  | late {outcome : Except Panic (Except Error Unit)} {ended : Nat} : timeout < ended - start →
      Times name timeout start late (some (outcome, ended)) ⟨name, timeout, some late⟩
  | never : Times name timeout start late none ⟨name, timeout, some late⟩

theorem Check.Times.duration_eq {name : String} {timeout start : Nat} {late : Error}
    {ending : Option (Except Panic (Except Error Unit) × Nat)} {check : Check}
    (times : Times name timeout start late ending check) :
    check.duration = ending.elim timeout fun (_, ended) => min timeout (ended - start) := by
  cases times with
  | intime le => simp [Nat.min_eq_right le]
  | late lt => simp [Nat.min_eq_left (Nat.le_of_lt lt)]
  | never => rfl

theorem RoundTrip.cutOff_times (name : String) (timeout start : Nat) (late : Error)
    {ending : Option (Except Panic (Except Error Unit) × Nat)}
    (later : ∀ outcome ended, ending = some (outcome, ended) → start ≤ ended) :
    Check.Times name timeout start late ending
        (.ofOutcome name ((cutOff (start + timeout) late ending).1 - start)
          (cutOff (start + timeout) late ending).2) ∧
      start ≤ (cutOff (start + timeout) late ending).1 ∧
      (cutOff (start + timeout) late ending).1 ≤ start + timeout := by
  match ending with
  | none =>
    simp only [cutOff, Nat.add_sub_cancel_left]
    exact ⟨.never, Nat.le_add_right start timeout, Nat.le_refl _⟩
  | some (outcome, ended) =>
    have began := later outcome ended rfl
    by_cases intime : ended ≤ start + timeout
    next =>
      simp only [cutOff, intime, if_true]
      exact ⟨.intime (by omega), began, trivial⟩
    next =>
      simp only [cutOff, intime, if_false, Nat.add_sub_cancel_left]
      exact ⟨.late (by omega), Nat.le_add_right start timeout, Nat.le_refl _⟩

def soleCheck (client : ShareClient σ) (endpoint : Endpoint) (target : Target) (timeout : Nat)
    (t : RoundTrip) (m : Moment σ) : Check :=
  let (ended, outcome) := RoundTrip.cutOff (m.now + timeout) (noResponse target timeout)
    ((t.uncut client .listing).ending m)
  .ofOutcome (accessCheckName endpoint t.credential) (ended - m.now) outcome

section

variable (clients : Nat → ShareClient σ) (endpoint : Endpoint) (target : Target) (timeout : Nat)
  (credentials : List (Credential × String)) (m : Moment σ)

def Isolated : Prop :=
  ∀ i t, (tripsOf target credentials)[i]? = some t →
    ∃ (υ : Type) (own : σ → υ) (image : ShareClient υ),
      Isolates clients (tripsOf target credentials) i t own image

theorem isolated_alone (client : ShareClient σ) (entry : Credential × String) :
    Isolated (fun _ => client) target [entry] := by
  intro i t known
  refine ⟨σ, id, client, fun s => Call.lifts_same _, fun j u other apart => ?_⟩
  have first : i = 0 := by simpa [tripsOf] using (List.getElem?_eq_some_iff.1 known).1
  have second : j = 0 := by simpa [tripsOf] using (List.getElem?_eq_some_iff.1 other).1
  exact absurd (second.trans first.symm) apart

variable {clients target credentials}

theorem conclude_sole (isolated : Isolated clients target credentials) {i : Nat} {t : RoundTrip}
    (known : (tripsOf target credentials)[i]? = some t) :
    ∃ l, (Lane.conclude clients (m.now + timeout) (tripsOf target credentials) m).1[i]? = some l ∧
      l.check endpoint target timeout m.now = soleCheck (clients i) endpoint target timeout t m ∧
      (l.strand.verdict (m.now + timeout) (noResponse target timeout)).1 =
        (l.check endpoint target timeout m.now).duration + m.now ∧
      (l.check endpoint target timeout m.now).duration ≤ timeout := by
  obtain ⟨υ, own, image, isolates⟩ := isolated i t known
  obtain ⟨l, found, rfl, verdict⟩ := Lane.conclude_isolated isolates known
    (Nat.le_add_right m.now timeout) (noResponse target timeout)
  have later : ∀ outcome ended,
      (l.trip.uncut (clients i) .listing).ending m = some (outcome, ended) → m.now ≤ ended :=
    fun outcome ended => RoundTrip.uncut_later
  obtain ⟨-, began, ended⟩ :=
    RoundTrip.cutOff_times "" timeout m.now (noResponse target timeout) later
  have check : l.check endpoint target timeout m.now =
      soleCheck (clients i) endpoint target timeout l.trip m := by
    unfold Lane.check soleCheck
    rw [verdict]
  have duration : (soleCheck (clients i) endpoint target timeout l.trip m).duration =
      (RoundTrip.cutOff (m.now + timeout) (noResponse target timeout)
        ((l.trip.uncut (clients i) .listing).ending m)).1 - m.now :=
    Check.ofOutcome_duration _ _ _
  refine ⟨l, found, check, ?_⟩
  rw [check, duration, verdict]
  omega

theorem verifyEach_sole (isolated : Isolated clients target credentials) :
    ∃ checks after,
      verifyEach clients endpoint target timeout credentials m = some (.ok checks, after) ∧
      checks.length = credentials.length ∧
      (∀ i t, (tripsOf target credentials)[i]? = some t →
        checks[i]? = some (soleCheck (clients i) endpoint target timeout t m)) ∧
      after.now = m.now + (checks.map (·.duration)).foldl max 0 ∧
      ∀ check ∈ checks, check.duration ≤ timeout := by
  have same := (Lane.concluded clients (tripsOf target credentials)
    (Nat.le_add_right m.now timeout)).trips
  have sole i t known := conclude_sole (i := i) (t := t) endpoint timeout m isolated known
  generalize ended : Lane.conclude clients (m.now + timeout) (tripsOf target credentials) m = last
    at same sole
  obtain ⟨lanes, w⟩ := last
  have timed l (member : l ∈ lanes) :
      (l.strand.verdict (m.now + timeout) (noResponse target timeout)).1 =
          (l.check endpoint target timeout m.now).duration + m.now ∧
        (l.check endpoint target timeout m.now).duration ≤ timeout := by
    obtain ⟨i, found⟩ := List.getElem?_of_mem member
    have known : (tripsOf target credentials)[i]? = some l.trip := by
      rw [← same, List.getElem?_map, found]
      rfl
    obtain ⟨k, again, -, times⟩ := sole i l.trip known
    obtain rfl : k = l := Option.some.inj (again.symm.trans found)
    exact times
  refine ⟨lanes.map (Lane.check endpoint target timeout m.now), ⟨lanes.foldl (fun latest l =>
      max latest (l.strand.verdict (m.now + timeout) (noResponse target timeout)).1) m.now, w⟩,
    ?_, ?_, fun i t known => ?_, ?_, fun check member => ?_⟩
  · simp only [verifyEach, ended]
  · rw [List.length_map, ← List.length_map (f := Lane.trip), same, tripsOf, List.length_map]
  · obtain ⟨l, found, check, -⟩ := sole i t known
    rw [List.getElem?_map, found, Option.map_some, check]
  · have latest := foldl_max_add lanes
      (fun l => (l.check endpoint target timeout m.now).duration) 0 m.now
    rw [Nat.zero_add] at latest
    rw [List.foldl_map, List.foldl_map]
    refine Eq.trans (List.foldl_ext _ _ _ fun latest l among => ?_)
      (latest.trans (Nat.add_comm _ _))
    rw [(timed l among).1]
  · obtain ⟨l, among, rfl⟩ := List.mem_map.1 member
    exact (timed l among).2

/-- Entries that have nothing to do with each other are reported as each of them would be alone:
as its round trip goes if that takes no more than the time there is, and otherwise as not connected
when the time is over. The whole takes as long as the entry that takes longest. -/
theorem verifyEach_isolated (isolated : Isolated clients target credentials) :
    ∃ checks after,
      verifyEach clients endpoint target timeout credentials m = some (.ok checks, after) ∧
      (∀ client, clients = (fun _ => client) →
        verifyEndpoint client endpoint target timeout credentials m = some (.ok checks, after)) ∧
      checks.length = credentials.length ∧
      (∀ i c probe, credentials[i]? = some (c, probe) → ∃ check, checks[i]? = some check ∧
        (∃ alone, verifyEndpoint (clients i) endpoint target timeout [(c, probe)] m =
          some (.ok [check], alone)) ∧
        check.name = accessCheckName endpoint c ∧
        Check.Times (accessCheckName endpoint c) timeout m.now (noResponse target timeout)
          ((RoundTrip.uncut (clients i) ⟨target, c, probe⟩ .listing).ending m) check ∧
        check.duration = ((RoundTrip.uncut (clients i) ⟨target, c, probe⟩ .listing).ending m).elim
          timeout fun (_, ended) => min timeout (ended - m.now)) ∧
      (noResponse target timeout).accessFailure? = some .connection ∧
      after.now = m.now + (checks.map (·.duration)).foldl max 0 ∧
      after.now ≤ m.now + timeout := by
  obtain ⟨checks, after, ran, length, sole, time, within⟩ :=
    verifyEach_sole endpoint timeout m isolated
  refine ⟨checks, after, ran, ?_, length, fun i c probe entry => ?_, rfl, time, ?_⟩
  · rintro client rfl
    rwa [← verifyEach_const]
  · have known : (tripsOf target credentials)[i]? = some ⟨target, c, probe⟩ := by
      rw [tripsOf, List.getElem?_map, entry]
      rfl
    have later : ∀ outcome ended,
        (RoundTrip.uncut (clients i) ⟨target, c, probe⟩ .listing).ending m = some (outcome, ended) →
          m.now ≤ ended :=
      fun outcome ended => RoundTrip.uncut_later
    have times := (RoundTrip.cutOff_times (accessCheckName endpoint c) timeout m.now
      (noResponse target timeout) later).1
    refine ⟨_, sole i _ known, ?_, Check.ofOutcome_name _ _ _, times, times.duration_eq⟩
    obtain ⟨others, last, alone, one, first, -⟩ :=
      verifyEach_sole endpoint timeout m (isolated_alone target (clients i) (c, probe))
    rw [verifyEach_const] at alone
    obtain ⟨check, rfl⟩ := List.length_eq_one_iff.1 one
    have same := first 0 ⟨target, c, probe⟩ rfl
    exact ⟨last, alone.trans (by rw [Option.some.inj same])⟩
  · rw [time]
    refine Nat.add_le_add_left (foldl_max_le (Nat.zero_le timeout) ?_) m.now
    simpa using within

end

section

variable {α : Type} (part : Part σ υ)

theorem Call.within_keeps {I : σ → Prop} (kept : ∀ v w, I w → I (part.put v w)) (c : Call υ α) :
    (c.within part).Keeps I where
  beginning now w holds := kept _ w holds
  landing now w delay finish lands v holds := by
    unfold Call.within at lands
    rcases begun : c now (part.get w) with ⟨_ | ⟨lasts, done⟩, u⟩
    next => simp [begun, Flight.within] at lands
    next =>
      simp only [begun, Flight.within, Flight.lands.injEq] at lands
      obtain ⟨-, rfl⟩ := lands
      exact kept _ v holds

theorem ShareClient.within_lifts (own : ∀ v w, part.get (part.put v w) = v)
    (client : ShareClient υ) : (client.within part).Lifts (.of part.get) client :=
  have lifts {α : Type} (c : Call υ α) : (c.within part).Lifts (.of part.get) c :=
    Call.within_lifts own fun _ _ => rfl
  ⟨fun _ _ => lifts _, fun _ _ _ _ => lifts _, fun _ _ _ => lifts _, fun _ _ _ => lifts _⟩

theorem ShareClient.within_keeps {I : σ → Prop} (kept : ∀ v w, I w → I (part.put v w))
    (client : ShareClient υ) : (client.within part).Keeps I :=
  ⟨fun _ _ => Call.within_keeps part kept _, fun _ _ _ _ => Call.within_keeps part kept _,
    fun _ _ _ => Call.within_keeps part kept _, fun _ _ _ => Call.within_keeps part kept _⟩

end

def clerk (stuck : Bool) : ShareClient Nat where
  list _ _ := fun _ n => (.lands n fun k => (.ok (.ok ["a"]), k), n + 1)
  put _ _ _ _ := fun _ n => (.lands n fun k => (.ok (.ok ()), k), n + 1)
  get _ _ _ := fun _ n =>
    if stuck then (.never, n) else (.lands n fun k => (.ok (.ok probePayload), k), n + 1)
  remove _ _ _ := fun _ n => (.lands n fun k => (.ok (.ok ()), k), n + 1)

def desk (i : Nat) : Part (Nat → Nat) Nat := ⟨(· i), fun n counts => Function.update counts i n⟩

def clerks (i : Nat) : ShareClient (Nat → Nat) := (clerk (i == 0)).within (desk i)

theorem clerks_isolated (target : Target) (credentials : List (Credential × String)) :
    Isolated clerks target credentials := by
  intro i t known
  refine ⟨Nat, (desk i).get, clerk (i == 0), fun s => ?_, fun j u other apart s part => ?_⟩
  · have own (n : Nat) (counts : Nat → Nat) : (desk i).get ((desk i).put n counts) = n := by
      simp [desk]
    exact t.call_lifts (ShareClient.within_lifts (desk i) own _) s
  · have kept (n : Nat) (counts : Nat → Nat) (same : (desk i).get counts = part) :
        (desk i).get ((desk j).put n counts) = part := by
      simpa [desk, Function.update_of_ne (Ne.symm apart)] using same
    exact u.call_keeps (ShareClient.within_keeps (desk j) kept _) s

theorem verifyEach_isolated_twice :
    let target : Target := ⟨"10.0.0.1", "One"⟩
    let entry : Credential × String := (⟨"user", "secret"⟩, "a")
    let name := "access[address/user]"
    Isolated clerks target [entry, entry] ∧ ∃ after,
      verifyEach clerks .address target 10 [entry, entry] ⟨0, fun _ => 0⟩ =
        some (.ok [⟨name, 10, some (noResponse target 10)⟩, ⟨name, 10, none⟩], after) ∧
      after.now = 10 ∧ ∃ alone, verifyEndpoint (clerks 1) .address target 10 [entry]
        ⟨0, fun _ => 0⟩ = some (.ok [⟨name, 10, none⟩], alone) := by
  intro target entry name
  have isolated := clerks_isolated target [entry, entry]
  obtain ⟨checks, after, ran, -, length, sole, -, time, -⟩ :=
    verifyEach_isolated .address 10 ⟨0, fun _ => 0⟩ isolated
  obtain ⟨stuck, first, -, -, cut, -⟩ := sole 0 entry.1 entry.2 rfl
  obtain ⟨passed, second, alone, -, whole, -⟩ := sole 1 entry.1 entry.2 rfl
  have never : (RoundTrip.uncut (clerks 0) ⟨target, entry.1, entry.2⟩ .listing).ending
      ⟨0, fun _ => 0⟩ = none := by decide +kernel
  have ends : ((RoundTrip.uncut (clerks 1) ⟨target, entry.1, entry.2⟩ .listing).ending
      ⟨0, fun _ => 0⟩).map (fun (r, ended) => (r.toOption.map (·.toOption), ended)) =
        some (some (some ()), 10) := by decide +kernel
  obtain ⟨⟨r, ended⟩, ends, same⟩ := Option.map_eq_some_iff.1 ends
  obtain ⟨passes, rfl⟩ := Prod.mk.inj same
  obtain rfl : r = .ok (.ok ()) := by
    match r with
    | .ok (.ok ()) => rfl
  rw [never] at cut
  rw [ends] at whole
  cases cut
  cases whole with
  | intime =>
    match checks, length with
    | [_, _], _ =>
      cases first
      cases second
      exact ⟨isolated, after, ran, time, alone⟩
  | late late => exact absurd late (by decide)

end ShareCheck
