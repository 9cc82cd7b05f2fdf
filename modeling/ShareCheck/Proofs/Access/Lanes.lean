import ShareCheck.Access.Verify

set_option autoImplicit false

namespace ShareCheck

variable {σ : Type}

def Strand.After (now : Nat) (strand : Strand σ) : Prop :=
  ∀ landing, strand.landing? = some landing → now < landing

namespace RoundTrip

theorem proceed_after (client : ShareClient σ) (t : RoundTrip) (now : Nat) (s : Stage) (w : σ) :
    (t.proceed client now s w).1.After now := by
  fun_induction proceed client t now s w with
  | case1 | case3 | case4 => exact nofun
  | case2 s w finish v next later u landed begun ih => exact ih
  | case5 s w delay finish v begun late =>
    rintro landing ⟨⟩
    omega

theorem wake_after (client : ShareClient σ) (t : RoundTrip) (now : Nat) (strand : Strand σ)
    (w : σ) : (t.wake client now strand w).1.After now := by
  fun_cases wake client t now strand w with
  | case1 s landing finish w due next later u landed => exact t.proceed_after client now next u
  | case2 | case3 => exact nofun
  | case4 s landing finish w early =>
    rintro time ⟨⟩
    omega
  | case5 strand w other =>
    intro landing lands
    cases strand with
    | waiting s time finish => exact absurd rfl (other s time finish)
    | lost | done => cases lands

end RoundTrip

namespace Lane

def tag (l : Lane σ) : RoundTrip × Nat := (l.trip, l.position)

def check (endpoint : Endpoint) (target : Target) (timeout start : Nat) (l : Lane σ) : Check :=
  let (ended, outcome) := l.strand.verdict (start + timeout) (noResponse target timeout)
  .ofOutcome (accessCheckName endpoint l.trip.credential) (ended - start) outcome

variable (clients : Nat → ShareClient σ)

def beginEach (now : Nat) : List (RoundTrip × Nat) → σ → List (Lane σ) × σ
  | [], w => ([], w)
  | (t, position) :: ts, w =>
    let (strand, w) := t.proceed (clients position) now .listing w
    let (rest, w) := beginEach now ts w
    (⟨position, t, strand⟩ :: rest, w)

def wakeEach (now : Nat) : List (Lane σ) → σ → List (Lane σ) × σ
  | [], w => ([], w)
  | l :: ls, w =>
    let (strand, w) := l.trip.wake (clients l.position) now l.strand w
    let (rest, w) := wakeEach now ls w
    ({ l with strand } :: rest, w)

def runEach (limit : Nat) (lanes : List (Lane σ)) (m : Moment σ) : List (Lane σ) × σ :=
  match nextLanding? lanes with
  | none => (lanes, m.world)
  | some t =>
    if m.now < t ∧ t ≤ limit then
      let (lanes, w) := wakeEach clients t (arrange limit t lanes) m.world
      runEach limit lanes ⟨t, w⟩
    else (lanes, m.world)
termination_by limit - m.now
decreasing_by omega

def conclude (limit : Nat) (trips : List RoundTrip) (m : Moment σ) : List (Lane σ) × σ :=
  let (lanes, w) := beginEach clients m.now trips.zipIdx m.world
  let (lanes, w) := runEach clients limit lanes ⟨m.now, w⟩
  (inOrder lanes, w)

theorem beginEach_const (client : ShareClient σ) (now : Nat) (trips : List (RoundTrip × Nat))
    (w : σ) : beginEach (fun _ => client) now trips w = beginAll client now trips w := by
  induction trips generalizing w with
  | nil => rfl
  | cons head trips ih => simp only [beginEach, beginAll, ih]

theorem wakeEach_const (client : ShareClient σ) (now : Nat) (lanes : List (Lane σ)) (w : σ) :
    wakeEach (fun _ => client) now lanes w = wakeAll client now lanes w := by
  induction lanes generalizing w with
  | nil => rfl
  | cons l lanes ih => simp only [wakeEach, wakeAll, ih]

theorem runEach_const (client : ShareClient σ) (limit : Nat) (lanes : List (Lane σ))
    (m : Moment σ) : runEach (fun _ => client) limit lanes m = run client limit lanes m := by
  fun_induction run client limit lanes m with
  | case1 lanes m none => simp only [runEach, none]
  | case2 lanes m t next due lanes' w woken ih =>
    rw [runEach]
    simp only [next, due, and_self, if_true, wakeEach_const, woken, ih]
  | case3 lanes m t next expired =>
    rw [runEach]
    simp only [next, expired, if_false]

end Lane

def tripsOf (target : Target) (credentials : List (Credential × String)) : List RoundTrip :=
  credentials.map fun (c, probe) => ⟨target, c, probe⟩

/-- As `verifyEndpoint`, with a client for each entry of the list. -/
def verifyEach (clients : Nat → ShareClient σ) (endpoint : Endpoint) (target : Target)
    (timeout : Nat) (credentials : List (Credential × String)) : Activity σ (List Check) := fun m =>
  let limit := m.now + timeout
  let (lanes, w) := Lane.conclude clients limit (tripsOf target credentials) m
  some (.ok (lanes.map (Lane.check endpoint target timeout m.now)),
    ⟨lanes.foldl (fun latest l => max latest (l.strand.verdict limit (noResponse target timeout)).1)
      m.now, w⟩)

theorem verifyEach_const (client : ShareClient σ) (endpoint : Endpoint) (target : Target)
    (timeout : Nat) (credentials : List (Credential × String)) :
    verifyEach (fun _ => client) endpoint target timeout credentials =
      verifyEndpoint client endpoint target timeout credentials := by
  funext m
  simp only [verifyEach, verifyEndpoint, Lane.conclude, Lane.beginEach_const, Lane.runEach_const,
    List.map_map, List.foldl_map]
  rfl

namespace Lane

def Tagged (all : List RoundTrip) (pending : List (RoundTrip × Nat)) (lanes : List (Lane σ)) :
    Prop :=
  (pending ++ lanes.map tag).Perm all.zipIdx

section

variable {all : List RoundTrip} {pending : List (RoundTrip × Nat)} {lanes : List (Lane σ)}
  {l : Lane σ}

theorem Tagged.reordered {others : List (Lane σ)} (tagged : Tagged all pending lanes)
    (same : lanes.Perm others) : Tagged all pending others :=
  (List.Perm.append_left _ (same.map tag)).symm.trans tagged

theorem Tagged.begins {t : RoundTrip} {position : Nat} (strand : Strand σ)
    (tagged : Tagged all ((t, position) :: pending) lanes) :
    Tagged all pending (⟨position, t, strand⟩ :: lanes) :=
  List.perm_middle.trans tagged

theorem Tagged.known (tagged : Tagged all pending lanes) (member : l ∈ lanes) :
    all[l.position]? = some l.trip := by
  refine List.mk_mem_zipIdx_iff_getElem?.1 (tagged.mem_iff.1 ?_)
  exact List.mem_append_right _ (List.mem_map_of_mem member)

theorem Tagged.awaited {p : RoundTrip × Nat} (tagged : Tagged all pending lanes)
    (member : p ∈ pending) : all[p.2]? = some p.1 :=
  List.mk_mem_zipIdx_iff_getElem?.1 (tagged.mem_iff.1 (List.mem_append_left _ member))

theorem Tagged.apart (tagged : Tagged all pending (l :: lanes)) :
    (∀ p ∈ pending, p.2 ≠ l.position) ∧ ∀ k ∈ lanes, k.position ≠ l.position := by
  have positions := tagged.map Prod.snd
  rw [List.zipIdx_map_snd] at positions
  have distinct := positions.nodup_iff.2 (List.nodup_range' 1)
  simp only [List.map_append, List.map_cons, List.map_map, List.nodup_append, List.nodup_cons]
    at distinct
  obtain ⟨-, ⟨first, -⟩, apart⟩ := distinct
  refine ⟨fun p member => ?_, fun k member again => first ?_⟩
  · exact apart p.2 (List.mem_map_of_mem member) l.position (List.mem_cons_self ..)
  · exact List.mem_map.2 ⟨k, member, again⟩

end

variable {clients : Nat → ShareClient σ} {all : List RoundTrip}
  {J : Nat → List (RoundTrip × Nat) → List (Lane σ) → σ → Prop}

/-- `J` is true of the clock, the trips that have yet to begin, the lanes and the world after each
move of a lane if it was true before. -/
structure Joint (clients : Nat → ShareClient σ) (all : List RoundTrip)
    (J : Nat → List (RoundTrip × Nat) → List (Lane σ) → σ → Prop) : Prop where
  reordered : ∀ {now pending lanes others w},
    lanes.Perm others → J now pending lanes w → J now pending others w
  passes : ∀ {now later lanes w}, now ≤ later →
    (∀ l ∈ lanes, ∀ landing, l.strand.landing? = some landing → later ≤ landing) →
    J now [] lanes w → J later [] lanes w
  begins : ∀ {now t position pending lanes w}, Tagged all ((t, position) :: pending) lanes →
    J now ((t, position) :: pending) lanes w →
    J now pending (⟨position, t, (t.proceed (clients position) now .listing w).1⟩ :: lanes)
      (t.proceed (clients position) now .listing w).2
  wakes : ∀ {now t position strand lanes w}, Tagged all [] (⟨position, t, strand⟩ :: lanes) →
    J now [] (⟨position, t, strand⟩ :: lanes) w →
    J now [] (⟨position, t, (t.wake (clients position) now strand w).1⟩ :: lanes)
      (t.wake (clients position) now strand w).2

theorem beginEach_joint (joint : Joint clients all J) {now : Nat} {trips : List (RoundTrip × Nat)}
    {begun : List (Lane σ)} {w : σ} (tagged : Tagged all trips begun)
    (holds : J now trips begun w) :
    Tagged all [] (begun ++ (beginEach clients now trips w).1) ∧
      J now [] (begun ++ (beginEach clients now trips w).1) (beginEach clients now trips w).2 := by
  induction trips generalizing begun w with
  | nil => simpa only [beginEach, List.append_nil] using ⟨tagged, holds⟩
  | cons head trips ih =>
    have next := tagged.begins (head.1.proceed (clients head.2) now .listing w).1
    obtain ⟨tags, last⟩ := ih next (joint.begins tagged holds)
    exact ⟨tags.reordered List.perm_middle.symm, joint.reordered List.perm_middle.symm last⟩

theorem wakeEach_joint (joint : Joint clients all J) {now : Nat} {woken lanes : List (Lane σ)}
    {w : σ} (tagged : Tagged all [] (woken ++ lanes)) (holds : J now [] (woken ++ lanes) w) :
    Tagged all [] (woken ++ (wakeEach clients now lanes w).1) ∧
      J now [] (woken ++ (wakeEach clients now lanes w).1) (wakeEach clients now lanes w).2 := by
  induction lanes generalizing woken w with
  | nil => exact ⟨tagged, holds⟩
  | cons l lanes ih =>
    have first := tagged.reordered List.perm_middle
    have moved := joint.wakes first (joint.reordered List.perm_middle holds)
    let strand := (l.trip.wake (clients l.position) now l.strand w).1
    obtain ⟨tags, last⟩ := @ih ({ l with strand } :: woken) _ first moved
    exact ⟨tags.reordered List.perm_middle.symm, joint.reordered List.perm_middle.symm last⟩

theorem beginEach_after (clients : Nat → ShareClient σ) (now : Nat)
    (trips : List (RoundTrip × Nat)) (w : σ) :
    ∀ l ∈ (beginEach clients now trips w).1, l.strand.After now := by
  induction trips generalizing w with
  | nil => exact nofun
  | cons head trips ih =>
    intro l member
    obtain rfl | member := List.mem_cons.1 member
    next => exact head.1.proceed_after _ now .listing w
    next => exact ih _ l member

theorem wakeEach_after (clients : Nat → ShareClient σ) (now : Nat) (lanes : List (Lane σ)) (w : σ) :
    ∀ l ∈ (wakeEach clients now lanes w).1, l.strand.After now := by
  induction lanes generalizing w with
  | nil => exact nofun
  | cons head lanes ih =>
    intro l member
    obtain rfl | member := List.mem_cons.1 member
    next => exact head.trip.wake_after _ now head.strand w
    next => exact ih _ l member

theorem nextLanding?_le {lanes : List (Lane σ)} {time : Nat}
    (next : nextLanding? lanes = some time) :
    (∃ l ∈ lanes, l.strand.landing? = some time) ∧
      ∀ l ∈ lanes, ∀ landing, l.strand.landing? = some landing → time ≤ landing := by
  obtain ⟨member, least⟩ := List.min?_eq_some_iff.1 next
  refine ⟨List.mem_filterMap.1 member, fun l among landing lands => ?_⟩
  exact least landing (List.mem_filterMap.2 ⟨l, among, lands⟩)

theorem nextLanding?_none {lanes : List (Lane σ)} (none : nextLanding? lanes = none) (limit : Nat) :
    ∀ l ∈ lanes, l.strand.After limit := by
  intro l among landing lands
  have empty := List.min?_eq_none_iff.1 none
  exact absurd (List.mem_filterMap.2 ⟨l, among, lands⟩) (empty ▸ List.not_mem_nil)

theorem arrange_perm (limit now : Nat) (lanes : List (Lane σ)) :
    (arrange limit now lanes).Perm lanes := by
  unfold arrange
  split
  next => exact .refl _
  next =>
    split
    next =>
      have parts := List.filter_append_perm (fun l : Lane σ => !l.isDue now) lanes
      simpa using parts
    next => exact List.mergeSort_perm _ _

theorem runEach_joint (joint : Joint clients all J) {limit : Nat} {lanes : List (Lane σ)}
    {m : Moment σ} (intime : m.now ≤ limit) (after : ∀ l ∈ lanes, l.strand.After m.now)
    (tagged : Tagged all [] lanes) (holds : J m.now [] lanes m.world) :
    (∃ stop, m.now ≤ stop ∧ stop ≤ limit ∧
        J stop [] (runEach clients limit lanes m).1 (runEach clients limit lanes m).2) ∧
      Tagged all [] (runEach clients limit lanes m).1 ∧
      ∀ l ∈ (runEach clients limit lanes m).1, l.strand.After limit := by
  fun_induction runEach clients limit lanes m with
  | case1 lanes m none =>
    exact ⟨⟨m.now, Nat.le_refl _, intime, holds⟩, tagged, nextLanding?_none none limit⟩
  | case2 lanes m t next due lanes' w woken ih =>
    obtain ⟨-, least⟩ := nextLanding?_le next
    have passed := joint.passes (Nat.le_of_lt due.1) least holds
    have same := (arrange_perm limit t lanes).symm
    obtain ⟨tags, moved⟩ : Tagged all [] _ ∧ J t [] _ _ := wakeEach_joint (J := J) joint
      (show Tagged all [] ([] ++ arrange limit t lanes) from tagged.reordered same)
      (joint.reordered same passed)
    have later := wakeEach_after clients t (arrange limit t lanes) m.world
    rw [woken] at tags moved later
    obtain ⟨⟨stop, started, stopped, last⟩, beyond⟩ := ih due.2 later tags moved
    exact ⟨⟨stop, Nat.le_trans (Nat.le_of_lt due.1) started, stopped, last⟩, beyond⟩
  | case3 lanes m t next expired =>
    -- What lands next lands after the present, so it is too late.
    obtain ⟨⟨l, among, lands⟩, least⟩ := nextLanding?_le next
    have future := after l among t lands
    refine ⟨⟨m.now, Nat.le_refl _, intime, holds⟩, tagged, fun l among landing lands => ?_⟩
    have beyond := least l among landing lands
    omega

theorem inOrder_tags {lanes : List (Lane σ)} {trips : List RoundTrip}
    (same : (lanes.map tag).Perm trips.zipIdx) : (inOrder lanes).map tag = trips.zipIdx := by
  have ordered : ((inOrder lanes).map tag).Perm trips.zipIdx :=
    ((List.mergeSort_perm _ _).map tag).trans same
  have sorted : ((inOrder lanes).map tag).Pairwise fun p q => p.2 ≤ q.2 := by
    have positions : (inOrder lanes).Pairwise fun a b => decide (a.position ≤ b.position) :=
      List.pairwise_mergeSort (fun a b c => by simpa using Nat.le_trans)
        (fun a b => by simpa using Nat.le_total _ _) lanes
    exact List.pairwise_map.2 (positions.imp fun le => of_decide_eq_true le)
  have numbered : trips.zipIdx.Pairwise fun p q => p.2 ≤ q.2 := by
    have positions := List.pairwise_lt_range' (s := 0) (n := trips.length) 1
    rw [← List.zipIdx_map_snd, List.pairwise_map] at positions
    exact positions.imp Nat.le_of_lt
  refine ordered.eq_of_pairwise (fun p q first second le ge => ?_) sorted numbered
  -- Trips at the same position of one list are the same.
  obtain ⟨t, i⟩ := p
  obtain ⟨u, j⟩ := q
  obtain rfl : i = j := Nat.le_antisymm le ge
  have here := List.mk_mem_zipIdx_iff_getElem?.1 (ordered.mem_iff.1 first)
  have there := List.mk_mem_zipIdx_iff_getElem?.1 second
  cases here.symm.trans there
  rfl

structure Concluded (clients : Nat → ShareClient σ) (limit : Nat) (trips : List RoundTrip)
    (m : Moment σ) : Prop where
  tags : (conclude clients limit trips m).1.map tag = trips.zipIdx
  after : ∀ l ∈ (conclude clients limit trips m).1, l.strand.After limit

theorem Concluded.trips {limit : Nat} {trips : List RoundTrip} {m : Moment σ}
    (known : Concluded clients limit trips m) :
    (conclude clients limit trips m).1.map (·.trip) = trips := by
  have first := congrArg (List.map Prod.fst) known.tags
  rwa [List.map_map, List.zipIdx_map_fst] at first

theorem conclude_joint {trips : List RoundTrip} (joint : Joint clients trips J) {limit : Nat}
    {m : Moment σ} (intime : m.now ≤ limit) (holds : J m.now trips.zipIdx [] m.world) :
    Concluded clients limit trips m ∧ ∃ stop, m.now ≤ stop ∧ stop ≤ limit ∧
      J stop [] (conclude clients limit trips m).1 (conclude clients limit trips m).2 := by
  have unbegun : Tagged trips trips.zipIdx ([] : List (Lane σ)) := .of_eq (List.append_nil _)
  obtain ⟨begun, started⟩ := beginEach_joint joint unbegun holds
  obtain ⟨⟨stop, began, stopped, last⟩, tags, after⟩ := runEach_joint joint
    (m := ⟨m.now, (beginEach clients m.now trips.zipIdx m.world).2⟩) intime
    (beginEach_after clients m.now trips.zipIdx m.world) begun started
  have ordered := List.mergeSort_perm (runEach clients limit
    (beginEach clients m.now trips.zipIdx m.world).1
    ⟨m.now, (beginEach clients m.now trips.zipIdx m.world).2⟩).1
    fun a b => a.position ≤ b.position
  refine ⟨⟨inOrder_tags tags, fun l member => after l (ordered.mem_iff.1 member)⟩,
    stop, began, stopped, joint.reordered ordered.symm last⟩

theorem concluded (clients : Nat → ShareClient σ) (trips : List RoundTrip) {limit : Nat}
    {m : Moment σ} (intime : m.now ≤ limit) : Concluded clients limit trips m :=
  have anything : Joint clients trips fun _ _ _ _ => True := by constructor <;> simp
  (conclude_joint anything intime trivial).1

end Lane

theorem foldl_max_le {ns : List Nat} {start bound : Nat} (first : start ≤ bound)
    (all : ∀ n ∈ ns, n ≤ bound) : ns.foldl max start ≤ bound := by
  induction ns generalizing start with
  | nil => exact first
  | cons n ns ih =>
    exact ih (Nat.max_le.2 ⟨first, all n (List.mem_cons_self ..)⟩) fun k member =>
      all k (List.mem_cons_of_mem _ member)

theorem verifyEndpoint_conclude (client : ShareClient σ) (endpoint : Endpoint) (target : Target)
    (timeout : Nat) (credentials : List (Credential × String)) (m : Moment σ) :
    ∃ now, verifyEndpoint client endpoint target timeout credentials m =
      some (.ok ((Lane.conclude (fun _ => client) (m.now + timeout) (tripsOf target credentials)
          m).1.map (Lane.check endpoint target timeout m.now)),
        ⟨now,
          (Lane.conclude (fun _ => client) (m.now + timeout) (tripsOf target credentials) m).2⟩) :=
  ⟨_, congrFun (verifyEach_const client endpoint target timeout credentials).symm m⟩

end ShareCheck
