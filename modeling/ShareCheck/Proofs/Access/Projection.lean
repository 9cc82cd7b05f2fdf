import ShareCheck.Access.Verify
import ShareCheck.Proofs.Projection

set_option autoImplicit false

namespace ShareCheck

variable {τ σ : Type} {h : View τ σ}

structure ShareClient.Lifts (h : View τ σ) (client : ShareClient τ) (image : ShareClient σ) :
    Prop where
  list : ∀ t c, (client.list t c).Lifts h (image.list t c)
  put : ∀ t c name contents, (client.put t c name contents).Lifts h (image.put t c name contents)
  get : ∀ t c name, (client.get t c name).Lifts h (image.get t c name)
  remove : ∀ t c name, (client.remove t c name).Lifts h (image.remove t c name)

theorem ShareClient.traced_lifts (client : ShareClient σ) :
    client.traced.Lifts (.of Traced.world) client where
  list _ _ := Call.traced_lifts _
  put _ _ _ _ := Call.traced_lifts _
  get _ _ _ := Call.traced_lifts _
  remove _ _ _ := Call.traced_lifts _

inductive Strand.Lifts (h : View τ σ) : Strand τ → Strand σ → Prop
  | lost : Lifts h .lost .lost
  | waiting (s : Stage) (landing : Nat) (finish : τ → Except Panic (Progress s) × τ)
      (image : σ → Except Panic (Progress s) × σ) :
      (∀ v, image (h v) = ((finish v).1, h (finish v).2)) →
        Lifts h (.waiting s landing finish) (.waiting s (landing + h.ahead) image)
  | done (ended : Nat) (outcome : Except Panic (Except Error Unit)) :
      Lifts h (.done ended outcome) (.done (ended + h.ahead) outcome)

namespace Strand

variable {a : Strand τ} {b : Strand σ}

theorem Lifts.landing? (lifts : a.Lifts h b) : b.landing? = a.landing?.map (· + h.ahead) := by
  cases lifts <;> rfl

theorem Lifts.verdict (lifts : a.Lifts h b) (limit : Nat) (late : Error) :
    b.verdict (limit + h.ahead) late =
      ((a.verdict limit late).1 + h.ahead, (a.verdict limit late).2) := by
  cases lifts <;> rfl

end Strand

variable {client : ShareClient τ} {image : ShareClient σ}

namespace RoundTrip

theorem call_lifts (lifts : client.Lifts h image) (t : RoundTrip) (s : Stage) :
    (t.call client s).Lifts h (t.call image s) := by
  cases s with
  | listing => exact Call.map_lifts (lifts.list _ _) _
  | writing => exact Call.map_lifts (lifts.put _ _ _ _) _
  | relisting => exact Call.map_lifts (lifts.list _ _) _
  | reading => exact Call.map_lifts (lifts.get _ _ _) _
  | removing => exact Call.map_lifts (lifts.remove _ _ _) _
  | cleaning e => exact Call.map_lifts (lifts.remove _ _ _) _

section

variable {t : RoundTrip} (lifts : ∀ s, (t.call client s).Lifts h (t.call image s))

include lifts

theorem proceed_lifts (now : Nat) (s : Stage) (w : τ) :
    (t.proceed client now s w).1.Lifts h (t.proceed image (now + h.ahead) s (h w)).1 ∧
      (t.proceed image (now + h.ahead) s (h w)).2 = h (t.proceed client now s w).2 := by
  rw [proceed, proceed]
  match t.call client s now w, t.call image s (now + h.ahead) (h w), lifts s now w with
  | _, _, .never w => exact ⟨.lost, rfl⟩
  | _, _, .lands delay finish other w lands =>
    by_cases instant : delay = 0
    next =>
      simp only [instant, if_true, lands w]
      -- Without a delay the next stage begins at once, and it is a later one.
      obtain ⟨p | ⟨after, later⟩ | r, v⟩ := finish w
      next => exact ⟨.done now _, rfl⟩
      next => exact proceed_lifts now after v
      next => exact ⟨.done now _, rfl⟩
    next =>
      simp only [instant, if_false, Nat.add_right_comm now h.ahead delay]
      exact ⟨.waiting s _ finish other lands, trivial⟩
termination_by s.rank

theorem wake_lifts (now : Nat) {a : Strand τ} {b : Strand σ} (strands : a.Lifts h b) (w : τ) :
    (t.wake client now a w).1.Lifts h (t.wake image (now + h.ahead) b (h w)).1 ∧
      (t.wake image (now + h.ahead) b (h w)).2 = h (t.wake client now a w).2 := by
  cases strands with
  | lost => exact ⟨.lost, rfl⟩
  | done ended outcome => exact ⟨.done ended outcome, rfl⟩
  | waiting s landing finish other lands =>
    unfold wake
    by_cases due : landing ≤ now
    next =>
      simp only [Nat.add_le_add_iff_right, due, if_true, lands w]
      obtain ⟨p | ⟨after, later⟩ | r, v⟩ := finish w
      next => exact ⟨.done now _, rfl⟩
      next => exact proceed_lifts lifts now after v
      next => exact ⟨.done now _, rfl⟩
    next =>
      simp only [Nat.add_le_add_iff_right, due, if_false]
      exact ⟨.waiting s landing finish other lands, trivial⟩

end

end RoundTrip

namespace Lane

inductive Lifts (h : View τ σ) : Lane τ → Lane σ → Prop
  | intro (position : Nat) (trip : RoundTrip) {a : Strand τ} {b : Strand σ} :
      a.Lifts h b → Lifts h ⟨position, trip, a⟩ ⟨position, trip, b⟩

theorem Lifts.strand_lifts {l : Lane τ} {k : Lane σ} (lifts : l.Lifts h k) :
    l.strand.Lifts h k.strand := by
  cases lifts
  assumption

theorem Lifts.position_eq {l : Lane τ} {k : Lane σ} (lifts : l.Lifts h k) :
    l.position = k.position := by
  cases lifts
  rfl

def AllLift (h : View τ σ) (lanes : List (Lane τ)) (images : List (Lane σ)) : Prop :=
  ∃ pairs : List (Lane τ × Lane σ), lanes = pairs.map (·.1) ∧ images = pairs.map (·.2) ∧
    ∀ p ∈ pairs, p.1.Lifts h p.2

theorem AllLift.nil : AllLift h [] [] :=
  ⟨[], rfl, rfl, fun _ member => nomatch member⟩

theorem AllLift.cons {l : Lane τ} {k : Lane σ} {lanes : List (Lane τ)} {images : List (Lane σ)}
    (first : l.Lifts h k) (rest : AllLift h lanes images) :
    AllLift h (l :: lanes) (k :: images) := by
  obtain ⟨pairs, rfl, rfl, each⟩ := rest
  refine ⟨(l, k) :: pairs, rfl, rfl, fun p member => ?_⟩
  obtain rfl | member := List.mem_cons.1 member
  next => exact first
  next => exact each p member

theorem beginAll_lifts (lifts : client.Lifts h image) (now : Nat) (trips : List (RoundTrip × Nat))
    (w : τ) :
    AllLift h (beginAll client now trips w).1 (beginAll image (now + h.ahead) trips (h w)).1 ∧
      (beginAll image (now + h.ahead) trips (h w)).2 = h (beginAll client now trips w).2 := by
  induction trips generalizing w with
  | nil => exact ⟨.nil, rfl⟩
  | cons head trips ih =>
    obtain ⟨t, position⟩ := head
    obtain ⟨first, world⟩ := RoundTrip.proceed_lifts (t.call_lifts lifts) now .listing w
    obtain ⟨rest, last⟩ := ih (t.proceed client now .listing w).2
    rw [← world] at rest last
    exact ⟨.cons (.intro position t first) rest, last⟩

theorem wakeAll_lifts (lifts : client.Lifts h image) (now : Nat) {lanes : List (Lane τ)}
    {images : List (Lane σ)} (all : AllLift h lanes images) (w : τ) :
    AllLift h (wakeAll client now lanes w).1 (wakeAll image (now + h.ahead) images (h w)).1 ∧
      (wakeAll image (now + h.ahead) images (h w)).2 = h (wakeAll client now lanes w).2 := by
  obtain ⟨pairs, rfl, rfl, each⟩ := all
  induction pairs generalizing w with
  | nil => exact ⟨.nil, rfl⟩
  | cons p pairs ih =>
    obtain ⟨l, k⟩ := p
    have head : l.Lifts h k := each (l, k) (List.mem_cons_self ..)
    cases head with
    | @intro position t a b strands =>
      obtain ⟨first, world⟩ := RoundTrip.wake_lifts (t.call_lifts lifts) now strands w
      obtain ⟨rest, last⟩ := ih (t.wake client now a w).2 fun q member =>
        each q (List.mem_cons_of_mem _ member)
      rw [← world] at rest last
      exact ⟨.cons (.intro position t first) rest, last⟩

theorem AllLift.map_eq {α : Type} {lanes : List (Lane τ)} {images : List (Lane σ)}
    (all : AllLift h lanes images) {f : Lane τ → α} {g : Lane σ → α}
    (same : ∀ l k, l.Lifts h k → g k = f l) : images.map g = lanes.map f := by
  obtain ⟨pairs, rfl, rfl, each⟩ := all
  rw [List.map_map, List.map_map]
  exact List.map_congr_left fun p member => same _ _ (each p member)

theorem min?_add (ns : List Nat) (ahead : Nat) :
    (ns.map (· + ahead)).min? = ns.min?.map (· + ahead) := by
  match h : ns.min? with
  | none => simp [List.min?_eq_none_iff.1 h]
  | some least =>
    obtain ⟨member, below⟩ := List.min?_eq_some_iff.1 h
    refine List.min?_eq_some_iff.2 ⟨List.mem_map_of_mem member, fun later among => ?_⟩
    obtain ⟨n, first, rfl⟩ := List.mem_map.1 among
    exact Nat.add_le_add_right (below n first) ahead

theorem AllLift.nextLanding? {lanes : List (Lane τ)} {images : List (Lane σ)}
    (all : AllLift h lanes images) :
    nextLanding? images = (nextLanding? lanes).map (· + h.ahead) := by
  obtain ⟨pairs, rfl, rfl, each⟩ := all
  unfold Lane.nextLanding?
  rw [← min?_add, List.map_filterMap, List.filterMap_map, List.filterMap_map]
  congr 1
  exact List.filterMap_congr fun p member => (each p member).strand_lifts.landing?

theorem AllLift.filter {lanes : List (Lane τ)} {images : List (Lane σ)}
    (all : AllLift h lanes images) {p : Lane τ → Bool} {q : Lane σ → Bool}
    (same : ∀ l k, l.Lifts h k → q k = p l) : AllLift h (lanes.filter p) (images.filter q) := by
  obtain ⟨pairs, rfl, rfl, each⟩ := all
  refine ⟨pairs.filter (p ·.1), ?_, ?_,
    fun pair member => each pair (List.mem_of_mem_filter member)⟩
  · rw [List.filter_map]
    rfl
  · rw [List.filter_map]
    congr 1
    exact List.filter_congr fun pair member => same _ _ (each pair member)

theorem AllLift.append {lanes more : List (Lane τ)} {images others : List (Lane σ)}
    (all : AllLift h lanes images) (rest : AllLift h more others) :
    AllLift h (lanes ++ more) (images ++ others) := by
  obtain ⟨pairs, rfl, rfl, each⟩ := all
  obtain ⟨last, rfl, rfl, every⟩ := rest
  refine ⟨pairs ++ last, List.map_append.symm, List.map_append.symm, fun p member => ?_⟩
  obtain member | member := List.mem_append.1 member
  next => exact each p member
  next => exact every p member

theorem AllLift.inOrder {lanes : List (Lane τ)} {images : List (Lane σ)}
    (all : AllLift h lanes images) : AllLift h (inOrder lanes) (inOrder images) := by
  obtain ⟨pairs, rfl, rfl, each⟩ := all
  let le (p q : Lane τ × Lane σ) : Bool := p.1.position ≤ q.1.position
  refine ⟨pairs.mergeSort le, ?_, ?_, fun p member => each p (List.mem_mergeSort.1 member)⟩
  · have sorted := List.map_mergeSort (r := le) (s := fun l k : Lane τ => l.position ≤ k.position)
      (f := fun p : Lane τ × Lane σ => p.1) (l := pairs) fun _ _ _ _ => rfl
    exact sorted.symm
  · have sorted := List.map_mergeSort (r := le) (s := fun l k : Lane σ => l.position ≤ k.position)
      (f := fun p : Lane τ × Lane σ => p.2) (l := pairs) fun p first q second => by
        rw [← (each p first).position_eq, ← (each q second).position_eq]
    exact sorted.symm

theorem AllLift.arrange {lanes : List (Lane τ)} {images : List (Lane σ)}
    (all : AllLift h lanes images) (limit now : Nat) :
    AllLift h (arrange limit now lanes) (arrange (limit + h.ahead) (now + h.ahead) images) := by
  have length : images.length = lanes.length := by
    obtain ⟨pairs, rfl, rfl, -⟩ := all
    simp
  have due : ∀ l k, Lane.Lifts h l k → k.isDue (now + h.ahead) = l.isDue now := by
    intro l k lifts
    unfold isDue
    rw [lifts.strand_lifts.landing?]
    cases l.strand.landing? <;> simp
  unfold Lane.arrange
  simp only [length, Nat.add_lt_add_iff_right]
  split
  next => exact all
  next =>
    split
    next =>
      exact (all.filter fun l k lifts => by rw [due l k lifts]).append (all.filter due)
    next => exact all.inOrder

theorem run_lifts (lifts : client.Lifts h image) (limit : Nat) {lanes : List (Lane τ)}
    {images : List (Lane σ)} (all : AllLift h lanes images) (m : Moment τ) :
    AllLift h (run client limit lanes m).1 (run image (limit + h.ahead) images (m.map h)).1 ∧
      (run image (limit + h.ahead) images (m.map h)).2 = h (run client limit lanes m).2 := by
  fun_induction run client limit lanes m generalizing images with
  | case1 lanes m none =>
    rw [run.eq_def image, all.nextLanding?, none]
    exact ⟨all, rfl⟩
  | case2 lanes m t next due lanes' w woken ih =>
    obtain ⟨first, world⟩ := wakeAll_lifts lifts t (all.arrange limit t) m.world
    rw [woken] at first world
    rw [run.eq_def image, all.nextLanding?, next]
    simp only [Moment.map, Option.map_some, Nat.add_lt_add_iff_right, Nat.add_le_add_iff_right, due,
      and_self, if_true] at ih ⊢
    rw [world]
    exact ih first
  | case3 lanes m t next expired =>
    rw [run.eq_def image, all.nextLanding?, next]
    simp only [Moment.map, Option.map_some, Nat.add_lt_add_iff_right, Nat.add_le_add_iff_right,
      expired, if_false]
    exact ⟨all, trivial⟩

end Lane

theorem foldl_max_add {α : Type} (xs : List α) (f : α → Nat) (start ahead : Nat) :
    xs.foldl (fun latest x => max latest (f x + ahead)) (start + ahead) =
      xs.foldl (fun latest x => max latest (f x)) start + ahead := by
  induction xs generalizing start with
  | nil => rfl
  | cons x xs ih => simp only [List.foldl_cons, Nat.add_max_add_right, ih]

theorem verifyEndpoint_lifts (lifts : client.Lifts h image) (endpoint : Endpoint) (target : Target)
    (timeout : Nat) (credentials : List (Credential × String)) :
    (verifyEndpoint client endpoint target timeout credentials).Lifts h
      (verifyEndpoint image endpoint target timeout credentials) := by
  intro m
  unfold verifyEndpoint
  simp only [Moment.map, Option.map_some, Nat.add_right_comm m.now h.ahead timeout]
  generalize List.map _ credentials = trips
  let limit := m.now + timeout
  obtain ⟨begun, world⟩ := Lane.beginAll_lifts lifts m.now trips.zipIdx m.world
  obtain ⟨ended, last⟩ := Lane.run_lifts lifts limit begun
    ⟨m.now, (Lane.beginAll client m.now trips.zipIdx m.world).2⟩
  -- What is reported of a lane is the same for its image, at the time there.
  have verdicts := ended.inOrder.map_eq (f := fun l => (l.trip.credential,
    (l.strand.verdict limit (noResponse target timeout)).1 + h.ahead,
    (l.strand.verdict limit (noResponse target timeout)).2)) (g := fun k => (k.trip.credential,
      k.strand.verdict (limit + h.ahead) (noResponse target timeout))) fun l k lifts => by
        cases lifts with
        | intro position trip strands => rw [strands.verdict]
  simp only [Moment.map] at verdicts last
  rw [world, verdicts, last]
  simp only [List.map_map, List.foldl_map, foldl_max_add, Nat.add_sub_add_right, Function.comp_def]
  rfl

end ShareCheck
