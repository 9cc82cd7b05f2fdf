import ShareCheck.Proofs.Access.Lanes
import ShareCheck.Proofs.Poll

set_option autoImplicit false

namespace ShareCheck

variable {σ : Type}

namespace Lane

/-- `good` is true of a round trip when it has begun, stays true when it goes on, and also when the
world goes on, as it always does along `le`. -/
structure Guarded (client : ShareClient σ) (le : σ → σ → Prop) (start : σ)
    (good : RoundTrip → Strand σ → σ → Prop) : Prop where
  refl : ∀ w, le w w
  trans : ∀ u v w, le u v → le v w → le u w
  later : ∀ t strand v w, good t strand v → le v w → good t strand w
  begins : ∀ t now w, le start w → le w (t.proceed client now .listing w).2 ∧
    good t (t.proceed client now .listing w).1 (t.proceed client now .listing w).2
  wakes : ∀ t now strand w, good t strand w → le w (t.wake client now strand w).2 ∧
    good t (t.wake client now strand w).1 (t.wake client now strand w).2

def All (good : RoundTrip → Strand σ → σ → Prop) (lanes : List (Lane σ)) (w : σ) : Prop :=
  ∀ l ∈ lanes, good l.trip l.strand w

variable {client : ShareClient σ} {le : σ → σ → Prop} {start : σ}
  {good : RoundTrip → Strand σ → σ → Prop}

theorem Guarded.joint (guarded : Guarded client le start good) (all : List RoundTrip) :
    Joint (fun _ => client) all fun _ _ lanes w => le start w ∧ All good lanes w where
  reordered same holds := ⟨holds.1, fun l member => holds.2 l (same.mem_iff.2 member)⟩
  passes _ _ holds := holds
  begins {now t position _ lanes w} _ holds := by
    obtain ⟨goes, begun⟩ := guarded.begins t now w holds.1
    refine ⟨guarded.trans _ _ _ holds.1 goes, fun l member => ?_⟩
    obtain rfl | member := List.mem_cons.1 member
    next => exact begun
    next => exact guarded.later _ _ _ _ (holds.2 l member) goes
  wakes {now t position strand lanes w} _ holds := by
    obtain ⟨goes, woken⟩ := guarded.wakes t now strand w (holds.2 _ (List.mem_cons_self ..))
    refine ⟨guarded.trans _ _ _ holds.1 goes, fun other member => ?_⟩
    obtain rfl | member := List.mem_cons.1 member
    next => exact woken
    next => exact guarded.later _ _ _ _ (holds.2 other (List.mem_cons_of_mem _ member)) goes

end Lane

theorem verifyEndpoint_guarded {client : ShareClient σ} {le : σ → σ → Prop}
    {good : RoundTrip → Strand σ → σ → Prop} {m after : Moment σ}
    (guarded : Lane.Guarded client le m.world good) {endpoint : Endpoint} {target : Target}
    {timeout : Nat} {credentials : List (Credential × String)} {r : Except Panic (List Check)}
    (ran : verifyEndpoint client endpoint target timeout credentials m = some (r, after)) :
    le m.world after.world ∧ ∃ lanes : List (Lane σ), Lane.All good lanes after.world ∧
      lanes.map (·.trip) = tripsOf target credentials ∧
      r = .ok (lanes.map (Lane.check endpoint target timeout m.now)) := by
  obtain ⟨now, concluded⟩ :=
    verifyEndpoint_conclude client endpoint target timeout credentials m
  rw [concluded] at ran
  obtain ⟨known, -, -, -, goes, all⟩ := Lane.conclude_joint (guarded.joint _)
    (Nat.le_add_right m.now timeout) ⟨guarded.refl m.world, nofun⟩
  cases ran
  exact ⟨goes, _, all, known.trips, rfl⟩

structure ShareClient.Keeps (I : σ → Prop) (client : ShareClient σ) : Prop where
  list : ∀ t c, (client.list t c).Keeps I
  put : ∀ t c name contents, (client.put t c name contents).Keeps I
  get : ∀ t c name, (client.get t c name).Keeps I
  remove : ∀ t c name, (client.remove t c name).Keeps I

def Strand.Keeps (I : σ → Prop) : Strand σ → Prop
  | .waiting _ _ finish => ∀ v, I v → I (finish v).2
  | _ => True

variable {I : σ → Prop} {client : ShareClient σ}

namespace RoundTrip

theorem call_keeps (kept : client.Keeps I) (t : RoundTrip) (s : Stage) :
    (t.call client s).Keeps I := by
  cases s with
  | listing => exact Call.map_keeps (kept.list _ _) _
  | writing => exact Call.map_keeps (kept.put _ _ _ _) _
  | relisting => exact Call.map_keeps (kept.list _ _) _
  | reading => exact Call.map_keeps (kept.get _ _ _) _
  | removing => exact Call.map_keeps (kept.remove _ _ _) _
  | cleaning e => exact Call.map_keeps (kept.remove _ _ _) _

section

variable {t : RoundTrip} (kept : ∀ s, (t.call client s).Keeps I)

include kept

theorem proceed_keeps (now : Nat) (s : Stage) (w : σ) :
    (I w → I (t.proceed client now s w).2) ∧ (t.proceed client now s w).1.Keeps I := by
  fun_induction proceed client t now s w with
  | case1 s w v begun =>
    have beginning := (kept s).beginning now w
    rw [begun] at beginning
    exact ⟨beginning, trivial⟩
  | case2 s w finish v next later u landed begun ih =>
    obtain ⟨beginning, landing⟩ := (kept s).lands begun
    have ended := landing v
    rw [landed] at ended
    exact ⟨fun holds => ih.1 (ended (beginning holds)), ih.2⟩
  | case3 s w finish v result u landed begun =>
    obtain ⟨beginning, landing⟩ := (kept s).lands begun
    have ended := landing v
    rw [landed] at ended
    exact ⟨fun holds => ended (beginning holds), trivial⟩
  | case4 s w finish v p u landed begun =>
    obtain ⟨beginning, landing⟩ := (kept s).lands begun
    have ended := landing v
    rw [landed] at ended
    exact ⟨fun holds => ended (beginning holds), trivial⟩
  -- The call is still under way, so only its landing is known.
  | case5 s w delay finish v begun late =>
    obtain ⟨beginning, landing⟩ := (kept s).lands begun
    exact ⟨beginning, landing⟩

theorem wake_keeps (now : Nat) (strand : Strand σ) (w : σ) (landing : strand.Keeps I) :
    (I w → I (t.wake client now strand w).2) ∧ (t.wake client now strand w).1.Keeps I := by
  fun_cases wake client t now strand w with
  | case1 s time finish w due next later u landed =>
    have ended := landing w
    rw [landed] at ended
    obtain ⟨proceeds, keeps⟩ := proceed_keeps kept now next u
    exact ⟨fun holds => proceeds (ended holds), keeps⟩
  | case2 s time finish w due result u landed =>
    have ended := landing w
    rw [landed] at ended
    exact ⟨ended, trivial⟩
  | case3 s time finish w due p u landed =>
    have ended := landing w
    rw [landed] at ended
    exact ⟨ended, trivial⟩
  | case4 s time finish w early => exact ⟨id, landing⟩
  | case5 strand w other => exact ⟨id, landing⟩

end

end RoundTrip

theorem Lane.joint_keeps {all : List RoundTrip} (kept : ∀ t ∈ all, ∀ s, (t.call client s).Keeps I) :
    Joint (fun _ => client) all fun _ _ lanes w => I w ∧ ∀ l ∈ lanes, l.strand.Keeps I where
  reordered same holds := ⟨holds.1, fun l member => holds.2 l (same.mem_iff.2 member)⟩
  passes _ _ holds := holds
  begins {now t position _ lanes w} tagged holds := by
    have trip := List.mem_of_getElem? (tagged.awaited (List.mem_cons_self ..))
    obtain ⟨goes, begun⟩ := RoundTrip.proceed_keeps (kept t trip) now .listing w
    exact ⟨goes holds.1, List.forall_mem_cons.2 ⟨begun, holds.2⟩⟩
  wakes {now t position strand lanes w} tagged holds := by
    have trip := List.mem_of_getElem? (tagged.known (List.mem_cons_self ..))
    obtain ⟨landing, others⟩ := List.forall_mem_cons.1 holds.2
    obtain ⟨goes, woken⟩ := RoundTrip.wake_keeps (kept t trip) now strand w landing
    exact ⟨goes holds.1, List.forall_mem_cons.2 ⟨woken, others⟩⟩

theorem verifyEndpoint_keeps_trips {endpoint : Endpoint} {target : Target} {timeout : Nat}
    {credentials : List (Credential × String)}
    (kept : ∀ t ∈ tripsOf target credentials, ∀ s, (t.call client s).Keeps I) :
    (verifyEndpoint client endpoint target timeout credentials).Keeps I := by
  intro m r after ran holds
  obtain ⟨now, concluded⟩ :=
    verifyEndpoint_conclude client endpoint target timeout credentials m
  rw [concluded] at ran
  cases ran
  obtain ⟨-, stop, -, -, last, -⟩ := Lane.conclude_joint (Lane.joint_keeps kept)
    (Nat.le_add_right m.now timeout) ⟨holds, nofun⟩
  exact last

theorem verifyEndpoint_keeps (kept : client.Keeps I) (endpoint : Endpoint) (target : Target)
    (timeout : Nat) (credentials : List (Credential × String)) :
    (verifyEndpoint client endpoint target timeout credentials).Keeps I :=
  verifyEndpoint_keeps_trips fun t _ => RoundTrip.call_keeps kept t

end ShareCheck
