import ShareCheck.Proofs.Access.Lanes

set_option autoImplicit false

namespace ShareCheck

variable {σ : Type}

def Credential.bare (c : Credential) : Credential := ⟨c.username, ""⟩

def ShareClient.blind (client : ShareClient σ) : ShareClient σ where
  list t c := client.list t c.bare
  put t c name contents := client.put t c.bare name contents
  get t c name := client.get t c.bare name
  remove t c name := client.remove t c.bare name

def ShareClient.Blind (client : ShareClient σ) : Prop := client.blind = client

theorem ShareClient.blind_blind (client : ShareClient σ) : client.blind.Blind := rfl

def RoundTrip.bare (t : RoundTrip) : RoundTrip := { t with credential := t.credential.bare }

theorem RoundTrip.call_bare {client : ShareClient σ} (blind : client.Blind) (t : RoundTrip)
    (s : Stage) : t.bare.call client s = t.call client s := by
  have told : t.bare.call client s = t.call client.blind s := by cases s <;> rfl
  rw [told, blind]

namespace RoundTrip

variable {client : ShareClient σ} {t u : RoundTrip}
  (same : ∀ s, u.call client s = t.call client s)

include same

theorem proceed_same (now : Nat) (s : Stage) (w : σ) :
    u.proceed client now s w = t.proceed client now s w := by
  fun_induction proceed client t now s w with
  | case1 s w v begun => rw [proceed, same, begun]
  | case2 s w finish v next later x landed begun ih =>
    rw [proceed, same, begun]
    simp only [if_true, landed]
    exact ih
  | case3 s w finish v r x landed begun =>
    rw [proceed, same, begun]
    simp only [if_true, landed]
  | case4 s w finish v p x landed begun =>
    rw [proceed, same, begun]
    simp only [if_true, landed]
  | case5 s w delay finish v begun late =>
    rw [proceed, same, begun]
    simp only [late, if_false]

theorem wake_same (now : Nat) (strand : Strand σ) (w : σ) :
    u.wake client now strand w = t.wake client now strand w := by
  unfold wake
  simp only [proceed_same same]

end RoundTrip

namespace Lane

def onTrip (f : RoundTrip → RoundTrip) (l : Lane σ) : Lane σ := { l with trip := f l.trip }

variable {f : RoundTrip → RoundTrip}

theorem nextLanding?_onTrip (f : RoundTrip → RoundTrip) (lanes : List (Lane σ)) :
    nextLanding? (lanes.map (onTrip f)) = nextLanding? lanes := by
  unfold nextLanding?
  rw [List.filterMap_map]
  rfl

theorem inOrder_onTrip (f : RoundTrip → RoundTrip) (lanes : List (Lane σ)) :
    inOrder (lanes.map (onTrip f)) = (inOrder lanes).map (onTrip f) :=
  (List.map_mergeSort (f := onTrip f) fun _ _ _ _ => rfl).symm

theorem arrange_onTrip (f : RoundTrip → RoundTrip) (limit now : Nat) (lanes : List (Lane σ)) :
    arrange limit now (lanes.map (onTrip f)) = (arrange limit now lanes).map (onTrip f) := by
  unfold arrange
  simp only [List.length_map, inOrder_onTrip, List.filter_map]
  split
  next => rfl
  next =>
    split
    next => exact List.map_append.symm
    next => rfl

section

variable {client : ShareClient σ} (same : ∀ t s, (f t).call client s = t.call client s)

include same

theorem beginAll_onTrip (now : Nat) (trips : List (RoundTrip × Nat)) (w : σ) :
    beginAll client now (trips.map (Prod.map f id)) w =
      ((beginAll client now trips w).1.map (onTrip f), (beginAll client now trips w).2) := by
  induction trips generalizing w with
  | nil => rfl
  | cons head trips ih =>
    simp only [List.map_cons, beginAll, Prod.map, RoundTrip.proceed_same (same head.1)]
    exact congrArg (fun rest : List (Lane σ) × σ => (_ :: rest.1, rest.2)) (ih _)

theorem wakeAll_onTrip (now : Nat) (lanes : List (Lane σ)) (w : σ) :
    wakeAll client now (lanes.map (onTrip f)) w =
      ((wakeAll client now lanes w).1.map (onTrip f), (wakeAll client now lanes w).2) := by
  induction lanes generalizing w with
  | nil => rfl
  | cons l lanes ih =>
    simp only [List.map_cons, wakeAll, onTrip, RoundTrip.wake_same (same l.trip)]
    exact congrArg (fun rest : List (Lane σ) × σ => (_ :: rest.1, rest.2)) (ih _)

theorem run_onTrip (limit : Nat) (lanes : List (Lane σ)) (m : Moment σ) :
    run client limit (lanes.map (onTrip f)) m =
      ((run client limit lanes m).1.map (onTrip f), (run client limit lanes m).2) := by
  fun_induction run client limit lanes m with
  | case1 lanes m none =>
    rw [run, nextLanding?_onTrip, none]
  | case2 lanes m t next due lanes' w woken ih =>
    rw [run, nextLanding?_onTrip, next]
    simp only [due, and_self, if_true, arrange_onTrip, wakeAll_onTrip same, woken]
    exact ih
  | case3 lanes m t next expired =>
    rw [run, nextLanding?_onTrip, next]
    simp only [expired, if_false]

end

end Lane

theorem verifyEndpoint_bare {client : ShareClient σ} (blind : client.Blind) (endpoint : Endpoint)
    (target : Target) (timeout : Nat) (credentials : List (Credential × String)) :
    verifyEndpoint client endpoint target timeout (credentials.map (Prod.map Credential.bare id)) =
      verifyEndpoint client endpoint target timeout credentials := by
  have same := RoundTrip.call_bare blind
  have trips : tripsOf target (credentials.map (Prod.map Credential.bare id)) =
      (tripsOf target credentials).map RoundTrip.bare := by
    rw [tripsOf, tripsOf, List.map_map, List.map_map]
    rfl
  rw [← verifyEach_const, ← verifyEach_const]
  funext m
  unfold verifyEach Lane.conclude
  simp only [trips, List.zipIdx_map, Lane.beginEach_const, Lane.runEach_const,
    Lane.beginAll_onTrip same, Lane.run_onTrip same, Lane.inOrder_onTrip, List.map_map,
    List.foldl_map]
  rfl

end ShareCheck
