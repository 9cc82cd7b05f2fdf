import ShareCheck.Proofs.Access.Verify
import ShareCheck.Proofs.Trace

set_option autoImplicit false

namespace ShareCheck

variable {σ : Type}

def Operation.done (o : Operation) (a : o.Answer) : Trace := [.began o, .ended o (.ok (.ok a))]

namespace RoundTrip

def operation (t : RoundTrip) : Stage → Operation
  | .listing => .list t.target t.credential
  | .writing => .put t.target t.credential t.probe probePayload
  | .relisting => .list t.target t.credential
  | .reading => .get t.target t.credential t.probe
  | .removing => .delete t.target t.credential t.probe
  | .cleaning _ => .delete t.target t.credential t.probe

def progress (t : RoundTrip) : (s : Stage) → Except Error (t.operation s).Answer → Progress s
  | .listing => afterListing
  | .writing => afterWriting
  | .relisting => t.afterRelisting
  | .reading => t.afterReading
  | .removing => afterRemoving
  | .cleaning e => afterCleaning e

inductive Shown (t : RoundTrip) : Stage → Trace → Prop
  | listing : Shown t .listing []
  | writing {u : Trace} {names : List String} :
      Shown t .listing u → Shown t .writing (u ++ (t.operation .listing).done names)
  | relisting {u : Trace} :
      Shown t .writing u → Shown t .relisting (u ++ (t.operation .writing).done ())
  | reading {u : Trace} {names : List String} : t.probe ∈ names →
      Shown t .relisting u → Shown t .reading (u ++ (t.operation .relisting).done names)
  | removing {u : Trace} {contents : Text.Bytes} : probePayload <:+: contents →
      Shown t .reading u → Shown t .removing (u ++ (t.operation .reading).done contents)
  | cleaning {e : Error} : Shown t (.cleaning e) []

def Completed (t : RoundTrip) (u : Trace) : Prop :=
  ∃ (names listed : List String) (contents : Text.Bytes),
    t.probe ∈ listed ∧ probePayload <:+: contents ∧
      (Operation.done (.list t.target t.credential) names ++
        Operation.done (.put t.target t.credential t.probe probePayload) () ++
        Operation.done (.list t.target t.credential) listed ++
        Operation.done (.get t.target t.credential t.probe) contents ++
        Operation.done (.delete t.target t.credential t.probe) ()).Sublist u

theorem call_traced (client : ShareClient σ) (t : RoundTrip) (s : Stage) :
    ∃ c : Request σ (t.operation s).Answer,
      t.call client.traced s = (Call.traced (t.operation s) c).map (t.progress s) := by
  cases s with
  | listing => exact ⟨client.list t.target t.credential, rfl⟩
  | writing => exact ⟨client.put t.target t.credential t.probe probePayload, rfl⟩
  | relisting => exact ⟨client.list t.target t.credential, rfl⟩
  | reading => exact ⟨client.get t.target t.credential t.probe, rfl⟩
  | removing => exact ⟨client.remove t.target t.credential t.probe, rfl⟩
  | cleaning e => exact ⟨client.remove t.target t.credential t.probe, rfl⟩

theorem Shown.next {t : RoundTrip} {s after : Stage} {u : Trace}
    {answer : Except Error (t.operation s).Answer} {later : after.rank < s.rank}
    (shown : Shown t s u) (led : t.progress s answer = .next after later) :
    ∃ v, Shown t after v ∧
      v.Sublist (u ++ [.began (t.operation s), .ended (t.operation s) (.ok answer)]) := by
  -- Each stage leads to one next stage, or to a clean-up of which nothing is asked.
  cases s with
  | listing =>
    match answer with
    | .ok names =>
      cases led
      exact ⟨_, .writing shown, .refl _⟩
    | .error e => cases led
  | writing =>
    match answer with
    | .ok () =>
      cases led
      exact ⟨_, .relisting shown, .refl _⟩
    | .error e => cases led
  | relisting =>
    match answer with
    | .ok names =>
      simp only [progress, afterRelisting] at led
      split at led
      next listed =>
        cases led
        exact ⟨_, .reading (List.contains_iff_mem.1 listed) shown, .refl _⟩
      next =>
        cases led
        exact ⟨[], .cleaning, List.nil_sublist _⟩
    | .error e =>
      cases led
      exact ⟨[], .cleaning, List.nil_sublist _⟩
  | reading =>
    match answer with
    | .ok contents =>
      simp only [progress, afterReading] at led
      split at led
      next stands =>
        cases led
        exact ⟨_, .removing ((Text.occurs_iff _ _).1 stands) shown, .refl _⟩
      next =>
        cases led
        exact ⟨[], .cleaning, List.nil_sublist _⟩
    | .error e =>
      cases led
      exact ⟨[], .cleaning, List.nil_sublist _⟩
  | removing =>
    match answer with
    | .ok () => cases led
    | .error e => cases led
  | cleaning e => cases led

theorem Shown.finished {t : RoundTrip} {s : Stage} {u : Trace}
    {answer : Except Error (t.operation s).Answer}
    (shown : Shown t s u) (led : t.progress s answer = .finished (.ok ())) :
    t.Completed (u ++ [.began (t.operation s), .ended (t.operation s) (.ok answer)]) := by
  cases s with
  | listing =>
    match answer with
    | .ok names => cases led
    | .error e => cases led
  | writing =>
    match answer with
    | .ok () => cases led
    | .error e => cases led
  | relisting =>
    match answer with
    | .ok names =>
      simp only [progress, afterRelisting] at led
      split at led <;> cases led
    | .error e => cases led
  | reading =>
    match answer with
    | .ok contents =>
      simp only [progress, afterReading] at led
      split at led <;> cases led
    | .error e => cases led
  | removing =>
    match answer with
    | .ok () =>
      -- The removal comes last, and the stages before it can only have come one by one.
      cases shown with
      | removing stands shown =>
        cases shown with
        | reading listed shown =>
          cases shown with
          | relisting shown =>
            cases shown with
            | writing shown =>
              cases shown with
              | listing => exact ⟨_, _, _, listed, stands, .refl _⟩
    | .error e => cases led
  | cleaning e => cases led

section

variable (start : Trace) (t : RoundTrip)

def Reached (s : Stage) (w : Traced σ) : Prop :=
  ∃ u v, w.trace = start ++ u ∧ v.Sublist u ∧ Shown t s v

def Asked (s : Stage) (w : Traced σ) : Prop :=
  ∃ u v, w.trace = start ++ u ∧ (v ++ [.began (t.operation s)]).Sublist u ∧ Shown t s v

def Passed (w : Traced σ) : Prop := ∃ u, w.trace = start ++ u ∧ t.Completed u

def Answering (s : Stage) (finish : Traced σ → Except Panic (Progress s) × Traced σ) : Prop :=
  ∀ w, ∃ answer, (finish w).1 = answer.map (t.progress s) ∧
    (finish w).2.trace = w.trace ++ [.ended (t.operation s) answer]

def Vouched : Strand (Traced σ) → Traced σ → Prop
  | .lost, _ => True
  | .waiting s _ finish, w => Asked start t s w ∧ Answering t s finish
  | .done _ outcome, w => outcome = .ok (.ok ()) → Passed start t w

end

variable {start : Trace} {t : RoundTrip} {s : Stage} {client : ShareClient σ} {now : Nat}
  {v w : Traced σ}

theorem Reached.asks (reached : Reached start t s w)
    (trace : v.trace = w.trace ++ [.began (t.operation s)]) : Asked start t s v := by
  obtain ⟨u, shown, same, part, holds⟩ := reached
  refine ⟨u ++ [.began (t.operation s)], shown, ?_, part.append (.refl _), holds⟩
  rw [trace, same, List.append_assoc]

theorem Asked.later (asked : Asked start t s v) (goes : v.trace <+: w.trace) :
    Asked start t s w := by
  obtain ⟨u, shown, same, part, holds⟩ := asked
  obtain ⟨more, goes⟩ := goes
  refine ⟨u ++ more, shown, ?_, part.trans (List.sublist_append_left u more), holds⟩
  rw [← goes, same, List.append_assoc]

theorem Completed.among {u v : Trace} (completed : t.Completed u) (within : u.Sublist v) :
    t.Completed v := by
  obtain ⟨names, listed, contents, found, stands, part⟩ := completed
  exact ⟨names, listed, contents, found, stands, part.trans within⟩

theorem Passed.later (passed : Passed start t v) (goes : v.trace <+: w.trace) :
    Passed start t w := by
  obtain ⟨u, same, completed⟩ := passed
  obtain ⟨more, goes⟩ := goes
  refine ⟨u ++ more, ?_, completed.among (List.sublist_append_left u more)⟩
  rw [← goes, same, List.append_assoc]

theorem Asked.next {answer : Except Panic (Except Error (t.operation s).Answer)} {after : Stage}
    {later : after.rank < s.rank} (asked : Asked start t s v)
    (trace : w.trace = v.trace ++ [.ended (t.operation s) answer])
    (led : .ok (.next after later) = answer.map (t.progress s)) : Reached start t after w := by
  obtain ⟨u, shown, same, part, holds⟩ := asked
  match answer with
  | .ok answer =>
    obtain ⟨next, reached, among⟩ := holds.next (Except.ok.inj led).symm
    refine ⟨u ++ [.ended (t.operation s) (.ok answer)], next, ?_, ?_, reached⟩
    · rw [trace, same, List.append_assoc]
    -- The landing is written after whatever other trips wrote meanwhile.
    · have grown := part.append (.refl [Entry.ended (t.operation s) (.ok answer)])
      rw [List.append_assoc] at grown
      exact among.trans grown
  | .error p => cases led

theorem Asked.finished {answer : Except Panic (Except Error (t.operation s).Answer)}
    (asked : Asked start t s v) (trace : w.trace = v.trace ++ [.ended (t.operation s) answer])
    (led : .ok (.finished (.ok ())) = answer.map (t.progress s)) : Passed start t w := by
  obtain ⟨u, shown, same, part, holds⟩ := asked
  match answer with
  | .ok answer =>
    have completed := holds.finished (Except.ok.inj led).symm
    refine ⟨u ++ [.ended (t.operation s) (.ok answer)], ?_, completed.among ?_⟩
    · rw [trace, same, List.append_assoc]
    · have grown := part.append (.refl [Entry.ended (t.operation s) (.ok answer)])
      rwa [List.append_assoc] at grown
  | .error p => cases led

theorem call_begins {flight : Flight (Traced σ) (Progress s)}
    (begun : t.call client.traced s now w = (flight, v)) :
    v.trace = w.trace ++ [.began (t.operation s)] := by
  obtain ⟨c, same⟩ := call_traced client t s
  have trace := Call.traced_begins (c := c) (f := t.progress s) now w
  rwa [← same, begun] at trace

theorem call_answers {delay : Nat} {finish : Traced σ → Except Panic (Progress s) × Traced σ}
    (begun : t.call client.traced s now w = (.lands delay finish, v)) : Answering t s finish := by
  obtain ⟨c, same⟩ := call_traced client t s
  rw [same] at begun
  exact Call.traced_lands begun

theorem proceed_vouched (client : ShareClient σ) (now : Nat) (reached : Reached start t s w) :
    w.trace <+: (t.proceed client.traced now s w).2.trace ∧
      Vouched start t (t.proceed client.traced now s w).1 (t.proceed client.traced now s w).2 := by
  -- The induction goes from stage to stage, with what has been shown so far.
  fun_induction proceed client.traced t now s w with
  | case1 s w v begun => exact ⟨⟨_, (call_begins begun).symm⟩, trivial⟩
  | case2 s w finish v next later u landed begun ih =>
    have began := call_begins begun
    have asked := reached.asks began
    obtain ⟨answer, led, trace⟩ := call_answers begun v
    rw [landed] at led trace
    obtain ⟨goes, vouched⟩ := ih (asked.next trace led)
    refine ⟨?_, vouched⟩
    have before : w.trace <+: u.trace := by
      rw [trace, began, List.append_assoc]
      exact List.prefix_append _ _
    exact before.trans goes
  | case3 s w finish v result u landed begun =>
    have began := call_begins begun
    obtain ⟨answer, led, trace⟩ := call_answers begun v
    rw [landed] at led trace
    refine ⟨?_, ?_⟩
    · rw [trace, began, List.append_assoc]
      exact List.prefix_append _ _
    · rintro ⟨⟩
      exact (reached.asks began).finished trace led
  | case4 s w finish v p u landed begun =>
    have began := call_begins begun
    obtain ⟨answer, led, trace⟩ := call_answers begun v
    rw [landed] at trace
    refine ⟨?_, ?_⟩
    · rw [trace, began, List.append_assoc]
      exact List.prefix_append _ _
    · rintro ⟨⟩
  | case5 s w delay finish v begun late =>
    have began := call_begins begun
    exact ⟨⟨_, began.symm⟩, reached.asks began, call_answers begun⟩

theorem wake_vouched (client : ShareClient σ) (now : Nat) {strand : Strand (Traced σ)}
    (vouched : Vouched start t strand w) :
    w.trace <+: (t.wake client.traced now strand w).2.trace ∧
      Vouched start t (t.wake client.traced now strand w).1
        (t.wake client.traced now strand w).2 := by
  fun_cases wake client.traced t now strand w with
  | case1 s time finish w due next later u landed =>
    obtain ⟨asked, answering⟩ := vouched
    obtain ⟨answer, led, trace⟩ := answering w
    rw [landed] at led trace
    obtain ⟨goes, vouched⟩ := proceed_vouched client now (asked.next trace led)
    refine ⟨?_, vouched⟩
    have before : w.trace <+: u.trace := ⟨_, trace.symm⟩
    exact before.trans goes
  | case2 s time finish w due result u landed =>
    obtain ⟨asked, answering⟩ := vouched
    obtain ⟨answer, led, trace⟩ := answering w
    rw [landed] at led trace
    refine ⟨⟨_, trace.symm⟩, ?_⟩
    rintro ⟨⟩
    exact asked.finished trace led
  | case3 s time finish w due p u landed =>
    obtain ⟨answer, led, trace⟩ := vouched.2 w
    rw [landed] at trace
    refine ⟨⟨_, trace.symm⟩, ?_⟩
    rintro ⟨⟩
  | case4 s time finish w early => exact ⟨List.prefix_refl _, vouched⟩
  | case5 strand w other => exact ⟨List.prefix_refl _, vouched⟩

end RoundTrip

theorem Lane.guarded_vouched (client : ShareClient σ) (start : Traced σ) :
    Guarded client.traced (fun v w => v.trace <+: w.trace) start
      fun t strand w => t.Vouched start.trace strand w where
  refl _ := List.prefix_refl _
  trans _ _ _ := List.IsPrefix.trans
  later t strand v w vouched goes := by
    match strand with
    | .lost => trivial
    | .waiting s landing finish => exact ⟨vouched.1.later goes, vouched.2⟩
    | .done ended outcome => exact fun same => (vouched same).later goes
  begins t now w started := by
    obtain ⟨u, started⟩ := started
    exact RoundTrip.proceed_vouched client now
      ⟨u, [], started.symm, List.nil_sublist _, .listing⟩
  wakes t now strand w vouched := RoundTrip.wake_vouched client now vouched

theorem verifyEndpoint_passed {client : ShareClient σ} {endpoint : Endpoint} {target : Target}
    {timeout : Nat} {credentials : List (Credential × String)} {checks : List Check}
    {m after : Moment (Traced σ)}
    (ran : verifyEndpoint client.traced endpoint target timeout credentials m =
      some (.ok checks, after)) (passed : ∀ check ∈ checks, check.passed = true) :
    ∃ u, after.world.trace = m.world.trace ++ u ∧
      ∀ c probe, (c, probe) ∈ credentials → RoundTrip.Completed ⟨target, c, probe⟩ u := by
  obtain ⟨goes, lanes, all, trips, same⟩ :=
    verifyEndpoint_guarded (Lane.guarded_vouched client m.world) ran
  obtain ⟨u, goes⟩ := goes
  refine ⟨u, goes.symm, fun c probe member => ?_⟩
  have trip : (⟨target, c, probe⟩ : RoundTrip) ∈ lanes.map (·.trip) :=
    trips ▸ List.mem_map.2 ⟨(c, probe), member, rfl⟩
  obtain ⟨l, among, named⟩ := List.mem_map.1 trip
  cases same
  have ended := Check.ofOutcome_passed.1 (passed _ (List.mem_map_of_mem among))
  have vouched := all l among
  -- A strand that has not ended gets no verdict but that it was late.
  match strand : l.strand with
  | .lost => rw [strand] at ended; cases ended
  | .waiting s landing finish => rw [strand] at ended; cases ended
  | .done time outcome =>
    rw [strand] at ended vouched
    obtain ⟨v, split, completed⟩ := vouched ended
    rw [List.append_cancel_left (goes.trans split), ← named]
    exact completed

end ShareCheck
