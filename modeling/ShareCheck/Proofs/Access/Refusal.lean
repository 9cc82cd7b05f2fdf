import ShareCheck.Proofs.Access.Evidence
import ShareCheck.Proofs.Lifecycle.Refusal

set_option autoImplicit false

namespace ShareCheck

variable {σ : Type}

def Stage.IsCleaning : Stage → Prop
  | .cleaning _ => True
  | _ => False

def Progress.Fails {s : Stage} : Progress s → Prop
  | .next after _ => after.IsCleaning
  | .finished r => r ≠ .ok ()

def Strand.Doomed : Strand σ → Prop
  | .lost => True
  | .waiting s _ _ => s.IsCleaning
  | .done _ outcome => outcome ≠ .ok (.ok ())

namespace RoundTrip

def Accountable (t : RoundTrip) : Strand (Traced σ) → Prop
  | .waiting s _ finish => t.Answering s finish
  | _ => True

theorem progress_fails (t : RoundTrip) (s : Stage) (answer : Except Error (t.operation s).Answer)
    (bad : s.IsCleaning ∨ ∃ e, answer = .error e) : (t.progress s answer).Fails := by
  cases s with
  | cleaning e => exact nofun
  | listing | writing | removing =>
    obtain ⟨⟨⟩⟩ | ⟨e, rfl⟩ := bad
    exact nofun
  | relisting | reading =>
    obtain ⟨⟨⟩⟩ | ⟨e, rfl⟩ := bad
    trivial

variable {t : RoundTrip} {s : Stage} {client : ShareClient σ} {now : Nat} {w : Traced σ}

theorem landed_fails {p : Progress s} {answer : Except Panic (Except Error (t.operation s).Answer)}
    (led : .ok p = answer.map (t.progress s))
    (bad : s.IsCleaning ∨ Trace.Refused [.ended (t.operation s) answer]) : p.Fails := by
  match answer with
  | .ok answer =>
    cases led
    refine t.progress_fails s answer (bad.imp_right fun refused => ?_)
    obtain ⟨e, same⟩ | refused := (Trace.refused_ended _ _ _).1 refused
    · exact ⟨e, Except.ok.inj same⟩
    · exact absurd refused Trace.not_refused_nil
  | .error p => cases led

theorem proceed_doomed (client : ShareClient σ) (t : RoundTrip) (now : Nat) (s : Stage)
    (w : Traced σ) :
    ∃ u, (t.proceed client.traced now s w).2.trace = w.trace ++ u ∧
      (s.IsCleaning ∨ u.Refused → (t.proceed client.traced now s w).1.Doomed) ∧
      t.Accountable (t.proceed client.traced now s w).1 := by
  fun_induction proceed client.traced t now s w with
  | case1 s w v begun => exact ⟨_, call_begins begun, fun _ => trivial, trivial⟩
  | case2 s w finish v next later u landed begun ih =>
    obtain ⟨answer, led, trace⟩ := call_answers begun v
    rw [landed] at led trace
    obtain ⟨more, goes, fails, accountable⟩ := ih
    refine ⟨[.began (t.operation s)] ++ ([.ended (t.operation s) answer] ++ more), ?_, ?_,
      accountable⟩
    · rw [goes, trace, call_begins begun]
      simp only [List.append_assoc]
    · intro bad
      rw [List.singleton_append, Trace.refused_began, Trace.refused_append, ← or_assoc] at bad
      exact fails (bad.imp_left (landed_fails led))
  | case3 s w finish v result u landed begun =>
    obtain ⟨answer, led, trace⟩ := call_answers begun v
    rw [landed] at led trace
    refine ⟨[.began (t.operation s)] ++ [.ended (t.operation s) answer], ?_, ?_, trivial⟩
    · rw [trace, call_begins begun, List.append_assoc]
    · intro bad
      have fails : result ≠ .ok () := landed_fails led (by simpa using bad)
      exact fun same => fails (Except.ok.inj same)
  | case4 s w finish v p u landed begun =>
    obtain ⟨answer, -, trace⟩ := call_answers begun v
    rw [landed] at trace
    refine ⟨[.began (t.operation s)] ++ [.ended (t.operation s) answer], ?_, (fun _ same => by cases same),
      trivial⟩
    rw [trace, call_begins begun, List.append_assoc]
  | case5 s w delay finish v begun late =>
    refine ⟨_, call_begins begun, ?_, call_answers begun⟩
    simp [Strand.Doomed]

theorem wake_doomed (client : ShareClient σ) (t : RoundTrip) (now : Nat)
    {strand : Strand (Traced σ)} (w : Traced σ) (accountable : t.Accountable strand) :
    ∃ u, (t.wake client.traced now strand w).2.trace = w.trace ++ u ∧
      (strand.Doomed ∨ u.Refused → (t.wake client.traced now strand w).1.Doomed) ∧
      t.Accountable (t.wake client.traced now strand w).1 := by
  fun_cases wake client.traced t now strand w with
  | case1 s time finish w due next later u landed =>
    obtain ⟨answer, led, trace⟩ := accountable w
    rw [landed] at led trace
    obtain ⟨more, goes, fails, accountable⟩ := proceed_doomed client t now next u
    refine ⟨[.ended (t.operation s) answer] ++ more, ?_, fun bad => ?_, accountable⟩
    · rw [goes, trace, List.append_assoc]
    · rw [Trace.refused_append, ← or_assoc] at bad
      exact fails (bad.imp_left (landed_fails led))
  | case2 s time finish w due result u landed =>
    obtain ⟨answer, led, trace⟩ := accountable w
    rw [landed] at led trace
    refine ⟨_, trace, fun bad => ?_, trivial⟩
    have fails : result ≠ .ok () := landed_fails led bad
    exact fun same => fails (Except.ok.inj same)
  | case3 s time finish w due p u landed =>
    obtain ⟨answer, -, trace⟩ := accountable w
    rw [landed] at trace
    exact ⟨_, trace, (fun _ same => by cases same), trivial⟩
  | case4 s time finish w early => exact ⟨[], by simp, by simp, accountable⟩
  | case5 strand w other => exact ⟨[], by simp, by simp, accountable⟩

end RoundTrip

namespace Lane

structure Candid (start : Trace) (lanes : List (Lane (Traced σ))) (w : Traced σ) : Prop where
  accountable : ∀ l ∈ lanes, l.trip.Accountable l.strand
  doomed : ∃ u, w.trace = start ++ u ∧ (u.Refused → ∃ l ∈ lanes, l.strand.Doomed)

theorem Candid.moves {start : Trace} {lanes : List (Lane (Traced σ))} {v w : Traced σ}
    {position : Nat} {t : RoundTrip} {strand : Strand (Traced σ)} {bad : Prop}
    (accountable : ∀ l ∈ lanes, l.trip.Accountable l.strand)
    (before : ∃ u, w.trace = start ++ u ∧ (u.Refused → bad ∨ ∃ l ∈ lanes, l.strand.Doomed))
    (moved : ∃ u, v.trace = w.trace ++ u ∧ (bad ∨ u.Refused → strand.Doomed) ∧
      t.Accountable strand) :
    Candid start (⟨position, t, strand⟩ :: lanes) v := by
  obtain ⟨u, trace, fails⟩ := before
  obtain ⟨more, goes, dooms, answering⟩ := moved
  refine ⟨?_, u ++ more, by rw [goes, trace, List.append_assoc], fun refused => ?_⟩
  · exact List.forall_mem_cons.2 ⟨answering, accountable⟩
  · rw [List.exists_mem_cons_iff]
    obtain refused | refused := (Trace.refused_append u more).1 refused
    · exact (fails refused).imp_left fun bad => dooms (.inl bad)
    · exact .inl (dooms (.inr refused))

theorem joint_candid (client : ShareClient σ) (all : List RoundTrip) (start : Trace) :
    Joint (fun _ => client.traced) all fun _ _ lanes w => Candid start lanes w where
  reordered same candid := by
    refine ⟨fun l member => candid.accountable l (same.mem_iff.2 member), ?_⟩
    obtain ⟨u, trace, fails⟩ := candid.doomed
    refine ⟨u, trace, fun refused => ?_⟩
    obtain ⟨l, member, doomed⟩ := fails refused
    exact ⟨l, same.mem_iff.1 member, doomed⟩
  passes _ _ candid := candid
  begins {now t position pending lanes w} _ candid := by
    obtain ⟨u, trace, fails⟩ := candid.doomed
    exact .moves candid.accountable ⟨u, trace, fun refused => .inr (fails refused)⟩
      (RoundTrip.proceed_doomed client t now .listing w)
  wakes {now t position strand lanes w} _ candid := by
    obtain ⟨own, accountable⟩ := List.forall_mem_cons.1 candid.accountable
    obtain ⟨u, trace, fails⟩ := candid.doomed
    simp only [List.exists_mem_cons_iff] at fails
    exact .moves accountable ⟨u, trace, fails⟩ (RoundTrip.wake_doomed client t now w own)

theorem doomed_fails (endpoint : Endpoint) (target : Target) (timeout start : Nat) {l : Lane σ}
    (doomed : l.strand.Doomed) : (l.check endpoint target timeout start).passed = false := by
  rw [← Bool.not_eq_true]
  intro passed
  have ended := Check.ofOutcome_passed.1 passed
  match strand : l.strand with
  | .lost | .waiting .. =>
    rw [strand] at ended
    cases ended
  | .done time outcome =>
    rw [strand] at ended doomed
    exact doomed ended

end Lane

theorem verifyEndpoint_refused {client : ShareClient σ} {endpoint : Endpoint} {target : Target}
    {timeout : Nat} {credentials : List (Credential × String)} {r : Except Panic (List Check)}
    {m after : Moment (Traced σ)}
    (ran : verifyEndpoint client.traced endpoint target timeout credentials m = some (r, after)) :
    ∃ u checks, r = .ok checks ∧ after.world.trace = m.world.trace ++ u ∧
      checks.length = credentials.length ∧
      (u.Refused → ∃ check ∈ checks, check.passed = false) := by
  obtain ⟨now, concluded⟩ :=
    verifyEndpoint_conclude client.traced endpoint target timeout credentials m
  obtain ⟨ended, stop, -, -, -, u, trace, fails⟩ := Lane.conclude_joint
    (Lane.joint_candid client (tripsOf target credentials) m.world.trace)
    (Nat.le_add_right m.now timeout) ⟨nofun, [], by simp⟩
  rw [concluded] at ran
  cases ran
  refine ⟨u, _, rfl, trace, ?_, fun refused => ?_⟩
  · have trips := congrArg List.length ended.trips
    simpa [tripsOf] using trips
  · obtain ⟨l, member, doomed⟩ := fails refused
    exact ⟨_, List.mem_map_of_mem member, Lane.doomed_fails endpoint target timeout m.now doomed⟩

end ShareCheck
