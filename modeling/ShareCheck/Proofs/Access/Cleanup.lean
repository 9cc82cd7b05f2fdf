import ShareCheck.Proofs.Access.Evidence
import ShareCheck.Proofs.Access.Projection
import ShareCheck.Scripted.Share

set_option autoImplicit false

namespace ShareCheck

variable {σ : Type}

def Entry.written? : Entry → Option RoundTrip
  | ended (.put t c name _) (.ok (.ok ())) => some ⟨t, c, name⟩
  | _ => none

def Entry.cleared? : Entry → Option RoundTrip
  | began (.delete t c name) => some ⟨t, c, name⟩
  | _ => none

namespace Trace

def written (t : Trace) : List RoundTrip := t.filterMap Entry.written?

def cleared (t : Trace) : List RoundTrip := t.filterMap Entry.cleared?

@[simp] theorem written_append (t u : Trace) : written (t ++ u) = written t ++ written u :=
  List.filterMap_append

@[simp] theorem cleared_append (t u : Trace) : cleared (t ++ u) = cleared t ++ cleared u :=
  List.filterMap_append

end Trace

namespace RoundTrip

variable {t : RoundTrip} {s : Stage} {u : Trace}

inductive Led (t : RoundTrip) : Stage → Trace → Prop
  | listing : Led t .listing []
  | later {s after : Stage} {u : Trace} {answer : Except Error (t.operation s).Answer}
      {later : after.rank < s.rank} : Led t s u → t.progress s answer = .next after later →
      Led t after (u ++ [.began (t.operation s)] ++ [.ended (t.operation s) (.ok answer)])

inductive Came (t : RoundTrip) : Option (Except Panic (Except Error Unit)) → Trace → Prop
  | unanswered {s : Stage} {u : Trace} : Led t s u → Came t none (u ++ [.began (t.operation s)])
  | finished {s : Stage} {u : Trace} {answer : Except Error (t.operation s).Answer}
      {r : Except Error Unit} : Led t s u → t.progress s answer = .finished r →
      Came t (some (.ok r))
        (u ++ [.began (t.operation s)] ++ [.ended (t.operation s) (.ok answer)])
  | panicked {s : Stage} {u : Trace} {p : Panic} : Led t s u →
      Came t (some (.error p))
        (u ++ [.began (t.operation s)] ++ [.ended (t.operation s) (.error p)])

/-- The last call looked for the file, or read it back, and has neither succeeded nor failed. -/
def Interrupted (t : RoundTrip) (u : Trace) : Prop :=
  ∃ s, (s = .relisting ∨ s = .reading) ∧
    (u.getLast? = some (.began (t.operation s)) ∨
      ∃ p, u.getLast? = some (.ended (t.operation s) (.error p)))

/-! ### What the stages tell -/

theorem began_written (t : RoundTrip) (s : Stage) :
    Trace.written [.began (t.operation s)] = [] := rfl

theorem began_cleared (t : RoundTrip) (s : Stage) :
    Trace.cleared [.began (t.operation s)] = if s.rank ≤ 1 then [t] else [] := by
  cases s <;> rfl

theorem ended_cleared (t : RoundTrip) (s : Stage)
    (answer : Except Panic (Except Error (t.operation s).Answer)) :
    Trace.cleared [.ended (t.operation s) answer] = [] := rfl

theorem panicked_written (t : RoundTrip) (s : Stage) (p : Panic) :
    Trace.written [.ended (t.operation s) (.error p)] = [] := by
  cases s <;> rfl

theorem next_written {answer : Except Error (t.operation s).Answer} {after : Stage}
    {later : after.rank < s.rank} (led : t.progress s answer = .next after later) :
    Trace.written [.ended (t.operation s) (.ok answer)] =
      if after.rank ≤ 3 ∧ 3 < s.rank then [t] else [] := by
  cases s with
  | listing =>
    match answer with
    | .ok names =>
      cases led
      rfl
  | writing =>
    match answer with
    | .ok () =>
      cases led
      rfl
  | relisting | reading | removing | cleaning =>
    simp [Stage.rank, Trace.written, Entry.written?, operation]

theorem finished_written {answer : Except Error (t.operation s).Answer} {r : Except Error Unit}
    (led : t.progress s answer = .finished r) :
    Trace.written [.ended (t.operation s) (.ok answer)] = [] := by
  cases s with
  | writing =>
    match answer with
    | .ok () => cases led
    | .error e => rfl
  | listing | relisting | reading | removing | cleaning => rfl

theorem finished_rank {answer : Except Error (t.operation s).Answer} {r : Except Error Unit}
    (led : t.progress s answer = .finished r) : s.rank ≤ 1 ∨ 3 < s.rank := by
  cases s with
  | listing => exact .inr (by decide)
  | writing => exact .inr (by decide)
  | relisting =>
    cases answer with
    | ok names =>
      simp only [progress, afterRelisting] at led
      split at led <;> cases led
    | error e => cases led
  | reading =>
    cases answer with
    | ok contents =>
      simp only [progress, afterReading] at led
      split at led <;> cases led
    | error e => cases led
  | removing => exact .inl (by decide)
  | cleaning e => exact .inl (Nat.le_refl 1)

theorem next_rank {answer : Except Error (t.operation s).Answer} {after : Stage}
    {later : after.rank < s.rank} (_ : t.progress s answer = .next after later) : 1 < s.rank := by
  have some : 0 < after.rank := by cases after <;> simp [Stage.rank]
  omega

theorem Led.told (led : Led t s u) :
    u.written = (if s.rank ≤ 3 then [t] else []) ∧ u.cleared = [] := by
  induction led with
  | listing => exact ⟨rfl, rfl⟩
  | @later s after u answer later led moves ih =>
    have stays : ¬ s.rank ≤ 1 := Nat.not_le.2 (next_rank moves)
    simp only [Trace.written_append, Trace.cleared_append, ih, began_written, began_cleared,
      ended_cleared, next_written moves, stays, if_false, List.append_nil, and_true]
    -- The stage after is reached from before the writing, or from after it.
    by_cases before : s.rank ≤ 3
    next => simp [before, Nat.not_lt.2 before, Nat.le_trans (Nat.le_of_lt later) before]
    next => simp [before, Nat.lt_of_not_le before]

theorem interrupted_began (written : s.rank ≤ 3) :
    t.Interrupted (u ++ [.began (t.operation s)]) ↔ 1 < s.rank := by
  cases s <;> simp [Interrupted, operation, Stage.rank] at written ⊢

theorem interrupted_panicked {p : Panic} (written : s.rank ≤ 3) :
    t.Interrupted (u ++ [.ended (t.operation s) (.error p)]) ↔ 1 < s.rank := by
  cases s <;> simp [Interrupted, operation, Stage.rank] at written ⊢

theorem not_interrupted_ended {o : Operation} {answer : Except Error o.Answer} :
    ¬ t.Interrupted (u ++ [.ended o (.ok answer)]) := by
  rintro ⟨s, -, last | ⟨p, last⟩⟩
  next => simp at last
  next =>
    simp only [List.getLast?_concat, Option.some.injEq, Entry.ended.injEq] at last
    obtain ⟨rfl, same⟩ := last
    cases same

theorem Came.told {outcome : Option (Except Panic (Except Error Unit))} (came : t.Came outcome u)
    (written : t ∈ u.written) : t ∈ u.cleared ↔ ¬ t.Interrupted u := by
  cases came with
  | @unanswered s u led =>
    obtain ⟨told, clear⟩ := led.told
    have after : s.rank ≤ 3 := by simpa [told, began_written] using written
    rw [interrupted_began after]
    simp [clear, began_cleared]
  | @finished s u answer r led ends =>
    obtain ⟨told, clear⟩ := led.told
    rw [Trace.written_append, Trace.written_append, told, began_written, finished_written ends]
      at written
    have after : s.rank ≤ 3 := by simpa using written
    have last : s.rank ≤ 1 := (finished_rank ends).resolve_right (Nat.not_lt.2 after)
    refine iff_of_true ?_ not_interrupted_ended
    rw [Trace.cleared_append, Trace.cleared_append, began_cleared, if_pos last]
    simp
  | @panicked s u p led =>
    obtain ⟨told, clear⟩ := led.told
    rw [Trace.written_append, Trace.written_append, told, began_written, panicked_written]
      at written
    have after : s.rank ≤ 3 := by simpa using written
    rw [interrupted_panicked after, Trace.cleared_append, Trace.cleared_append, clear,
      began_cleared, ended_cleared]
    simp

theorem Came.unanswered_last {outcome : Option (Except Panic (Except Error Unit))} {o : Operation}
    (came : t.Came outcome u) (last : u.getLast? = some (.began o)) : outcome = none := by
  cases came with
  | unanswered led => rfl
  | finished led ends => simp at last
  | panicked led => simp at last

theorem Came.panicked_last {outcome : Option (Except Panic (Except Error Unit))} {o : Operation}
    {p : Panic} (came : t.Came outcome u) (last : u.getLast? = some (.ended o (.error p))) :
    outcome = some (.error p) := by
  cases came with
  | unanswered led => simp at last
  | finished led ends =>
    simp only [List.getLast?_concat, Option.some.injEq, Entry.ended.injEq] at last
    obtain ⟨rfl, same⟩ := last
    cases same
  | panicked led =>
    simp only [List.getLast?_concat, Option.some.injEq, Entry.ended.injEq] at last
    obtain ⟨rfl, same⟩ := last
    cases same
    rfl

/-! ### The way through the stages -/

def Alone (t : RoundTrip) : Strand (Traced σ) → Traced σ → Prop
  | .lost, w => Came t none w.trace
  | .waiting s _ finish, w =>
    Answering t s finish ∧ ∃ u, Led t s u ∧ w.trace = u ++ [.began (t.operation s)]
  | .done _ outcome, w => Came t (some outcome) w.trace

variable {client : ShareClient σ} {v w : Traced σ}
  {finish : Traced σ → Except Panic (Progress s) × Traced σ}

theorem Led.lands (led : Led t s u) (asked : v.trace = u ++ [.began (t.operation s)])
    (answering : Answering t s finish) :
    (∀ after later, (finish v).1 = .ok (.next after later) → Led t after (finish v).2.trace) ∧
      (∀ r, (finish v).1 = .ok (.finished r) → Came t (some (.ok r)) (finish v).2.trace) ∧
      ∀ p, (finish v).1 = .error p → Came t (some (.error p)) (finish v).2.trace := by
  obtain ⟨answer, given, trace⟩ := answering v
  rw [given, trace, asked]
  match answer with
  | .ok answer =>
    exact ⟨fun after later moves => .later led (Except.ok.inj moves),
      fun r ends => .finished led (Except.ok.inj ends), nofun⟩
  | .error p =>
    refine ⟨nofun, nofun, ?_⟩
    rintro _ ⟨⟩
    exact .panicked led

theorem Led.proceeds (client : ShareClient σ) (now : Nat) (led : Led t s w.trace) :
    Alone t (t.proceed client.traced now s w).1 (t.proceed client.traced now s w).2 := by
  fun_induction proceed client.traced t now s w with
  | case1 s w v begun =>
    rw [Alone, call_begins begun]
    exact .unanswered led
  | case2 s w finish v next later u landed begun ih =>
    have lands := (led.lands (call_begins begun) (call_answers begun)).1 next later
    rw [landed] at lands
    exact ih (lands rfl)
  | case3 s w finish v result u landed begun =>
    have lands := (led.lands (call_begins begun) (call_answers begun)).2.1 result
    rw [landed] at lands
    exact lands rfl
  | case4 s w finish v p u landed begun =>
    have lands := (led.lands (call_begins begun) (call_answers begun)).2.2 p
    rw [landed] at lands
    exact lands rfl
  | case5 s w delay finish v begun late => exact ⟨call_answers begun, _, led, call_begins begun⟩

theorem Alone.wakes (client : ShareClient σ) (now : Nat) {strand : Strand (Traced σ)}
    (alone : Alone t strand w) :
    Alone t (t.wake client.traced now strand w).1 (t.wake client.traced now strand w).2 := by
  fun_cases wake client.traced t now strand w with
  | case1 s time finish w due next later v landed =>
    obtain ⟨answering, u, led, asked⟩ := alone
    have lands := (led.lands asked answering).1 next later
    rw [landed] at lands
    exact (lands rfl).proceeds client now
  | case2 s time finish w due result v landed =>
    obtain ⟨answering, u, led, asked⟩ := alone
    have lands := (led.lands asked answering).2.1 result
    rw [landed] at lands
    exact lands rfl
  | case3 s time finish w due p v landed =>
    obtain ⟨answering, u, led, asked⟩ := alone
    have lands := (led.lands asked answering).2.2 p
    rw [landed] at lands
    exact lands rfl
  | case4 s time finish w early => exact alone
  | case5 strand w other => exact alone

theorem Alone.came {strand : Strand (Traced σ)} (alone : Alone t strand w) (limit : Nat)
    (late : Error) :
    ∃ outcome, Came t outcome w.trace ∧
      (outcome = none → strand.verdict limit late = (limit, .ok (.error late))) ∧
      ∀ o, outcome = some o → (strand.verdict limit late).2 = o := by
  match strand with
  | .lost => exact ⟨none, alone, fun _ => rfl, nofun⟩
  | .waiting s landing finish =>
    obtain ⟨-, u, led, asked⟩ := alone
    exact ⟨none, asked ▸ .unanswered led, fun _ => rfl, nofun⟩
  | .done ended outcome =>
    exact ⟨some outcome, alone, nofun, fun o same => Option.some.inj same⟩

end RoundTrip

theorem Lane.run_alone (client : ShareClient σ) (limit : Nat) (l : Lane (Traced σ))
    (m : Moment (Traced σ)) (alone : l.trip.Alone l.strand m.world) :
    ∃ strand w, run client.traced limit [l] m = ([{ l with strand }], w) ∧
      l.trip.Alone strand w := by
  generalize same : [l] = lanes
  fun_induction run client.traced limit lanes m generalizing l with
  | case1 lanes m none =>
    subst same
    exact ⟨l.strand, m.world, rfl, alone⟩
  | case2 lanes m t next due lanes' w woken ih =>
    subst same
    have arranged : arrange limit t [l] = [l] := if_pos (by simp [orderly])
    rw [arranged] at woken
    cases woken
    exact ih { l with strand := (l.trip.wake client.traced t l.strand m.world).1 }
      (alone.wakes client t) rfl
  | case3 lanes m t next expired =>
    subst same
    exact ⟨l.strand, m.world, rfl, alone⟩

theorem verifyEndpoint_came (client : ShareClient σ) (endpoint : Endpoint) (t : RoundTrip)
    (timeout now : Nat) (w : σ) :
    ∃ u outcome ended answer v,
      t.Came outcome u ∧
      verifyEndpoint client.traced endpoint t.target timeout [(t.credential, t.probe)]
        ⟨now, ⟨[], w⟩⟩ =
          some (.ok [Check.ofOutcome (accessCheckName endpoint t.credential) (ended - now) answer],
            ⟨max now ended, ⟨u, v⟩⟩) ∧
      verifyEndpoint client endpoint t.target timeout [(t.credential, t.probe)] ⟨now, w⟩ =
        some (.ok [Check.ofOutcome (accessCheckName endpoint t.credential) (ended - now) answer],
          ⟨max now ended, v⟩) ∧
      (outcome = none →
        (ended, answer) = (now + timeout, .ok (.error (noResponse t.target timeout)))) ∧
      ∀ o, outcome = some o → answer = o := by
  let begun := t.proceed client.traced now .listing ⟨[], w⟩
  have alone : t.Alone begun.1 begun.2 := RoundTrip.Led.proceeds client now .listing
  obtain ⟨strand, v, ran, ended⟩ :=
    Lane.run_alone client (now + timeout) ⟨0, t, begun.1⟩ ⟨now, begun.2⟩ alone
  let verdict := strand.verdict (now + timeout) (noResponse t.target timeout)
  have result : verifyEndpoint client.traced endpoint t.target timeout [(t.credential, t.probe)]
      ⟨now, ⟨[], w⟩⟩ = some (.ok [Check.ofOutcome (accessCheckName endpoint t.credential)
        (verdict.1 - now) verdict.2], ⟨max now verdict.1, v⟩) := by
    unfold verifyEndpoint
    simp only [List.map_cons, List.map_nil, List.zipIdx_cons, List.zipIdx_nil, Lane.beginAll]
    rw [ran]
    simp only [Lane.inOrder, List.mergeSort_singleton]
    rfl
  have untraced := verifyEndpoint_lifts client.traced_lifts endpoint t.target timeout
    [(t.credential, t.probe)] ⟨now, ⟨[], w⟩⟩
  rw [result] at untraced
  obtain ⟨outcome, came, late, done⟩ := ended.came (now + timeout) (noResponse t.target timeout)
  exact ⟨v.trace, outcome, verdict.1, verdict.2, v.world, came, result, untraced, late, done⟩

/-- A round trip removes the file that it has written unless it is interrupted, by the end of the
time or a panic, while it looks for the file or reads it back. -/
theorem verifyEndpoint_cleared (client : ShareClient σ) (endpoint : Endpoint) (t : RoundTrip)
    (timeout now : Nat) (w : σ) :
    ∃ u check after,
      verifyEndpoint client.traced endpoint t.target timeout [(t.credential, t.probe)]
        ⟨now, ⟨[], w⟩⟩ = some (.ok [check], ⟨after.now, ⟨u, after.world⟩⟩) ∧
      verifyEndpoint client endpoint t.target timeout [(t.credential, t.probe)] ⟨now, w⟩ =
        some (.ok [check], after) ∧
      (t ∈ u.written → (t ∈ u.cleared ↔ ¬ t.Interrupted u)) ∧
      (∀ o, u.getLast? = some (.began o) → check =
        ⟨accessCheckName endpoint t.credential, timeout, some (noResponse t.target timeout)⟩) ∧
      ∀ o p, u.getLast? = some (.ended o (.error p)) →
        check.error = some (Check.panicError (accessCheckName endpoint t.credential) p) := by
  obtain ⟨u, outcome, ended, answer, v, came, ran, untraced, late, done⟩ :=
    verifyEndpoint_came client endpoint t timeout now w
  refine ⟨u, _, ⟨max now ended, v⟩, ran, untraced, came.told, ?_, ?_⟩
  · intro o last
    obtain ⟨rfl, rfl⟩ := Prod.mk.inj (late (came.unanswered_last last))
    simp only [Check.ofOutcome, Check.ofResult, Nat.add_sub_cancel_left]
  · intro o p last
    obtain rfl := done _ (came.panicked_last last)
    rfl

/-! ### A read that never comes back -/

namespace Scripted

def unreadable : Shares where
  users := Table.empty.insert "user" "secret"
  rules := [{ operation := some "get", effect := { hang := true } }]

def visitor : RoundTrip := ⟨⟨"10.0.0.1", "One"⟩, ⟨"user", "secret"⟩, "e2e-probe-00000001.txt"⟩

theorem verifyEndpoint_uncleared :
    ∃ u check after,
      verifyEndpoint Shares.client.traced .address visitor.target 5000
        [(visitor.credential, visitor.probe)] ⟨0, ⟨[], unreadable⟩⟩ =
          some (.ok [check], ⟨5000, ⟨u, after⟩⟩) ∧
      visitor ∈ u.written ∧ visitor ∉ u.cleared ∧
      after.files = [⟨"//10.0.0.1/One", visitor.probe, probePayload⟩] := by
  have seen : (verifyEndpoint Shares.client.traced .address visitor.target 5000
      [(visitor.credential, visitor.probe)] ⟨0, ⟨[], unreadable⟩⟩).map (fun (r, after) =>
        (r.map List.length, after.now, after.world.trace.written, after.world.trace.cleared,
          after.world.world.files)) =
      some (.ok 1, 5000, [visitor], [], [⟨"//10.0.0.1/One", visitor.probe, probePayload⟩]) := by
    decide +kernel
  obtain ⟨⟨r, now, u, after⟩, ran, same⟩ := Option.map_eq_some_iff.1 seen
  simp only [Prod.mk.injEq] at same
  obtain ⟨one, rfl, written, cleared, files⟩ := same
  match r with
  | .ok [check] =>
    exact ⟨u, check, after, ran, by simp [written], by simp [cleared], files⟩

end Scripted

end ShareCheck
