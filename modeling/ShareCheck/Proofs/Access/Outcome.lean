import ShareCheck.Proofs.Access.Cleanup

set_option autoImplicit false

namespace ShareCheck

variable {σ : Type}

namespace RoundTrip

variable {t : RoundTrip} {s : Stage} {u : Trace} {r : Except Error Unit}

def asked (t : RoundTrip) (s : Stage) (answer : Except Error (t.operation s).Answer) : Trace :=
  [.began (t.operation s), .ended (t.operation s) (.ok answer)]

def entered (t : RoundTrip) (names : List String) : Trace :=
  t.asked .listing (.ok names) ++ t.asked .writing (.ok ())

inductive Concludes (t : RoundTrip) : Trace → Except Error Unit → Prop
  | unlisted {e : Error} : Concludes t (t.asked .listing (.error e)) (.error e)
  | unwritten {names : List String} {e : Error} :
      Concludes t (t.asked .listing (.ok names) ++ t.asked .writing (.error e)) (.error e)
  | unseen {names : List String} {e : Error} {cleanup : Except Error Unit} :
      Concludes t
        (t.entered names ++ t.asked .relisting (.error e) ++ t.asked (.cleaning e) cleanup)
        (.error e)
  | missing {names listed : List String} {cleanup : Except Error Unit} : t.probe ∉ listed →
      Concludes t
        (t.entered names ++ t.asked .relisting (.ok listed) ++
          t.asked (.cleaning t.missing) cleanup)
        (.error (.access .operation t.target.unc (t.probe ++ " missing from listing after put")))
  | unread {names listed : List String} {e : Error} {cleanup : Except Error Unit} :
      t.probe ∈ listed →
      Concludes t
        (t.entered names ++ t.asked .relisting (.ok listed) ++ t.asked .reading (.error e) ++
          t.asked (.cleaning e) cleanup)
        (.error e)
  | differing {names listed : List String} {contents : Text.Bytes} {cleanup : Except Error Unit} :
      t.probe ∈ listed → ¬ probePayload <:+: contents →
      Concludes t
        (t.entered names ++ t.asked .relisting (.ok listed) ++ t.asked .reading (.ok contents) ++
          t.asked (.cleaning (t.differs contents)) cleanup)
        (.error (.access .operation t.target.unc (t.probe ++
          s!" read back {contents.length} bytes that differ from what was written")))
  | verified {names listed : List String} {contents : Text.Bytes} {removal : Except Error Unit} :
      t.probe ∈ listed → probePayload <:+: contents →
      Concludes t
        (t.entered names ++ t.asked .relisting (.ok listed) ++ t.asked .reading (.ok contents) ++
          t.asked .removing removal)
        removal

/-- The calls that lead to a stage, one by one. Those that lead to a clean-up have decided already
what the round trip comes to. -/
def Leads (t : RoundTrip) : Stage → Trace → Prop
  | .listing, u => u = []
  | .writing, u => ∃ names : List String, u = t.asked .listing (.ok names)
  | .relisting, u => ∃ names : List String, u = t.entered names
  | .reading, u => ∃ names listed : List String, t.probe ∈ listed ∧
      u = t.entered names ++ t.asked .relisting (.ok listed)
  | .removing, u => ∃ (names listed : List String) (contents : Text.Bytes),
      t.probe ∈ listed ∧ probePayload <:+: contents ∧
        u = t.entered names ++ t.asked .relisting (.ok listed) ++ t.asked .reading (.ok contents)
  | .cleaning e, u => ∀ cleanup : Except Error Unit,
      Concludes t (u ++ t.asked (.cleaning e) cleanup) (.error e)

theorem Leads.next {answer : Except Error (t.operation s).Answer} {after : Stage}
    {later : after.rank < s.rank} (leads : t.Leads s u) (led : t.progress s answer = .next after later) :
    t.Leads after (u ++ t.asked s answer) := by
  cases s with
  | listing =>
    obtain rfl := leads
    cases answer with
    | ok names =>
      cases led
      exact ⟨names, rfl⟩
    | error e => cases led
  | writing =>
    obtain ⟨names, rfl⟩ := leads
    cases answer with
    | ok written =>
      cases led
      exact ⟨names, rfl⟩
    | error e => cases led
  | relisting =>
    obtain ⟨names, rfl⟩ := leads
    cases answer with
    | ok listed =>
      simp only [progress, afterRelisting] at led
      split at led
      next found =>
        cases led
        exact ⟨names, listed, List.contains_iff_mem.1 found, rfl⟩
      next absent =>
        cases led
        exact fun cleanup => .missing fun found => absent (List.contains_iff_mem.2 found)
    | error e =>
      cases led
      exact fun cleanup => .unseen
  | reading =>
    obtain ⟨names, listed, found, rfl⟩ := leads
    cases answer with
    | ok contents =>
      simp only [progress, afterReading] at led
      split at led
      next stands =>
        cases led
        exact ⟨names, listed, contents, found, (Text.occurs_iff _ _).1 stands, rfl⟩
      next differs =>
        cases led
        exact fun cleanup => .differing found fun stands =>
          differs ((Text.occurs_iff _ _).2 stands)
    | error e =>
      cases led
      exact fun cleanup => .unread found
  | removing =>
    cases answer with
    | ok written => cases led
    | error e => cases led
  | cleaning e => cases led

theorem Leads.finished {answer : Except Error (t.operation s).Answer} (leads : t.Leads s u)
    (led : t.progress s answer = .finished r) : t.Concludes (u ++ t.asked s answer) r := by
  cases s with
  | listing =>
    obtain rfl := leads
    cases answer with
    | ok names => cases led
    | error e =>
      cases led
      exact .unlisted
  | writing =>
    obtain ⟨names, rfl⟩ := leads
    cases answer with
    | ok written => cases led
    | error e =>
      cases led
      exact .unwritten
  | relisting =>
    cases answer with
    | ok listed =>
      simp only [progress, afterRelisting] at led
      split at led <;> cases led
    | error e => cases led
  | reading =>
    cases answer with
    | ok contents =>
      simp only [progress, afterReading] at led
      split at led <;> cases led
    | error e => cases led
  | removing =>
    obtain ⟨names, listed, contents, found, stands, rfl⟩ := leads
    cases answer with
    | ok written =>
      cases led
      exact .verified found stands
    | error e =>
      cases led
      exact .verified found stands
  | cleaning e =>
    cases led
    exact leads answer

theorem Led.leads (led : Led t s u) : t.Leads s u := by
  induction led with
  | listing => rfl
  | later led moves ih =>
    have leads := ih.next moves
    rwa [List.append_assoc]

theorem Concludes.passed (concludes : t.Concludes u r) :
    r = .ok () ↔ ∃ (names listed : List String) (contents : Text.Bytes),
      t.probe ∈ listed ∧ probePayload <:+: contents ∧
        u = t.entered names ++ t.asked .relisting (.ok listed) ++
          t.asked .reading (.ok contents) ++ t.asked .removing (.ok ()) := by
  cases concludes with
  | verified found stands =>
    refine ⟨?_, ?_⟩
    · rintro rfl
      exact ⟨_, _, _, found, stands, rfl⟩
    · rintro ⟨names, listed, contents, -, -, same⟩
      have last := congrArg List.getLast? same
      simp only [asked, List.getLast?_append_cons, List.getLast?_cons_cons, List.getLast?_singleton,
        Option.some.injEq, Entry.ended.injEq, heq_eq_eq, true_and] at last
      exact Except.ok.inj last
  | differing found differs =>
    refine ⟨nofun, ?_⟩
    rintro ⟨names, listed, contents, -, stands, same⟩
    -- The bytes read back are told by the trace.
    simp only [entered, asked, List.cons_append, List.nil_append, List.cons.injEq,
      Entry.ended.injEq, heq_eq_eq, true_and, Except.ok.injEq] at same
    obtain ⟨-, -, told, -⟩ := same
    rw [Except.ok.inj told] at differs
    exact absurd stands differs
  | unlisted | unwritten | unseen | missing absent | unread found => simp [entered, asked]

end RoundTrip

theorem verifyEndpoint_concludes (client : ShareClient σ) (endpoint : Endpoint) (t : RoundTrip)
    (timeout now : Nat) (w : σ) :
    ∃ u check after,
      verifyEndpoint client.traced endpoint t.target timeout [(t.credential, t.probe)]
        ⟨now, ⟨[], w⟩⟩ = some (.ok [check], ⟨after.now, ⟨u, after.world⟩⟩) ∧
      verifyEndpoint client endpoint t.target timeout [(t.credential, t.probe)] ⟨now, w⟩ =
        some (.ok [check], after) ∧
      ((∀ o p, Entry.ended o (.error p) ∉ u) → (∀ o, u.getLast? ≠ some (.began o)) → ∃ r,
        check = Check.ofResult (accessCheckName endpoint t.credential) (after.now - now) r ∧
        t.Concludes u r ∧
        (r = .ok () ↔ ∃ (names listed : List String) (contents : Text.Bytes),
          t.probe ∈ listed ∧ probePayload <:+: contents ∧
            u = t.entered names ++ t.asked .relisting (.ok listed) ++
              t.asked .reading (.ok contents) ++ t.asked .removing (.ok ()))) := by
  obtain ⟨u, outcome, ended, answer, v, came, ran, untraced, -, done⟩ :=
    verifyEndpoint_came client endpoint t timeout now w
  refine ⟨u, _, ⟨max now ended, v⟩, ran, untraced, fun answered inTime => ?_⟩
  cases came with
  | unanswered led => exact absurd List.getLast?_concat (inTime _)
  | panicked led => exact absurd (List.mem_append_right _ (List.mem_singleton_self _)) (answered _ _)
  | @finished s u answer r led ends =>
    obtain rfl := done _ rfl
    have concludes := led.leads.finished ends
    rw [RoundTrip.asked, ← List.singleton_append, ← List.append_assoc] at concludes
    refine ⟨r, ?_, concludes, concludes.passed⟩
    simp only [Check.ofOutcome]
    congr 1
    omega

namespace Scripted

def denied : Error := .access .operation "//10.0.0.1/One" "NT_STATUS_ACCESS_DENIED"

def garbled : Shares where
  users := Table.empty.insert "user" "secret"
  rules := [{ operation := some "get", data := some [1, 2] },
    { operation := some "remove", effect := { error := some denied } }]

def landed? : Entry → Option Bool
  | .began _ => none
  | .ended _ answer => some answer.isOk

theorem verifyEndpoint_concludes_garbled :
    ∃ u check after,
      verifyEndpoint Shares.client.traced .address visitor.target 5000
        [(visitor.credential, visitor.probe)] ⟨0, ⟨[], garbled⟩⟩ =
          some (.ok [check], ⟨0, ⟨u, after⟩⟩) ∧
      visitor.Concludes u (.error (visitor.differs [1, 2])) ∧
      check.error = some (visitor.differs [1, 2]) := by
  obtain ⟨u, check, after, ran, -, concludes⟩ :=
    verifyEndpoint_concludes Shares.client .address visitor 5000 0 garbled
  have seen : (verifyEndpoint Shares.client.traced .address visitor.target 5000
      [(visitor.credential, visitor.probe)] ⟨0, ⟨[], garbled⟩⟩).map (fun (r, after) =>
        (r.map (·.map Check.error), after.now, after.world.trace.map landed?)) =
      some (.ok [some (visitor.differs [1, 2])], 0,
        [none, some true, none, some true, none, some true, none, some true, none, some true]) := by
    decide +kernel
  rw [ran] at seen
  simp only [Option.map_some, Option.some.injEq, Prod.mk.injEq, Except.map, Except.ok.injEq,
    List.map_cons, List.map_nil, List.cons.injEq, and_true] at seen
  obtain ⟨failed, stopped, calls⟩ := seen
  obtain ⟨r, same, ended, -⟩ := concludes
    (fun o p member => absurd (calls ▸ List.mem_map_of_mem (f := landed?) member) (by
      simp [landed?, Except.isOk, Except.toBool]))
    (fun o last => by
      have mapped := congrArg List.getLast? calls
      simp [last, landed?] at mapped)
  refine ⟨u, check, after.world, stopped ▸ ran, ?_, failed⟩
  match r with
  | .ok () =>
    rw [same] at failed
    cases failed
  | .error e =>
    rw [same] at failed
    cases failed
    exact ended

end Scripted

end ShareCheck
