import ShareCheck.Proofs.Lifecycle.Calls

set_option autoImplicit false

namespace ShareCheck

variable {σ τ α β : Type}

namespace Trace

def Refused (u : Trace) : Prop := ∃ (o : Operation) (e : Error), .ended o (.ok (.error e)) ∈ u

@[simp] theorem not_refused_nil : ¬ Refused [] := by
  simp [Refused]

@[simp] theorem refused_append (u v : Trace) : Refused (u ++ v) ↔ u.Refused ∨ v.Refused := by
  simp only [Refused, List.mem_append, exists_or]

@[simp] theorem refused_began (o : Operation) (u : Trace) :
    Refused (.began o :: u) ↔ u.Refused := by
  simp [Refused]

theorem refused_ended (o : Operation) (answer : Except Panic (Except Error o.Answer)) (u : Trace) :
    Refused (.ended o answer :: u) ↔ (∃ e, answer = .ok (.error e)) ∨ u.Refused := by
  constructor
  next =>
    rintro ⟨o, e, member⟩
    cases member with
    | head => exact .inl ⟨e, rfl⟩
    | tail _ member => exact .inr ⟨o, e, member⟩
  next =>
    rintro (⟨e, rfl⟩ | ⟨o, e, member⟩)
    · exact ⟨o, e, .head u⟩
    · exact ⟨o, e, .tail _ member⟩

end Trace

namespace Activity

def Candid (trace : τ → Trace) (x : Activity τ (Except Error α)) : Prop :=
  ∀ m r after, x m = some (r, after) →
    ∃ u, trace after.world = trace m.world ++ u ∧ (u.Refused → ∀ a, r ≠ .ok (.ok a))

variable {trace : τ → Trace}

theorem pure_candid (answer : Except Error α) : (pure answer : Activity τ _).Candid trace := by
  intro m r after ran
  obtain ⟨-, rfl⟩ := pure_some.1 ran
  exact ⟨[], by simp⟩

theorem andThen_candid {x : Activity τ (Except Error α)} {f : α → Activity τ (Except Error β)}
    (first : x.Candid trace) (rest : ∀ a, (f a).Candid trace) : (x.andThen f).Candid trace := by
  intro m r after ran
  obtain ⟨a, mid, begun, ended⟩ | ⟨e, begun, rfl⟩ | ⟨p, begun, rfl⟩ := andThen_some.1 ran
  next =>
    obtain ⟨u, early, fails⟩ := first m _ mid begun
    obtain ⟨v, late, stays⟩ := rest a mid r after ended
    refine ⟨u ++ v, by rw [late, early, List.append_assoc], fun refused => ?_⟩
    obtain refused | refused := (Trace.refused_append u v).1 refused
    · exact absurd rfl (fails refused a)
    · exact stays refused
  next =>
    obtain ⟨u, early, -⟩ := first m _ after begun
    exact ⟨u, early, fun _ => nofun⟩
  next =>
    obtain ⟨u, early, -⟩ := first m _ after begun
    exact ⟨u, early, fun _ => nofun⟩

theorem perform_candid {o : Operation} (c : Request σ o.Answer) :
    (perform (Call.traced o c)).Candid Traced.trace := by
  intro m r after ran
  refine ⟨_, perform_traced ran, ?_⟩
  simp only [Trace.refused_began, Trace.refused_ended, Trace.not_refused_nil, or_false]
  rintro ⟨e, rfl⟩
  exact nofun

end Activity

theorem FixtureClient.Calls.unremoved_ne_nil {client : FixtureClient σ} {m after : Moment σ}
    {t : Trace} (calls : client.Calls m t after) (none : t.requested = []) (refused : t.Refused) :
    t.unremoved ≠ [] := by
  induction calls with
  | none => exact absurd refused Trace.not_refused_nil
  | ensure => cases none
  | @remove m mid after o answer t _ _ ih =>
    rw [Trace.refused_began, Trace.refused_ended] at refused
    obtain ⟨e, rfl⟩ | refused := refused
    next => exact List.cons_ne_nil _ _
    next =>
      have later : t.unremoved ≠ [] := ih none refused
      match answer with
      | .ok (.ok ()) => exact later
      | .ok (.error e) => exact List.cons_ne_nil _ _
      | .error p => exact later

namespace Lifecycle

variable (client : FixtureClient σ)

def trace (t : Tracked (Traced σ)) : Trace := t.world.trace

theorem ensureObject_candid (f : Fixture) (o : FixtureObject) :
    (ensureObject client.traced f o).Candid trace := by
  intro m r after ran
  obtain ⟨answer, made, -, rfl⟩ := ensureObject_some ran
  refine ⟨_, made.trace, ?_⟩
  simp only [Trace.refused_began, Trace.refused_ended, Trace.not_refused_nil, or_false]
  rintro ⟨e, rfl⟩
  exact nofun

theorem ensureObjects_candid (f : Fixture) (outcome : Ensured) (os : List FixtureObject) :
    (ensureObjects client.traced f outcome os).Candid trace := by
  induction os generalizing outcome with
  | nil => exact Activity.pure_candid _
  | cons o os ih => exact Activity.andThen_candid (ensureObject_candid client f o) fun _ => ih _

theorem ensure_candid (files : Files) (f : Fixture) :
    (ensure files client.traced f).Candid trace := by
  unfold ensure
  split
  · exact Activity.pure_candid _
  · exact ensureObjects_candid client f _ _

theorem applyAll_candid (files : Files) (fs : List Fixture) :
    (applyAll files client.traced fs).Candid trace := by
  induction fs with
  | nil => exact Activity.pure_candid _
  | cons f fs ih => exact Activity.andThen_candid (ensure_candid client files f) fun _ => ih

variable {client}

theorem GaveUp.errors_ne_nil {chosen : OwnedObject → Bool} {m after : Moment (Tracked (Traced σ))}
    {t : Trace} {errors : List Error} (gone : GaveUp client chosen m t errors after)
    (refused : t.Refused) : errors ≠ [] := by
  have some := gone.made.calls.unremoved_ne_nil gone.requested refused
  simpa [gone.errors] using some

end Lifecycle

end ShareCheck
