import ShareCheck.Proofs.Access.Lanes
import ShareCheck.Proofs.Poll

set_option autoImplicit false

namespace ShareCheck

variable {σ α β : Type}

namespace Activity

variable {most more : Nat} {m : Moment σ}

/-- Is over after at most so much time, if only by a panic. -/
def Ends (most : Nat) (x : Activity σ α) (m : Moment σ) : Prop :=
  ∃ r after, x m = some (r, after) ∧ after.now ≤ m.now + most

def Prompt (most : Nat) (x : Activity σ α) (m : Moment σ) : Prop :=
  ∃ a after, x m = some (.ok a, after) ∧ after.now ≤ m.now + most

theorem Prompt.ends {x : Activity σ α} (prompt : x.Prompt most m) : x.Ends most m := by
  obtain ⟨a, after, ran, intime⟩ := prompt
  exact ⟨.ok a, after, ran, intime⟩

theorem Ends.mono {x : Activity σ α} (ends : x.Ends most m) (le : most ≤ more) :
    x.Ends more m := by
  obtain ⟨r, after, ran, intime⟩ := ends
  exact ⟨r, after, ran, by omega⟩

theorem Prompt.mono {x : Activity σ α} (prompt : x.Prompt most m) (le : most ≤ more) :
    x.Prompt more m := by
  obtain ⟨a, after, ran, intime⟩ := prompt
  exact ⟨a, after, ran, by omega⟩

theorem pure_prompt (a : α) (most : Nat) : (pure a : Activity σ α).Prompt most m :=
  ⟨a, m, rfl, Nat.le_add_right _ _⟩

theorem sleep_prompt (delay : Nat) : (sleep delay : Activity σ Unit).Prompt delay m :=
  ⟨(), _, rfl, Nat.le_refl _⟩

theorem change_prompt (f : σ → α × σ) : (change f).Prompt 0 m := ⟨_, _, rfl, Nat.le_refl _⟩

theorem bind_ends {x : Activity σ α} {f : α → Activity σ β} (first : x.Ends most m)
    (rest : ∀ a mid, x m = some (.ok a, mid) → (f a).Ends more mid) :
    (x >>= f).Ends (most + more) m := by
  obtain ⟨r, mid, begun, soon⟩ := first
  cases r with
  | ok a =>
    obtain ⟨r, after, ended, later⟩ := rest a mid begun
    exact ⟨r, after, bind_some.2 (.inl ⟨a, mid, begun, ended⟩), by omega⟩
  | error p => exact ⟨.error p, mid, bind_some.2 (.inr ⟨p, begun, rfl⟩), by omega⟩

theorem bind_prompt {x : Activity σ α} {f : α → Activity σ β} (first : x.Prompt most m)
    (rest : ∀ a mid, x m = some (.ok a, mid) → (f a).Prompt more mid) :
    (x >>= f).Prompt (most + more) m := by
  obtain ⟨a, mid, begun, soon⟩ := first
  obtain ⟨b, after, ended, later⟩ := rest a mid begun
  exact ⟨b, after, bind_ok.2 ⟨a, mid, begun, ended⟩, by omega⟩

theorem andThen_ends {x : Activity σ (Except Error α)} {f : α → Activity σ (Except Error β)}
    (first : x.Ends most m)
    (rest : ∀ a mid, x m = some (.ok (.ok a), mid) → (f a).Ends more mid) :
    (x.andThen f).Ends (most + more) m := by
  refine bind_ends first fun answer mid begun => ?_
  match answer with
  | .ok a => exact rest a mid begun
  | .error e => exact (pure_prompt _ more).ends

theorem bind_pure_prompt {x : Activity σ α} (f : α → β) (prompt : x.Prompt most m) :
    (x >>= fun a => pure (f a)).Prompt most m :=
  bind_prompt prompt fun a _ _ => pure_prompt (f a) 0

theorem andThen_pure_ends {x : Activity σ (Except Error α)} (f : α → Except Error β)
    (ends : x.Ends most m) : (x.andThen fun a => Activity.pure (f a)).Ends most m :=
  andThen_ends ends fun a _ _ => (pure_prompt (f a) 0).ends

theorem check_prompt {work : Activity σ (Except Error Unit)} (name : String)
    (ends : work.Ends most m) : (Check.run name work).Prompt most m := by
  obtain ⟨outcome, after, ran, intime⟩ := ends
  exact ⟨_, after, check_some.2 ⟨outcome, ran, rfl⟩, intime⟩

end Activity

theorem waitFor_ends {interval : Nat} (pos : 0 < interval) (description : String)
    (timeout reach : Nat) (probe : Request σ Probe) (m : Moment σ) :
    (waitFor description timeout interval probe reach).Ends (timeout + interval) m := by
  unfold Activity.Ends
  by_cases within : timeout + interval ≤ reach
  next =>
    have paced : probe.Paced interval := fun none => absurd none (Nat.ne_of_gt pos)
    rw [waitFor_within description within, ← Nat.add_assoc]
    exact pollUntil_completes paced (Nat.le_add_right m.now timeout)
  next =>
    have beyond := Nat.lt_of_not_le within
    exact ⟨.error beyondReach, m, waitFor_beyond description beyond, Nat.le_add_right ..⟩

def Strand.Over (now : Nat) : Strand σ → Prop
  | .done ended _ => ended ≤ now
  | _ => True

theorem Strand.Over.verdict {stop limit : Nat} {strand : Strand σ} (spent : strand.Over stop)
    (stopped : stop ≤ limit) (late : Error) : (strand.verdict limit late).1 ≤ limit := by
  match strand with
  | .done ended outcome => exact Nat.le_trans spent stopped
  | .lost | .waiting _ _ _ => exact Nat.le_refl limit

namespace RoundTrip

theorem proceed_over (client : ShareClient σ) (t : RoundTrip) (now : Nat) (s : Stage) (w : σ) :
    (t.proceed client now s w).1.Over now := by
  fun_induction proceed client t now s w with
  | case1 | case5 => trivial
  | case2 s w finish v next later u landed begun ih => exact ih
  | case3 | case4 => exact Nat.le_refl now

theorem wake_over (client : ShareClient σ) (t : RoundTrip) (now : Nat) {strand : Strand σ} (w : σ)
    (spent : strand.Over now) : (t.wake client now strand w).1.Over now := by
  fun_cases wake client t now strand w with
  | case1 s landing finish w due next later u landed => exact t.proceed_over client now next u
  | case2 | case3 => exact Nat.le_refl now
  | case4 | case5 => exact spent

end RoundTrip

theorem Lane.joint_over (clients : Nat → ShareClient σ) (all : List RoundTrip) :
    Joint clients all fun now _ lanes _ => ∀ l ∈ lanes, l.strand.Over now where
  reordered same spent l member := spent l (same.mem_iff.2 member)
  passes {now later lanes w} le _ spent l member := by
    have before := spent l member
    match strand : l.strand with
    | .done ended outcome =>
      rw [strand] at before
      exact Nat.le_trans before le
    | .lost | .waiting _ _ _ => trivial
  begins {now t position pending lanes w} _ spent l member := by
    obtain rfl | member := List.mem_cons.1 member
    next => exact t.proceed_over _ now .listing w
    next => exact spent l member
  wakes {now t position strand lanes w} _ spent l member := by
    obtain rfl | member := List.mem_cons.1 member
    next => exact t.wake_over _ now w (spent _ (List.mem_cons_self ..))
    next => exact spent l (List.mem_cons_of_mem _ member)

theorem verifyEndpoint_prompt (client : ShareClient σ) (endpoint : Endpoint) (target : Target)
    (timeout : Nat) (credentials : List (Credential × String)) (m : Moment σ) :
    (verifyEndpoint client endpoint target timeout credentials).Prompt timeout m := by
  rw [← verifyEach_const]
  obtain ⟨-, stop, -, stopped, spent⟩ := Lane.conclude_joint
    (Lane.joint_over (fun _ => client) (tripsOf target credentials))
    (Nat.le_add_right m.now timeout) nofun
  refine ⟨_, _, rfl, ?_⟩
  have folded := foldl_max_le (Nat.le_add_right m.now timeout)
    (List.forall_mem_map.2 fun l member =>
      Strand.Over.verdict (spent l member) stopped (noResponse target timeout))
  rwa [List.foldl_map] at folded

end ShareCheck
