import ShareCheck.Proofs.Lifecycle.Calls

set_option autoImplicit false

namespace ShareCheck

variable {σ α β : Type} {I : σ → Prop}

namespace Activity

def Settles (I : σ → Prop) (x : Activity σ α) : Prop :=
  ∀ m, I m.world → ∃ a after, x m = some (.ok a, after) ∧ I after.world

theorem pure_settles (a : α) : (pure a : Activity σ α).Settles I := fun m holds => ⟨a, m, rfl, holds⟩

theorem change_settles {f : σ → α × σ} (kept : ∀ w, I w → I (f w).2) : (change f).Settles I :=
  fun m holds => ⟨_, _, rfl, kept m.world holds⟩

theorem bind_settles {x : Activity σ α} {f : α → Activity σ β} (first : x.Settles I)
    (rest : ∀ a, (f a).Settles I) : (x >>= f).Settles I := by
  intro m holds
  obtain ⟨a, mid, begun, between⟩ := first m holds
  obtain ⟨b, after, ended, last⟩ := rest a mid between
  exact ⟨b, after, bind_ok.2 ⟨a, mid, begun, ended⟩, last⟩

theorem settles_composes : Composes fun {α} (x _ : Activity σ α) => x.Settles I :=
  ⟨pure_settles, bind_settles⟩

theorem tracked_settles {x : Activity σ α} (inner : x.Settles I) :
    (x.within Tracked.inner).Settles fun t => I t.world := by
  intro m holds
  obtain ⟨a, after, ran, kept⟩ := inner ⟨m.now, m.world.world⟩ holds
  exact ⟨a, _, tracked_some.2 ⟨after, ran, rfl⟩, kept⟩

theorem owning_settles {x : Activity (Tracked σ) α} (inner : x.Settles fun t => I t.world)
    (owned : List OwnedObject) : (x.owning owned).Settles I := by
  intro m holds
  obtain ⟨a, after, ran, kept⟩ := inner ⟨m.now, ⟨owned, m.world⟩⟩ holds
  exact ⟨_, ⟨after.now, after.world.world⟩, owning_some.2 ⟨_, after.world.owned, ran, rfl⟩, kept⟩

theorem check_settles (name : String) {work : Activity σ (Except Error Unit)}
    (settles : work.Settles I) : (Check.run name work).Settles I := by
  intro m holds
  obtain ⟨outcome, after, ran, kept⟩ := settles m holds
  exact ⟨_, after, check_some.2 ⟨.ok outcome, ran, rfl⟩, kept⟩

def SettlesIn (I : σ → Prop) (most : Nat) (x : Activity σ α) : Prop :=
  ∀ m, I m.world → ∃ a after, x m = some (.ok a, after) ∧ I after.world ∧ after.now ≤ m.now + most

theorem SettlesIn.traced {o : Operation} {x : Activity σ (Except Error o.Answer)} {most : Nat}
    (settles : x.SettlesIn I most) : (Activity.traced o x).Settles fun t => I t.world := by
  intro m holds
  obtain ⟨answer, after, ran, kept, -⟩ := settles ⟨m.now, m.world.world⟩ holds
  exact ⟨answer, _, by simp only [Activity.traced, ran]; rfl, kept⟩

end Activity

structure FixtureClient.Prompt (I : σ → Prop) (most : Nat) (client : FixtureClient σ) : Prop where
  ensure : ∀ o, (client.ensure o).SettlesIn I most
  remove : ∀ o, (client.remove o).SettlesIn I most

variable {client : FixtureClient σ} {most : Nat}

theorem FixtureClient.Prompt.relates (prompt : client.Prompt I most) :
    Lifecycle.Relates client.traced client.traced
      fun x _ => x.Settles fun t => I t.world.world where
  toComposes := Activity.settles_composes
  owned _ _ := Activity.change_settles fun _ => id
  taken _ := Activity.change_settles fun _ => id
  ensured o := Activity.tracked_settles (I := fun t : Traced σ => I t.world)
    (Activity.SettlesIn.traced (o := .ensure o) (prompt.ensure o))
  removed o := Activity.tracked_settles (I := fun t : Traced σ => I t.world)
    (Activity.SettlesIn.traced (o := .remove o) (prompt.remove o))

theorem FixtureClient.Calls.paced {m after : Moment σ} {t : Trace} (calls : client.Calls m t after)
    (prompt : client.Prompt I most) (holds : I m.world) :
    after.now ≤ m.now + most * (t.requested.length + t.handed.length) := by
  induction calls with
  | none => exact Nat.le_add_right _ _
  | @ensure m mid after o answer t answered _ ih =>
    obtain ⟨given, last, ran, kept, soon⟩ := prompt.ensure o m holds
    cases answered.symm.trans ran
    have later := ih kept
    change _ ≤ _ + most * (t.requested.length + 1 + t.handed.length)
    rw [Nat.add_right_comm, Nat.mul_succ]
    omega
  | @remove m mid after o answer t answered _ ih =>
    obtain ⟨given, last, ran, kept, soon⟩ := prompt.remove o m holds
    cases answered.symm.trans ran
    have later := ih kept
    change _ ≤ _ + most * (t.requested.length + (t.handed.length + 1))
    rw [← Nat.add_assoc, Nat.mul_succ]
    omega

def declared (files : Files) (fs : List Fixture) : List FixtureObject :=
  fs.flatMap fun f => (f.load files).toOption.getD []

theorem requested_declared {files : Files} {fs : List Fixture} {parts : List Trace}
    (length : parts.length ≤ fs.length)
    (requested : ∀ part ∈ fs.zip parts,
      ∃ os, part.1.load files = .ok os ∧ part.2.requested <+: os) :
    (Trace.requested parts.flatten).Sublist (declared files fs) := by
  induction parts generalizing fs with
  | nil => exact List.nil_sublist _
  | cons t parts ih =>
    match fs with
    | f :: fs =>
      obtain ⟨os, loaded, first⟩ := requested (f, t) (List.mem_cons_self ..)
      have rest := ih (Nat.le_of_succ_le_succ length) fun part member =>
        requested part (List.mem_cons_of_mem _ member)
      rw [List.flatten_cons, Trace.requested_append, declared, List.flatMap_cons, loaded]
      exact first.sublist.append rest

end ShareCheck
