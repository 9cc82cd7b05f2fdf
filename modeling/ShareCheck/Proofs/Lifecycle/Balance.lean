import Mathlib.Data.Set.Insert
import Mathlib.Tactic.Tauto
import ShareCheck.Proofs.Lifecycle.Calls

set_option autoImplicit false

namespace ShareCheck

variable {σ κ : Type} {key : FixtureObject → κ} {objects : σ → Set κ}

/-- An object is created exactly if it is absent, and nothing but its creation and its removal
changes which objects there are. Objects are told apart by their keys. -/
structure FixtureClient.CreatesAbsent (client : FixtureClient σ) (key : FixtureObject → κ)
    (objects : σ → Set κ) : Prop where
  created : ∀ o m after, client.ensure o m = some (.ok (.ok .created), after) →
    key o ∉ objects m.world ∧ objects after.world = insert (key o) (objects m.world)
  present : ∀ o m after, client.ensure o m = some (.ok (.ok .alreadyPresent), after) →
    key o ∈ objects m.world ∧ objects after.world = objects m.world
  refused : ∀ o m e after, client.ensure o m = some (.ok (.error e), after) →
    objects after.world = objects m.world
  panicked : ∀ o m p after, client.ensure o m = some (.error p, after) →
    objects after.world = objects m.world
  removed : ∀ o m after, client.remove o m = some (.ok (.ok ()), after) →
    objects after.world = objects m.world \ {key o}
  unremoved : ∀ o m e after, client.remove o m = some (.ok (.error e), after) →
    objects after.world = objects m.world

structure Trace.Adds (key : FixtureObject → κ) (t : Trace) (before after : Set κ) : Prop where
  objects : after = before ∪ {k | k ∈ t.created.map key}
  fresh : ∀ o ∈ t.created, key o ∉ before
  once : (t.created.map key).Nodup
  present : ∀ o ∈ t.present, key o ∈ before ∨ key o ∈ t.created.map key
  unremoved : t.unremoved = []

theorem Trace.Adds.create {o : FixtureObject} {t : Trace} {before after : Set κ}
    (rest : t.Adds key (insert (key o) before) after) (absent : key o ∉ before) :
    Trace.Adds key (.began (.ensure o) :: .ended (.ensure o) (.ok (.ok .created)) :: t)
      before after := by
  have created : Trace.created (.began (.ensure o) ::
      .ended (.ensure o) (.ok (.ok .created)) :: t) = o :: t.created := rfl
  -- Nothing without removals can create the object again.
  have different : key o ∉ t.created.map key := by
    intro again
    obtain ⟨other, member, same⟩ := List.mem_map.1 again
    exact rest.fresh other member (by simp [same])
  refine ⟨?_, ?_, ?_, ?_, rest.unremoved⟩
  · rw [rest.objects, created]
    ext k
    simp only [Set.mem_union, Set.mem_insert_iff, Set.mem_ofPred_eq, List.map_cons, List.mem_cons]
    tauto
  · intro other member
    obtain rfl | later := List.mem_cons.1 member
    · exact absent
    · exact fun held => rest.fresh other later (Set.mem_insert_of_mem _ held)
  · exact List.nodup_cons.2 ⟨different, rest.once⟩
  · intro other member
    rw [created, List.map_cons, List.mem_cons]
    obtain (same | held) | later := rest.present other member
    · exact .inr (.inl same)
    · exact .inl held
    · exact .inr (.inr later)

theorem FixtureClient.Calls.adds {client : FixtureClient σ} {m after : Moment σ} {t : Trace}
    (contract : client.CreatesAbsent key objects) (calls : client.Calls m t after)
    (none : t.handed = []) : t.Adds key (objects m.world) (objects after.world) := by
  induction calls with
  | none =>
    exact ⟨by simp [Trace.created], by simp [Trace.created], .nil, by simp [Trace.present], rfl⟩
  | @ensure m mid after o answer t answered _ ih =>
    have rest := ih none
    obtain p | e | ⟨_ | _⟩ := answer
    next =>
      rw [contract.panicked _ _ _ _ answered] at rest
      exact ⟨rest.objects, rest.fresh, rest.once, rest.present, rest.unremoved⟩
    next =>
      rw [contract.refused _ _ _ _ answered] at rest
      exact ⟨rest.objects, rest.fresh, rest.once, rest.present, rest.unremoved⟩
    next =>
      obtain ⟨absent, grown⟩ := contract.created _ _ _ answered
      exact (grown ▸ rest).create absent
    -- What is found present is there from before, or was created in an earlier call.
    next =>
      obtain ⟨held, same⟩ := contract.present _ _ _ answered
      rw [same] at rest
      refine ⟨rest.objects, rest.fresh, rest.once, fun other member => ?_, rest.unremoved⟩
      obtain rfl | later := List.mem_cons.1 member
      · exact .inl held
      · exact rest.present other later
  | remove => cases none

structure Trace.Takes (key : FixtureObject → κ) (t : Trace) (before after : Set κ) : Prop where
  objects : after = before \ {k | k ∈ t.removed.map key}
  handed : t.handed.Perm (t.removed ++ t.unremoved.map (·.1))
  present : t.present = []

theorem FixtureClient.Calls.takes {client : FixtureClient σ} {m after : Moment σ} {t : Trace}
    (contract : client.CreatesAbsent key objects) (calls : client.Calls m t after)
    (none : t.requested = []) (answered : ∀ o p, Entry.ended (.remove o) (.error p) ∉ t) :
    t.Takes key (objects m.world) (objects after.world) := by
  induction calls with
  | none => exact ⟨by ext k; simp [Trace.removed], .refl _, rfl⟩
  | ensure => cases none
  | @remove m mid after o answer t ended _ ih =>
    have rest := ih none fun other p member =>
      answered other p (List.mem_cons_of_mem _ (List.mem_cons_of_mem _ member))
    match answer with
    | .ok (.ok ()) =>
      refine ⟨?_, rest.handed.cons o, rest.present⟩
      have removed : Trace.removed (.began (.remove o) ::
          .ended (.remove o) (.ok (.ok ())) :: t) = o :: t.removed := rfl
      rw [rest.objects, contract.removed _ _ _ ended, removed]
      ext k
      simp only [Set.mem_sdiff, Set.mem_ofPred_eq, Set.mem_singleton_iff, List.map_cons,
        List.mem_cons]
      tauto
    | .ok (.error e) =>
      rw [contract.unremoved _ _ _ _ ended] at rest
      exact ⟨rest.objects, (rest.handed.cons o).trans List.perm_middle.symm, rest.present⟩
    | .error p => exact absurd (by simp) (answered o p)

theorem restored {before : Set κ} {created removed left : List κ}
    (fresh : ∀ k ∈ created, k ∉ before) (once : created.Nodup)
    (same : created.Perm (removed ++ left)) :
    (before ∪ {k | k ∈ created}) \ {k | k ∈ removed} = before ∪ {k | k ∈ left} := by
  -- No key is both removed and left, since each was created once.
  have apart := List.nodup_append.1 (same.nodup_iff.1 once)
  ext k
  have either : k ∈ created ↔ k ∈ removed ∨ k ∈ left := by simpa using same.mem_iff (a := k)
  have foreign := fresh k
  have gone : k ∈ removed → k ∉ left := fun first second => apart.2.2 k first k second rfl
  simp only [Set.mem_sdiff, Set.mem_union, Set.mem_ofPred_eq]
  tauto

end ShareCheck
