import ShareCheck.Proofs.Activity

set_option autoImplicit false

namespace ShareCheck.Lifecycle

variable {τ σ : Type} {client : FixtureClient τ} {image : FixtureClient σ}
  {R : ∀ {α : Type}, Activity (Tracked τ) α → Activity (Tracked σ) α → Prop}

section

variable (composes : Activity.Composes R)
  (each : ∀ f o, R (ensureObject client f o) (ensureObject image f o))

include composes each

theorem ensureObjects_relates (f : Fixture) (outcome : Ensured) (os : List FixtureObject) :
    R (ensureObjects client f outcome os) (ensureObjects image f outcome os) := by
  induction os generalizing outcome with
  | nil => exact composes.given _
  | cons o os ih => exact composes.andThen (each f o) fun _ => ih _

theorem ensure_relates (files : Files) (f : Fixture) :
    R (ensure files client f) (ensure files image f) := by
  unfold ensure
  split
  · exact composes.given _
  · exact ensureObjects_relates composes each f _ _

theorem applyAll_relates (files : Files) (fs : List Fixture) :
    R (applyAll files client fs) (applyAll files image fs) := by
  induction fs with
  | nil => exact composes.given _
  | cons f fs ih => exact composes.andThen (ensure_relates composes each files f) fun _ => ih

end

variable (R client image) in
structure Relates : Prop extends Activity.Composes R where
  owned : ∀ f o, R (own f o) (own f o)
  taken : ∀ chosen, R (takeOut chosen) (takeOut chosen)
  ensured : ∀ o,
    R ((client.ensure o).within Tracked.inner) ((image.ensure o).within Tracked.inner)
  removed : ∀ o,
    R ((client.remove o).within Tracked.inner) ((image.remove o).within Tracked.inner)

namespace Relates

variable (relates : Relates client image R)

include relates

theorem ensureObject (f : Fixture) (o : FixtureObject) :
    R (ensureObject client f o) (ensureObject image f o) := by
  refine relates.bound (relates.ensured o) fun answer => ?_
  match answer with
  | .ok .created => exact relates.bound (relates.owned f o) fun _ => relates.given _
  | .ok .alreadyPresent => exact relates.given _
  | .error e => exact relates.given _

theorem ensure (files : Files) (f : Fixture) :
    R (ensure files client f) (ensure files image f) :=
  ensure_relates relates.toComposes relates.ensureObject files f

theorem applyAll (files : Files) (fs : List Fixture) :
    R (applyAll files client fs) (applyAll files image fs) :=
  applyAll_relates relates.toComposes relates.ensureObject files fs

theorem removeAll (os : List FixtureObject) : R (removeAll client os) (removeAll image os) := by
  induction os with
  | nil => exact relates.given _
  | cons o os ih =>
    refine relates.bound (relates.removed o) fun answer => relates.bound ih fun errors => ?_
    match answer with
    | .ok () => exact relates.given _
    | .error e => exact relates.given _

theorem remove (f : Fixture) : R (remove client f) (remove image f) := by
  refine relates.bound (relates.taken _) fun taken => ?_
  refine relates.bound (relates.removeAll _) fun errors => ?_
  match errors with
  | [] => exact relates.given _
  | _ :: _ => exact relates.given _

theorem teardown : R (teardown client) (teardown image) :=
  relates.bound (relates.taken _) fun _ => relates.removeAll _

end Relates

end ShareCheck.Lifecycle
