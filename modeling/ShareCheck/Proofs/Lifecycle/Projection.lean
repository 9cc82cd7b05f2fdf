import ShareCheck.Proofs.Lifecycle.Relation
import ShareCheck.Proofs.Projection

set_option autoImplicit false

namespace ShareCheck

variable {τ σ : Type} {h : View τ σ}

structure FixtureClient.Lifts (h : View τ σ) (client : FixtureClient τ) (image : FixtureClient σ) :
    Prop where
  ensure : ∀ o, (client.ensure o).Lifts h (image.ensure o)
  remove : ∀ o, (client.remove o).Lifts h (image.remove o)

theorem FixtureClient.traced_lifts (client : FixtureClient σ) :
    client.traced.Lifts (.of Traced.world) client :=
  ⟨fun _ => Activity.traced_lifts _, fun _ => Activity.traced_lifts _⟩

namespace Lifecycle

open Activity

theorem lifts_relates {client : FixtureClient τ} {image : FixtureClient σ}
    (lifts : client.Lifts h image) :
    Relates client image fun x y => x.Lifts (Tracked.map h) y where
  toComposes := lifts_composes
  owned _ _ := change_lifts fun _ => rfl
  taken _ := change_lifts fun _ => rfl
  ensured o := within_lifts (lifts.ensure o)
  removed o := within_lifts (lifts.remove o)

end Lifecycle

end ShareCheck
