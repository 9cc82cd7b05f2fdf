import ShareCheck.Proofs.Lifecycle.Balance
import ShareCheck.Proofs.Lifecycle.Ownership
import ShareCheck.Proofs.Scenario.Steps
import ShareCheck.Scripted.World

set_option autoImplicit false

namespace ShareCheck.Scripted

variable {σ α : Type}

theorem Effect.before_cases {e : Effect} {work : σ → Except Error α × σ} {delay : Nat}
    {finish : σ → Except Panic (Except Error α) × σ} (lands : e.before work = .lands delay finish)
    (w : σ) :
    finish w = (.ok (work w).1, (work w).2) ∨ (∃ p, finish w = (.error p, w)) ∨
      ∃ error, finish w = (.ok (.error error), w) := by
  unfold Effect.before at lands
  split at lands
  next => cases lands
  next =>
    simp only [Flight.lands.injEq] at lands
    obtain ⟨-, rfl⟩ := lands
    match e.panic, e.error with
    | some p, _ => exact .inr (.inl ⟨p, rfl⟩)
    | none, some error => exact .inr (.inr ⟨error, rfl⟩)
    | none, none => exact .inl rfl

theorem answering_keeps {I : σ → Prop} {c : Request σ α} (begins : ∀ now w, I w → I (c now w).2)
    (answers : ∀ now w, ∃ (e : Effect) (a : α), (c now w).1 = e.before fun w => (.ok a, w)) :
    c.Keeps I where
  beginning := begins
  landing now w delay finish lands v holds := by
    obtain ⟨e, a, same⟩ := answers now w
    obtain done | ⟨p, done⟩ | ⟨error, done⟩ := Effect.before_cases (same.symm.trans lands) v
    all_goals rwa [done]

theorem performed {τ : Type} {part : Part τ σ} {c : Call σ α} {m after : Moment τ}
    {r : Except Panic α} (ran : (Activity.perform c).within part m = some (r, after)) :
    ∃ delay finish w, c m.now (part.get m.world) = (.lands delay finish, w) ∧
      r = (finish w).1 ∧ after.world = part.put (finish w).2 m.world := by
  unfold Activity.within Activity.perform at ran
  match begun : c m.now (part.get m.world) with
  | (.never, w) => simp [begun] at ran
  | (.lands delay finish, w) =>
    simp only [begun, Option.some.injEq, Prod.mk.injEq] at ran
    obtain ⟨rfl, rfl⟩ := ran
    exact ⟨delay, finish, w, rfl, rfl, rfl⟩

namespace World

theorem within_keeps {names : Set String} {c : Call Cluster α}
    (kept : c.Keeps fun c => {name | c.holds name = true} = names) :
    (c.within clusterPart).Keeps fun w => {name | w.cluster.holds name = true} = names where
  beginning now w holds := kept.beginning now w.cluster holds
  landing now w delay finish lands v holds := by
    unfold Call.within at lands
    match begun : c now (clusterPart.get w) with
    | (.never, _) => simp [begun, Flight.within] at lands
    | (.lands _ done, d) =>
      simp only [begun, Flight.within, Flight.lands.injEq] at lands
      obtain ⟨-, rfl⟩ := lands
      exact (kept.lands begun).2 v.cluster holds

theorem beside_keeps {names : Set String} {c : Call Shares α} :
    (c.within sharesPart).Keeps fun w => {name | w.cluster.holds name = true} = names where
  beginning _ _ := id
  landing now w delay finish lands v holds := by
    unfold Call.within at lands
    match begun : c now (sharesPart.get w) with
    | (.never, _) => simp [begun, Flight.within] at lands
    | (.lands _ done, s) =>
      simp only [begun, Flight.within, Flight.lands.injEq] at lands
      obtain ⟨-, rfl⟩ := lands
      exact holds

def held (w : World) : Set String := {name | w.cluster.holds name = true}

theorem ensure_some {o : FixtureObject} {m after : Moment World}
    {answer : Except Panic (Except Error Ensured)}
    (ran : collaborators.fixtures.ensure o m = some (answer, after)) :
    (answer = .ok (.ok .alreadyPresent) ∧ o.text ∈ m.world.held ∧
        after.world.held = m.world.held) ∨
      (answer = .ok (.ok .created) ∧ o.text ∉ m.world.held ∧
        after.world.held = insert o.text m.world.held) ∨
      (∀ e, answer ≠ .ok (.ok e)) ∧ after.world.held = m.world.held := by
  obtain ⟨delay, finish, c, begun, rfl, world⟩ := performed ran
  obtain ⟨lands, rfl⟩ := Prod.mk.inj begun
  obtain done | ⟨p, done⟩ | ⟨e, done⟩ := Effect.before_cases lands
    ((clusterPart.get m.world).log ("ensure " ++ o.text))
  next =>
    rw [world, done]
    by_cases there : ((clusterPart.get m.world).log ("ensure " ++ o.text)).holds o.text = true
    next =>
      rw [if_pos there]
      exact .inl ⟨rfl, there, rfl⟩
    next =>
      rw [if_neg there]
      refine .inr (.inl ⟨rfl, there, ?_⟩)
      ext name
      simp [held, clusterPart, Cluster.holds, Cluster.log]
      grind
  next =>
    rw [world, done]
    exact .inr (.inr ⟨nofun, rfl⟩)
  next =>
    rw [world, done]
    exact .inr (.inr ⟨nofun, rfl⟩)

theorem remove_some {o : FixtureObject} {m after : Moment World}
    {answer : Except Panic (Except Error Unit)}
    (ran : collaborators.fixtures.remove o m = some (answer, after)) :
    (answer = .ok (.ok ()) ∧ after.world.held = m.world.held \ {o.text}) ∨
      answer ≠ .ok (.ok ()) ∧ after.world.held = m.world.held := by
  obtain ⟨delay, finish, c, begun, rfl, world⟩ := performed ran
  obtain ⟨lands, rfl⟩ := Prod.mk.inj begun
  obtain done | ⟨p, done⟩ | ⟨e, done⟩ := Effect.before_cases lands
    ((clusterPart.get m.world).log ("remove " ++ o.text))
  next =>
    rw [world, done]
    refine .inl ⟨rfl, ?_⟩
    ext name
    simp [held, clusterPart, Cluster.holds, Cluster.log]
    grind
  next =>
    rw [world, done]
    exact .inr ⟨nofun, rfl⟩
  next =>
    rw [world, done]
    exact .inr ⟨nofun, rfl⟩

theorem fixtures_createsAbsent :
    collaborators.fixtures.CreatesAbsent FixtureObject.text held where
  created o m after ran := by
    obtain ⟨⟨⟩, -⟩ | ⟨-, absent, grown⟩ | ⟨other, -⟩ := ensure_some ran
    next => exact ⟨absent, grown⟩
    next => exact absurd rfl (other .created)
  present o m after ran := by
    obtain ⟨-, there, same⟩ | ⟨⟨⟩, -⟩ | ⟨other, -⟩ := ensure_some ran
    next => exact ⟨there, same⟩
    next => exact absurd rfl (other .alreadyPresent)
  refused o m e after ran := by
    obtain ⟨⟨⟩, -⟩ | ⟨⟨⟩, -⟩ | ⟨-, same⟩ := ensure_some ran
    exact same
  panicked o m p after ran := by
    obtain ⟨⟨⟩, -⟩ | ⟨⟨⟩, -⟩ | ⟨-, same⟩ := ensure_some ran
    exact same
  removed o m after ran := by
    obtain ⟨-, gone⟩ | ⟨other, -⟩ := remove_some ran
    next => exact gone
    next => exact absurd rfl other
  unremoved o m e after ran := by
    obtain ⟨⟨⟩, -⟩ | ⟨-, same⟩ := remove_some ran
    exact same

theorem query_keeps (names : Set String) :
    Cluster.query.Keeps fun c => {name | c.holds name = true} = names where
  pods _ _ := answering_keeps (fun _ _ => id) fun _ _ => ⟨_, _, rfl⟩
  services _ _ := answering_keeps (fun _ _ => id) fun _ _ => ⟨_, _, rfl⟩
  events _ _ := answering_keeps (fun _ _ => id) fun _ _ => ⟨_, _, rfl⟩
  identity _ := answering_keeps (fun _ _ => id) fun _ _ => ⟨_, _, rfl⟩

theorem collaborators_keep (names : Set String) :
    collaborators.Keeps fun w => w.held = names where
  query := ⟨fun _ _ => within_keeps ((query_keeps names).pods _ _),
    fun _ _ => within_keeps ((query_keeps names).services _ _),
    fun _ _ => within_keeps ((query_keeps names).events _ _),
    fun _ => within_keeps ((query_keeps names).identity _)⟩
  shares := ⟨fun _ _ => beside_keeps, fun _ _ _ _ => beside_keeps, fun _ _ _ => beside_keeps,
    fun _ _ _ => beside_keeps⟩
  suffix _ := id

end World

def alwaysAnswered {α : Type} (items : List α) : Script α :=
  Table.empty.insert anySelector ⟨[⟨{}, items⟩], 0⟩

def readyPod : Pod where
  name := some "server"
  status := some { ip := some "10.0.0.1", conditions := some [⟨"Ready", "True"⟩] }

def healthy : World where
  cluster :=
    { pods := alwaysAnswered [readyPod]
      events := alwaysAnswered
        [⟨some "CreatedDeployment"⟩, ⟨some "CreatedPersistentVolumeClaim"⟩] }
  shares := { users := Table.empty.insert "user" "secret" }

def setting : Scenario.Setting World := ⟨{}, Lifecycle.oneSecret, World.collaborators⟩

def visit {σ : Type} : Scenario σ where
  name := "visit"
  share := ⟨"shares", "one"⟩
  shareName := "One"
  fixtures := [⟨⟨"a.yaml"⟩, "shares"⟩]
  credentials := [⟨"user", "secret"⟩]

end ShareCheck.Scripted
