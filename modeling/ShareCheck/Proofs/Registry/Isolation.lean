import ShareCheck.Proofs.Lifecycle.Ownership
import ShareCheck.Proofs.Registry.Selection
import ShareCheck.Proofs.Scenario.Independence
import ShareCheck.Proofs.Scripted.World

set_option autoImplicit false

namespace ShareCheck

variable {σ ν κ : Type} {key : FixtureObject → κ} {objects : σ → Set κ}

def Collaborators.upcoming (c : Collaborators σ) : Nat → σ → List UInt32
  | 0, _ => []
  | n + 1, w => (c.suffix w).1 :: c.upcoming n (c.suffix w).2

namespace Registry

open Scenario

section

variable {r : Setting σ} {outlines : List Outline} {fresh : Moment σ → Prop}

inductive Begins (r : Setting σ) (outlines : List Outline) (fresh : Moment σ → Prop) :
    Moment σ → Prop
  | first {m : Moment σ} : fresh m → Begins r outlines fresh m
  | after {m after : Moment σ} {o : Outline} {report : Report} : Begins r outlines fresh m →
      o ∈ outlines → o.scenario.run r m = some (.ok report, after) → Begins r outlines fresh after

inductive InTurn (r : Setting σ) :
    List Outline → Moment σ → List (Moment σ) → List Report → Moment σ → Prop
  | none {m : Moment σ} : InTurn r [] m [] [] m
  | next {m mid after : Moment σ} {o : Outline} {rest : List Outline} {starts : List (Moment σ)}
      {report : Report} {reports : List Report} : o.scenario.run r m = some (.ok report, mid) →
      InTurn r rest mid starts reports after →
      InTurn r (o :: rest) m (m :: starts) (report :: reports) after

structure Round (r : Setting σ) (outlines : List Outline) (names : List String) (m : Moment σ) where
  starts : List (Moment σ)
  reports : List Report
  after : Moment σ
  ran : (outlined outlines).run r names m = some (.ok (.ok reports), after)
  turns : InTurn r (chosen outlines names) m starts reports after

def provisions (r : Setting σ) (selected : List Outline) (starts : List (Moment σ)) :
    List (Outline × List UInt32) :=
  selected.zipWith (fun o start => (o, r.collaborators.upcoming o.draws start.world)) starts

def Round.provisions {names : List String} {m : Moment σ} (p : Round r outlines names m) :
    List (Outline × List UInt32) :=
  Registry.provisions r (chosen outlines names) p.starts

variable (complete : r.collaborators.Complete r.config.pollInterval)
  (contract : r.collaborators.fixtures.CreatesAbsent key objects)
  (kept : ∀ held, r.collaborators.Keeps fun w => objects w = held)
  (removes : r.collaborators.fixtures.Removes)

include complete contract kept removes

theorem InTurn.isolated {selected : List Outline} {m after : Moment σ} {starts : List (Moment σ)}
    {reports : List Report} {held : Set κ} (outcome : Outline × List UInt32 → Report)
    (alone : ∀ o ∈ outlines, ∀ m, Begins r outlines fresh m → objects m.world = held →
      ∃ after, o.scenario.run r m =
        some (.ok (outcome (o, r.collaborators.upcoming o.draws m.world)), after))
    (turns : InTurn r selected m starts reports after) (known : ∀ o ∈ selected, o ∈ outlines)
    (begins : Begins r outlines fresh m) (first : objects m.world = held) :
    (∀ start ∈ starts, Begins r outlines fresh start ∧ objects start.world = held) ∧
      objects after.world = held ∧ reports = (provisions r selected starts).map outcome := by
  induction turns with
  | none => exact ⟨nofun, first, rfl⟩
  | @next m mid after o rest starts report reports ran _ ih =>
    obtain ⟨member, known⟩ := List.forall_mem_cons.1 known
    -- The scenario leaves the objects that it found, and the next begins with them.
    obtain ⟨_, _, again, same⟩ := o.run_clean complete contract kept removes m
    cases ran.symm.trans again
    obtain ⟨began, last, reported⟩ := ih known (.after begins member ran) (same.trans first)
    obtain ⟨_, given⟩ := alone o member m begins first
    cases ran.symm.trans given
    exact ⟨List.forall_mem_cons.2 ⟨⟨begins, first⟩, began⟩, last, congrArg _ reported⟩

end

open Scripted

structure Depot where
  names : List String
  looks : Nat
deriving DecidableEq

namespace Depot

def look (d : Depot) : Except Panic (Except Error (List Pod)) × Depot :=
  (.ok (.ok (if d.looks = 0 then [] else [readyPod])), { d with looks := d.looks + 1 })

def ensure (o : FixtureObject) (d : Depot) : Except Panic (Except Error Ensured) × Depot :=
  if o.ns = "denied" then (.error (.text "boom"), d)
  else if o.text ∈ d.names then (.ok (.ok .alreadyPresent), d)
  else (.ok (.ok .created), { d with names := o.text :: d.names })

def remove (o : FixtureObject) (d : Depot) : Except Panic (Except Error Unit) × Depot :=
  (.ok (.ok ()), ⟨d.names.filter (· ≠ o.text), 0⟩)

section

variable {α : Type} (part : Part σ Depot)

def served (f : Depot → Except Panic α × Depot) : Call σ α :=
  Call.within part fun _ d => (.lands 1 f, d)

def down : Call σ α := served part fun d => (.error (.text "boom"), d)

def collaborators : Collaborators σ where
  query := ⟨fun _ _ => served part look, fun _ _ => down part, fun _ _ => down part,
    fun _ => down part⟩
  fixtures := ⟨fun o => Activity.perform (served part (ensure o)),
    fun o => Activity.perform (served part (remove o))⟩
  shares := ⟨fun _ _ => down part, fun _ _ _ _ => down part, fun _ _ _ => down part,
    fun _ _ _ => down part⟩
  suffix w := (0, w)

end

def whole : Part Depot Depot := ⟨id, fun d _ => d⟩

def counted : Part (Depot × Nat) Depot := ⟨Prod.fst, fun d w => (d, w.2 + 1)⟩

def held (w : Depot × Nat) : Set String := {name | name ∈ w.1.names}

def setting : Setting (Depot × Nat) := ⟨{}, Lifecycle.oneSecret, collaborators counted⟩

def fresh (m : Moment (Depot × Nat)) : Prop := m.world.1 = ⟨[], 0⟩

def start : Moment (Depot × Nat) := ⟨0, ⟨[], 0⟩, 0⟩

theorem served_lands {α : Type} (f : Depot → Except Panic α × Depot) : (served counted f).Lands :=
  fun _ _ => ⟨1, _, _, rfl⟩

theorem complete : setting.collaborators.Complete setting.config.pollInterval where
  query := ⟨fun _ _ => served_lands _, fun _ _ => served_lands _, fun _ _ => served_lands _,
    fun _ => served_lands _, fun _ _ _ _ _ _ _ => nofun⟩
  ensure o := Activity.perform_completes (served_lands (ensure o))
  remove o := Activity.perform_completes (served_lands (remove o))

theorem removes : setting.collaborators.fixtures.Removes := fun _ _ => ⟨_, rfl⟩

theorem served_keeps {α : Type} {f : Depot → Except Panic α × Depot}
    (same : ∀ d, (f d).2.names = d.names) (names : Set String) :
    (served counted f).Keeps fun w => held w = names where
  beginning _ _ holds := holds
  landing now w delay finish lands v holds := by
    cases lands
    rw [← holds, held, held]
    change {name | name ∈ (f v.1).2.names} = _
    rw [same]

theorem keeps (names : Set String) : setting.collaborators.Keeps fun w => held w = names where
  query := ⟨fun _ _ => served_keeps (fun _ => rfl) names,
    fun _ _ => served_keeps (fun _ => rfl) names,
    fun _ _ => served_keeps (fun _ => rfl) names, fun _ => served_keeps (fun _ => rfl) names⟩
  shares := ⟨fun _ _ => served_keeps (fun _ => rfl) names,
    fun _ _ _ _ => served_keeps (fun _ => rfl) names,
    fun _ _ _ => served_keeps (fun _ => rfl) names, fun _ _ _ => served_keeps (fun _ => rfl) names⟩
  suffix _ holds := holds

theorem ensure_some {o : FixtureObject} {m after : Moment (Depot × Nat)}
    {answer : Except Panic (Except Error Ensured)}
    (ran : setting.collaborators.fixtures.ensure o m = some (answer, after)) :
    ensure o m.world.1 = (answer, after.world.1) := by
  cases ran
  rfl

end Depot

end Registry

end ShareCheck
