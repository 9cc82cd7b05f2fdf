import ShareCheck.Proofs.Kubernetes.Requests
import ShareCheck.Proofs.Lifecycle.Ownership

set_option autoImplicit false

/-!
Lifecycles whose requests are answered one at a time. How far one has come with some answers is
found by running it on these until it asks for one more. Given one more, it goes on from there.
-/
namespace ShareCheck

open Rest

structure Turn where
  object : FixtureObject
  message : Message
  answer : Answer

structure Dialogue where
  turns : List Turn := []
  waiting : Option (FixtureObject × Message) := none

namespace Dialogue

variable {answers : List Answer}

def server (answers : List Answer) (o : FixtureObject) : Server Dialogue := fun message _ d =>
  -- Nothing in a lifecycle catches a panic, so one cuts the run off where no answer is left.
  (.lands 0 fun d =>
    match answers[d.turns.length]? with
    | some a => (.ok a, { d with turns := d.turns ++ [⟨o, message, a⟩] })
    | none => (.error .other, { d with waiting := some (o, message) }), d)

def client (answers : List Answer) : FixtureClient Dialogue where
  ensure o := Kubernetes.ensure (server answers o) o
  remove o := Kubernetes.remove (server answers o) o

def messages (d : Dialogue) : List Message := d.turns.map (·.message)

def plain (answers : List Answer) : Server (List Message) := fun message _ sent =>
  -- The same server, without the names of the objects that it is asked about.
  (.lands 0 fun sent =>
    match answers[sent.length]? with
    | some a => (.ok a, sent ++ [message])
    | none => (.error .other, sent), sent)

theorem ask_lifts (o : FixtureObject) (request : Except RequestFault Message) :
    (Activity.perform (send (server answers o) request)).Lifts (.of messages)
      (Activity.perform (send (plain answers) request)) := by
  refine Activity.perform_lifts fun now d => ?_
  cases request with
  | error fault => exact .lands 0 _ _ d fun _ => rfl
  | ok message =>
    refine .lands 0 _ _ d fun v => ?_
    have same : v.messages.length = v.turns.length := List.length_map _
    rw [View.of_see, same]
    cases answers[v.turns.length]? <;> simp [messages]

theorem client_lifts : (client answers).Lifts (.of messages) (Kubernetes.fixtures (plain answers)) where
  ensure o := 
    Kubernetes.ensure_relates _ Activity.lifts_composes (ask_lifts o _) fun _ => ask_lifts o _
  remove o := Kubernetes.remove_relates _ Activity.lifts_composes (ask_lifts o _)

theorem ask_some {o : FixtureObject} {request : Except RequestFault Message}
    {m after : Moment Dialogue} {r : Except Panic Answer} :
    Activity.perform (send (server answers o) request) m = some (r, after) ↔
      (∃ fault, request = .error fault ∧ r = .ok (.error (.unsent fault)) ∧ after = m) ∨
        ∃ message, request = .ok message ∧
          ((∃ a, answers[m.world.turns.length]? = some a ∧ r = .ok a ∧ after = { m with
              world := { m.world with turns := m.world.turns ++ [⟨o, message, a⟩] } }) ∨
            answers[m.world.turns.length]? = none ∧ r = .error .other ∧ after = { m with
              world := { m.world with waiting := some (o, message) } }) := by
  obtain ⟨now, turns, waiting⟩ := m
  cases request with
  | error fault => simp [Activity.perform, send, eq_comm]
  | ok message =>
    cases left : answers[turns.length]? <;>
      simp [Activity.perform, send, server, left, eq_comm]

section

variable {τ α : Type}

/-- Two runs, the second of them with one more answer. They are alike while the first goes on, and
where the first is cut off the second takes its next turn, and no other. -/
structure Resumes (view : τ → Dialogue) (answers : List Answer) (a : Answer)
    (x y : Activity τ α) : Prop where
  goes : ∀ m, (view m.world).turns.length ≤ answers.length →
    (∃ b after, x m = some (.ok b, after) ∧ y m = some (.ok b, after) ∧
      (view after.world).turns.length ≤ answers.length) ∨
    ∃ p stop o message r after, x m = some (.error p, stop) ∧
      (view stop.world).waiting = some (o, message) ∧
      (view stop.world).turns.length = answers.length ∧ y m = some (r, after) ∧
      (view after.world).turns = (view stop.world).turns ++ [⟨o, message, a⟩]
  stays : ∀ m, (view m.world).turns.length = answers.length + 1 →
    ∃ r after, y m = some (r, after) ∧ (view after.world).turns = (view m.world).turns

variable {view : τ → Dialogue} {a : Answer}

theorem change_resumes {f : τ → α × τ} (same : ∀ w, view (f w).2 = view w) :
    Resumes view answers a (Activity.change f) (Activity.change f) where
  goes m few := .inl ⟨_, _, rfl, rfl, by rwa [same]⟩
  stays m _ := ⟨_, _, rfl, by rw [same]⟩

theorem bind_resumes {β : Type} {x y : Activity τ α} {f g : α → Activity τ β}
    (first : Resumes view answers a x y) (rest : ∀ b, Resumes view answers a (f b) (g b)) :
    Resumes view answers a (x >>= f) (y >>= g) where
  goes m few := by
    obtain ⟨b, mid, left, right, few⟩ |
      ⟨p, stop, o, message, r, mid, left, waits, all, right, next⟩ := first.goes m few
    next =>
      obtain ⟨c, after, left', right', few⟩ |
        ⟨p, stop, o, message, r, after, left', waits, all, right', next⟩ := (rest b).goes mid few
      next =>
        exact .inl ⟨c, after, Activity.bind_ok.2 ⟨b, mid, left, left'⟩,
          Activity.bind_ok.2 ⟨b, mid, right, right'⟩, few⟩
      next =>
        exact .inr ⟨p, stop, o, message, r, after,
          Activity.bind_some.2 (.inl ⟨b, mid, left, left'⟩), waits, all,
          Activity.bind_some.2 (.inl ⟨b, mid, right, right'⟩), next⟩
    -- The first run is cut off already, and the second has used up its answers.
    next =>
      have cut : (x >>= f) m = some (.error p, stop) := Activity.bind_some.2 (.inr ⟨p, left, rfl⟩)
      cases r with
      | ok b =>
        obtain ⟨r, after, right', same⟩ := (rest b).stays mid (by rw [next]; simp [all])
        exact .inr ⟨p, stop, o, message, r, after, cut, waits, all,
          Activity.bind_some.2 (.inl ⟨b, mid, right, right'⟩), same.trans next⟩
      | error q =>
        exact .inr ⟨p, stop, o, message, .error q, mid, cut, waits, all,
          Activity.bind_some.2 (.inr ⟨q, right, rfl⟩), next⟩
  stays m all := by
    obtain ⟨r, mid, right, same⟩ := first.stays m all
    cases r with
    | ok b =>
      obtain ⟨r, after, right', same'⟩ := (rest b).stays mid (by rw [same, all])
      exact ⟨r, after, Activity.bind_some.2 (.inl ⟨b, mid, right, right'⟩), same'.trans same⟩
    | error q => exact ⟨.error q, mid, Activity.bind_some.2 (.inr ⟨q, right, rfl⟩), same⟩

theorem resumes_composes :
    Activity.Composes fun {α} (x y : Activity τ α) => Resumes view answers a x y :=
  ⟨fun _ => change_resumes (f := fun w => (_, w)) fun _ => rfl, bind_resumes⟩

theorem within_resumes {α : Type} {x y : Activity Dialogue α} (inner : Resumes id answers a x y) :
    Resumes Tracked.world answers a (x.within Tracked.inner) (y.within Tracked.inner) where
  goes m few := by
    obtain ⟨b, after, left, right, few⟩ |
      ⟨p, stop, o, message, r, after, left, waits, all, right, next⟩ :=
      inner.goes ⟨m.now, m.world.world⟩ few
    next =>
      exact .inl ⟨b, _, Activity.within_some.2 ⟨after, left, rfl⟩,
        Activity.within_some.2 ⟨after, right, rfl⟩, few⟩
    next =>
      exact .inr ⟨p, _, o, message, r, _, Activity.within_some.2 ⟨stop, left, rfl⟩, waits, all,
        Activity.within_some.2 ⟨after, right, rfl⟩, next⟩
  stays m all := by
    obtain ⟨r, after, right, same⟩ := inner.stays ⟨m.now, m.world.world⟩ all
    exact ⟨r, _, Activity.within_some.2 ⟨after, right, rfl⟩, same⟩

theorem ask_resumes (o : FixtureObject) (request : Except RequestFault Message) :
    Resumes id answers a (Activity.perform (send (server answers o) request))
      (Activity.perform (send (server (answers ++ [a]) o) request)) where
  goes m few := by
    cases request with
    | error fault => exact .inl ⟨_, m, rfl, rfl, few⟩
    | ok message =>
      change m.world.turns.length ≤ answers.length at few
      obtain less | all := Nat.lt_or_eq_of_le few
      next =>
        obtain ⟨b, next⟩ : ∃ b, answers[m.world.turns.length]? = some b :=
          ⟨_, List.getElem?_eq_getElem less⟩
        have same : (answers ++ [a])[m.world.turns.length]? = some b := by
          rw [List.getElem?_append_left less, next]
        exact .inl ⟨b, _, ask_some.2 (.inr ⟨message, rfl, .inl ⟨b, next, rfl, rfl⟩⟩),
          ask_some.2 (.inr ⟨message, rfl, .inl ⟨b, same, rfl, rfl⟩⟩),
          by simpa using Nat.succ_le_of_lt less⟩
      next =>
        have none : answers[m.world.turns.length]? = .none :=
          List.getElem?_eq_none (Nat.le_of_eq all.symm)
        have last : (answers ++ [a])[m.world.turns.length]? = some a := by
          rw [all, List.getElem?_concat_length]
        exact .inr ⟨_, _, o, message, _, _,
          ask_some.2 (.inr ⟨message, rfl, .inr ⟨none, rfl, rfl⟩⟩), rfl, all,
          ask_some.2 (.inr ⟨message, rfl, .inl ⟨a, last, rfl, rfl⟩⟩), rfl⟩
  stays m all := by
    cases request with
    | error fault => exact ⟨_, m, rfl, rfl⟩
    | ok message =>
      have none : (answers ++ [a])[m.world.turns.length]? = .none := by
        simpa using Nat.le_of_eq all.symm
      exact ⟨_, _, ask_some.2 (.inr ⟨message, rfl, .inr ⟨none, rfl, rfl⟩⟩), rfl⟩

theorem client_resumes :
    Lifecycle.Relates (client answers) (client (answers ++ [a])) fun x y =>
      Resumes Tracked.world answers a x y where
  toComposes := resumes_composes
  owned _ _ := change_resumes fun _ => rfl
  taken _ := change_resumes fun _ => rfl
  ensured o := within_resumes
    (Kubernetes.ensure_relates _ resumes_composes (ask_resumes o _) fun _ => ask_resumes o _)
  removed o := within_resumes (Kubernetes.remove_relates _ resumes_composes (ask_resumes o _))

end

def Leads (d : Dialogue) : Prop :=
  ∀ o message, d.waiting = some (o, message) → o.Plain → o.LedToBy message

theorem ask_leads {o : FixtureObject} {request : Except RequestFault Message}
    (leads : ∀ message, o.Plain → request = .ok message → o.LedToBy message) :
    (Activity.perform (send (server answers o) request)).Keeps Leads := by
  intro m r after ran before
  obtain ⟨-, -, -, rfl⟩ | ⟨message, sent, ⟨-, -, -, rfl⟩ | ⟨-, -, rfl⟩⟩ := ask_some.1 ran
  next => exact before
  next => exact before
  next =>
    intro _ _ waits plain
    cases waits
    exact leads message plain sent

theorem client_leads :
    Lifecycle.Relates (client answers) (client answers) fun x _ =>
      x.Keeps fun t => t.world.Leads where
  toComposes := Activity.keeps_composes
  owned _ _ := Activity.change_keeps fun _ => id
  taken _ := Activity.change_keeps fun _ => id
  ensured o := Activity.tracked_keeps (Kubernetes.ensure_relates (server answers o)
    Activity.keeps_composes (ask_leads fun _ plain made => Kubernetes.lookUp_leads plain made)
    fun _ => ask_leads fun _ plain made => Kubernetes.creation_leads plain made)
  removed o := Activity.tracked_keeps (Kubernetes.remove_relates (server answers o)
    Activity.keeps_composes (ask_leads fun _ plain made => Kubernetes.removal_leads plain made))

end Dialogue

namespace Lifecycle

namespace Command

variable {σ : Type}

def failures : (c : Command) → c.Result → List Error
  -- A setup that fails leaves nothing behind that is not owned, so only removals count.
  | ensure _, _ => []
  | applyAll _, _ => []
  | remove _, .ok () => []
  | remove _, .error e => [e]
  | teardown, errors => errors

def performEach (files : Files) (client : FixtureClient σ) :
    List Command → Activity (Tracked σ) (List Error)
  | [] => pure []
  | c :: cs => do
    let r ← c.perform files client
    let errors ← performEach files client cs
    pure (c.failures r ++ errors)

theorem performEach_relates {τ : Type} {client : FixtureClient τ} {image : FixtureClient σ}
    {R : ∀ {α : Type}, Activity (Tracked τ) α → Activity (Tracked σ) α → Prop}
    (relates : Relates client image R) (files : Files) (cs : List Command) :
    R (performEach files client cs) (performEach files image cs) := by
  induction cs with
  | nil => exact relates.given _
  | cons c cs ih =>
    refine relates.bound (perform_relates relates files c) fun r => ?_
    exact relates.bound ih fun errors => relates.given _

end Command

structure Participant where
  files : Files
  commands : List Command

namespace Participant

def standing (p : Participant) (answers : List Answer) :
    Option (Except Panic (List Error) × Moment (Tracked Dialogue)) :=
  Command.performEach p.files (Dialogue.client answers) p.commands ⟨0, ⟨[], {}⟩⟩

def run (p : Participant) (answers : List Answer) :
    Option (Except Panic (List Error) × Moment (Tracked (List Message))) :=
  Command.performEach p.files (Kubernetes.fixtures (Dialogue.plain answers)) p.commands
    ⟨0, ⟨[], []⟩⟩

theorem run_eq (p : Participant) (answers : List Answer) :
    p.run answers = (p.standing answers).map fun (r, m) =>
      (r, m.map (Tracked.map (.of Dialogue.messages))) :=
  Command.performEach_relates (lifts_relates Dialogue.client_lifts) p.files p.commands
    ⟨0, ⟨[], {}⟩⟩

theorem standing_goes (p : Participant) (answers : List Answer) (a : Answer) :
    (∃ errors stop, p.standing answers = some (.ok errors, stop) ∧
      p.standing (answers ++ [a]) = some (.ok errors, stop) ∧
      stop.world.world.turns.length ≤ answers.length) ∨
    ∃ cut stop o message r after, p.standing answers = some (.error cut, stop) ∧
      stop.world.world.waiting = some (o, message) ∧
      stop.world.world.turns.length = answers.length ∧
      p.standing (answers ++ [a]) = some (r, after) ∧
      after.world.world.turns = stop.world.world.turns ++ [⟨o, message, a⟩] := by
  have relates : Relates (Dialogue.client answers) (Dialogue.client (answers ++ [a])) fun x y =>
      Dialogue.Resumes Tracked.world answers a x y := Dialogue.client_resumes
  exact (Command.performEach_relates relates p.files p.commands).goes ⟨0, ⟨[], {}⟩⟩ (Nat.zero_le _)

theorem standing_some (p : Participant) (answers : List Answer) :
    ∃ r stop, p.standing answers = some (r, stop) ∧
      stop.world.world.turns.length ≤ answers.length := by
  -- What would follow a further answer does not matter here.
  obtain ⟨errors, stop, stands, -, few⟩ | ⟨cut, stop, -, -, -, -, stands, -, all, -⟩ :=
    p.standing_goes answers (.error (.transport ""))
  next => exact ⟨_, stop, stands, few⟩
  next => exact ⟨_, stop, stands, Nat.le_of_eq all⟩

def awaited (p : Participant) (answers : List Answer) : Option (FixtureObject × Message) :=
  match p.standing answers with
  | some (.error _, stop) => stop.world.world.waiting
  | _ => none

theorem awaited_some {p : Participant} {answers : List Answer} {request : FixtureObject × Message} :
    p.awaited answers = some request ↔
      ∃ cut stop, p.standing answers = some (.error cut, stop) ∧
        stop.world.world.waiting = some request := by
  unfold awaited
  match p.standing answers with
  | none => simp
  | some (.ok errors, stop) => simp
  | some (.error cut, stop) => simp

theorem awaited_leads {p : Participant} {answers : List Answer} {o : FixtureObject}
    {message : Message} (awaits : p.awaited answers = some (o, message)) (plain : o.Plain) :
    o.LedToBy message := by
  obtain ⟨cut, stop, stands, waiting⟩ := awaited_some.1 awaits
  exact Command.performEach_relates Dialogue.client_leads p.files p.commands _ _ _ stands nofun
    o message waiting plain

theorem awaited_resumes {p : Participant} {answers : List Answer} {o : FixtureObject}
    {message : Message} (awaits : p.awaited answers = some (o, message)) (a : Answer)
    {turns : List Turn}
    (stands : ∃ r stop, p.standing answers = some (r, stop) ∧ stop.world.world.turns = turns) :
    ∃ r after, p.standing (answers ++ [a]) = some (r, after) ∧
      after.world.world.turns = turns ++ [⟨o, message, a⟩] := by
  obtain ⟨cut, stop, cuts, waiting⟩ := awaited_some.1 awaits
  obtain ⟨_, _, stands, rfl⟩ := stands
  cases cuts.symm.trans stands
  obtain ⟨errors, _, ended, -⟩ |
    ⟨_, _, o', message', r, after, stands', waiting', -, resumed, added⟩ :=
    p.standing_goes answers a
  -- One that has ended waits for nothing.
  next => cases cuts.symm.trans ended
  next =>
    cases cuts.symm.trans stands'
    cases waiting.symm.trans waiting'
    exact ⟨r, after, resumed, added⟩

end Participant

end Lifecycle

end ShareCheck
