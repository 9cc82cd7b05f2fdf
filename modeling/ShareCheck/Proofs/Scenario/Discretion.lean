import ShareCheck.Proofs.Access.Discretion
import ShareCheck.Proofs.Scenario.Projection
import ShareCheck.Proofs.Scripted.World
import ShareCheck.Proofs.Smbclient.Discretion

set_option autoImplicit false

namespace ShareCheck

variable {σ ν : Type}

/-! ### Scenarios without their passwords -/

def StepContext.bare (c : StepContext σ) : StepContext σ :=
  { c with credentials := c.credentials.map Credential.bare }

def Scenario.bare (s : Scenario σ) : Scenario σ :=
  { s with credentials := s.credentials.map Credential.bare }

namespace Step

def Blind (s : Step σ) : Prop := ∀ c : StepContext σ, c.shares.Blind → s.work c.bare = s.work c

theorem drawProbes_bare (suffix : σ → UInt32 × σ) (credentials : List Credential) (m : Moment σ) :
    drawProbes suffix (credentials.map Credential.bare) m =
      (drawProbes suffix credentials m).map fun (r, after) =>
        (r.map (List.map (Prod.map Credential.bare id)), after) := by
  induction credentials generalizing m with
  | nil => rfl
  | cons c credentials ih =>
    let drawn := suffix m.world
    change Activity.bind (drawProbes suffix (credentials.map Credential.bare))
        (fun rest => Activity.pure ((c.bare, probeName drawn.1) :: rest)) ⟨m.now, drawn.2⟩ =
      (Activity.bind (drawProbes suffix credentials)
        (fun rest => Activity.pure ((c, probeName drawn.1) :: rest)) ⟨m.now, drawn.2⟩).map _
    unfold Activity.bind
    rw [ih]
    match drawProbes suffix credentials ⟨m.now, drawn.2⟩ with
    | none => rfl
    | some (.ok rest, after) => rfl
    | some (.error p, after) => rfl

theorem access_blind (endpoint : Endpoint) : (access endpoint : Step σ).Blind := by
  intro c blind
  refine congrArg Except.ok (congrArg (settle endpoint c.config.dnsSettleDelay >>= ·) ?_)
  funext _
  refine congrArg (endpoint.resolve c.query c.config c.share >>= ·) ?_
  funext found
  match found with
  | .error e => exact congrArg pure (List.map_map ..)
  | .ok host =>
    funext m
    change Activity.bind (drawProbes c.suffix (c.credentials.map Credential.bare)) _ m =
      Activity.bind (drawProbes c.suffix c.credentials) _ m
    unfold Activity.bind
    rw [drawProbes_bare]
    match drawProbes c.suffix c.credentials m with
    | none => rfl
    | some (.error p, after) => rfl
    | some (.ok drawn, after) =>
      exact congrFun (verifyEndpoint_bare blind endpoint ⟨host, c.shareName⟩ _ drawn) after

theorem Kind.step_blind (kind : Kind) : (kind.step : Step σ).Blind := by
  cases kind with
  | access endpoint => exact access_blind endpoint
  | podsReady | events _ | dnsContainers | loadBalancer => exact fun _ _ => rfl

section

variable {c : StepContext σ} (shares : c.shares.Blind)

include shares

theorem run_bare {s : Step σ} (blind : s.Blind) : s.run c.bare = s.run c :=
  run_congr (blind c shares)

theorem runAll_bare {steps : List (Step σ)} (blind : ∀ s ∈ steps, s.Blind) :
    runAll c.bare steps = runAll c steps := by
  induction steps with
  | nil => rfl
  | cons s steps ih =>
    obtain ⟨first, rest⟩ := List.forall_mem_cons.1 blind
    rw [runAll, runAll, run_bare shares first, ih rest]

end

end Step

theorem Scenario.run_bare {r : Setting σ} {s : Scenario σ}
    (shares : r.collaborators.shares.Blind) (steps : ∀ step ∈ s.steps, step.Blind) :
    s.bare.run r = s.run r := by
  have verified : verify r s.bare = verify r s := by
    funext report
    have stepped := Step.runAll_bare (c := r.context s) shares steps
    exact congrArg (· >>= _) stepped
  have inspected : inspect r s.bare = inspect r s := by
    funext report
    unfold inspect
    rw [verified]
    rfl
  unfold run
  rw [inspected]
  rfl

/-! ### Calls without their passwords -/

def Operation.bare : Operation → Operation
  | list t c => list t c.bare
  | put t c name contents => put t c.bare name contents
  | get t c name => get t c.bare name
  | delete t c name => delete t c.bare name
  | o => o

def Entry.bare : Entry → Entry
  | began o => began o.bare
  | ended (.list t c) answer => ended (.list t c.bare) answer
  | ended (.put t c name contents) answer => ended (.put t c.bare name contents) answer
  | ended (.get t c name) answer => ended (.get t c.bare name) answer
  | ended (.delete t c name) answer => ended (.delete t c.bare name) answer
  | ended o answer => ended o answer

def Traced.bare (see : σ → ν) : View (Traced σ) (Traced ν) :=
  .of fun t => ⟨t.trace.map Entry.bare, see t.world⟩

section

open Call

variable {see : σ → ν}

/-- A call with entries of any kind to write down. A traced call is one that writes down itself. -/
def Call.written {α : Type} (began : Entry) (ended : Except Panic α → Entry) (c : Call σ α) :
    Call (Traced σ) α := fun now t =>
  match c now t.world with
  | (.never, w) => (.never, ⟨t.trace ++ [began], w⟩)
  | (.lands delay finish, w) =>
    (.lands delay fun u =>
      ((finish u.world).1, ⟨u.trace ++ [ended (finish u.world).1], (finish u.world).2⟩),
      ⟨t.trace ++ [began], w⟩)

theorem Call.traced_eq (o : Operation) (c : Request σ o.Answer) :
    Call.traced o c = c.written (.began o) (.ended o) := by
  funext now t
  unfold Call.traced Call.written
  match c now t.world with
  | (.never, w) => rfl
  | (.lands delay finish, w) => rfl

theorem Traced.bare_snoc (see : σ → ν) (t : Traced σ) {e f : Entry} (same : e.bare = f) (w : σ) :
    Traced.mk ((Traced.bare see t).trace ++ [f]) (see w) =
      Traced.bare see ⟨t.trace ++ [e], w⟩ := by
  change Traced.mk (t.trace.map Entry.bare ++ [f]) _ = ⟨(t.trace ++ [e]).map Entry.bare, _⟩
  rw [List.map_append, List.map_singleton, same]

theorem Call.written_lifts {α : Type} {c : Call σ α} {d : Call ν α} (lifts : c.Lifts (.of see) d)
    {x : Call (Traced σ) α} {y : Call (Traced ν) α} {began begun : Entry}
    {ended told : Except Panic α → Entry} (wrote : x = c.written began ended)
    (other : y = d.written begun told) (first : began.bare = begun)
    (last : ∀ answer, (ended answer).bare = told answer) : x.Lifts (Traced.bare see) y := by
  subst wrote other
  intro now t
  have start (w : σ) := Traced.bare_snoc see t first w
  unfold Call.written
  match c now t.world, d now (see t.world), lifts now t.world with
  | _, _, .never w =>
    change Flight.Lifts _ (.never, _) (.never, Traced.mk _ (see w))
    rw [start]
    exact .never _
  | _, _, .lands delay finish image w lands =>
    change Flight.Lifts _ (.lands _ _, _) (.lands _ _, Traced.mk _ (see w))
    rw [start]
    refine .lands delay _ _ _ fun u => ?_
    have landed : image (Traced.bare see u).world = ((finish u.world).1, see (finish u.world).2) :=
      lands u.world
    simp only [landed, Traced.bare_snoc see u (last (finish u.world).1)]

section

variable {o : Operation} (first : (Entry.began o).bare = .began o)
  (last : ∀ answer, (Entry.ended o answer).bare = .ended o answer)

include first last

theorem Call.traced_bare {c : Request σ o.Answer} {d : Request ν o.Answer}
    (lifts : c.Lifts (.of see) d) :
    (Call.traced o c).Lifts (Traced.bare see) (Call.traced o d) :=
  written_lifts lifts (traced_eq o c) (traced_eq o d) first last

theorem Activity.traced_bare {x : Activity σ (Except Error o.Answer)}
    {y : Activity ν (Except Error o.Answer)} (lifts : x.Lifts (.of see) y) :
    (Activity.traced o x).Lifts (Traced.bare see) (Activity.traced o y) := by
  intro m
  have inner : y ⟨(m.map (Traced.bare see)).now, (m.map (Traced.bare see)).world.world⟩ = _ :=
    lifts ⟨m.now, m.world.world⟩
  unfold Activity.traced
  rw [inner]
  match x ⟨m.now, m.world.world⟩ with
  | none => rfl
  | some (answer, after) =>
    simp [Moment.map, Traced.bare, View.of, first, last]

end

theorem ShareClient.traced_bare {client : ShareClient σ} {image : ShareClient ν}
    (lifts : client.Lifts (.of see) image) (blind : image.Blind) :
    client.traced.Lifts (Traced.bare see) image.traced.blind := by
  -- The image makes the call without the password, so that is what it writes down.
  rw [← blind] at lifts
  exact
    ⟨fun t c => written_lifts (lifts.list t c) (traced_eq _ _) (traced_eq _ _) rfl fun _ => rfl,
      fun t c name contents => written_lifts (lifts.put t c name contents) (traced_eq _ _)
        (traced_eq _ _) rfl fun _ => rfl,
      fun t c name =>
        written_lifts (lifts.get t c name) (traced_eq _ _) (traced_eq _ _) rfl fun _ => rfl,
      fun t c name =>
        written_lifts (lifts.remove t c name) (traced_eq _ _) (traced_eq _ _) rfl fun _ => rfl⟩

theorem Collaborators.traced_bare {c : Collaborators σ} {image : Collaborators ν}
    (lifts : c.Lifts (.of see) image) (blind : image.shares.Blind) :
    c.traced.Lifts (Traced.bare see)
      { image.traced with shares := image.traced.shares.blind } where
  query :=
    ⟨fun ns selector => Call.traced_bare rfl (fun _ => rfl) (lifts.query.pods ns selector),
      fun ns selector => Call.traced_bare rfl (fun _ => rfl) (lifts.query.services ns selector),
      fun ns selector => Call.traced_bare rfl (fun _ => rfl) (lifts.query.events ns selector),
      fun r => Call.traced_bare rfl (fun _ => rfl) (lifts.query.identity r)⟩
  fixtures :=
    ⟨fun o => Activity.traced_bare rfl (fun _ => rfl) (lifts.fixtures.ensure o),
      fun o => Activity.traced_bare rfl (fun _ => rfl) (lifts.fixtures.remove o)⟩
  shares := ShareClient.traced_bare lifts.shares blind
  suffix t := by
    have drawn : image.suffix (see t.world) = _ := lifts.suffix t.world
    simp only [Collaborators.traced, Traced.bare, View.of, drawn]

end

/-! ### Two runs -/

def Step.Discreet {τ : Type} (h : View τ ν) (s : Step τ) : Prop :=
  ∃ image : Step ν, s.Lifts h image ∧ image.Blind

theorem Step.Kind.discreet {τ : Type} (h : View τ ν) (kind : Kind) :
    (kind.step : Step τ).Discreet h :=
  ⟨kind.step, kind.step_lifts, kind.step_blind⟩

theorem Step.discreet_images {τ : Type} {h : View τ ν} {steps : List (Step τ)}
    (discreet : ∀ s ∈ steps, s.Discreet h) :
    ∃ images, List.Forall₂ (Step.Lifts h) steps images ∧ ∀ image ∈ images, image.Blind := by
  induction steps with
  | nil => exact ⟨[], .nil, nofun⟩
  | cons s steps ih =>
    obtain ⟨⟨first, lifts, blind⟩, rest⟩ := List.forall_mem_cons.1 discreet
    obtain ⟨images, lifted, blinds⟩ := ih rest
    exact ⟨first :: images, .cons lifts lifted, List.forall_mem_cons.2 ⟨blind, blinds⟩⟩

namespace Scenario

theorem run_bare_lifts {τ : Type} {h : View τ ν} {r : Setting τ} {image : Collaborators ν}
    (lifts : r.collaborators.Lifts h image) (blind : image.shares.Blind) {s : Scenario τ}
    {images : List (Step ν)} (lifted : List.Forall₂ (Step.Lifts h) s.steps images)
    (blinds : ∀ step ∈ images, step.Blind) :
    (s.run r).Lifts h (run ⟨r.config, r.files, image⟩ { s.bare with steps := images }) := by
  have ran : (s.run r).Lifts h (run ⟨r.config, r.files, image⟩ _) :=
    run_lifts (.intro r.config r.files lifts)
      (.intro s.name s.share s.shareName s.fixtures s.credentials lifted)
  rwa [← run_bare (r := ⟨r.config, r.files, image⟩) blind blinds] at ran

def seen (see : σ → ν) :
    Option (Except Panic Report × Moment (Traced σ)) →
      Option (Except Panic Report × Moment (Traced ν)) :=
  Option.map fun (outcome, after) => (outcome, after.map (Traced.bare see))

/-- Collaborators show nothing of a password if what they answer, and what they leave to be seen, is
what others do that are not told it. Two scenarios with other passwords are then not told apart by
their reports or by the calls they make. The command lines of `smbclient` show nothing of a password
either, and its client is such a collaborator if the program is. -/
theorem run_discreet {r : Setting σ} {image : Collaborators ν} {see : σ → ν}
    (lifts : r.collaborators.Lifts (.of see) image) (blind : image.shares.Blind)
    {s t : Scenario (Traced σ)} (alike : s.bare = t.bare)
    (steps : ∀ step ∈ s.steps,
      (∃ kind : Step.Kind, step = kind.step) ∨ step.Discreet (Traced.bare see)) :
    (∀ m n : Moment (Traced σ), m.map (Traced.bare see) = n.map (Traced.bare see) →
      seen see (s.run r.traced m) = seen see (t.run r.traced n)) ∧
    (∀ (l : Smbclient.Launcher) (target : Target) (user : String) (asked : Smbclient.FileCall),
      l.Discreet target user asked) ∧
    ∀ {τ υ : Type} (l : Smbclient.Launcher) (h : View τ υ) (spawn : Smbclient.Spawn τ)
      (other : Smbclient.Spawn υ),
      (∀ program arguments c data,
        (spawn program arguments (Smbclient.inputPayload c data)).Lifts h
          (other program arguments (Smbclient.inputPayload c.bare data))) →
      ∃ client : ShareClient υ, (l.client spawn).Lifts h client ∧ client.Blind := by
  refine ⟨fun m n same => ?_, Smbclient.launcher_discreet, fun l h spawn other unread =>
    ⟨_, Smbclient.client_lifts l unread, ShareClient.blind_blind _⟩⟩
  have discreet : ∀ step ∈ s.steps, step.Discreet (Traced.bare see) := by
    intro step member
    obtain ⟨kind, rfl⟩ | discreet := steps step member
    next => exact kind.discreet _
    next => exact discreet
  obtain ⟨images, lifted, blinds⟩ := Step.discreet_images discreet
  have traced : r.traced.collaborators.Lifts (Traced.bare see) _ :=
    Collaborators.traced_bare lifts blind
  have again : List.Forall₂ (Step.Lifts (Traced.bare see)) t.bare.steps images := by
    rw [← alike]
    exact lifted
  have first := run_bare_lifts traced (ShareClient.blind_blind _) lifted blinds m
  have second := run_bare_lifts (s := t) traced (ShareClient.blind_blind _) again blinds n
  rw [alike, same] at first
  exact first.symm.trans second

/-! ### A share that writes passwords down -/

open Scripted

abbrev Ledger : Type := World × List String

def ledger (password : String) : ShareCheck.Part Ledger World := ⟨Prod.fst, fun w t => (w, password :: t.2)⟩

def beside : ShareCheck.Part Ledger World := ⟨Prod.fst, fun w t => (w, t.2)⟩

def hospitable : Collaborators World :=
  { World.collaborators with shares := World.collaborators.shares.blind }

def keeping : Collaborators Ledger where
  query := hospitable.query.within beside
  fixtures := hospitable.fixtures.within beside
  shares :=
    { list := fun t c => (hospitable.shares.list t c).within (ledger c.password)
      put := fun t c name data => (hospitable.shares.put t c name data).within (ledger c.password)
      get := fun t c name => (hospitable.shares.get t c name).within (ledger c.password)
      remove := fun t c name => (hospitable.shares.remove t c name).within (ledger c.password) }
  suffix t := ((hospitable.suffix t.1).1, (hospitable.suffix t.1).2, t.2)

theorem beside_lifts {α : Type} (x : Activity World α) :
    (x.within beside).Lifts (.of Prod.fst) x := by
  intro m
  change x ⟨m.now, beside.get m.world⟩ = _
  unfold Activity.within
  match x ⟨m.now, beside.get m.world⟩ with
  | none => rfl
  | some (r, after) => rfl

theorem keeping_lifts : keeping.Lifts (.of Prod.fst) hospitable := by
  have asked {α : Type} (c : Call World α) : (c.within beside).Lifts (.of beside.get) c :=
    Call.within_lifts (fun _ _ => rfl) fun _ _ => rfl
  have noted {α : Type} (password : String) (c : Call World α) :
      (c.within (ledger password)).Lifts (.of (ledger password).get) c :=
    Call.within_lifts (fun _ _ => rfl) fun _ _ => rfl
  exact
    { query := ⟨fun _ _ => asked _, fun _ _ => asked _, fun _ _ => asked _, fun _ => asked _⟩
      fixtures := ⟨fun _ => beside_lifts _, fun _ => beside_lifts _⟩
      shares := ⟨fun _ _ => noted _ _, fun _ _ _ _ => noted _ _, fun _ _ _ => noted _ _,
        fun _ _ _ => noted _ _⟩
      suffix := fun _ => rfl }

def keepingSetting : Setting Ledger := ⟨{}, Lifecycle.oneSecret, keeping⟩

def guest {σ : Type} (password : String) : Scenario σ :=
  { visit with credentials := [⟨"user", password⟩] }

def openHouse : World := { healthy with shares := { users := Table.empty.insert "user" "" } }

def arriving : Moment (Traced Ledger) := ⟨0, [], openHouse, []⟩

def mute : Smbclient.Spawn (List Text.Bytes) := fun _ _ input _ inputs =>
  (.lands 0 fun inputs => (.ok (.ok ⟨.exited 0, [], []⟩), input :: inputs), inputs)

def deaf : Smbclient.Spawn Unit := fun _ _ _ _ _ =>
  (.lands 0 fun _ => (.ok (.ok ⟨.exited 0, [], []⟩), ()), ())

theorem run_discreet_rotated :
    seen Prod.fst ((guest "spring").run keepingSetting.traced arriving) =
        seen Prod.fst ((guest "autumn").run keepingSetting.traced arriving) ∧
      ((guest "spring").run keepingSetting.traced arriving).map
          (fun (_, after) => after.world.world.2.eraseDups) = some ["spring"] ∧
      ((guest "autumn").run keepingSetting.traced arriving).map
          (fun (_, after) => after.world.world.2.eraseDups) = some ["autumn"] ∧
      Smbclient.throughEnv.argv Smbclient.cellar ⟨"user", "spring"⟩ "ls" =
        Smbclient.throughEnv.argv Smbclient.cellar ⟨"user", "autumn"⟩ "ls" ∧
      ∃ client, (Smbclient.throughEnv.client mute).Lifts (.of fun _ => ()) client ∧
        client.Blind := by
  have base : ∀ step ∈ (guest "spring" : Scenario (Traced Ledger)).steps,
      (∃ kind : Step.Kind, step = kind.step) ∨ step.Discreet (Traced.bare Prod.fst) := by
    intro step member
    rw [show (guest "spring" : Scenario (Traced Ledger)).steps = _ from Step.base_eq] at member
    obtain ⟨kind, -, rfl⟩ := List.mem_map.1 member
    exact .inl ⟨kind, rfl⟩
  have discreet := run_discreet (r := keepingSetting) keeping_lifts rfl
    (s := guest "spring") (t := guest "autumn") rfl base
  obtain ⟨program, arguments, judge, line, -⟩ :=
    discreet.2.1 Smbclient.throughEnv Smbclient.cellar "user" .list
  refine ⟨discreet.1 arriving arriving rfl, by decide +kernel, by decide +kernel,
    (line "spring").trans (line "autumn").symm, ?_⟩
  exact discreet.2.2 Smbclient.throughEnv (.of fun _ => ()) mute deaf fun _ _ _ _ _ inputs =>
    .lands 0 _ _ inputs fun _ => rfl

end Scenario

end ShareCheck
