import Mathlib.Data.Set.Insert
import ShareCheck.Proofs.Lifecycle.Account

set_option autoImplicit false

namespace ShareCheck.Lifecycle

open Rest Dialogue

/-- What a request does to the objects that there are, by their REST paths. A look-up may be
answered in any way, and what fails in another way than by a conflict or a gone object fails without
effect. -/
inductive Served (paths : Set String) : Turn → Set String → Prop
  | looked {t : Turn} : t.message.method = .get → Served paths t paths
  | created {t : Turn} {found : Json} : t.message.method = .post → t.answer = .ok found →
      t.object.path ∉ paths → Served paths t (insert t.object.path paths)
  | conflict {t : Turn} {text reason : String} : t.message.method = .post →
      t.answer = .error (.status text reason 409) → t.object.path ∈ paths → Served paths t paths
  | uncreated {t : Turn} {failure : ApiFailure} : t.message.method = .post →
      t.answer = .error failure → (∀ text reason, failure ≠ .status text reason 409) →
        Served paths t paths
  | deleted {t : Turn} {found : Json} : t.message.method = .delete → t.answer = .ok found →
      t.object.path ∈ paths → Served paths t (paths \ {t.object.path})
  | gone {t : Turn} {text reason : String} : t.message.method = .delete →
      t.answer = .error (.status text reason 404) → t.object.path ∉ paths → Served paths t paths
  | undeleted {t : Turn} {failure : ApiFailure} : t.message.method = .delete →
      t.answer = .error failure → (∀ text reason, failure ≠ .status text reason 404) →
        Served paths t paths

theorem Served.cases {paths after : Set String} {t : Turn} (served : Served paths t after) :
    (t.created? = none ∧ t.removed? = none ∧ after = paths) ∨
      (t.created? = some t.object ∧ t.removed? = none ∧ t.object.path ∉ paths ∧
        after = insert t.object.path paths) ∨
      (t.created? = none ∧ t.removed? = some t.object ∧ t.message.method = .delete ∧
        after = paths \ {t.object.path}) := by
  cases served with
  | looked get =>
    exact .inl ⟨t.created?_eq_none (by simp [get]), t.removed?_eq_none (by simp [get]), rfl⟩
  | created post answered absent =>
    exact .inr (.inl ⟨by simp [Turn.created?, post, answered], t.removed?_eq_none (by simp [post]),
      absent, rfl⟩)
  | conflict post answered present =>
    exact .inl ⟨by simp [Turn.created?, post, answered], t.removed?_eq_none (by simp [post]), rfl⟩
  | uncreated post answered other =>
    exact .inl ⟨by simp [Turn.created?, post, answered], t.removed?_eq_none (by simp [post]), rfl⟩
  | deleted delete answered present =>
    exact .inr (.inr ⟨t.created?_eq_none (by simp [delete]),
      by simp [Turn.removed?, delete, answered, Kubernetes.judgeRemoval], delete, rfl⟩)
  | gone delete answered absent =>
    exact .inr (.inr ⟨t.created?_eq_none (by simp [delete]),
      by simp [Turn.removed?, delete, answered, Kubernetes.judgeRemoval], delete,
      (Set.sdiff_singleton_eq_self absent).symm⟩)
  | @undeleted failure delete answered other =>
    refine .inl ⟨t.created?_eq_none (by simp [delete]), ?_, rfl⟩
    cases failure with
    | status text reason code =>
      have missing : code ≠ 404 := fun same => other text reason (by rw [same])
      simp [Turn.removed?, delete, answered, Kubernetes.judgeRemoval, missing]
    | transport | unsent | unreadable =>
      simp [Turn.removed?, delete, answered, Kubernetes.judgeRemoval]

def pathsOf (objects : Multiset FixtureObject) : Multiset String := objects.map (·.path)

@[simp] theorem pathsOf_zero : pathsOf 0 = 0 := rfl

@[simp] theorem pathsOf_add (s t : Multiset FixtureObject) :
    pathsOf (s + t) = pathsOf s + pathsOf t :=
  Multiset.map_add _ s t

theorem count_toList (o : Option FixtureObject) (path : String) :
    (pathsOf (o.toList : Multiset FixtureObject)).count path =
      if o.map (·.path) = some path then 1 else 0 := by
  cases o with
  | none => simp [pathsOf]
  | some o => simp [pathsOf, Multiset.count_singleton, eq_comm]

/-- All turns so far, by those who took them, the latest first. -/
abbrev History (ι : Type) : Type := List (ι × Turn)

namespace History

variable {ι : Type} [DecidableEq ι]

def of : History ι → ι → List Turn
  | [], _ => []
  | (j, t) :: h, i => if j = i then of h i ++ [t] else of h i

/-- Who created the object that is at a path, if it was not there at first. -/
def creator : History ι → String → Option ι
  | [], _ => none
  | (i, t) :: h, path =>
    if t.created?.map (·.path) = some path then some i
    else if t.removed?.map (·.path) = some path then none
    else creator h path

theorem of_cons (h : History ι) (i j : ι) (t : Turn) :
    of ((i, t) :: h) j = if i = j then of h j ++ [t] else of h j := rfl

theorem count_created (h : History ι) (i j : ι) (t : Turn) (path : String) :
    (pathsOf (created (of ((i, t) :: h) j))).count path =
      (pathsOf (created (of h j))).count path +
        if i = j ∧ t.created?.map (·.path) = some path then 1 else 0 := by
  by_cases mine : i = j <;> simp [of_cons, mine, count_toList]

theorem count_removed (h : History ι) (i j : ι) (t : Turn) (path : String) :
    (pathsOf (removed (of ((i, t) :: h) j))).count path =
      (pathsOf (removed (of h j))).count path +
        if i = j ∧ t.removed?.map (·.path) = some path then 1 else 0 := by
  by_cases mine : i = j <;> simp [of_cons, mine, count_toList]

end History

variable {ι : Type} [DecidableEq ι]

/-- A history that lifecycles and a server come to, and the objects that there are after it. Each
turn is the one that its lifecycle waits for, after the answers that it had before. -/
inductive Interleaved (parties : ι → Participant) (initial : Set String) :
    History ι → Set String → Prop
  | start : Interleaved parties initial [] initial
  | next {h : History ι} {paths after : Set String} {i : ι} {t : Turn} :
      Interleaved parties initial h paths →
        (parties i).awaited ((h.of i).map (·.answer)) = some (t.object, t.message) →
          Served paths t after → Interleaved parties initial ((i, t) :: h) after

structure Sound (parties : ι → Participant) (initial : Set String) (h : History ι)
    (paths : Set String) : Prop where
  present : ∀ path, path ∈ paths ↔ path ∈ initial ∨ ∃ i, h.creator path = some i
  new : ∀ i path, h.creator path = some i → path ∉ initial
  stands : ∀ i, ∃ r stop, (parties i).standing ((h.of i).map (·.answer)) = some (r, stop) ∧
    stop.world.world.turns = h.of i
  counted : ∀ i path, (pathsOf (created (h.of i))).count path =
    (pathsOf (removed (h.of i))).count path + if h.creator path = some i then 1 else 0

namespace Sound

variable {parties : ι → Participant} {initial paths after : Set String} {h : History ι} {i : ι}

theorem start : Sound parties initial [] initial where
  present _ := by simp [History.creator]
  new := nofun
  stands i := by
    obtain ⟨r, stop, stands, few⟩ := (parties i).standing_some []
    exact ⟨r, stop, stands, List.length_eq_zero_iff.1 (Nat.le_zero.1 few)⟩
  counted _ _ := by simp [History.of, History.creator]

theorem held (sound : Sound parties initial h paths) {tracked taken : Multiset FixtureObject}
    (holds : (parties i).Holds (h.of i) tracked taken) (path : String) :
    (pathsOf (tracked + taken)).count path = if h.creator path = some i then 1 else 0 := by
  have counted := sound.counted i path
  rw [holds.created] at counted
  simp only [pathsOf_add, Multiset.count_add] at counted ⊢
  omega

theorem awaiting (sound : Sound parties initial h paths) {o : FixtureObject} {message : Message}
    (awaits : (parties i).awaited ((h.of i).map (·.answer)) = some (o, message))
    (delete : message.method = .delete) : h.creator o.path = some i := by
  obtain ⟨r, stop, stands, turns⟩ := sound.stands i
  obtain ⟨tracked, taken, holds, -⟩ := Participant.holds_of_standing stands turns
  have held := sound.held holds o.path
  have member : o.path ∈ pathsOf (tracked + taken) :=
    Multiset.mem_map_of_mem _ (Multiset.mem_add.2 (.inr (holds.removing o message awaits delete)))
  -- What is being removed is counted, so its creator is known.
  by_contra other
  rw [if_neg other] at held
  exact Multiset.count_eq_zero.1 held member

theorem stands_next (sound : Sound parties initial h paths) {t : Turn}
    (awaits : (parties i).awaited ((h.of i).map (·.answer)) = some (t.object, t.message)) (j : ι) :
    ∃ r stop, (parties j).standing ((History.of ((i, t) :: h) j).map (·.answer)) = some (r, stop) ∧
      stop.world.world.turns = History.of ((i, t) :: h) j := by
  rw [History.of_cons]
  split
  next same =>
    subst same
    rw [List.map_append]
    exact Participant.awaited_resumes awaits t.answer (sound.stands i)
  next => exact sound.stands j

theorem next (sound : Sound parties initial h paths) {t : Turn}
    (awaits : (parties i).awaited ((h.of i).map (·.answer)) = some (t.object, t.message))
    (served : Served paths t after) : Sound parties initial ((i, t) :: h) after := by
  have stands := sound.stands_next awaits
  obtain ⟨uncreated, unremoved, rfl⟩ | ⟨made, unremoved, absent, rfl⟩ |
    ⟨uncreated, gone, delete, rfl⟩ := served.cases
  next =>
    have creator path : History.creator ((i, t) :: h) path = h.creator path := by
      simp [History.creator, uncreated, unremoved]
    refine ⟨by simpa only [creator] using sound.present, by simpa only [creator] using sound.new,
      stands, fun j path => ?_⟩
    simpa [creator, History.count_created, History.count_removed, uncreated, unremoved]
      using sound.counted j path
  next =>
    have creator path : History.creator ((i, t) :: h) path =
        if t.object.path = path then some i else h.creator path := by
      simp [History.creator, made, unremoved]
    -- Nothing was at the path before, so what is there now is nobody else's.
    have free : t.object.path ∉ initial ∧ ∀ j, h.creator t.object.path ≠ some j := by
      simpa [sound.present] using absent
    refine ⟨fun path => ?_, fun j path => ?_, stands, fun j path => ?_⟩
    · rw [Set.mem_insert_iff, sound.present]
      by_cases there : t.object.path = path
      · simp [creator, there]
      · simp [creator, there, Ne.symm there]
    · have new := sound.new j path
      grind
    · have counted := sound.counted j path
      rw [History.count_created, History.count_removed, made, unremoved, creator]
      grind
  next =>
    have creator path : History.creator ((i, t) :: h) path =
        if t.object.path = path then none else h.creator path := by
      simp [History.creator, uncreated, gone]
    -- Whoever removes an object created it.
    have mine : h.creator t.object.path = some i := sound.awaiting awaits delete
    have foreign : t.object.path ∉ initial := sound.new i _ mine
    refine ⟨fun path => ?_, fun j path => ?_, stands, fun j path => ?_⟩
    · rw [Set.mem_sdiff, Set.mem_singleton_iff, sound.present]
      by_cases there : t.object.path = path
      · simp [creator, ← there, foreign]
      · simp [creator, there, Ne.symm there]
    · have new := sound.new j path
      grind
    · have counted := sound.counted j path
      rw [History.count_created, History.count_removed, uncreated, gone, creator]
      grind

end Sound

theorem Interleaved.sound {parties : ι → Participant} {initial paths : Set String} {h : History ι}
    (run : Interleaved parties initial h paths) : Sound parties initial h paths := by
  induction run with
  | start => exact .start
  | next _ awaits served ih => exact ih.next awaits served

theorem Interleaved.earlier {parties : ι → Participant} {initial paths : Set String}
    {later h : History ι} (run : Interleaved parties initial (later ++ h) paths) :
    ∃ before, Interleaved parties initial h before := by
  induction later generalizing paths with
  | nil => exact ⟨paths, run⟩
  | cons turn later ih =>
    cases run with
    | next run _ _ => exact ih run

theorem Interleaved.leads {parties : ι → Participant} {initial paths : Set String} {h : History ι}
    (run : Interleaved parties initial h paths) :
    ∀ turn ∈ h, turn.2.object.Plain → turn.2.object.LedToBy turn.2.message := by
  induction run with
  | start => nofun
  | next _ awaits _ ih =>
    intro turn member plain
    obtain rfl | before := List.mem_cons.1 member
    · exact Participant.awaited_leads awaits plain
    · exact ih turn before plain

/-- However the requests of lifecycles are interleaved, an object that was not there at first
belongs to the one lifecycle whose request created it: that one alone tracks it, or has taken it out
and not removed it yet, and that one alone deletes it. What was there at first is never deleted. It
is all that is left when every lifecycle is torn down. -/
theorem interleaved_exclusive {parties : ι → Participant} {initial paths : Set String}
    {h : History ι} (run : Interleaved parties initial h paths) :
    (∀ path, path ∈ paths ↔ path ∈ initial ∨ ∃ i, h.creator path = some i) ∧
      (∀ i path, h.creator path = some i → path ∉ initial) ∧
      (∀ i, ∃ tracked taken, (parties i).Holds (h.of i) tracked taken ∧
        (pathsOf (tracked + taken)).Nodup ∧
          ∀ path, path ∈ pathsOf (tracked + taken) ↔ h.creator path = some i) ∧
      (∀ later i t earlier, h = later ++ (i, t) :: earlier → t.message.method = .delete →
        History.creator earlier t.object.path = some i ∧ t.object.path ∉ initial) ∧
      (∀ i, (parties i).TornDown ((h.of i).map (·.answer)) → ∀ path, h.creator path ≠ some i) ∧
      ((∀ i, (parties i).TornDown ((h.of i).map (·.answer))) → paths = initial) ∧
      ∀ turn ∈ h, turn.2.object.Plain → turn.2.object.LedToBy turn.2.message := by
  have sound := run.sound
  have holdings i : ∃ tracked taken, (parties i).Holds (h.of i) tracked taken ∧
      ((parties i).TornDown ((h.of i).map (·.answer)) → tracked = 0 ∧ taken = 0) := by
    obtain ⟨r, stop, stands, turns⟩ := sound.stands i
    exact Participant.holds_of_standing stands turns
  have leaves i (clean : (parties i).TornDown ((h.of i).map (·.answer))) path :
      h.creator path ≠ some i := by
    intro mine
    obtain ⟨tracked, taken, holds, empty⟩ := holdings i
    obtain ⟨rfl, rfl⟩ := empty clean
    have held := sound.held holds path
    simp [mine] at held
  refine ⟨sound.present, sound.new, fun i => ?_, ?_, leaves, fun clean => ?_, run.leads⟩
  · obtain ⟨tracked, taken, holds, -⟩ := holdings i
    have held := sound.held holds
    refine ⟨tracked, taken, holds, ?_, fun path => ?_⟩
    · refine Multiset.nodup_iff_count_le_one.2 fun path => ?_
      rw [held]
      split <;> omega
    · rw [← Multiset.count_pos, held]
      split <;> simp_all
  · rintro later i t earlier rfl delete
    obtain ⟨after, run⟩ := run.earlier
    cases run with
    | next run awaits _ =>
      have mine := run.sound.awaiting awaits delete
      exact ⟨mine, run.sound.new i _ mine⟩
  · ext path
    refine ⟨fun there => ?_, fun there => (sound.present path).2 (.inl there)⟩
    obtain first | ⟨i, mine⟩ := (sound.present path).1 there
    · exact first
    · exact absurd mine (leaves i (clean i) path)

theorem Interleaved.take {parties : ι → Participant} {initial paths : Set String} {h : History ι}
    (run : Interleaved parties initial h paths) (i : ι) (a : Answer) (after : Set String)
    {path : String} {method : Method}
    (asks : ((parties i).awaited ((h.of i).map (·.answer))).map
      (fun (o, message) => (o.path, message.method)) = some (path, method))
    (served : ∀ t : Turn, t.object.path = path → t.message.method = method → t.answer = a →
      Served paths t after) :
    ∃ o message, Interleaved parties initial ((i, ⟨o, message, a⟩) :: h) after ∧
      message.method = method := by
  obtain ⟨⟨o, message⟩, awaits, same⟩ := Option.map_eq_some_iff.1 asks
  cases same
  exact ⟨o, message, .next run awaits (served ⟨o, message, a⟩ rfl rfl rfl), rfl⟩

def race (_ : Bool) : Participant := ⟨oneSecret, [.ensure ⟨⟨"a.yaml"⟩, "ns"⟩, .teardown]⟩

def missing : Answer := .error (.status "" "NotFound" 404)

def occupied : Answer := .error (.status "" "AlreadyExists" 409)

def bystander : Set String := {"/api/v1/namespaces/ns/secrets/b"}

theorem interleaved_exclusive_race :
    ∃ h paths, Interleaved race bystander h paths ∧
      h.map (fun (i, t) => (i, t.message.method)) =
        [(false, .delete), (true, .post), (false, .post), (true, .get), (false, .get)] ∧
      (∀ i, (race i).TornDown ((h.of i).map (·.answer))) ∧ paths = bystander := by
  let path := "/api/v1/namespaces/ns/secrets/a"
  have looks : ((race false).awaited []).map (fun (o, message) => (o.path, message.method)) =
      some (path, .get) := by decide +kernel
  have creates : ((race false).awaited [missing]).map
      (fun (o, message) => (o.path, message.method)) = some (path, .post) := by decide +kernel
  have deletes : ((race false).awaited [missing, .ok .null]).map
      (fun (o, message) => (o.path, message.method)) = some (path, .delete) := by decide +kernel
  have absent : path ∉ bystander := by simp [path, bystander]
  have idle : Interleaved race bystander [] bystander := .start
  -- Both find the object missing before either creates it.
  obtain ⟨_, _, run, get⟩ := idle.take false missing bystander looks fun _ _ get _ => .looked get
  obtain ⟨_, _, run, get'⟩ := run.take true missing bystander looks fun _ _ get _ => .looked get
  obtain ⟨_, _, run, post⟩ := run.take false (.ok .null) (insert path bystander) creates
    fun t at_it post answered => at_it ▸ .created post answered (at_it ▸ absent)
  obtain ⟨_, _, run, post'⟩ := run.take true occupied (insert path bystander) creates
    fun t at_it post answered => .conflict post answered (at_it ▸ Set.mem_insert _ _)
  obtain ⟨_, _, run, delete⟩ := run.take false (.ok .null) (insert path bystander \ {path}) deletes
    fun t at_it delete answered => at_it ▸ .deleted delete answered (Set.mem_insert _ _)
  have winner : (race false).TornDown [missing, .ok .null, .ok .null] := ⟨rfl, by decide +kernel⟩
  have loser : (race true).TornDown [missing, occupied] := ⟨rfl, by decide +kernel⟩
  obtain ⟨-, -, -, -, -, restored, -⟩ := interleaved_exclusive run
  refine ⟨_, _, run, by simp [get, get', post, post', delete], ?torn, restored ?torn⟩
  intro i
  cases i with
  | false => exact winner
  | true => exact loser

end ShareCheck.Lifecycle
