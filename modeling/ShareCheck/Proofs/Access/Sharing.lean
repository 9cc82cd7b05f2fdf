import Mathlib.Data.List.Forall2
import ShareCheck.Proofs.Access.Verify
import ShareCheck.Scripted.Share

set_option autoImplicit false

namespace ShareCheck

open Text (Bytes)

variable {σ : Type}

abbrev Contents : Type := String → String → Option Bytes

def Contents.set (f : Contents) (unc name : String) (stored : Option Bytes) : Contents :=
  fun u n => if u = unc ∧ n = name then stored else f u n

@[simp] theorem Contents.set_same (f : Contents) (unc name : String) (stored : Option Bytes) :
    f.set unc name stored unc name = stored := by
  simp [Contents.set]

theorem Contents.set_other (f : Contents) {unc name u n : String} (stored : Option Bytes)
    (other : ¬ (u = unc ∧ n = name)) : f.set unc name stored u n = f u n := by
  simp [Contents.set, other]

/-- A call that lands has acted on the files once, as it began or as it landed. -/
def Call.Acts {α : Type} (files : σ → Contents) (does : Contents → α → Contents → Prop)
    (c : Call σ α) : Prop :=
  ∀ now w delay finish v, c now w = (.lands delay finish, v) →
    (∃ a, does (files w) a (files v) ∧ ∀ u, (finish u).1 = .ok a ∧ files (finish u).2 = files u) ∨
      (files v = files w ∧
        ∀ u, ∃ a, (finish u).1 = .ok a ∧ does (files u) a (files (finish u).2))

theorem Call.Acts.map {α β : Type} {files : σ → Contents} {does : Contents → α → Contents → Prop}
    {other : Contents → β → Contents → Prop} {c : Call σ α} (acts : c.Acts files does) (f : α → β)
    (leads : ∀ before a after, does before a after → other before (f a) after) :
    (c.map f).Acts files other := by
  intro now w delay finish v begun
  unfold Call.map at begun
  match called : c now w with
  | (.never, u) => simp [called, Flight.map] at begun
  | (.lands lasts done, u) =>
    simp only [called, Flight.map, Prod.mk.injEq, Flight.lands.injEq] at begun
    obtain ⟨⟨-, rfl⟩, rfl⟩ := begun
    obtain ⟨a, did, answers⟩ | ⟨same, acts⟩ := acts now w lasts done u called
    next =>
      refine .inl ⟨f a, leads _ _ _ did, fun v => ?_⟩
      obtain ⟨answered, kept⟩ := answers v
      rcases landed : done v with ⟨r, x⟩
      rw [landed] at answered kept
      subst answered
      simp only [landed]
      exact ⟨trivial, kept⟩
    next =>
      refine .inr ⟨same, fun v => ?_⟩
      obtain ⟨a, answered, did⟩ := acts v
      rcases landed : done v with ⟨r, x⟩
      rw [landed] at answered did
      subst answered
      refine ⟨f a, ?_⟩
      simp only [landed]
      exact ⟨trivial, leads _ _ _ did⟩

structure Gate where
  reachable : String → Prop
  passwords : String → Option String

namespace Gate

def Admits (g : Gate) (t : Target) (c : Credential) : Prop :=
  g.reachable t.host ∧ g.passwords c.username = some c.password

def Refuses (g : Gate) (t : Target) (c : Credential) (e : Error) : Prop :=
  (¬ g.reachable t.host → e.accessFailure? = some .connection) ∧
    (g.reachable t.host → (g.passwords c.username).isSome → e.accessFailure? = some .auth)

/-- Where it can be done, it is done for whoever gets in. Others only learn why they do not. -/
structure Serves {α : Type} (g : Gate) (t : Target) (c : Credential) (can : Contents → Prop)
    (does : Contents → α → Contents → Prop) (before : Contents) (answer : Except Error α)
    (after : Contents) : Prop where
  admitted : g.Admits t c → can before → ∃ a, answer = .ok a ∧ does before a after
  refused : ¬ g.Admits t c → after = before ∧ ∃ e, answer = .error e ∧ g.Refuses t c e

end Gate

structure ShareClient.Stores (client : ShareClient σ) (files : σ → Contents) (g : Gate) :
    Prop where
  list : ∀ t c, (client.list t c).Acts files (g.Serves t c (fun _ => True)
    fun before names after =>
      (∀ name, name ∈ names ↔ (before t.unc name).isSome) ∧ after = before)
  put : ∀ t c name contents, (client.put t c name contents).Acts files
    (g.Serves t c (fun _ => True) fun before _ after =>
      after = before.set t.unc name (some contents))
  get : ∀ t c name, (client.get t c name).Acts files
    (g.Serves t c (fun before => (before t.unc name).isSome) fun before contents after =>
      before t.unc name = some contents ∧ after = before)
  remove : ∀ t c name, (client.remove t c name).Acts files
    (g.Serves t c (fun before => (before t.unc name).isSome) fun before _ after =>
      after = before.set t.unc name none)

namespace RoundTrip

def Ready (g : Gate) (t : RoundTrip) (stored : Option Bytes) : Stage → Prop
  | .listing => stored = none
  | .writing => g.Admits t.target t.credential ∧ stored = none
  | .relisting | .reading | .removing =>
    g.Admits t.target t.credential ∧ stored = some probePayload
  | .cleaning _ => False

structure Closed (g : Gate) (t : RoundTrip) (stored : Option Bytes) (r : Except Error Unit) :
    Prop where
  gone : stored = none
  admitted : g.Admits t.target t.credential → r = .ok ()
  refused : ¬ g.Admits t.target t.credential →
    ∃ e, r = .error e ∧ g.Refuses t.target t.credential e

def Comes (g : Gate) (t : RoundTrip) (stored : Option Bytes) {s : Stage} : Progress s → Prop
  | .next after _ => Ready g t stored after
  | .finished r => Closed g t stored r

def stored (t : RoundTrip) (f : Contents) : Option Bytes := f t.target.unc t.probe

def Spares (t : RoundTrip) (before after : Contents) : Prop :=
  ∀ u n, ¬ (u = t.target.unc ∧ n = t.probe) → after u n = before u n

theorem Spares.refl (t : RoundTrip) (f : Contents) : t.Spares f f := fun _ _ _ => rfl

theorem Spares.trans {t : RoundTrip} {f g h : Contents} (first : t.Spares f g)
    (second : t.Spares g h) : t.Spares f h :=
  fun u n other => (second u n other).trans (first u n other)

theorem Spares.set (t : RoundTrip) (f : Contents) (x : Option Bytes) :
    t.Spares f (f.set t.target.unc t.probe x) :=
  fun _ _ other => f.set_other x other

theorem Spares.stored {t u : RoundTrip} {f g : Contents} (spares : t.Spares f g)
    (apart : u.probe ≠ t.probe) : u.stored g = u.stored f :=
  spares _ _ fun same => apart same.2

def Does (g : Gate) (t : RoundTrip) (s : Stage) (before : Contents) (p : Progress s)
    (after : Contents) : Prop :=
  t.Ready g (t.stored before) s → Comes g t (t.stored after) p ∧ t.Spares before after

variable {client : ShareClient σ} {files : σ → Contents} {g : Gate}

theorem call_acts (stores : client.Stores files g) (t : RoundTrip) (s : Stage) :
    (t.call client s).Acts files (t.Does g s) := by
  cases s with
  | listing =>
    refine (stores.list _ _).map _ fun before answer after serves absent => ?_
    by_cases admits : g.Admits t.target t.credential
    next =>
      obtain ⟨names, rfl, -, rfl⟩ := serves.admitted admits trivial
      exact ⟨⟨admits, absent⟩, .refl t after⟩
    next =>
      obtain ⟨rfl, e, rfl, refuses⟩ := serves.refused admits
      exact ⟨⟨absent, fun gets => absurd gets admits, fun _ => ⟨e, rfl, refuses⟩⟩, .refl t after⟩
  | writing =>
    refine (stores.put _ _ _ _).map _ fun before answer after serves ⟨admits, absent⟩ => ?_
    obtain ⟨⟨⟩, rfl, rfl⟩ := serves.admitted admits trivial
    exact ⟨⟨admits, before.set_same _ _ _⟩, .set t before _⟩
  | relisting =>
    refine (stores.list _ _).map _ fun before answer after serves ⟨admits, stands⟩ => ?_
    obtain ⟨names, rfl, lists, rfl⟩ := serves.admitted admits trivial
    have listed : names.contains t.probe = true := by
      rw [List.contains_iff_mem, lists, show after t.target.unc t.probe = _ from stands]
      rfl
    simp only [afterRelisting, listed, if_true]
    exact ⟨⟨admits, stands⟩, .refl t after⟩
  | reading =>
    refine (stores.get _ _ _).map _ fun before answer after serves ⟨admits, stands⟩ => ?_
    obtain ⟨contents, rfl, holds, rfl⟩ := serves.admitted admits (by
      rw [show before t.target.unc t.probe = _ from stands]
      rfl)
    obtain rfl : probePayload = contents := Option.some.inj (stands.symm.trans holds)
    have occurs : Text.occurs probePayload probePayload = true :=
      (Text.occurs_iff _ _).2 (List.infix_refl _)
    simp only [afterReading, occurs, if_true]
    exact ⟨⟨admits, stands⟩, .refl t after⟩
  | removing =>
    refine (stores.remove _ _ _).map _ fun before answer after serves ⟨admits, stands⟩ => ?_
    obtain ⟨⟨⟩, rfl, rfl⟩ := serves.admitted admits (by
      rw [show before t.target.unc t.probe = _ from stands]
      rfl)
    exact ⟨⟨before.set_same _ _ _, fun _ => rfl, fun gets => absurd admits gets⟩,
      .set t before none⟩
  | cleaning e => exact (stores.remove _ _ _).map _ fun before answer after serves => False.elim

section

variable (files : σ → Contents) (g : Gate) (t : RoundTrip)

def Flying (s : Stage) (finish : σ → Except Panic (Progress s) × σ) (w : σ) : Prop :=
  (∃ p, Comes g t (t.stored (files w)) p ∧
      ∀ u, (finish u).1 = .ok p ∧ files (finish u).2 = files u) ∨
    t.Ready g (t.stored (files w)) s ∧
      ∀ u, ∃ p, (finish u).1 = .ok p ∧ t.Does g s (files u) p (files (finish u).2)

def Stands : Strand σ → σ → Prop
  | .lost, _ => True
  | .waiting s _ finish, w => Flying files g t s finish w
  | .done _ outcome, w => ∃ r, outcome = .ok r ∧ Closed g t (t.stored (files w)) r

end

variable {t : RoundTrip} {v w : σ}

theorem Stands.elsewhere {strand : Strand σ} (stands : Stands files g t strand w)
    (same : t.stored (files v) = t.stored (files w)) : Stands files g t strand v := by
  cases strand with
  | lost => trivial
  | waiting s landing finish =>
    change Flying files g t s finish v
    unfold Flying
    rwa [same]
  | done ended outcome =>
    change ∃ r, outcome = .ok r ∧ Closed g t (t.stored (files v)) r
    rwa [same]

theorem Flying.begins (stores : client.Stores files g) {s : Stage} {now delay : Nat}
    {finish : σ → Except Panic (Progress s) × σ}
    (begun : t.call client s now w = (.lands delay finish, v))
    (ready : t.Ready g (t.stored (files w)) s) :
    Flying files g t s finish v ∧ t.Spares (files w) (files v) := by
  obtain ⟨p, did, answers⟩ | ⟨same, acts⟩ := call_acts stores t s now w delay finish v begun
  next =>
    obtain ⟨comes, spares⟩ := did ready
    exact ⟨.inl ⟨p, comes, answers⟩, spares⟩
  next =>
    rw [same]
    exact ⟨.inr ⟨same ▸ ready, acts⟩, .refl t _⟩

theorem Flying.lands {s : Stage} {finish : σ → Except Panic (Progress s) × σ}
    (flying : Flying files g t s finish w) :
    ∃ p, (finish w).1 = .ok p ∧ Comes g t (t.stored (files (finish w).2)) p ∧
      t.Spares (files w) (files (finish w).2) := by
  obtain ⟨p, comes, answers⟩ | ⟨ready, acts⟩ := flying
  next =>
    obtain ⟨answered, same⟩ := answers w
    rw [same]
    exact ⟨p, answered, comes, .refl t _⟩
  next =>
    obtain ⟨p, answered, does⟩ := acts w
    exact ⟨p, answered, does ready⟩

theorem proceed_stands (stores : client.Stores files g) (now : Nat) (s : Stage) (w : σ)
    (ready : t.Ready g (t.stored (files w)) s) :
    Stands files g t (t.proceed client now s w).1 (t.proceed client now s w).2 ∧
      ((t.proceed client now s w).1 ≠ .lost →
        t.Spares (files w) (files (t.proceed client now s w).2)) := by
  fun_induction proceed client t now s w with
  | case1 s w v begun => exact ⟨trivial, fun lost => absurd rfl lost⟩
  | case2 s w finish v next later u landed begun ih =>
    obtain ⟨flying, first⟩ := Flying.begins stores begun ready
    obtain ⟨p, answered, comes, second⟩ := flying.lands
    rw [landed] at answered comes second
    cases answered
    obtain ⟨stands, rest⟩ := ih comes
    exact ⟨stands, fun moves => (first.trans second).trans (rest moves)⟩
  | case3 s w finish v result u landed begun =>
    obtain ⟨flying, first⟩ := Flying.begins stores begun ready
    obtain ⟨p, answered, comes, second⟩ := flying.lands
    rw [landed] at answered comes second
    cases answered
    exact ⟨⟨result, rfl, comes⟩, fun _ => first.trans second⟩
  | case4 s w finish v p u landed begun =>
    obtain ⟨q, answered, -⟩ := (Flying.begins stores begun ready).1.lands
    rw [landed] at answered
    cases answered
  | case5 s w delay finish v begun late =>
    obtain ⟨flying, first⟩ := Flying.begins stores begun ready
    exact ⟨flying, fun _ => first⟩

theorem wake_stands (stores : client.Stores files g) (now : Nat) {strand : Strand σ} {w : σ}
    (stands : Stands files g t strand w) :
    Stands files g t (t.wake client now strand w).1 (t.wake client now strand w).2 ∧
      ((t.wake client now strand w).1 ≠ .lost →
        t.Spares (files w) (files (t.wake client now strand w).2)) := by
  fun_cases wake client t now strand w with
  | case1 s landing finish w due next later u landed =>
    obtain ⟨p, answered, comes, first⟩ := Flying.lands stands
    rw [landed] at answered comes first
    cases answered
    obtain ⟨stands, rest⟩ := proceed_stands stores now next u comes
    exact ⟨stands, fun moves => first.trans (rest moves)⟩
  | case2 s landing finish w due result u landed =>
    obtain ⟨p, answered, comes, first⟩ := Flying.lands stands
    rw [landed] at answered comes first
    cases answered
    exact ⟨⟨result, rfl, comes⟩, fun _ => first⟩
  | case3 s landing finish w due p u landed =>
    obtain ⟨q, answered, -⟩ := Flying.lands stands
    rw [landed] at answered
    cases answered
  | case4 s landing finish w early => exact ⟨stands, fun _ => .refl t _⟩
  | case5 strand w other => exact ⟨stands, fun _ => .refl t _⟩

end RoundTrip

namespace Lane

variable {client : ShareClient σ} {files : σ → Contents} {g : Gate} {all : List RoundTrip}

structure Tidy (files : σ → Contents) (g : Gate) (start : Contents)
    (pending : List (RoundTrip × Nat)) (lanes : List (Lane σ)) (w : σ) : Prop where
  stands : ∀ l ∈ lanes, l.trip.Stands files g l.strand w
  unbegun : ∀ p ∈ pending, p.1.stored (files w) = none
  others : ∀ u n, (∀ l ∈ lanes, ¬ (u = l.trip.target.unc ∧ n = l.trip.probe)) →
    files w u n = start u n

theorem Tidy.moves {start : Contents} {pending : List (RoundTrip × Nat)} {lanes : List (Lane σ)}
    {v w : σ} {position : Nat} {t : RoundTrip} {strand : Strand σ}
    (stands : ∀ l ∈ lanes, l.trip.Stands files g l.strand w)
    (unbegun : ∀ p ∈ pending, p.1.stored (files w) = none)
    (others : ∀ u n, (∀ l ∈ lanes, ¬ (u = l.trip.target.unc ∧ n = l.trip.probe)) →
      ¬ (u = t.target.unc ∧ n = t.probe) → files w u n = start u n)
    (foreign : (∀ p ∈ pending, p.1.probe ≠ t.probe) ∧ ∀ l ∈ lanes, l.trip.probe ≠ t.probe)
    (moved : t.Stands files g strand v) (spares : t.Spares (files w) (files v)) :
    Tidy files g start pending (⟨position, t, strand⟩ :: lanes) v := by
  refine ⟨fun l member => ?_, fun p member => ?_, fun u n elsewhere => ?_⟩
  · obtain rfl | member := List.mem_cons.1 member
    next => exact moved
    next => exact (stands l member).elsewhere (spares.stored (foreign.2 l member))
  · rw [spares.stored (foreign.1 p member)]
    exact unbegun p member
  · have own := elsewhere _ (List.mem_cons_self ..)
    rw [spares u n own]
    exact others u n (fun l member => elsewhere l (List.mem_cons_of_mem _ member)) own

def Distinct (all : List RoundTrip) : Prop :=
  ∀ (i j : Nat) (t u : RoundTrip),
    all[i]? = some t → all[j]? = some u → i ≠ j → t.probe ≠ u.probe

theorem distinct_tripsOf {credentials : List (Credential × String)} (target : Target)
    (different : (credentials.map (·.2)).Nodup) : Distinct (tripsOf target credentials) := by
  intro i j t u first second apart same
  have probes : (tripsOf target credentials).map (·.probe) = credentials.map (·.2) := by
    rw [tripsOf, List.map_map]
    rfl
  rw [← probes] at different
  obtain ⟨within, -⟩ := List.getElem?_eq_some_iff.1 first
  refine apart ((List.getElem?_inj (by rwa [List.length_map]) different).1 ?_)
  rw [List.getElem?_map, List.getElem?_map, first, second, Option.map_some, Option.map_some, same]

theorem Tagged.foreign {pending : List (RoundTrip × Nat)} {lanes : List (Lane σ)} {l : Lane σ}
    (tagged : Tagged all pending (l :: lanes)) (distinct : Distinct all) :
    (∀ p ∈ pending, p.1.probe ≠ l.trip.probe) ∧ ∀ k ∈ lanes, k.trip.probe ≠ l.trip.probe := by
  have here := tagged.known (List.mem_cons_self ..)
  obtain ⟨remain, apart⟩ := tagged.apart
  refine ⟨fun p member => ?_, fun k member => ?_⟩
  · exact distinct _ _ _ _ (tagged.awaited member) here (remain p member)
  · have there := tagged.known (List.mem_cons_of_mem _ member)
    exact distinct _ _ _ _ there here (apart k member)

/-- A call that never lands may have done anything, so nothing is known once one is lost. -/
theorem joint_tidy (stores : client.Stores files g) (distinct : Distinct all) (start : Contents) :
    Joint (fun _ => client) all fun _ pending lanes w =>
      (∀ l ∈ lanes, l.strand ≠ .lost) → Tidy files g start pending lanes w where
  reordered same tidy found := by
    have holds := tidy fun l member => found l (same.mem_iff.1 member)
    refine ⟨fun l member => holds.stands l (same.mem_iff.2 member), holds.unbegun, ?_⟩
    exact fun u n elsewhere => holds.others u n fun l member => elsewhere l (same.mem_iff.1 member)
  passes _ _ tidy := tidy
  begins {now t position pending lanes w} tagged tidy found := by
    have holds := tidy fun l member => found l (List.mem_cons_of_mem _ member)
    obtain ⟨stands, spares⟩ := RoundTrip.proceed_stands stores now .listing w
      (holds.unbegun (t, position) (List.mem_cons_self ..))
    refine .moves holds.stands (fun p member => holds.unbegun p (List.mem_cons_of_mem _ member))
      (fun u n elsewhere _ => holds.others u n elsewhere)
      ((tagged.begins (.lost : Strand σ)).foreign distinct) stands (spares ?_)
    exact found _ (List.mem_cons_self ..)
  wakes {now t position strand lanes w} tagged tidy found := by
    have moves := found _ (List.mem_cons_self ..)
    have before : strand ≠ .lost := by
      rintro rfl
      exact moves rfl
    have holds := tidy fun l member => by
      obtain rfl | member := List.mem_cons.1 member
      next => exact before
      next => exact found l (List.mem_cons_of_mem _ member)
    obtain ⟨stands, spares⟩ := RoundTrip.wake_stands stores now
      (holds.stands _ (List.mem_cons_self ..))
    refine .moves (fun l member => holds.stands l (List.mem_cons_of_mem _ member)) nofun
      (fun u n elsewhere own => holds.others u n fun l member => ?_)
      (tagged.foreign distinct) stands (spares moves)
    obtain rfl | member := List.mem_cons.1 member
    next => exact own
    next => exact elsewhere l member

end Lane

def Strand.hasEnded : Strand σ → Bool
  | .done _ _ => true
  | _ => false

structure Gate.Judged (g : Gate) (endpoint : Endpoint) (target : Target) (c : Credential)
    (check : Check) : Prop where
  name : check.name = accessCheckName endpoint c
  passed : check.passed = true ↔
    g.reachable target.host ∧ g.passwords c.username = some c.password
  unreachable : ¬ g.reachable target.host → check.error.bind (·.accessFailure?) = some .connection
  wrong : g.reachable target.host → ∀ password, g.passwords c.username = some password →
    password ≠ c.password → check.error.bind (·.accessFailure?) = some .auth

theorem RoundTrip.Closed.judged {g : Gate} {t : RoundTrip} {stored : Option Bytes}
    {r : Except Error Unit} (closed : t.Closed g stored r) (endpoint : Endpoint) (duration : Nat) :
    g.Judged endpoint t.target t.credential
      (.ofResult (accessCheckName endpoint t.credential) duration r) := by
  by_cases admits : g.Admits t.target t.credential
  next =>
    obtain rfl := closed.admitted admits
    refine ⟨rfl, iff_of_true rfl admits, fun unreachable => absurd admits.1 unreachable, ?_⟩
    intro _ password known other
    exact absurd (Option.some.inj (known.symm.trans admits.2)) other
  next =>
    obtain ⟨e, rfl, refuses⟩ := closed.refused admits
    refine ⟨rfl, iff_of_false nofun admits, refuses.1, fun reachable password known _ => ?_⟩
    exact refuses.2 reachable (known ▸ rfl)

namespace Lane

variable {client : ShareClient σ} {files : σ → Contents} {g : Gate} {start : Contents}
  {lanes : List (Lane σ)} {w : σ}

theorem Tidy.closed (tidy : Tidy files g start [] lanes w)
    (intime : ∀ l ∈ lanes, l.strand.hasEnded = true) {l : Lane σ} (member : l ∈ lanes) :
    ∃ ended r, l.strand = .done ended (.ok r) ∧
      l.trip.Closed g (l.trip.stored (files w)) r := by
  have stands := tidy.stands l member
  have ended := intime l member
  match strand : l.strand with
  | .lost | .waiting .. =>
    rw [strand] at ended
    cases ended
  | .done ended outcome =>
    rw [strand] at stands
    obtain ⟨r, rfl, closed⟩ := stands
    exact ⟨ended, r, rfl, closed⟩

theorem Tidy.restored (tidy : Tidy files g start [] lanes w)
    (intime : ∀ l ∈ lanes, l.strand.hasEnded = true)
    (fresh : ∀ l ∈ lanes, l.trip.stored start = none) : files w = start := by
  funext u n
  by_cases owned : ∃ l ∈ lanes, u = l.trip.target.unc ∧ n = l.trip.probe
  next =>
    obtain ⟨l, member, rfl, rfl⟩ := owned
    obtain ⟨_, _, -, ended⟩ := tidy.closed intime member
    exact ended.gone.trans (fresh l member).symm
  next => exact tidy.others u n fun l member own => owned ⟨l, member, own⟩

theorem paired {target : Target} {credentials : List (Credential × String)}
    (known : lanes.map (·.trip) = tripsOf target credentials) :
    List.Forall₂ (fun l entry => l.trip = ⟨target, entry.1, entry.2⟩) lanes credentials := by
  have same : List.Forall₂ (· = ·) (lanes.map (·.trip)) (tripsOf target credentials) := by
    rw [List.forall₂_eq_eq_eq]
    exact known
  rwa [List.forall₂_map_left_iff, tripsOf, List.forall₂_map_right_iff] at same

end Lane

/-- On a share that keeps files for everybody, probes that differ from each other and from the files
there keep out of each other's way: each entry learns whether it gets in, whatever the others are
told, and all files are as they were. -/
theorem verifyEndpoint_shares {client : ShareClient σ} {files : σ → Contents} {g : Gate}
    (stores : client.Stores files g) (endpoint : Endpoint) (target : Target) (timeout : Nat)
    (credentials : List (Credential × String)) (m : Moment σ)
    (different : (credentials.map (·.2)).Nodup)
    (absent : ∀ entry ∈ credentials, files m.world target.unc entry.2 = none)
    (intime : ∀ l ∈ (Lane.conclude (fun _ => client) (m.now + timeout)
      (tripsOf target credentials) m).1, l.strand.hasEnded = true) :
    ∃ checks after,
      verifyEndpoint client endpoint target timeout credentials m = some (.ok checks, after) ∧
      List.Forall₂ (fun entry check => g.Judged endpoint target entry.1 check) credentials checks ∧
      files after.world = files m.world := by
  obtain ⟨now, concluded⟩ := verifyEndpoint_conclude client endpoint target timeout credentials m
  have fresh t (trip : t ∈ tripsOf target credentials) : t.stored (files m.world) = none := by
    obtain ⟨entry, among, rfl⟩ := List.mem_map.1 trip
    exact absent entry among
  have pending p (member : p ∈ (tripsOf target credentials).zipIdx) :=
    fresh p.1 (List.mem_of_getElem? (List.mem_zipIdx_iff_getElem?.1 member))
  obtain ⟨ended, stop, -, -, tidy⟩ := Lane.conclude_joint
    (Lane.joint_tidy stores (Lane.distinct_tripsOf target different) (files m.world))
    (Nat.le_add_right m.now timeout) fun _ => ⟨nofun, pending, fun _ _ _ => rfl⟩
  have known := ended.trips
  generalize Lane.conclude (fun _ => client) (m.now + timeout) (tripsOf target credentials) m = last
    at concluded known tidy intime
  obtain ⟨lanes, w⟩ := last
  have tidy := tidy fun l member lost => by
    have ended := intime l member
    rw [lost] at ended
    cases ended
  refine ⟨_, _, concluded, ?_, tidy.restored intime fun l member => fresh l.trip ?_⟩
  · have judged l (member : l ∈ lanes) : g.Judged endpoint l.trip.target l.trip.credential
        (l.check endpoint target timeout m.now) := by
      obtain ⟨ended, r, strand, closed⟩ := tidy.closed intime member
      have check := closed.judged endpoint (ended - m.now)
      unfold Lane.check
      rw [strand]
      exact check
    rw [List.forall₂_map_right_iff]
    refine ((List.forall₂_and_left lanes credentials).2 ⟨judged, Lane.paired known⟩).flip.imp ?_
    rintro entry l ⟨judged, same⟩
    rwa [same] at judged
  · rw [← known]
    exact List.mem_map_of_mem member

namespace Scripted

variable {base : Shares}

def filing (base : Shares) : Part (List StoredFile) Shares where
  get files := { base with files }
  put s _ := s.files

def contents (files : List StoredFile) : Contents := ({ files } : Shares).fileAt

def Shares.gate (base : Shares) : Gate where
  reachable host := host ∉ base.unreachable
  passwords := base.users.get?

def Rule.Paces (r : Rule) : Prop :=
  r.effect = { delay := r.effect.delay } ∧ r.entries = none ∧ r.drop = false ∧ r.data = none ∧
    r.before = [] ∧ r.after = []

theorem contents_added (files : List StoredFile) (unc name : String) (stored : Bytes) :
    contents (({ files } : Shares).without unc name ++ [⟨unc, name, stored⟩]) =
      (contents files).set unc name (some stored) := by
  funext u n
  unfold contents Shares.fileAt Shares.without Contents.set
  rw [List.find?_append, List.find?_filter]
  grind

theorem contents_removed (files : List StoredFile) (unc name : String) :
    contents (({ files } : Shares).without unc name) = (contents files).set unc name none := by
  funext u n
  unfold contents Shares.fileAt Shares.without Contents.set
  rw [List.find?_filter]
  grind

theorem mem_namesAt (files : List StoredFile) (unc name : String) :
    name ∈ ({ files } : Shares).namesAt unc ↔ (contents files unc name).isSome := by
  unfold contents Shares.fileAt Shares.namesAt
  rw [Option.isSome_map, List.find?_isSome]
  simp only [List.mem_map, List.mem_filter, beq_iff_eq, Bool.and_eq_true]
  grind

theorem Shares.logIn_admits {t : Target} {c : Credential} (admits : base.gate.Admits t c)
    (files : List StoredFile) : logIn { base with files } t c = .ok () := by
  obtain ⟨reachable, right⟩ := admits
  simp only [gate] at reachable right
  simp [logIn, reachable, right]

theorem Shares.logIn_refuses {t : Target} {c : Credential} (refused : ¬ base.gate.Admits t c)
    (files : List StoredFile) :
    ∃ e, logIn { base with files } t c = .error e ∧ base.gate.Refuses t c e := by
  by_cases reachable : t.host ∈ base.unreachable
  next =>
    refine ⟨.access .connection t.unc "NT_STATUS_CONNECTION_REFUSED", ?_, fun _ => rfl, ?_⟩
    · simp [logIn, reachable]
    · exact fun there => absurd reachable there
  next =>
    have wrong : base.users.get? c.username ≠ some c.password := fun right =>
      refused ⟨reachable, right⟩
    refine ⟨.access .auth t.unc "NT_STATUS_LOGON_FAILURE", ?_, ?_, fun _ _ => rfl⟩
    · simp [logIn, reachable, wrong]
    · exact fun missing => absurd reachable missing

section

variable (paced : ∀ r ∈ base.rules, r.Paces)

include paced

theorem Rule.found_paces (p : Rule → Bool) : ((base.rules.find? p).getD {}).Paces := by
  match found : base.rules.find? p with
  | some r => exact paced r (List.mem_of_find?_eq_some found)
  | none => exact ⟨rfl, rfl, rfl, rfl, rfl, rfl⟩

namespace Shares

def entered {α : Type} (t : Target) (c : Credential) (work : Shares → Except Error α × Shares)
    (s : Shares) : Except Error α × Shares :=
  match s.logIn t c with
  | .error e => (.error e, s)
  | .ok () => work s

theorem call_acts {α : Type} (operation : FileOperation) (t : Target) (c : Credential)
    (details : String) (work : Rule → Shares → Except Error α × Shares) {can : Contents → Prop}
    {does : Contents → α → Contents → Prop}
    (works : ∀ r files, r.Paces → can (contents files) →
      ∃ a, (work r { base with files }).1 = .ok a ∧
        does (contents files) a (contents (work r { base with files }).2.files)) :
    ((call operation t c details work).within (filing base)).Acts contents
      (base.gate.Serves t c can does) := by
  intro now files delay finish after begun
  let count := (({ base with files } : Shares).record c.username operation t.host
    (t.unc ++ details)).callCount operation t.host c.username
  let r := (base.rules.find? fun r => r.applies operation t.host c.username count).getD {}
  have paces : r.Paces := Rule.found_paces paced _
  let answer := entered t c (work r)
  have called : (call operation t c details work).within (filing base) now files =
      (.lands r.effect.delay fun files =>
        (.ok (answer { base with files }).1, (answer { base with files }).2.files), files) := by
    change ((r.effect.before answer).within (filing base), files) = _
    rw [paces.1]
    rfl
  rw [called] at begun
  cases begun
  -- Such a call acts on the files as it finds them when it lands.
  refine .inr ⟨rfl, fun u => ⟨(answer { base with files := u }).1, rfl, ?_, ?_⟩⟩
  · intro admits able
    have answered : answer { base with files := u } = work r { base with files := u } := by
      simp only [answer, entered, logIn_admits admits]
    simp only [answered]
    exact works r u paces able
  · intro refused
    obtain ⟨e, found, refuses⟩ := logIn_refuses refused u
    have answered : answer { base with files := u } = (.error e, { base with files := u }) := by
      simp only [answer, entered, found]
    simp only [answered]
    exact ⟨trivial, e, rfl, refuses⟩

theorem client_stores : ShareClient.Stores (client.within (filing base)) contents base.gate where
  list t c := by
    change ((list t c).within (filing base)).Acts _ _
    unfold list
    refine call_acts paced .list t c _ _ fun r files paces _ => ⟨_, rfl, fun name => ?_, rfl⟩
    rw [paces.2.1]
    exact mem_namesAt files t.unc name
  put t c name stored := by
    change ((put t c name stored).within (filing base)).Acts _ _
    unfold put
    refine call_acts paced .put t c _ _ fun r files paces _ => ⟨(), rfl, ?_⟩
    rw [paces.2.2.1]
    exact contents_added files t.unc name stored
  get t c name := by
    change ((get t c name).within (filing base)).Acts _ _
    unfold get
    refine call_acts paced .get t c _ _ fun r files paces there => ?_
    obtain ⟨stored, there⟩ := Option.isSome_iff_exists.1 there
    obtain ⟨-, -, -, data, before, after⟩ := paces
    have found : fileAt { base with files } t.unc name = some stored := there
    rw [data, before, after, found]
    exact ⟨stored, by simp, there, rfl⟩
  remove t c name := by
    change ((remove t c name).within (filing base)).Acts _ _
    unfold remove
    refine call_acts paced .remove t c _ _ fun r files paces there => ⟨(), rfl, ?_⟩
    exact contents_removed files t.unc name

end Shares

end

def office : Shares where
  users := (Table.empty.insert "user" "secret").insert "guest" "open"
  rules := [{ user := some "guest", effect := { delay := 3 } }, { effect := { delay := 2 } }]

theorem office_paced : ∀ r ∈ office.rules, r.Paces := by
  simp [office, Rule.Paces]

theorem verifyEndpoint_shares_office :
    let target : Target := ⟨"10.0.0.1", "One"⟩
    let credentials : List (Credential × String) :=
      [(⟨"user", "secret"⟩, "a"), (⟨"user", "wrong"⟩, "b"), (⟨"guest", "open"⟩, "c")]
    let files : List StoredFile := [⟨target.unc, "notes", [1]⟩]
    ∃ checks after,
      verifyEndpoint (Shares.client.within (filing office)) .address target 5000 credentials
        ⟨0, files⟩ = some (.ok checks, after) ∧
      checks.map (·.passed) = [true, false, true] ∧
      contents after.world = contents files := by
  intro target credentials files
  let clients : Nat → ShareClient (List StoredFile) := fun _ => Shares.client.within (filing office)
  let begun := Lane.beginEach clients 0 (tripsOf target credentials).zipIdx files
  have ended : ∀ l ∈ (Lane.runEach clients 5000 begun.1 ⟨0, begun.2⟩).1,
      l.strand.hasEnded = true := by
    decide +kernel
  obtain ⟨checks, after, ran, judged, same⟩ := verifyEndpoint_shares
    (Shares.client_stores office_paced) .address target 5000 credentials ⟨0, files⟩
    (by decide) (by decide +kernel)
    fun l member => ended l ((List.mergeSort_perm _ _).subset member)
  refine ⟨checks, after, ran, ?_, same⟩
  change List.Forall₂ _ [_, _, _] checks at judged
  match checks, judged with
  | [_, _, _], .cons first (.cons second (.cons third .nil)) =>
    have user := first.passed.2 ⟨List.not_mem_nil, by decide⟩
    have wrong := mt second.passed.1 fun admits => absurd admits.2 (by decide)
    have guest := third.passed.2 ⟨List.not_mem_nil, by decide⟩
    simp [user, wrong, guest]

end Scripted

end ShareCheck
