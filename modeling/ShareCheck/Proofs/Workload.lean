import Mathlib.Data.List.Perm.Basic
import ShareCheck.Workload

set_option autoImplicit false

namespace ShareCheck.Workload

def HasReady (p : Pod) (container : String) : Prop :=
  ∃ s ∈ statuses p, s.name = container ∧ s.ready = true

theorem isReady_iff (p : Pod) (container : String) :
    isReady p container = true ↔ HasReady p container := by
  simp [isReady, HasReady]

instance (p : Pod) (container : String) : Decidable (HasReady p container) :=
  decidable_of_iff _ (isReady_iff p container)

inductive Rule
  | count
  | sidecar (name : String)
  | readiness
deriving DecidableEq

def rules : List Rule := [.count, .sidecar "dns-register", .sidecar "svc-watch", .readiness]

namespace Rule

def Holds (p : Pod) : Rule → Prop
  | count => (containerNames p).length = 4
  | sidecar name => name ∈ containerNames p
  | readiness => ∀ c ∈ containerNames p, HasReady p c

instance (p : Pod) : (rule : Rule) → Decidable (rule.Holds p)
  | count => inferInstanceAs (Decidable ((containerNames p).length = 4))
  | sidecar name => inferInstanceAs (Decidable (name ∈ containerNames p))
  | readiness => inferInstanceAs (Decidable (∀ c ∈ containerNames p, HasReady p c))

def message (p : Pod) : Rule → String
  | count => s!"expected 4 containers, found {(containerNames p).length}: " ++
      ", ".intercalate (containerNames p)
  | sidecar name => "container " ++ name ++ " missing"
  | readiness => "containers not ready: " ++
      ", ".intercalate ((containerNames p).filter fun c => ¬ HasReady p c)

def error (p : Pod) (rule : Rule) : Error := .verification "dns-containers" (rule.message p)

end Rule

def broken? (p : Pod) : Option Rule := rules.find? fun rule => ¬ rule.Holds p

theorem notReady_eq (p : Pod) :
    notReady p = (containerNames p).filter fun c => ¬ HasReady p c := by
  refine List.filter_congr fun c _ => ?_
  rw [Bool.eq_iff_iff]
  simp [← isReady_iff]

theorem notReady_eq_nil (p : Pod) : notReady p = [] ↔ Rule.readiness.Holds p := by
  simp [notReady_eq, List.filter_eq_nil_iff, Rule.Holds]

theorem readiness_error (p : Pod) :
    Rule.readiness.error p = .verification dnsCheckName
      ("containers not ready: " ++ ", ".intercalate (notReady p)) := by
  rw [notReady_eq]
  rfl

theorem checkDnsContainers_eq (p : Pod) :
    checkDnsContainers p =
      match broken? p with
      | none => .ok ()
      | some rule => .error (rule.error p) := by
  have order : rules = .count :: (dnsSidecars.map Rule.sidecar ++ [.readiness]) := rfl
  have absent : (fun s => !(containerNames p).contains s) =
      fun s => decide ¬ (Rule.sidecar s).Holds p := by
    funext s
    rw [Bool.eq_iff_iff, decide_eq_true_iff]
    simp [Rule.Holds]
  rw [broken?, order, List.find?_cons, List.find?_append, List.find?_map]
  simp only [checkDnsContainers, absent, Function.comp_def]
  generalize dnsSidecars.find? (fun s => decide ¬ (Rule.sidecar s).Holds p) = missing
  by_cases count : Rule.count.Holds p
  next =>
    have listed : (containerNames p).length = dnsContainerCount := count
    rw [if_neg (not_not.2 listed)]
    simp only [count, not_true_eq_false, decide_false]
    cases missing with
    | some sidecar => rfl
    | none =>
      by_cases ready : Rule.readiness.Holds p
      next =>
        rw [(notReady_eq_nil p).2 ready]
        simp [ready]
      next =>
        obtain ⟨first, rest, waiting⟩ :=
          List.exists_cons_of_ne_nil ((notReady_eq_nil p).not.2 ready)
        simp only [Option.map_none, Option.none_or, List.find?_cons, ready, not_false_eq_true,
          decide_true, readiness_error, waiting]
  next =>
    have listed : (containerNames p).length ≠ dnsContainerCount := count
    rw [if_pos listed]
    simp only [count, not_false_eq_true, decide_true]
    rfl

theorem checkDnsContainers_ok (p : Pod) :
    checkDnsContainers p = .ok () ↔ ∀ rule ∈ rules, rule.Holds p := by
  have kept : broken? p = none ↔ ∀ rule ∈ rules, rule.Holds p := by
    simp [broken?, List.find?_eq_none]
  rw [checkDnsContainers_eq, ← kept]
  cases broken? p with
  | none => simp
  | some rule => simp

theorem checkDnsContainers_error (p : Pod) (e : Error) :
    checkDnsContainers p = .error e ↔
      ∃ before rule after, rules = before ++ rule :: after ∧
        (∀ earlier ∈ before, earlier.Holds p) ∧ ¬ rule.Holds p ∧ e = rule.error p := by
  have first (rule : Rule) : broken? p = some rule ↔ ¬ rule.Holds p ∧
      ∃ before after, rules = before ++ rule :: after ∧ ∀ earlier ∈ before, earlier.Holds p := by
    simp [broken?, List.find?_eq_some_iff_append]
  rw [checkDnsContainers_eq]
  constructor
  next =>
    intro failed
    cases found : broken? p with
    | none => simp [found] at failed
    | some rule =>
      obtain ⟨broken, before, after, order, kept⟩ := (first rule).1 found
      rw [found] at failed
      cases failed
      exact ⟨before, rule, after, order, kept, broken, rfl⟩
  next =>
    rintro ⟨before, rule, after, order, kept, broken, rfl⟩
    rw [(first rule).2 ⟨broken, before, after, order, kept⟩]

section

variable {p q : Pod} {others : List ContainerStatus}
  (names : (containerNames q).Perm (containerNames p))
  (foreign : ∀ s ∈ others, s.name ∉ containerNames p)
  (found : (statuses q).Perm (statuses p ++ others))

include foreign found

theorem hasReady_iff {container : String} (listed : container ∈ containerNames p) :
    HasReady q container ↔ HasReady p container := by
  constructor
  next =>
    rintro ⟨s, member, rfl, ready⟩
    obtain own | other := List.mem_append.1 (found.subset member)
    next => exact ⟨s, own, rfl, ready⟩
    next => exact absurd listed (foreign s other)
  next =>
    rintro ⟨s, member, rfl, ready⟩
    exact ⟨s, found.symm.subset (List.mem_append_left others member), rfl, ready⟩

include names

theorem Rule.holds_iff (rule : Rule) : rule.Holds q ↔ rule.Holds p := by
  cases rule with
  | count => exact Eq.congr_left names.length_eq
  | sidecar name => exact names.mem_iff
  | readiness =>
    exact forall_congr' fun c => ⟨fun ready member =>
      (hasReady_iff foreign found member).1 (ready (names.symm.subset member)),
      fun ready member => (hasReady_iff foreign found (names.subset member)).2
        (ready (names.subset member))⟩

end

/-- The verdict is that all rules hold. A failure tells of the first rule that does not, and of the
containers as they are listed. What counts is which names are listed and which of them are ready. -/
theorem checkDnsContainers_exact (p : Pod) :
    (checkDnsContainers p = .ok () ↔
      (containerNames p).length = 4 ∧ "dns-register" ∈ containerNames p ∧
        "svc-watch" ∈ containerNames p ∧ ∀ c ∈ containerNames p, HasReady p c) ∧
    (∀ e, checkDnsContainers p = .error e ↔
      ∃ before rule after, rules = before ++ rule :: after ∧
        (∀ earlier ∈ before, earlier.Holds p) ∧ ¬ rule.Holds p ∧ e = rule.error p) ∧
    (p.containers = none → containerNames p = []) ∧
    (p.status.bind (·.containers) = none → ∀ c, ¬ HasReady p c) ∧
    ∀ (q : Pod) (others : List ContainerStatus), (containerNames q).Perm (containerNames p) →
      (∀ s ∈ others, s.name ∉ containerNames p) → (statuses q).Perm (statuses p ++ others) →
      (checkDnsContainers q = .ok () ↔ checkDnsContainers p = .ok ()) ∧
        (∀ rule : Rule, rule.Holds q ↔ rule.Holds p) ∧
        (containerNames q = containerNames p → checkDnsContainers q = checkDnsContainers p) := by
  refine ⟨?_, checkDnsContainers_error p, ?_, ?_, ?_⟩
  next =>
    rw [checkDnsContainers_ok]
    simp [rules, Rule.Holds]
  next =>
    intro missing
    rw [containerNames, missing]
    rfl
  next =>
    rintro missing c ⟨s, member, -⟩
    rw [statuses, missing] at member
    cases member
  next =>
    intro q others names foreign found
    have same := Rule.holds_iff names foreign found
    refine ⟨?_, same, fun listed => ?_⟩
    next => simp only [checkDnsContainers_ok, same]
    next =>
      have told (rule : Rule) : rule.error q = rule.error p := by
        cases rule with
        | count =>
          unfold Rule.error Rule.message
          rw [listed]
        | sidecar name => rfl
        | readiness =>
          have waiting : notReady q = notReady p := by
            rw [notReady_eq, notReady_eq, listed]
            exact List.filter_congr fun c member => by
              simp only [hasReady_iff foreign found member]
          rw [readiness_error, readiness_error, waiting]
      have broken : broken? q = broken? p := by simp only [broken?, same]
      rw [checkDnsContainers_eq, checkDnsContainers_eq, broken]
      simp only [told]

def member (watched : Bool) : Pod where
  containers := some ["samba", "wb", "dns-register", "svc-watch"]
  status := some {
    containers := some [⟨"samba", true⟩, ⟨"wb", true⟩, ⟨"dns-register", true⟩,
      ⟨"svc-watch", watched⟩] }

def rearranged (watched : Bool) : Pod where
  containers := some ["svc-watch", "samba", "wb", "dns-register"]
  status := some {
    containers := some [⟨"debugger", false⟩, ⟨"svc-watch", watched⟩, ⟨"wb", true⟩,
      ⟨"samba", true⟩, ⟨"dns-register", true⟩] }

theorem checkDnsContainers_exact_member :
    checkDnsContainers (member true) = .ok () ∧ checkDnsContainers (rearranged true) = .ok () ∧
      checkDnsContainers (member false) =
        .error (.verification "dns-containers" "containers not ready: svc-watch") ∧
      checkDnsContainers (rearranged false) ≠ .ok () := by
  have passed := (checkDnsContainers_exact (member true)).1.2 (by decide +kernel)
  have told : Rule.readiness.error (member false) =
      .verification "dns-containers" "containers not ready: svc-watch" := by decide +kernel
  have failed := ((checkDnsContainers_exact (member false)).2.1 _).2
    ⟨rules.take 3, .readiness, [], rfl, by decide +kernel, by decide +kernel, told.symm⟩
  have moved (watched : Bool) :=
    ((checkDnsContainers_exact (member watched)).2.2.2.2 (rearranged watched) [⟨"debugger", false⟩]
      (by decide +revert +kernel) (by decide +revert +kernel) (by decide +revert +kernel)).1
  refine ⟨passed, (moved true).2 passed, failed, fun ok => ?_⟩
  cases failed.symm.trans ((moved false).1 ok)

end ShareCheck.Workload
