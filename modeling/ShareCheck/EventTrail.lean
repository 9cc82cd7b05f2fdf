import ShareCheck.Cluster
import ShareCheck.Config
import ShareCheck.Table

set_option autoImplicit false

namespace ShareCheck

abbrev Tally : Type := Table Nat

namespace EventTrail

def checkName : String := "events"

def defaultExpected : Tally :=
  (Table.empty.insert "CreatedPersistentVolumeClaim" 1).insert "CreatedDeployment" 1

def expectAll (counts : List (String × Nat)) : Tally :=
  counts.foldl (fun t (reason, count) => t.insert reason count) Table.empty

def count (t : Tally) (reason : String) : Nat := (t.get? reason).getD 0

def record (t : Tally) : Option String → Tally
  | none => t
  | some reason => t.insert reason (count t reason + 1)

def tally (reasons : List (Option String)) : Tally := reasons.foldl record Table.empty

def mismatch? (observed : Tally) (reason : String) (want : Nat) : Option String :=
  let got := count observed reason
  if got = want then none else some s!"want {want} {reason} event(s), got {got}"

def compare (expected observed : Tally) : Except Error Unit :=
  -- One error for all mismatches, in the order of the reasons.
  match expected.entries.filterMap fun (reason, want) => mismatch? observed reason want with
  | [] => .ok ()
  | mismatches => .error (.verification checkName ("; ".intercalate mismatches))

def judge (kind : String) (share : ShareIdentity) (expected : Tally) (events : List Event) :
    Except Error Tally :=
  -- Without any event nothing was observed, which no table allows.
  if events.isEmpty then
    .error (.verification checkName ("no events recorded for " ++ kind ++ " " ++ share.text))
  else
    let observed := tally (events.map (·.reason))
    (compare expected observed).map fun _ => observed

def reference (config : Config) (share : ShareIdentity) : ResourceRef :=
  ⟨config.shareApiVersion, config.shareKind, share.ns, share.name⟩

variable {σ : Type}

/-- Events are looked up by the identity of the live object, so those of an earlier object with the
same name do not count. -/
def verify (query : ClusterQuery σ) (config : Config) (share : ShareIdentity) (expected : Tally) :
    Activity σ (Except Error Tally) :=
  (Activity.perform (query.identity (reference config share))).andThen fun identity =>
    (Activity.perform (query.events share.ns identity.eventSelector)).andThen fun events =>
      Activity.pure (judge identity.kind share expected events)

end EventTrail

end ShareCheck
