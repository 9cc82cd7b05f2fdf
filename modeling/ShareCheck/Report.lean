import ShareCheck.Check
import ShareCheck.Phase
import ShareCheck.Text.Casing
import ShareCheck.Text.Truncate

set_option autoImplicit false

namespace ShareCheck

structure Report where
  scenario : String
  phases : List Phase := [.uninitialized]
  checks : List Check := []
deriving DecidableEq, Repr, Inhabited

namespace Report

def passed (r : Report) : Bool := r.checks.all (·.passed)

def check? (r : Report) (name : String) : Option Check := r.checks.find? (·.name == name)

def failures (r : Report) : List Check := r.checks.filter fun c => !c.passed

def finalPhase (r : Report) : Phase := r.phases.getLastD .uninitialized

def reached (r : Report) (p : Phase) : Bool := r.phases.contains p

def enter (r : Report) (p : Phase) : Report :=
  -- A phase that cannot follow the last one is not entered.
  if r.finalPhase.canEnter p then { r with phases := r.phases ++ [p] } else r

def add (r : Report) (checks : List Check) : Report := { r with checks := r.checks ++ checks }

def errorLimit : Nat := 200

def padded (width : Nat) (text : String) : String :=
  text ++ String.ofList (List.replicate (width - text.length) ' ')

def checkLine (c : Check) : String :=
  "  " ++ (if c.passed then "PASS" else "FAIL") ++ "  " ++ padded 40 c.name ++ " " ++
    (Duration.ofMillis c.duration).secondsText

def checkLines (c : Check) : List String :=
  match c.error with
  | none => [checkLine c]
  | some e =>
    [checkLine c, "        -> " ++ String.ofList (Text.truncate errorLimit e.message.toList)]

def doubleRule : String := "========================================"

def singleRule : String := "----------------------------------------"

def totalDuration (r : Report) : Nat := r.checks.foldl (fun n c => n + c.duration) 0

def summary (r : Report) : List String :=
  [doubleRule, "  " ++ String.ofList (Text.upper r.scenario.toList), doubleRule] ++
    r.checks.flatMap checkLines ++
    [singleRule,
      s!"  {(r.checks.filter (·.passed)).length} passed, {r.failures.length} failed (" ++
        (Duration.ofMillis r.totalDuration).secondsText ++
        " total), final phase " ++ r.finalPhase.name]

end Report

namespace Run

def failed (reports : List Report) : List String :=
  -- Once for each report, also where reports share a name.
  (reports.filter fun r => !r.passed).map (·.scenario)

def totals (reports : List Report) : String :=
  s!"{reports.length - (failed reports).length} scenario(s) passed, " ++
    s!"{(failed reports).length} failed"

def summary (reports : List Report) : List String :=
  reports.flatMap (·.summary) ++ [totals reports]

def finish (reports : List Report) : Except String Unit :=
  match failed reports with
  | [] => .ok ()
  | names => .error (s!"{names.length} scenario(s) failed: " ++ ", ".intercalate names)

end Run

end ShareCheck
