import ShareCheck.Proofs.Smbclient.Listing
import ShareCheck.Proofs.Smbclient.Status
import ShareCheck.Scripted.Programs
import ShareCheck.Smbclient.Client

set_option autoImplicit false

namespace ShareCheck

theorem Activity.perform_map_ok {σ α β : Type} {c : Call σ α} {f : α → β} {b : β}
    {m after : Moment σ} : Activity.perform (c.map f) m = some (.ok b, after) ↔
      ∃ a, Activity.perform c m = some (.ok a, after) ∧ f a = b := by
  unfold Activity.perform Call.map
  rcases c m.now m.world with ⟨_ | ⟨delay, finish⟩, w⟩
  next => simp [Flight.map]
  next =>
    rcases landed : finish w with ⟨p | a, u⟩
    next => simp [Flight.map, landed]
    next =>
      simp only [Flight.map, landed, Option.some.injEq, Prod.mk.injEq, Except.ok.injEq]
      grind

theorem Activity.perform_map {σ α β : Type} {c : Call σ α} {a : α} {m after : Moment σ}
    (ran : Activity.perform c m = some (.ok a, after)) (f : α → β) :
    Activity.perform (c.map f) m = some (.ok (f a), after) :=
  Activity.perform_map_ok.2 ⟨a, ran, rfl⟩

namespace Smbclient

open Text (Bytes)

inductive FileCall
  | list
  | put (name : String) (contents : Bytes)
  | get (name : String)
  | remove (name : String)

namespace FileCall

def command : FileCall → String
  | list => listCommand
  | put name _ => putCommand name
  | get name => getCommand name
  | remove name => removeCommand name

def data : FileCall → Bytes
  | put _ contents => contents
  | list | get _ | remove _ => []

def ask {σ : Type} (client : ShareClient σ) (target : Target) (c : Credential) :
    FileCall → Request σ Unit
  | list => (client.list target c).map fun answer => answer.map fun _ => ()
  | put name contents => client.put target c name contents
  | get name => (client.get target c name).map fun answer => answer.map fun _ => ()
  | remove name => client.remove target c name

end FileCall

variable {σ : Type} {l : Launcher} {spawn : Spawn σ} {target : Target} {c : Credential}
  {m after : Moment σ} {completed : Completed}

def Launcher.Ends (l : Launcher) (spawn : Spawn σ) (target : Target) (c : Credential)
    (asked : FileCall) (completed : Completed) (m after : Moment σ) : Prop :=
  Activity.perform (spawn (l.commandLine target c asked.command).1
    (l.commandLine target c asked.command).2 (inputPayload c asked.data)) m =
      some (.ok (.ok completed), after)

theorem run_ends {asked : FileCall} (ends : l.Ends spawn target c asked completed m after) :
    Activity.perform (l.run spawn target c asked.command asked.data) m =
      some (.ok (completed.judge target.unc), after) :=
  Activity.perform_map ends _

theorem ask_ends {asked : FileCall} (ends : l.Ends spawn target c asked completed m after) :
    Activity.perform (asked.ask (l.client spawn) target c) m =
      some (.ok ((completed.judge target.unc).map fun _ => ()), after) := by
  have ran := run_ends ends
  cases asked with
  | list =>
    have answered := Activity.perform_map (Activity.perform_map ran fun answer =>
      answer.map fun output => entries (Text.decodeLossy output)) fun answer =>
        answer.map fun _ => ()
    cases judged : completed.judge target.unc <;> rw [judged] at answered <;> exact answered
  | get name => exact Activity.perform_map ran _
  | put name contents => exact Activity.perform_map ran _
  | remove name => exact Activity.perform_map ran _

/-! ### A program that follows a script -/

deriving instance DecidableEq for Scripted.Programs

deriving instance DecidableEq for Moment

instance [DecidableEq σ] (asked : FileCall) :
    Decidable (l.Ends spawn target c asked completed m after) :=
  inferInstanceAs (Decidable (_ = _))

def cellar : Target := ⟨"10.0.0.1", "Cellar"⟩

def cook : Credential := ⟨"cook", "secret"⟩

def throughEnv : Launcher := ⟨["env"], "smbclient"⟩

def awaiting (completed : Completed) : Moment Scripted.Programs := ⟨0, ⟨[completed], []⟩⟩

def served (asked : FileCall) : Moment Scripted.Programs :=
  ⟨0, ⟨[], [⟨["smbclient", cellar.unc, "-U", cook.username, "-c", asked.command],
    Text.encode cook.password.toList, asked.data⟩]⟩⟩

/-! ### What is told on a stream -/

def Completed.output (completed : Completed) : List Char :=
  Text.decodeLossy completed.stdout ++ Text.decodeLossy completed.stderr

/-- A failure on one stream can only go unseen if the program says that it has succeeded. -/
def Completed.Hides (completed : Completed) (f : AccessFailure) : Prop :=
  completed.status.success = true ∧ f = .operation ∧ Masked (mentions completed.output)

theorem judge_eq (completed : Completed) (unc : String) :
    completed.judge unc =
      match classify completed.output with
      | some f => .error (.access f unc (String.ofList (Text.trim completed.output)))
      | none =>
        if completed.status.success then .ok completed.stdout
        else .error (.access .operation unc ("smbclient exited with " ++ completed.status.text ++
          ": " ++ String.ofList (Text.trim (Text.decodeLossy completed.stderr)))) := rfl

theorem judge_failed {f : AccessFailure} (failed : classify completed.output = some f)
    (unc : String) :
    completed.judge unc = .error (.access f unc (String.ofList (Text.trim completed.output))) := by
  rw [judge_eq, failed]

theorem judge_clean (clean : classify completed.output = none)
    (success : completed.status.success = true) (unc : String) :
    completed.judge unc = .ok completed.stdout := by
  simp [judge_eq, clean, success]

theorem judge_unclean (clean : classify completed.output = none)
    (failure : completed.status.success = false) (unc : String) :
    ∃ message, completed.judge unc = .error (.access .operation unc message) := by
  simp [judge_eq, clean, failure]

theorem judge_told {f : AccessFailure}
    (told : classify (Text.decodeLossy completed.stdout) = some f ∨
      classify (Text.decodeLossy completed.stderr) = some f) (unc : String) :
    (completed.Hides f → completed.judge unc = .ok completed.stdout) ∧
      (¬ completed.Hides f → ∃ g message,
        completed.judge unc = .error (.access g unc message) ∧ f.precedence ≤ g.precedence) := by
  constructor
  next =>
    rintro ⟨success, -, masked⟩
    exact judge_clean (verdict_masked masked) success unc
  next =>
    intro seen
    by_cases unheard : f = .operation ∧ Masked (mentions completed.output)
    next =>
      -- The exit status tells of the failure that the output does not.
      have failure : completed.status.success = false := by
        rw [Bool.eq_false_iff]
        exact fun success => seen ⟨success, unheard⟩
      obtain ⟨message, judged⟩ := judge_unclean (verdict_masked unheard.2) failure unc
      exact ⟨.operation, message, judged, by rw [unheard.1]⟩
    next =>
      obtain ⟨g, failed, counts⟩ : ∃ g, classify completed.output = some g ∧
          f.precedence ≤ g.precedence := by
        rcases told with first | second
        · exact classify_mono List.infix_append_left first unheard
        · exact classify_mono List.infix_append_right second unheard
      exact ⟨g, _, judge_failed failed unc, counts⟩

/-- A failure that is told in a part of the output is told of the whole, or one that counts for
more, and the operation fails with it, unless it is the least of failures and the status of success
is mentioned as well. -/
theorem failure_unmasked (l : Launcher) (spawn : Spawn σ) (target : Target) (c : Credential) :
    (∀ (before part after : List Char) (f : AccessFailure), classify part = some f →
      ((∃ g, classify (before ++ part ++ after) = some g ∧ f.precedence ≤ g.precedence) ↔
        ¬ (f = .operation ∧ Masked (mentions (before ++ part ++ after))))) ∧
    ∀ (asked : FileCall) (completed : Completed) (m after : Moment σ) (f : AccessFailure),
      l.Ends spawn target c asked completed m after →
      classify (Text.decodeLossy completed.stdout) = some f ∨
        classify (Text.decodeLossy completed.stderr) = some f →
      ∃ answer, Activity.perform (asked.ask (l.client spawn) target c) m = some (.ok answer, after) ∧
        (completed.Hides f → answer = .ok ()) ∧
        (¬ completed.Hides f → ∃ g message,
          answer = .error (.access g target.unc message) ∧ f.precedence ≤ g.precedence) := by
  constructor
  next =>
    intro before part after f failed
    constructor
    next =>
      rintro ⟨g, whole, -⟩ ⟨-, masked⟩
      cases whole.symm.trans (verdict_masked masked)
    next => exact classify_mono (List.infix_append before part after) failed
  next =>
    intro asked completed m after f ends told
    obtain ⟨hidden, shown⟩ := judge_told told target.unc
    refine ⟨_, ask_ends ends, fun hides => ?_, fun seen => ?_⟩
    · rw [hidden hides]
      rfl
    · obtain ⟨g, message, judged, counts⟩ := shown seen
      exact ⟨g, message, by rw [judged]; rfl, counts⟩

def refused : Completed :=
  ⟨.exited 0, Text.encode "hel".toList, Text.encode "session setup: NT_STATUS_LOGON_FAILURE".toList⟩

theorem failure_unmasked_refused :
    (∃ g, classify ("tdis: ".toList ++ "NT_STATUS_LOGON_FAILURE".toList ++ "\nNT_STATUS_OK".toList) =
      some g ∧ 1 ≤ g.precedence) ∧
    ∃ answer, Activity.perform ((FileCall.get "note").ask (throughEnv.client Scripted.Programs.spawn)
        cellar cook) (awaiting refused) = some (.ok answer, served (.get "note")) ∧
      ∃ g message, answer = .error (.access g "//10.0.0.1/Cellar" message) ∧ 1 ≤ g.precedence := by
  have unmasked := failure_unmasked throughEnv Scripted.Programs.spawn cellar cook
  constructor
  next =>
    apply (unmasked.1 "tdis: ".toList "NT_STATUS_LOGON_FAILURE".toList "\nNT_STATUS_OK".toList .auth
      (by decide +kernel)).2
    rintro ⟨least, -⟩
    cases least
  next =>
    obtain ⟨answer, asked, -, shown⟩ := unmasked.2 (.get "note") refused (awaiting refused)
      (served (.get "note")) .auth (by decide +kernel) (.inr (by decide +kernel))
    exact ⟨answer, asked, shown fun hides => by cases hides.2.1⟩

def denied : Completed :=
  ⟨.exited 0, Text.encode "NT_STATUS_OK\n".toList,
    Text.encode "NT_STATUS_ACCESS_DENIED opening remote file note".toList⟩

theorem failure_masked :
    classify (Text.decodeLossy denied.stderr) = some .operation ∧
      classify (Text.decodeLossy denied.stdout ++ Text.decodeLossy denied.stderr) = none ∧
      Activity.perform ((throughEnv.client Scripted.Programs.spawn).put cellar cook "note" [104, 105])
        (awaiting denied) = some (.ok (.ok ()), served (.put "note" [104, 105])) := by
  decide +kernel

/-! ### What a share stores -/

def phrases : List String :=
  connectionStatuses ++ connectionPhrases ++ authStatuses ++ ["NT_STATUS_", "NT_STATUS_OK"]

theorem verdict_congr {found other : String → Bool} (same : ∀ s ∈ phrases, found s = other s) :
    verdict found = verdict other := by
  have any {some : List String} (part : ∀ s ∈ some, s ∈ phrases) : some.any found = some.any other := by
    rw [Bool.eq_iff_iff, List.any_eq_true, List.any_eq_true]
    exact exists_congr fun s => and_congr_right fun member => by rw [same s (part s member)]
  unfold verdict
  rw [any fun s member => List.mem_append_left _ (List.mem_append_left _ member),
    any fun s member => List.mem_append_left _ (List.mem_append_right _ member),
    same "NT_STATUS_" (by decide), same "NT_STATUS_OK" (by decide)]

theorem phrases_ascii : ∀ s ∈ phrases, s.toList ≠ [] ∧ ∀ c ∈ s.toList, c.toNat < 128 := by
  have plain : (phrases.all fun s => s.toList ≠ [] && s.toList.all (·.toNat < 128)) = true := by
    decide +kernel
  simpa using plain

theorem phrases_solid : ∀ s ∈ phrases, Solid s.toList := by decide +kernel

theorem phrases_single : ∀ s ∈ phrases, '\n' ∉ s.toList := by decide +kernel

theorem classify_decodeLossy (bytes : Bytes) :
    classify (Text.decodeLossy bytes) =
      verdict fun s => Text.occurs (Text.encode s.toList) bytes :=
  verdict_congr fun s member =>
    Text.occurs_decodeLossy (phrases_ascii s member).1 (phrases_ascii s member).2 bytes

theorem classify_lines (lines : List (List Char)) :
    classify (['\n'].intercalate lines) = verdict fun s => lines.any fun line => mentions line s :=
  verdict_congr fun s member =>
    Text.occurs_intercalate (phrases_ascii s member).1 (phrases_single s member) lines

theorem mentions_file (f : FileLine) {s : String} (member : s ∈ phrases) :
    mentions f.text s = (mentions f.name.toList s || mentions f.attributes s) := by
  rw [Bool.eq_iff_iff, Bool.or_eq_true, mentions, Text.occurs_iff, mentions, Text.occurs_iff,
    mentions, Text.occurs_iff]
  exact infix_entryLine (phrases_ascii s member).1 (phrases_solid s member) _ _ _

def silent (stdout : Bytes) : Completed := ⟨.exited 0, stdout, []⟩

theorem output_silent (stdout : Bytes) : (silent stdout).output = Text.decodeLossy stdout := by
  simp [Completed.output, silent, Text.decodeLossy]

theorem judge_silent (stdout : Bytes) (unc : String) :
    (silent stdout).judge unc =
      match classify (Text.decodeLossy stdout) with
      | none => .ok stdout
      | some f => .error (.access f unc (String.ofList (Text.trim (Text.decodeLossy stdout)))) := by
  rw [← output_silent]
  split
  next clean => exact judge_clean clean rfl unc
  next f failed => exact judge_failed failed unc

/-- Contents and listings come back as they are exactly when no failure is read out of them: out of
the bytes of a file, or out of a line of the listing. In the line of a file this is a phrase in its
name or in what is told of it. -/
theorem stored_judged (l : Launcher) (spawn : Spawn σ) (target : Target) (c : Credential)
    (m after : Moment σ) :
    (∀ (name : String) (stdout : Bytes),
      l.Ends spawn target c (.get name) (silent stdout) m after →
      Activity.perform ((l.client spawn).get target c name) m = some (.ok (
        match verdict fun s => Text.occurs (Text.encode s.toList) stdout with
        | none => .ok stdout
        | some f => .error (.access f target.unc
            (String.ofList (Text.trim (Text.decodeLossy stdout))))), after)) ∧
    (∀ (lines : List (List Char)) (files : List FileLine), Listing lines files →
      l.Ends spawn target c .list (silent (Text.encode (['\n'].intercalate lines))) m after →
      Activity.perform ((l.client spawn).list target c) m = some (.ok (
        match verdict fun s => lines.any fun line => mentions line s with
        | none => .ok (files.map FileLine.name)
        | some f => .error (.access f target.unc
            (String.ofList (Text.trim (['\n'].intercalate lines))))), after)) ∧
    ∀ (f : FileLine), ∀ s ∈ phrases,
      mentions f.text s = (mentions f.name.toList s || mentions f.attributes s) := by
  refine ⟨?_, ?_, fun f s => mentions_file f⟩
  next =>
    intro name stdout ends
    have ran := run_ends ends
    rw [judge_silent, classify_decodeLossy] at ran
    exact ran
  next =>
    intro lines files listed ends
    have read := Text.decodeLossy_encode (['\n'].intercalate lines)
    have ran := Activity.perform_map (run_ends ends) fun answer =>
      answer.map fun output => entries (Text.decodeLossy output)
    rw [judge_silent, read, classify_lines] at ran
    refine Eq.trans ran ?_
    cases verdict fun s => lines.any fun line => mentions line s with
    | none => simp only [Except.map, read, listed.entries]
    | some f => rfl

def greeting : Bytes := Text.encode "hello".toList

def printed (f : FileLine) : Bytes := Text.encode (['\n'].intercalate [f.text])

theorem listing_single (f : FileLine) : Listing [f.text] [f] := .file f .nil

theorem stored_judged_notes :
    Activity.perform ((throughEnv.client Scripted.Programs.spawn).get cellar cook "note")
        (awaiting (silent greeting)) = some (.ok (.ok greeting), served (.get "note")) ∧
      Activity.perform ((throughEnv.client Scripted.Programs.spawn).list cellar cook)
        (awaiting (silent (printed notesLine))) = some (.ok (.ok ["My Notes.txt"]), served .list) := by
  have judged (m after) := stored_judged throughEnv Scripted.Programs.spawn cellar cook m after
  constructor
  next =>
    have got := (judged _ _).1 "note" greeting (by decide +kernel : Launcher.Ends _ _ _ _ _ _
      (awaiting (silent greeting)) (served (.get "note")))
    rw [show (verdict fun s => Text.occurs (Text.encode s.toList) greeting) = none by
      decide +kernel] at got
    exact got
  next =>
    have found := (judged _ _).2.1 _ _ (listing_single notesLine) (by decide +kernel : Launcher.Ends
      _ _ _ _ _ _ (awaiting (silent (printed notesLine))) (served .list))
    rw [show (verdict fun s => [notesLine.text].any fun line => mentions line s) = none by
      decide +kernel] at found
    exact found

def minutes : FileLine where
  name := "Connection to Rome.txt"
  padding := 0
  attributes := "A  9".toList
  named := by decide +kernel
  single := by decide
  plain := by decide +kernel

theorem stored_refused :
    Activity.perform ((throughEnv.client Scripted.Programs.spawn).get cellar cook "note")
        (awaiting (silent (Text.encode "NT_STATUS_LOGON_FAILURE".toList))) =
      some (.ok (.error (.access .auth "//10.0.0.1/Cellar" "NT_STATUS_LOGON_FAILURE")),
        served (.get "note")) ∧
    Listing [minutes.text] [minutes] ∧
      Activity.perform ((throughEnv.client Scripted.Programs.spawn).list cellar cook)
        (awaiting (silent (printed minutes))) =
      some (.ok (.error (.access .connection "//10.0.0.1/Cellar" "Connection to Rome.txt  A  9")),
        served .list) :=
  ⟨by decide +kernel, listing_single minutes, by decide +kernel⟩

end Smbclient

end ShareCheck
