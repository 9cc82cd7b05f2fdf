import ShareCheck.Proofs.Smbclient.Client
import ShareCheck.Proofs.Text.Encoding

set_option autoImplicit false

namespace ShareCheck

namespace Smbclient

open Text (Bytes)

theorem splitPayload_append {line : Bytes} (single : 10 ∉ line) (rest : Bytes) :
    splitPayload (line ++ 10 :: rest) = (line, rest) := by
  induction line with
  | nil => simp [splitPayload]
  | cons b line ih =>
    obtain ⟨other, later⟩ := not_or.1 (List.mem_cons.not.1 single)
    rw [List.cons_append, splitPayload, if_neg (Ne.symm other), ih later]

theorem feed_mem_encode (text : List Char) : 10 ∈ Text.encode text ↔ '\n' ∈ text :=
  Text.mem_encode (c := '\n') (by decide) text

theorem splitPayload_single {c : Credential} (single : '\n' ∉ c.password.toList) (data : Bytes) :
    splitPayload (inputPayload c data) = (Text.encode c.password.toList, data) :=
  splitPayload_append ((feed_mem_encode _).not.2 single) data

theorem splitPayload_broken {c : Credential} {line more : List Char}
    (broken : c.password.toList = line ++ '\n' :: more) (first : '\n' ∉ line) (data : Bytes) :
    splitPayload (inputPayload c data) =
      (Text.encode line, Text.encode more ++ 10 :: data) := by
  have feed : Text.encode ('\n' :: more) = 10 :: Text.encode more := rfl
  rw [inputPayload, broken, Text.encode_append, feed, List.append_assoc, List.cons_append,
    splitPayload_append ((feed_mem_encode line).not.2 first)]

theorem splitPayload_rest_iff (c : Credential) (data : Bytes) :
    (splitPayload (inputPayload c data)).2 = data ↔ '\n' ∉ c.password.toList := by
  constructor
  next =>
    intro same member
    obtain ⟨line, more, broken, first⟩ := List.eq_append_cons_of_mem member
    rw [splitPayload_broken broken first] at same
    have longer := congrArg List.length same
    simp at longer
    omega
  next =>
    intro single
    rw [splitPayload_single single]

theorem splitPayload_eq_iff (c : Credential) (data : Bytes) :
    splitPayload (inputPayload c data) = (Text.encode c.password.toList, data) ↔
      '\n' ∉ c.password.toList :=
  ⟨fun same => (splitPayload_rest_iff c data).1 (by rw [same]), fun single =>
    splitPayload_single single data⟩

/-- The other password begins with this one and goes on after a line feed, where the data here
begins with what is left of it. -/
def Overlaps (c : Credential) (data : Bytes) (d : Credential) (other : Bytes) : Prop :=
  ∃ more, d.password.toList = c.password.toList ++ '\n' :: more ∧
    data = Text.encode more ++ 10 :: other

theorem overlap_iff (c d : Credential) (data other : Bytes) :
    (∃ left, Text.encode d.password.toList = Text.encode c.password.toList ++ left ∧
      10 :: data = left ++ 10 :: other) ↔
      (c.password = d.password ∧ data = other) ∨ Overlaps c data d other := by
  constructor
  next =>
    rintro ⟨left, longer, rest⟩
    obtain ⟨more, continued, rfl⟩ := Text.encode_eq_append longer
    cases more with
    | nil =>
      rw [List.append_nil] at continued
      have ended : 10 :: data = 10 :: other := rest
      exact .inl ⟨String.toList_inj.1 continued.symm, List.tail_eq_of_cons_eq ended⟩
    | cons e more =>
      have begins : String.utf8EncodeChar '\n' ++ data =
          String.utf8EncodeChar e ++ (Text.encode more ++ 10 :: other) := by
        rw [← List.append_assoc]
        exact rest
      obtain ⟨rfl, rfl⟩ := Text.utf8EncodeChar_append_inj begins
      exact .inr ⟨more, continued, rfl⟩
  next =>
    rintro (⟨same, rfl⟩ | ⟨more, continued, rfl⟩)
    · exact ⟨[], by rw [same, List.append_nil], rfl⟩
    · refine ⟨10 :: Text.encode more, ?_, rfl⟩
      rw [continued, Text.encode_append]
      rfl

theorem inputPayload_eq_iff (c d : Credential) (data other : Bytes) :
    inputPayload c data = inputPayload d other ↔
      (c.password = d.password ∧ data = other) ∨ Overlaps c data d other ∨
        Overlaps d other c data := by
  rw [inputPayload, inputPayload, List.append_eq_append_iff, overlap_iff, overlap_iff]
  tauto

/-- What is started in the end: a program with its arguments, its own name first, a password in its
environment, and what is left of the input. -/
abbrev Start (σ : Type) : Type :=
  (password : Bytes) → (arguments : List String) → (input : Bytes) →
    Call σ (Except String Completed)

variable {σ : Type} {start : Start σ}

def Launcher.programArguments (l : Launcher) (target : Target) (c : Credential) (command : String) :
    List String :=
  [l.program, target.unc, "-U", c.username, "-c", command]

/-- Where command lines run as the launcher expects: the shell reads one line of the input, and
leaves the rest to the program. -/
def Launcher.Reads (l : Launcher) (spawn : Spawn σ) (start : Start σ) : Prop :=
  ∀ target c command input,
    spawn (l.commandLine target c command).1 (l.commandLine target c command).2 input =
      start (splitPayload input).1 (l.programArguments target c command) (splitPayload input).2

def Start.Stores (start : Start σ) (file : σ → (unc name : String) → Option Bytes) : Prop :=
  ∀ password program unc username name input completed m after,
    Activity.perform (start password [program, unc, "-U", username, "-c", putCommand name] input) m =
      some (.ok (.ok completed), after) →
    completed.status.success = true → file after.world unc name = some input

theorem judge_ok {completed : Completed} {unc : String} {output : Bytes}
    (judged : completed.judge unc = .ok output) : completed.status.success = true := by
  rw [judge_eq] at judged
  split at judged
  next => cases judged
  next =>
    split at judged
    next success => exact success
    next => cases judged

theorem put_stores {l : Launcher} {spawn : Spawn σ} {file : σ → (unc name : String) → Option Bytes}
    (reads : l.Reads spawn start) (stores : start.Stores file) {target : Target} {c : Credential}
    {name : String} {contents : Bytes} {m after : Moment σ}
    (ran : Activity.perform ((l.client spawn).put target c name contents) m =
      some (.ok (.ok ()), after)) :
    file after.world target.unc name = some (splitPayload (inputPayload c contents)).2 := by
  obtain ⟨answer, asked, accepted⟩ :=
    (Activity.perform_map_ok (c := l.run spawn target c (putCommand name) contents)).1 ran
  obtain ⟨ended, spawned, judged⟩ := (Activity.perform_map_ok
    (c := spawn (l.commandLine target c (putCommand name)).1
      (l.commandLine target c (putCommand name)).2 (inputPayload c contents))).1 asked
  cases answer with
  | error e => cases accepted
  | ok output =>
    cases ended with
    | error reason => cases judged
    | ok completed =>
      rw [reads] at spawned
      exact stores _ _ _ _ _ _ completed m after spawned (judge_ok judged)

/-- The program is given the password and the data as they are exactly when the password is a
single line, and what it stores is then what it was to store. Inputs are alike for one password and
one data only, or where the data goes on with what a password begins. -/
theorem payload_framed (c : Credential) (data : Option Bytes) :
    (splitPayload (inputPayload c (data.getD [])) =
        (Text.encode c.password.toList, data.getD []) ↔ '\n' ∉ c.password.toList) ∧
    (∀ (d : Credential) (other : Option Bytes),
      inputPayload c (data.getD []) = inputPayload d (other.getD []) ↔
        (c.password = d.password ∧ data.getD [] = other.getD []) ∨
          Overlaps c (data.getD []) d (other.getD []) ∨
          Overlaps d (other.getD []) c (data.getD [])) ∧
    ∀ (l : Launcher) (spawn : Spawn σ) (start : Start σ), l.Reads spawn start →
      ('\n' ∉ c.password.toList → ∀ (target : Target) (asked : FileCall),
        spawn (l.commandLine target c asked.command).1 (l.commandLine target c asked.command).2
            (inputPayload c asked.data) =
          start (Text.encode c.password.toList) (l.programArguments target c asked.command)
            asked.data) ∧
      ∀ file : σ → (unc name : String) → Option Bytes, start.Stores file →
        ∀ (target : Target) (name : String) (m after : Moment σ),
          Activity.perform ((l.client spawn).put target c name (data.getD [])) m =
            some (.ok (.ok ()), after) →
          (file after.world target.unc name = some (data.getD []) ↔ '\n' ∉ c.password.toList) := by
  refine ⟨splitPayload_eq_iff c _, fun d other => inputPayload_eq_iff c d _ _, ?_⟩
  intro l spawn start reads
  constructor
  next =>
    intro single target asked
    rw [reads, splitPayload_single single]
  next =>
    intro file stores target name m after ran
    rw [put_stores reads stores ran, Option.some.injEq]
    exact splitPayload_rest_iff c (data.getD [])

open Scripted (Programs)

def direct : Launcher := {}

def receive : Start Programs := fun password arguments input _ p =>
  (.lands 0 fun p =>
    let (r, p) :=
      if arguments.any fun word => word.toList.contains '\x00' then (.error Programs.nulByte, p)
      else p.finish ⟨arguments, password.filter (· != 0), input⟩
    (.ok r, p), p)

def lastPut (p : Programs) (unc name : String) : Option Bytes :=
  (p.seen.find? fun s =>
    s.arguments[1]? == some unc && s.arguments[5]? == some (putCommand name)).map (·.input)

theorem direct_reads : direct.Reads Programs.spawn receive := by
  intro target c command input
  have plain : ∀ word ∈ ["sh", "-c", passwordFromInput], word.toList.contains '\x00' = false := by
    decide +kernel
  simp only [List.forall_mem_cons] at plain
  have started (p : Programs) :
      Programs.start "sh" ("-c" :: passwordFromInput :: direct.programArguments target c command)
        input p =
        if (direct.programArguments target c command).any fun word => word.toList.contains '\x00' then
          (.error Programs.nulByte, p)
        else p.finish (Programs.sight (direct.programArguments target c command) input) := by
    unfold Programs.start
    simp only [List.any_cons, plain, Bool.false_or]
    rfl
  funext now p
  refine congrArg (fun finish => (Flight.lands 0 finish, p)) (funext fun p => ?_)
  exact congrArg (fun (r, p) => (Except.ok r, p)) (started p)

theorem finish_seen (p : Programs) (s : Scripted.Sighting) : (p.finish s).2.seen = s :: p.seen := by
  unfold Programs.finish
  split <;> rfl

theorem receive_stores : Start.Stores receive lastPut := by
  intro password program unc username name input completed m after ran success
  by_cases clean : [program, unc, "-U", username, "-c", putCommand name].any
    fun word => word.toList.contains '\x00'
  next =>
    simp only [Activity.perform, receive, if_pos clean] at ran
    cases ran
  next =>
    simp only [Activity.perform, receive, if_neg clean, Option.some.injEq, Prod.mk.injEq] at ran
    obtain ⟨-, rfl⟩ := ran
    simp [lastPut, finish_seen]

def cellarNote : Bytes := Text.encode "bread\nbutter".toList

def done : Completed := ⟨.exited 0, [], []⟩

theorem payload_framed_note :
    direct.Reads Programs.spawn receive ∧ Start.Stores receive lastPut ∧
      '\n' ∉ cook.password.toList ∧
      splitPayload (inputPayload cook cellarNote) = (Text.encode cook.password.toList, cellarNote) ∧
      ∃ after, Activity.perform ((direct.client Programs.spawn).put cellar cook "note" cellarNote)
          (awaiting done) = some (.ok (.ok ()), after) ∧
        lastPut after.world cellar.unc "note" = some cellarNote := by
  have single : '\n' ∉ cook.password.toList := by decide +kernel
  obtain ⟨split, -, given⟩ := payload_framed cook (some cellarNote)
  obtain ⟨-, stored⟩ := given direct Programs.spawn receive direct_reads
  have ran : Activity.perform ((direct.client Programs.spawn).put cellar cook "note" cellarNote)
      (awaiting done) = some (.ok (.ok ()), served (.put "note" cellarNote)) := by
    decide +kernel
  exact ⟨direct_reads, receive_stores, single, split.2 single, _, ran,
    (stored lastPut receive_stores cellar "note" _ _ ran).2 single⟩

def twoLines : Credential := ⟨"cook", "two\nlines"⟩

theorem payload_spilled :
    splitPayload (inputPayload twoLines (Text.encode "text".toList)) =
        (Text.encode "two".toList, Text.encode "lines\ntext".toList) ∧
      inputPayload twoLines (Text.encode "text".toList) =
        inputPayload ⟨"cook", "two"⟩ (Text.encode "lines\ntext".toList) ∧
      Activity.perform ((direct.client Programs.spawn).put cellar twoLines "note"
          (Text.encode "text".toList)) (awaiting done) =
        some (.ok (.ok ()), ⟨0, ⟨[], [⟨["smbclient", "//10.0.0.1/Cellar", "-U", "cook", "-c",
          "put - \"note\""], Text.encode "two".toList, Text.encode "lines\ntext".toList⟩]⟩⟩) := by
  decide +kernel

end Smbclient

end ShareCheck
