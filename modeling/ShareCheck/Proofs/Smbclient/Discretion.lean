import ShareCheck.Proofs.Access.Discretion
import ShareCheck.Proofs.Access.Isolation
import ShareCheck.Proofs.Smbclient.Client

set_option autoImplicit false

namespace ShareCheck

variable {σ ν : Type}

theorem Call.map_map {α β γ : Type} (c : Call σ α) (f : α → β) (g : β → γ) :
    (c.map f).map g = c.map fun a => g (f a) := by
  funext now w
  unfold Call.map
  rcases c now w with ⟨_ | ⟨delay, finish⟩, v⟩
  next => rfl
  next =>
    simp only [Flight.map, Prod.mk.injEq, Flight.lands.injEq, and_true, true_and]
    funext u
    rcases finish u with ⟨p | a, x⟩
    next => rfl
    next => rfl

theorem Activity.perform_map_ending {α β : Type} (c : Call σ α) (f : α → β) (m : Moment σ) :
    (perform (c.map f)).ending m =
      ((perform c).ending m).map fun (r, ended) => (r.map f, ended) := by
  unfold Activity.ending perform Call.map
  rcases c m.now m.world with ⟨_ | ⟨delay, finish⟩, v⟩
  next => rfl
  next =>
    simp only [Flight.map]
    rcases finish v with ⟨p | a, x⟩
    next => rfl
    next => rfl

namespace Smbclient

open Text (Bytes)

namespace FileCall

abbrev Answer : FileCall → Type
  | list => List String
  | put _ _ => Unit
  | get _ => Bytes
  | remove _ => Unit

def call (client : ShareClient σ) (target : Target) (c : Credential) :
    (asked : FileCall) → Request σ asked.Answer
  | list => client.list target c
  | put name contents => client.put target c name contents
  | get name => client.get target c name
  | remove name => client.remove target c name

def read : (asked : FileCall) → Bytes → asked.Answer
  | list, output => entries (Text.decodeLossy output)
  | put _ _, _ => ()
  | get _, output => output
  | remove _, _ => ()

def judge (asked : FileCall) (target : Target) (program : String) :
    Except String Completed → Except Error asked.Answer
  | .ok completed => (completed.judge target.unc).map asked.read
  | .error reason =>
    .error (.internal "smbclient" ("failed to spawn " ++ program ++ ": " ++ reason))

end FileCall

theorem commandLine_bare (l : Launcher) (target : Target) (c : Credential) (command : String) :
    l.commandLine target c.bare command = l.commandLine target c command := rfl

theorem call_eq (l : Launcher) (spawn : Spawn σ) (target : Target) (c : Credential)
    (asked : FileCall) :
    asked.call (l.client spawn) target c =
      (spawn (l.commandLine target c asked.command).1 (l.commandLine target c asked.command).2
        (inputPayload c asked.data)).map
          (asked.judge target (l.commandLine target c asked.command).1) := by
  cases asked with
  | list | put | remove =>
    refine (Call.map_map _ _ _).trans (congrArg (Call.map · _) (funext fun answer => ?_))
    cases answer <;> rfl
  | get name =>
    refine congrArg (Call.map · _) (funext fun answer => ?_)
    match answer with
    | .ok completed => exact (congrFun Except.map_id (completed.judge target.unc)).symm
    | .error reason => rfl

theorem client_lifts (l : Launcher) {h : View σ ν} {spawn : Spawn σ} {image : Spawn ν}
    (lifts : ∀ program arguments c data, (spawn program arguments (inputPayload c data)).Lifts h
      (image program arguments (inputPayload c.bare data))) :
    (l.client spawn).Lifts h (l.client image).blind where
  list _ c := Call.map_lifts (Call.map_lifts (lifts _ _ c _) _) _
  put _ c _ data := Call.map_lifts (Call.map_lifts (lifts _ _ c data) _) _
  get _ c _ := Call.map_lifts (lifts _ _ c _) _
  remove _ c _ := Call.map_lifts (Call.map_lifts (lifts _ _ c _) _) _

def Launcher.Discreet (l : Launcher) (target : Target) (user : String) (asked : FileCall) : Prop :=
  ∃ program arguments, ∃ judge : Except String Completed → Except Error asked.Answer,
    (∀ password, l.argv target ⟨user, password⟩ asked.command = program :: arguments) ∧
    ∀ {σ : Type} (spawn : Spawn σ),
      (∀ password, asked.call (l.client spawn) target ⟨user, password⟩ =
        (spawn program arguments (Text.encode password.toList ++ 10 :: asked.data)).map judge) ∧
      ∀ (password other : String) (m n : Moment σ),
        (Activity.perform (spawn program arguments
            (Text.encode password.toList ++ 10 :: asked.data))).ending m =
          (Activity.perform (spawn program arguments
            (Text.encode other.toList ++ 10 :: asked.data))).ending n →
        (Activity.perform (asked.call (l.client spawn) target ⟨user, password⟩)).ending m =
          (Activity.perform (asked.call (l.client spawn) target ⟨user, other⟩)).ending n

theorem launcher_discreet (l : Launcher) (target : Target) (user : String) (asked : FileCall) :
    l.Discreet target user asked := by
  let line := l.commandLine target ⟨user, ""⟩ asked.command
  have same (password : String) : l.commandLine target ⟨user, password⟩ asked.command = line :=
    (commandLine_bare l target ⟨user, password⟩ asked.command).symm
  refine ⟨line.1, line.2, asked.judge target line.1, fun password => ?_, fun spawn => ?_⟩
  next => rw [Launcher.argv, same]
  next =>
    have calls (password : String) : asked.call (l.client spawn) target ⟨user, password⟩ =
        (spawn line.1 line.2 (Text.encode password.toList ++ 10 :: asked.data)).map
          (asked.judge target line.1) := by
      rw [call_eq, same]
      rfl
    refine ⟨calls, fun password other m n alike => ?_⟩
    rw [calls, calls, Activity.perform_map_ending, Activity.perform_map_ending, alike]

end Smbclient

end ShareCheck
