import ShareCheck.Proofs.Text.Utf8
import ShareCheck.Smbclient.Status

set_option autoImplicit false

namespace ShareCheck

def AccessFailure.precedence : AccessFailure → Nat
  | operation => 0
  | auth => 1
  | connection => 2

namespace Smbclient

def verdict (found : String → Bool) : Option AccessFailure :=
  if (connectionStatuses ++ connectionPhrases).any found then some .connection
  else if authStatuses.any found then some .auth
  else if found "NT_STATUS_" && !found "NT_STATUS_OK" then some .operation
  else none

theorem classify_eq (output : List Char) : classify output = verdict (mentions output) := rfl

def Masked (found : String → Bool) : Prop :=
  found "NT_STATUS_OK" = true ∧
    ∀ s ∈ connectionStatuses ++ connectionPhrases ++ authStatuses, found s = false

theorem any_masked {found : String → Bool} (masked : Masked found) :
    (connectionStatuses ++ connectionPhrases).any found = false ∧
      authStatuses.any found = false := by
  constructor
  · exact List.any_eq_false.2 fun s member => by simp [masked.2 s (List.mem_append_left _ member)]
  · exact List.any_eq_false.2 fun s member => by simp [masked.2 s (List.mem_append_right _ member)]

theorem verdict_masked {found : String → Bool} (masked : Masked found) : verdict found = none := by
  obtain ⟨reached, admitted⟩ := any_masked masked
  simp [verdict, reached, admitted, masked.1]

theorem found_of_verdict {found : String → Bool} {f : AccessFailure}
    (failed : verdict found = some f) :
    match f with
    | .connection => (connectionStatuses ++ connectionPhrases).any found = true
    | .auth => authStatuses.any found = true
    | .operation => found "NT_STATUS_" = true := by
  unfold verdict at failed
  split at failed
  next unreached => cases failed; exact unreached
  next =>
    split at failed
    next barred => cases failed; exact barred
    next =>
      split at failed
      next status =>
        cases failed
        exact (Bool.and_eq_true_iff.1 status).1
      next => cases failed

theorem verdict_mono {found more : String → Bool} (grows : ∀ s, found s = true → more s = true)
    {f : AccessFailure} (failed : verdict found = some f)
    (unmasked : ¬ (f = .operation ∧ Masked more)) :
    ∃ g, verdict more = some g ∧ f.precedence ≤ g.precedence := by
  have kept {phrases : List String} (any : phrases.any found = true) : phrases.any more = true := by
    obtain ⟨s, member, seen⟩ := List.any_eq_true.1 any
    exact List.any_eq_true.2 ⟨s, member, grows s seen⟩
  have told := found_of_verdict failed
  by_cases unreached : (connectionStatuses ++ connectionPhrases).any more = true
  next => exact ⟨.connection, if_pos unreached, by cases f <;> decide⟩
  by_cases barred : authStatuses.any more = true
  next =>
    refine ⟨.auth, by rw [verdict, if_neg unreached, if_pos barred], ?_⟩
    cases f with
    | connection => exact absurd (kept told) unreached
    | auth | operation => decide
  cases f with
  | connection => exact absurd (kept told) unreached
  | auth => exact absurd (kept told) barred
  | operation =>
    have doubtful : more "NT_STATUS_OK" = false := by
      by_contra success
      refine unmasked ⟨rfl, by simpa using success, fun s member => ?_⟩
      rcases List.mem_append.1 member with first | second
      · simpa using List.any_eq_false.1 (Bool.eq_false_iff.2 unreached) s first
      · simpa using List.any_eq_false.1 (Bool.eq_false_iff.2 barred) s second
    refine ⟨.operation, ?_, by decide⟩
    simp only [verdict, unreached, barred, grows _ told, doubtful]
    rfl

theorem mentions_mono {inner outer : List Char} (within : inner <:+: outer) (s : String) :
    mentions inner s = true → mentions outer s = true :=
  Text.occurs_mono within

theorem classify_mono {inner outer : List Char} (within : inner <:+: outer) {f : AccessFailure}
    (failed : classify inner = some f) (unmasked : ¬ (f = .operation ∧ Masked (mentions outer))) :
    ∃ g, classify outer = some g ∧ f.precedence ≤ g.precedence := by
  rw [classify_eq] at failed ⊢
  exact verdict_mono (mentions_mono within) failed unmasked

end Smbclient

end ShareCheck
