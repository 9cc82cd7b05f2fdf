import ShareCheck.EventTrail

set_option autoImplicit false

namespace ShareCheck.EventTrail

theorem count_record (t : Tally) (found : Option String) (reason : String) :
    count (record t found) reason = count t reason + if found = some reason then 1 else 0 := by
  cases found with
  | none => simp [record]
  | some other =>
    by_cases same : reason = other
    · simp [record, count, same]
    · simp [record, count, same, Ne.symm same]

theorem count_foldl_record (reasons : List (Option String)) (t : Tally) (reason : String) :
    count (reasons.foldl record t) reason = count t reason + reasons.count (some reason) := by
  induction reasons generalizing t with
  | nil => rfl
  | cons found rest ih =>
    rw [List.foldl_cons, ih, count_record, List.count_cons]
    simp only [beq_iff_eq]
    omega

@[simp] theorem count_tally (reasons : List (Option String)) (reason : String) :
    count (tally reasons) reason = reasons.count (some reason) := by
  have empty : count (Table.empty : Tally) reason = 0 := rfl
  rw [tally, count_foldl_record, empty, Nat.zero_add]

theorem mismatch_none (observed : Tally) (reason : String) (want : Nat) :
    mismatch? observed reason want = none ↔ count observed reason = want := by
  simp [mismatch?]

theorem compare_ok (expected observed : Tally) :
    compare expected observed = .ok () ↔
      ∀ reason want, (reason, want) ∈ expected.entries → count observed reason = want := by
  unfold compare
  have none :
      expected.entries.filterMap (fun entry => mismatch? observed entry.1 entry.2) = [] ↔
        ∀ reason want, (reason, want) ∈ expected.entries → count observed reason = want := by
    simp [List.filterMap_eq_nil_iff, mismatch_none]
  rw [← none]
  split <;> simp_all

theorem judge_ok {kind : String} {share : ShareIdentity} {expected observed : Tally}
    {events : List Event} (judged : judge kind share expected events = .ok observed) :
    events ≠ [] ∧ ∀ reason want, (reason, want) ∈ expected.entries →
      (events.map (·.reason)).count (some reason) = want := by
  unfold judge at judged
  split at judged
  next => cases judged
  next some =>
    match compared : compare expected (tally (events.map (·.reason))) with
    | .error e => simp [compared, Except.map] at judged
    | .ok () =>
      have counts := (compare_ok _ _).1 compared
      exact ⟨by simpa using some, by simpa using counts⟩

end ShareCheck.EventTrail
