import Mathlib.Data.List.Nodup
import ShareCheck.Table

set_option autoImplicit false

namespace ShareCheck.Table

variable {α β : Type}

theorem mem_entries {t : Table α} {key : String} {value : α} :
    (key, value) ∈ t.entries ↔ t.get? key = some value := by
  have among (l : List (String × α)) (ordered : l.Pairwise fun a b => a.1 < b.1) :
      (key, value) ∈ l ↔ l.lookup key = some value := by
    induction ordered with
    | nil => simp
    | @cons head rest before _ ih =>
      obtain ⟨k, v⟩ := head
      rw [List.lookup_cons, List.mem_cons, ih]
      by_cases same : key = k
      next =>
        -- No later entry has the key of the first.
        have new : rest.lookup key ≠ some value := fun found => by
          subst same
          exact absurd (before _ (ih.2 found)) (String.lt_irrefl key)
        simp [same, eq_comm] at new ⊢
        grind
      next => simp [same, beq_false_of_ne same]
  exact among t.entries t.ordered

theorem mem_keys {t : Table α} {key : String} : key ∈ t.keys ↔ ∃ a, t.get? key = some a := by
  simp [keys, ← mem_entries]

theorem ext {t u : Table α} (same : ∀ key, t.get? key = u.get? key) : t = u := by
  have irreflexive : ∀ e : String × α, ¬ e.1 < e.1 := fun e => String.lt_irrefl e.1
  have distinct (t : Table α) : t.entries.Nodup := by
    refine t.ordered.imp fun {a b} before equal => ?_
    exact irreflexive b (equal ▸ before)
  have perm : t.entries.Perm u.entries := by
    refine (List.perm_ext_iff_of_nodup (distinct t) (distinct u)).2 fun e => ?_
    rw [show e = (e.1, e.2) from rfl, mem_entries, mem_entries, same]
  have entries : t.entries = u.entries :=
    perm.eq_of_pairwise (fun a b _ _ before after =>
      absurd (String.lt_trans before after) (irreflexive a)) t.ordered u.ordered
  cases t
  cases u
  cases entries
  rfl

theorem get?_foldl_insert (key : α → String) (added : List α) (t : Table α) (name : String) :
    (added.foldl (fun t a => t.insert (key a) a) t).get? name =
      (added.reverse.find? (key · == name)).or (t.get? name) := by
  induction added generalizing t with
  | nil => simp
  | cons a rest ih =>
    rw [List.foldl_cons, ih, get?_insert, List.reverse_cons, List.find?_append, Option.or_assoc,
      List.find?_singleton]
    grind

def map (f : α → β) (t : Table α) : Table β where
  entries := t.entries.map fun e => (e.1, f e.2)
  ordered := List.pairwise_map.2 t.ordered

end ShareCheck.Table
