set_option autoImplicit false

namespace ShareCheck

structure Table (α : Type) where
  entries : List (String × α)
  ordered : entries.Pairwise fun a b => a.1 < b.1

namespace Table

variable {α : Type}

def place (key : String) (value : α) : List (String × α) → List (String × α)
  | [] => [(key, value)]
  | (k, v) :: rest =>
    if key < k then (key, value) :: (k, v) :: rest
    else if key = k then (key, value) :: rest
    else (k, v) :: place key value rest

theorem key_of_mem_place {key : String} {value : α} {l : List (String × α)} {e : String × α}
    (h : e ∈ place key value l) : e.1 = key ∨ e ∈ l := by
  induction l with
  | nil => simp_all [place]
  | cons head rest ih =>
    obtain ⟨k, v⟩ := head
    simp only [place] at h
    split at h
    · grind
    · split at h <;> grind

theorem ordered_place (key : String) (value : α) {l : List (String × α)}
    (h : l.Pairwise fun a b => a.1 < b.1) : (place key value l).Pairwise fun a b => a.1 < b.1 := by
  induction l with
  | nil => simp [place]
  | cons head rest ih =>
    obtain ⟨k, v⟩ := head
    rw [List.pairwise_cons] at h
    simp only [place]
    split
    next before =>
      refine .cons (fun e mem => ?_) (.cons h.1 h.2)
      rcases List.mem_cons.1 mem with rfl | mem
      · exact before
      · exact String.lt_trans before (h.1 e mem)
    next notBefore =>
      split
      next same => exact .cons (fun e mem => same ▸ h.1 e mem) h.2
      next other =>
        refine .cons (fun e mem => ?_) (ih h.2)
        rcases key_of_mem_place mem with same | mem
        · exact same ▸ String.not_le.1 fun le =>
            other (String.le_antisymm le (String.not_lt.1 notBefore))
        · exact h.1 e mem

theorem lookup_place (key : String) (value : α) (l : List (String × α)) (a : String) :
    (place key value l).lookup a = if a = key then some value else l.lookup a := by
  induction l with
  | nil => simp only [place, List.lookup_cons, List.lookup_nil]; grind
  | cons head rest ih =>
    obtain ⟨k, v⟩ := head
    simp only [place]
    split
    · simp only [List.lookup_cons]; grind
    · split <;> simp only [List.lookup_cons] <;> grind

theorem lookup_filter_ne (key : String) (l : List (String × α)) (a : String) :
    (l.filter fun e => e.1 != key).lookup a = if a = key then none else l.lookup a := by
  induction l with
  | nil => simp
  | cons head rest ih =>
    obtain ⟨k, v⟩ := head
    by_cases same : k = key
    · simp only [List.filter_cons, same, bne_self_eq_false, List.lookup_cons]; grind
    · simp only [List.filter_cons, List.lookup_cons]; grind

def empty : Table α := ⟨[], .nil⟩

instance : Inhabited (Table α) := ⟨empty⟩

def insert (t : Table α) (key : String) (value : α) : Table α :=
  ⟨place key value t.entries, ordered_place key value t.ordered⟩

def erase (t : Table α) (key : String) : Table α :=
  ⟨t.entries.filter fun e => e.1 != key, t.ordered.sublist List.filter_sublist⟩

def get? (t : Table α) (key : String) : Option α := t.entries.lookup key

def keys (t : Table α) : List String := t.entries.map (·.1)

def values (t : Table α) : List α := t.entries.map (·.2)

@[simp] theorem get?_empty (key : String) : (empty : Table α).get? key = none := rfl

@[simp] theorem get?_insert (t : Table α) (key : String) (value : α) (a : String) :
    (t.insert key value).get? a = if a = key then some value else t.get? a :=
  lookup_place key value t.entries a

@[simp] theorem get?_erase (t : Table α) (key a : String) :
    (t.erase key).get? a = if a = key then none else t.get? a :=
  lookup_filter_ne key t.entries a

end Table

end ShareCheck
