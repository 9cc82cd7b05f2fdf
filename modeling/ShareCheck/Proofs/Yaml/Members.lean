import Mathlib
import ShareCheck.Proofs.Fixture
import ShareCheck.Yaml.Documents

set_option autoImplicit false

namespace ShareCheck

namespace Json

/-! ### Members that are inserted one after the other -/

def names (members : List (String × Json)) : List String := members.map Prod.fst

def insertAll (pairs members : List (String × Json)) : List (String × Json) :=
  pairs.foldl (fun members pair => insert pair.1 pair.2 members) members

@[simp] theorem names_nil : names [] = [] := rfl

@[simp] theorem names_cons (pair : String × Json) (rest : List (String × Json)) :
    names (pair :: rest) = pair.1 :: names rest := rfl

@[simp] theorem names_append (some others : List (String × Json)) :
    names (some ++ others) = names some ++ names others := List.map_append

@[simp] theorem length_names (members : List (String × Json)) :
    (names members).length = members.length := List.length_map _

@[simp] theorem insertAll_nil (members : List (String × Json)) : insertAll [] members = members :=
  rfl

@[simp] theorem insertAll_cons (pair : String × Json) (rest members : List (String × Json)) :
    insertAll (pair :: rest) members = insertAll rest (insert pair.1 pair.2 members) := rfl

variable {name other : String} {value : Json} {pairs members : List (String × Json)}

theorem insert_new (new : name ∉ names members) :
    insert name value members = members ++ [(name, value)] := by
  induction members with
  | nil => rfl
  | cons head rest ih =>
    simp only [names_cons, List.mem_cons, not_or] at new
    rw [insert, if_neg (Ne.symm new.1), ih new.2]
    rfl

theorem names_insert_old (old : name ∈ names members) :
    names (insert name value members) = names members := by
  induction members with
  | nil => cases old
  | cons head rest ih =>
    by_cases same : head.1 = name
    next => simp [insert, same]
    next =>
      have later : name ∈ names rest := by simpa [Ne.symm same] using old
      simp [insert, same, ih later]

theorem mem_names_insert :
    other ∈ names (insert name value members) ↔ other = name ∨ other ∈ names members := by
  by_cases old : name ∈ names members
  next =>
    rw [names_insert_old old]
    exact ⟨.inr, fun either => either.elim (fun same => same ▸ old) id⟩
  next => simp [insert_new old, or_comm]

theorem nodup_names_insert (apart : (names members).Nodup) :
    (names (insert name value members)).Nodup := by
  by_cases old : name ∈ names members
  next => rwa [names_insert_old old]
  next =>
    rw [insert_new old, names_append]
    exact List.nodup_append_comm.1 (List.nodup_cons.2 ⟨old, apart⟩)

theorem nodup_names_insertAll (apart : (names members).Nodup) :
    (names (insertAll pairs members)).Nodup := by
  induction pairs generalizing members with
  | nil => exact apart
  | cons pair rest ih => exact ih (nodup_names_insert apart)

theorem mem_names_insertAll :
    name ∈ names (insertAll pairs members) ↔ name ∈ names pairs ∨ name ∈ names members := by
  induction pairs generalizing members with
  | nil => simp
  | cons pair rest ih =>
    simp only [insertAll_cons, ih, mem_names_insert, names_cons, List.mem_cons]
    tauto

theorem insertAll_apart (apart : (names members ++ names pairs).Nodup) :
    insertAll pairs members = members ++ pairs := by
  induction pairs generalizing members with
  | nil => simp
  | cons pair rest ih =>
    have new : pair.1 ∉ names members := fun old =>
      List.disjoint_of_nodup_append apart old (List.mem_cons_self ..)
    rw [insertAll_cons, insert_new new, ih (by simpa using apart), List.append_assoc]
    rfl

theorem length_insertAll : (insertAll pairs []).length = pairs.length ↔ (names pairs).Nodup := by
  constructor
  next =>
    intro sized
    have apart : (names (insertAll pairs [])).Nodup := nodup_names_insertAll List.nodup_nil
    have within : names (insertAll pairs []) ⊆ names pairs := fun name member => by
      simpa using mem_names_insertAll.1 member
    have longer : (names pairs).length ≤ (names (insertAll pairs [])).length := by simp [sized]
    exact ((apart.subperm within).perm_of_length_le longer).nodup_iff.1 apart
  next =>
    intro apart
    rw [insertAll_apart (by simpa using apart), List.nil_append]

theorem lookup_pair (name : String) (pair : String × Json) (rest : List (String × Json)) :
    (pair :: rest).lookup name = if name = pair.1 then some pair.2 else rest.lookup name := by
  obtain ⟨other, value⟩ := pair
  rw [List.lookup_cons]
  by_cases same : name = other
  next => simp [same]
  next => simp [same, beq_false_of_ne same]

theorem lookup_insert_ne (different : other ≠ name) :
    (insert name value members).lookup other = members.lookup other := by
  induction members with
  | nil => simp [insert, different]
  | cons head rest ih =>
    by_cases same : head.1 = name
    next => simp [insert, same, lookup_pair, different]
    next => simp [insert, same, lookup_pair, ih]

theorem lookup_insertAll (name : String) (pairs members : List (String × Json)) :
    (insertAll pairs members).lookup name = (pairs.reverse.lookup name).or (members.lookup name) := by
  induction pairs generalizing members with
  | nil => simp
  | cons pair rest ih =>
    rw [insertAll_cons, ih, List.reverse_cons, List.lookup_append, Option.or_assoc, lookup_pair]
    by_cases same : name = pair.1
    next => simp [same, lookup_insert]
    next => simp [same, lookup_insert_ne same]

theorem lookup_of_mem (apart : (names members).Nodup) (member : (name, value) ∈ members) :
    members.lookup name = some value := by
  induction members with
  | nil => cases member
  | cons head rest ih =>
    obtain ⟨new, apart⟩ := List.nodup_cons.1 apart
    rcases List.mem_cons.1 member with rfl | later
    · exact List.lookup_cons_self
    · have other : name ≠ head.1 := fun same => new (same ▸ List.mem_map_of_mem later)
      rw [lookup_pair, if_neg other]
      exact ih apart later

end Json

namespace Yaml

/-! ### Mappings at every depth -/

mutual

def Tree.Throughout (p : List (Tree × Tree) → Prop) : Tree → Prop
  | .sequence items => itemsThroughout p items
  | .mapping entries => p entries ∧ entriesThroughout p entries
  | _ => True

def itemsThroughout (p : List (Tree × Tree) → Prop) : List Tree → Prop
  | [] => True
  | t :: rest => t.Throughout p ∧ itemsThroughout p rest

def entriesThroughout (p : List (Tree × Tree) → Prop) : List (Tree × Tree) → Prop
  | [] => True
  | (_, value) :: rest => value.Throughout p ∧ entriesThroughout p rest

end

def DistinctKeys (entries : List (Tree × Tree)) : Prop :=
  entries.Pairwise fun a b => a.1.same b.1 = false

inductive ScalarType
  | text | real | int | bool
deriving DecidableEq, Repr

def Tree.scalarType? : Tree → Option ScalarType
  | .text _ => some .text
  | .real _ => some .real
  | .int _ => some .int
  | .bool _ => some .bool
  | _ => none

def NoClash (entries : List (Tree × Tree)) : Prop :=
  entries.Pairwise fun a b => a.1.scalarType? ≠ b.1.scalarType? → a.1.keyText? ≠ b.1.keyText?

instance (entries : List (Tree × Tree)) : Decidable (DistinctKeys entries) :=
  inferInstanceAs (Decidable (List.Pairwise _ _))

instance (entries : List (Tree × Tree)) : Decidable (NoClash entries) :=
  inferInstanceAs (Decidable (List.Pairwise _ _))

mutual

def Tree.Whole : Tree → Json → Prop
  | .null, .null => True
  | .bool b, .bool c => b = c
  | .int n, .int m => n = m
  | .text s, .string r => s = r
  | .real s, .real x => finiteReal? s = some x
  | .sequence items, .array xs => itemsWhole items xs
  | .mapping entries, .object members =>
    members.length = entries.length ∧ entriesWhole entries members
  | _, _ => False

def itemsWhole : List Tree → List Json → Prop
  | [], [] => True
  | t :: rest, x :: xs => t.Whole x ∧ itemsWhole rest xs
  | _, _ => False

def entriesWhole : List (Tree × Tree) → List (String × Json) → Prop
  | [], _ => True
  | (key, value) :: rest, members =>
    (∃ name x, key.keyText? = some name ∧ members.lookup name = some x ∧ value.Whole x) ∧
      entriesWhole rest members

end

/-! ### Texts of keys -/

theorem Tree.same_of_keyText {a b : Tree} (type : a.scalarType? = b.scalarType?)
    (text : a.keyText? = b.keyText?) (scalar : a.keyText?.isSome) : a.same b = true := by
  cases a <;> cases b <;> simp_all [Tree.scalarType?, Tree.keyText?, Tree.same]
  case bool.bool b c => revert text; cases b <;> cases c <;> decide

theorem noClash_iff {entries : List (Tree × Tree)} (distinct : DistinctKeys entries)
    (scalars : ∀ e ∈ entries, e.1.keyText?.isSome) :
    NoClash entries ↔ (entries.map fun e => e.1.keyText?).Nodup := by
  rw [List.Nodup, List.pairwise_map]
  constructor
  next =>
    intro clear
    refine (distinct.and clear).imp_of_mem fun {a b} member _ both text => ?_
    by_cases type : a.1.scalarType? = b.1.scalarType?
    next =>
      have same := Tree.same_of_keyText type text (scalars a member)
      rw [both.1] at same
      cases same
    next => exact both.2 type text
  next =>
    intro apart
    unfold NoClash
    apply apart.imp
    intro a b differ _
    exact differ

/-! ### Entries that become members -/

structure Becomes (document : Nat) (entry : Tree × Tree) (pair : String × Json) : Prop where
  key : entry.1.keyText? = some pair.1
  value : entry.2.toJson document = .ok pair.2

variable {document : Nat}

theorem bind_accepts {α β : Type} {x : Except DocumentError α} {f : α → Except DocumentError β}
    {b : β} : x >>= f = .ok b ↔ ∃ a, x = .ok a ∧ f a = .ok b := by
  cases x <;> simp [bind, Except.bind]

theorem entriesToJson_becomes {entries : List (Tree × Tree)} {members after : List (String × Json)}
    (made : entriesToJson document entries members = .ok after) :
    ∃ pairs, List.Forall₂ (Becomes document) entries pairs ∧
      after = Json.insertAll pairs members := by
  induction entries generalizing members with
  | nil =>
    cases made
    exact ⟨[], .nil, rfl⟩
  | cons entry rest ih =>
    simp only [entriesToJson] at made
    split at made
    next => cases made
    next name named =>
      obtain ⟨x, valued, made⟩ := bind_accepts.1 made
      obtain ⟨pairs, becomes, same⟩ := ih made
      exact ⟨(name, x) :: pairs, .cons ⟨named, valued⟩ becomes, same⟩

section

variable {entries : List (Tree × Tree)} {pairs : List (String × Json)}

theorem names_becomes (becomes : List.Forall₂ (Becomes document) entries pairs) :
    (entries.map fun e => e.1.keyText?) = (Json.names pairs).map some := by
  induction becomes with
  | nil => rfl
  | cons first _ ih => simp [first.key, ih]

theorem scalars_becomes (becomes : List.Forall₂ (Becomes document) entries pairs) :
    ∀ e ∈ entries, e.1.keyText?.isSome := by
  induction becomes with
  | nil => simp
  | cons first _ ih => simpa [first.key] using ih

theorem lookup_becomes (becomes : List.Forall₂ (Becomes document) entries pairs) (name : String) :
    pairs.lookup name = (entries.find? fun e => e.1.keyText? = some name).bind fun e =>
      (e.2.toJson document).toOption := by
  induction becomes with
  | nil => rfl
  | @cons entry pair _ _ first _ ih =>
    by_cases same : name = pair.1
    next => simp [Json.lookup_pair, same, first.key, first.value, Except.toOption]
    next => simp [Json.lookup_pair, same, first.key, Ne.symm same, ih]

theorem length_becomes (becomes : List.Forall₂ (Becomes document) entries pairs)
    (distinct : DistinctKeys entries) :
    (Json.insertAll pairs []).length = entries.length ↔ NoClash entries := by
  rw [becomes.length_eq, Json.length_insertAll, noClash_iff distinct (scalars_becomes becomes),
    names_becomes becomes, List.nodup_map_iff (Option.some_injective _)]

end

mutual

theorem Tree.toJson_whole : ∀ (t : Tree) {x : Json}, t.toJson document = .ok x →
    t.Throughout DistinctKeys → (t.Whole x ↔ t.Throughout NoClash)
  | .null, _, made, _ | .bool _, _, made, _ | .int _, _, made, _ | .text _, _, made, _ => by
    cases made
    simp [Tree.Whole, Tree.Throughout]
  | .real s, x, made, _ => by
    simp only [Tree.toJson] at made
    split at made
    next read =>
      cases made
      simp [Tree.Whole, Tree.Throughout, read]
    next => cases made
  | .sequence items, x, made, distinct => by
    rw [Tree.toJson] at made
    obtain ⟨xs, led, ⟨⟩⟩ := bind_accepts.1 made
    exact itemsToJson_whole items led distinct
  | .mapping entries, x, made, ⟨distinct, below⟩ => by
    rw [Tree.toJson] at made
    obtain ⟨members, led, ⟨⟩⟩ := bind_accepts.1 made
    obtain ⟨pairs, becomes, rfl⟩ := entriesToJson_becomes led
    have sized := length_becomes becomes distinct
    simp only [Tree.Whole, Tree.Throughout, sized]
    refine and_congr_right fun clear => entriesToJson_whole entries becomes ?_ below
    have apart := Json.length_insertAll.1 ((sized.2 clear).trans becomes.length_eq)
    rw [Json.insertAll_apart (by simpa using apart), List.nil_append]
    exact fun pair => Json.lookup_of_mem apart
  | .alias _, _, made, _ | .bad, _, made, _ => by cases made

theorem itemsToJson_whole : ∀ (items : List Tree) {xs : List Json},
    itemsToJson document items = .ok xs → itemsThroughout DistinctKeys items →
      (itemsWhole items xs ↔ itemsThroughout NoClash items)
  | [], _, made, _ => by
    cases made
    simp [itemsWhole, itemsThroughout]
  | t :: rest, _, made, ⟨distinct, below⟩ => by
    rw [itemsToJson] at made
    obtain ⟨x, first, made⟩ := bind_accepts.1 made
    obtain ⟨xs, led, ⟨⟩⟩ := bind_accepts.1 made
    exact and_congr (t.toJson_whole first distinct) (itemsToJson_whole rest led below)

theorem entriesToJson_whole {members : List (String × Json)} :
    ∀ (entries : List (Tree × Tree)) {pairs : List (String × Json)},
      List.Forall₂ (Becomes document) entries pairs →
      (∀ pair ∈ pairs, members.lookup pair.1 = some pair.2) →
      entriesThroughout DistinctKeys entries →
        (entriesWhole entries members ↔ entriesThroughout NoClash entries)
  | [], _, _, _, _ => by simp [entriesWhole, entriesThroughout]
  | (key, value) :: rest, pair :: pairs, becomes, found, ⟨distinct, below⟩ => by
    rcases becomes with _ | ⟨first, becomes⟩
    have later : ∀ p ∈ pairs, members.lookup p.1 = some p.2 := fun p member =>
      found p (.tail _ member)
    refine and_congr ?_ (entriesToJson_whole rest becomes later below)
    rw [← value.toJson_whole first.value distinct]
    constructor
    next =>
      -- Whatever stands under the text of the key is what the value became.
      rintro ⟨name, x, named, there, whole⟩
      cases named.symm.trans first.key
      cases there.symm.trans (found pair (.head _))
      exact whole
    next => exact fun whole => ⟨pair.1, pair.2, first.key, found pair (.head _), whole⟩

end

theorem mapping_toJson {entries : List (Tree × Tree)} {x : Json}
    (made : (Tree.mapping entries).toJson document = .ok x) :
    ∃ members, x = .object members ∧ (Json.names members).Nodup ∧ ∀ name, members.lookup name =
      (entries.reverse.find? fun e => e.1.keyText? = some name).bind fun e =>
        (e.2.toJson document).toOption := by
  rw [Tree.toJson] at made
  obtain ⟨members, led, ⟨⟩⟩ := bind_accepts.1 made
  obtain ⟨pairs, becomes, rfl⟩ := entriesToJson_becomes led
  refine ⟨_, rfl, Json.nodup_names_insertAll List.nodup_nil, fun name => ?_⟩
  rw [Json.lookup_insertAll, lookup_becomes (List.forall₂_reverse_iff.2 becomes), List.lookup_nil,
    Option.or_none]

/-- A tree whose mappings have different keys loses nothing exactly when no mapping in it, at any
depth, has keys of two types with the same text. Of entries with the same text the last stays. -/
theorem Tree.toJson_lossless (document : Nat) (t : Tree) (x : Json)
    (made : t.toJson document = .ok x) :
    (t.Throughout DistinctKeys → (t.Whole x ↔ t.Throughout NoClash)) ∧
      ∀ entries, t = .mapping entries → ∃ members, x = .object members ∧
        (Json.names members).Nodup ∧ ∀ name, members.lookup name =
          (entries.reverse.find? fun e => e.1.keyText? = some name).bind fun e =>
            (e.2.toJson document).toOption := by
  constructor
  next => exact t.toJson_whole made
  next =>
    rintro entries rfl
    exact mapping_toJson made

def ports : Tree := .mapping [
  (.text "smb", .sequence [.mapping [(.int 445, .bool true), (.text "139", .bool false)]]),
  (.bool true, .mapping [(.real "1.5", .null), (.int 1, .text "one")])]

theorem Tree.toJson_lossless_ports :
    ∃ x, ports.toJson 0 = .ok x ∧ ports.Throughout DistinctKeys ∧ ports.Throughout NoClash ∧
      ports.Whole x := by
  have distinct : ports.Throughout DistinctKeys := by
    simp only [ports, Tree.Throughout, itemsThroughout, entriesThroughout]
    decide
  have clear : ports.Throughout NoClash := by
    simp only [ports, Tree.Throughout, itemsThroughout, entriesThroughout]
    decide
  exact ⟨_, rfl, distinct, clear, ((Tree.toJson_lossless 0 ports _ rfl).1 distinct).2 clear⟩

def twice : Tree := .mapping [(.int 1, .text "a"), (.text "1", .text "b")]

theorem Tree.toJson_loses :
    (Tree.documents "1: a\n\"1\": b\n").toOption.map (fun trees => trees.map twice.same) =
        some [true] ∧
      twice.Throughout DistinctKeys ∧ twice.toJson 0 = .ok (.object [("1", .string "b")]) ∧
      ¬ twice.Whole (.object [("1", .string "b")]) := by
  refine ⟨by decide +kernel, ?_, rfl, ?_⟩
  · simp only [twice, Tree.Throughout, entriesThroughout]
    decide
  · simp [twice, Tree.Whole]

end Yaml

end ShareCheck
