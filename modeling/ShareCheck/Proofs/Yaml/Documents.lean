import ShareCheck.Proofs.Yaml.Members

set_option autoImplicit false

namespace ShareCheck.Yaml

/-! ### Places in a tree -/

inductive Place
  | key (t : Tree)
  | value (t : Tree)

def Place.tree : Place → Tree
  | key t => t
  | value t => t

mutual

def Tree.placesBelow : Tree → List Place
  -- In pre-order, and a key before its value.
  | .sequence items => itemsPlaces items
  | .mapping entries => entriesPlaces entries
  | _ => []

def itemsPlaces : List Tree → List Place
  | [] => []
  | t :: rest => .value t :: (t.placesBelow ++ itemsPlaces rest)

def entriesPlaces : List (Tree × Tree) → List Place
  | [] => []
  | (key, value) :: rest =>
    .key key :: (key.placesBelow ++ .value value :: (value.placesBelow ++ entriesPlaces rest))

end

def Tree.places (t : Tree) : List Place := .value t :: t.placesBelow

inductive Fault
  | complexKey
  | invalid (value : String)
deriving DecidableEq, Repr

def Fault.error (document : Nat) : Fault → DocumentError
  | complexKey => .complexKey document
  | invalid value => .invalid document value

/-- What is wrong with a tree where it stands. A key stands for its text, so a real has to be a
finite number only where it is a value. -/
def Place.fault? : Place → Option Fault
  | .key (.text _) | .key (.real _) | .key (.int _) | .key (.bool _) => none
  | .key _ => some .complexKey
  | .value (.real s) => if (finiteReal? s).isSome then none else some (.invalid s)
  | .value (.alias id) => some (.invalid s!"<unresolved alias {id}>")
  | .value .bad => some (.invalid "<bad value>")
  | .value _ => none

theorem Place.key_fault (t : Tree) :
    (Place.key t).fault? = if t.keyText?.isSome then none else some .complexKey := by
  cases t <;> rfl

theorem Tree.placesBelow_key {t : Tree} {name : String} (named : t.keyText? = some name) :
    t.placesBelow = [] := by
  cases t <;> first | rfl | cases named

def firstError? (document : Nat) (places : List Place) : Option DocumentError :=
  (places.findSome? Place.fault?).map (Fault.error document)

variable {document : Nat}

@[simp] theorem firstError?_nil : firstError? document [] = none := rfl

@[simp] theorem firstError?_cons (place : Place) (places : List Place) :
    firstError? document (place :: places) =
      (place.fault?.map (Fault.error document)).or (firstError? document places) := by
  unfold firstError?
  rw [List.findSome?_cons]
  cases place.fault? <;> rfl

@[simp] theorem firstError?_append (places others : List Place) :
    firstError? document (places ++ others) =
      (firstError? document places).or (firstError? document others) := by
  unfold firstError?
  rw [List.findSome?_append]
  cases places.findSome? Place.fault? <;> rfl

theorem firstError?_eq_none {places : List Place} :
    firstError? document places = none ↔ ∀ place ∈ places, place.fault? = none := by
  simp [firstError?]

/-! ### What a tree becomes -/

mutual

def Tree.Converts : Tree → Json → Prop
  | .null, .null => True
  | .bool b, .bool c => b = c
  | .int n, .int m => n = m
  | .text s, .string r => s = r
  | .real s, .real x => finiteReal? s = some x
  | .sequence items, .array xs => itemsConvert items xs
  | .mapping entries, .object members =>
    ∃ pairs, entriesConvert entries pairs ∧ members = Json.insertAll pairs []
  | _, _ => False

def itemsConvert : List Tree → List Json → Prop
  | [], [] => True
  | t :: rest, x :: xs => t.Converts x ∧ itemsConvert rest xs
  | _, _ => False

def entriesConvert : List (Tree × Tree) → List (String × Json) → Prop
  | [], [] => True
  | (key, value) :: rest, (name, x) :: pairs =>
    key.keyText? = some name ∧ value.Converts x ∧ entriesConvert rest pairs
  | _, _ => False

end

theorem entriesToJson_ok {entries : List (Tree × Tree)} {members after : List (String × Json)} :
    entriesToJson document entries members = .ok after ↔
      ∃ pairs, List.Forall₂ (Becomes document) entries pairs ∧
        after = Json.insertAll pairs members := by
  refine ⟨entriesToJson_becomes, ?_⟩
  rintro ⟨pairs, becomes, rfl⟩
  induction becomes generalizing members with
  | nil => rfl
  | @cons entry pair _ _ first _ ih =>
    simp only [entriesToJson, first.key]
    exact bind_accepts.2 ⟨pair.2, first.value, ih⟩

mutual

theorem Tree.toJson_ok : ∀ (t : Tree) (x : Json), t.toJson document = .ok x ↔ t.Converts x
  | .null, x | .bool _, x | .int _, x | .text _, x => by
    cases x <;> simp [Tree.toJson, Tree.Converts]
  | .real s, x => by
    cases x <;> cases read : finiteReal? s <;> simp [Tree.toJson, Tree.Converts, read]
  | .sequence items, x => by
    rw [Tree.toJson, bind_accepts]
    cases x with
    | array xs => simpa [Tree.Converts, pure, Except.pure] using itemsToJson_ok items xs
    | _ => simp [Tree.Converts, pure, Except.pure]
  | .mapping entries, x => by
    rw [Tree.toJson, bind_accepts]
    cases x with
    | object members =>
      simp [Tree.Converts, pure, Except.pure, entriesToJson_ok, becomes_iff entries]
    | _ => simp [Tree.Converts, pure, Except.pure]
  | .alias _, x | .bad, x => by
    cases x <;> simp [Tree.toJson, Tree.Converts]

theorem itemsToJson_ok : ∀ (items : List Tree) (xs : List Json),
    itemsToJson document items = .ok xs ↔ itemsConvert items xs
  | [], xs => by cases xs <;> simp [itemsToJson, itemsConvert]
  | t :: rest, xs => by
    rw [itemsToJson, bind_accepts]
    cases xs with
    | nil => simp [itemsConvert, bind_accepts, pure, Except.pure]
    | cons x xs =>
      simp [itemsConvert, bind_accepts, pure, Except.pure, t.toJson_ok, itemsToJson_ok rest]

theorem becomes_iff : ∀ (entries : List (Tree × Tree)) (pairs : List (String × Json)),
    List.Forall₂ (Becomes document) entries pairs ↔ entriesConvert entries pairs
  | [], pairs => by cases pairs <;> simp [entriesConvert]
  | (key, value) :: rest, pairs => by
    cases pairs with
    | nil => simp [entriesConvert]
    | cons pair pairs =>
      have entry : Becomes document (key, value) pair ↔
          key.keyText? = some pair.1 ∧ value.Converts pair.2 := by
        rw [← value.toJson_ok]
        exact ⟨fun b => ⟨b.key, b.value⟩, fun b => ⟨b.1, b.2⟩⟩
      simp [entriesConvert, entry, becomes_iff rest, and_assoc]

end

/-! ### The error that is told -/

def Tells {α : Type} (r : Except DocumentError α) (error : Option DocumentError) : Prop :=
  match r with
  | .ok _ => error = none
  | .error e => error = some e

section

variable {α : Type} {r : Except DocumentError α} {error : Option DocumentError}

theorem Tells.ok_iff (tells : Tells r error) : (∃ a, r = .ok a) ↔ error = none := by
  cases r with
  | ok a => exact ⟨fun _ => tells, fun _ => ⟨a, rfl⟩⟩
  | error e =>
    cases tells
    exact ⟨nofun, nofun⟩

theorem Tells.error_iff (tells : Tells r error) {e : DocumentError} :
    r = .error e ↔ error = some e := by
  cases r with
  | ok a =>
    cases tells
    exact ⟨nofun, nofun⟩
  | error other =>
    cases tells
    simp

end

theorem Tells.bind {α β : Type} {x : Except DocumentError α} {f : α → Except DocumentError β}
    {first rest : Option DocumentError} (begun : Tells x first)
    (ended : ∀ a, x = .ok a → Tells (f a) rest) : Tells (x >>= f) (first.or rest) := by
  cases x with
  | ok a =>
    obtain rfl : first = none := begun
    exact ended a rfl
  | error e =>
    obtain rfl : first = some e := begun
    rfl

theorem Tells.bind_pure {α β : Type} {x : Except DocumentError α} {f : α → β}
    {error : Option DocumentError} (begun : Tells x error) :
    Tells (x >>= fun a => pure (f a)) error := by
  have ended : Tells (x >>= fun a => pure (f a)) (error.or none) := begun.bind fun _ _ => rfl
  rwa [Option.or_none] at ended

mutual

theorem Tree.toJson_tells : ∀ t : Tree, Tells (t.toJson document) (firstError? document t.places)
  | .null | .bool _ | .int _ | .text _ => rfl
  | .real s => by
    cases read : finiteReal? s <;>
      simp [Tree.toJson, Tree.places, Tree.placesBelow, Place.fault?, Fault.error, read, Tells]
  | .sequence items => (itemsToJson_tells items).bind_pure
  | .mapping entries => (entriesToJson_tells entries []).bind_pure
  | .alias _ | .bad => rfl

theorem itemsToJson_tells : ∀ items : List Tree,
    Tells (itemsToJson document items) (firstError? document (itemsPlaces items))
  | [] => rfl
  | t :: rest => by
    have tells := t.toJson_tells.bind (f := fun x => do return x :: (← itemsToJson document rest))
      fun _ _ => (itemsToJson_tells rest).bind_pure
    rwa [← firstError?_append] at tells

theorem entriesToJson_tells : ∀ (entries : List (Tree × Tree)) (members : List (String × Json)),
    Tells (entriesToJson document entries members) (firstError? document (entriesPlaces entries))
  | [], _ => rfl
  | (key, value) :: rest, members => by
    rw [entriesToJson, entriesPlaces, firstError?_cons, Place.key_fault]
    split
    next unnamed => simp [unnamed, Fault.error, Tells]
    next name named =>
      have tells := value.toJson_tells.bind
        (f := fun x => entriesToJson document rest (Json.insert name x members))
        fun _ _ => entriesToJson_tells rest _
      -- A key with a text is a scalar, so there is nothing below it.
      simpa [named, key.placesBelow_key named, Tree.places, Option.or_assoc] using tells

end

/-! ### Documents -/

def Tree.isNull : Tree → Bool
  | .null => true
  | _ => false

def Tree.offence? (document : Nat) (t : Tree) : Option DocumentError :=
  if t.isNull then none else firstError? document t.places

def firstOffence? (start : Nat) (trees : List Tree) : Option DocumentError :=
  (trees.zipIdx start).findSome? fun (t, document) => t.offence? document

theorem firstOffence?_cons (start : Nat) (t : Tree) (rest : List Tree) :
    firstOffence? start (t :: rest) = (t.offence? start).or (firstOffence? (start + 1) rest) := by
  unfold firstOffence?
  rw [List.zipIdx_cons, List.findSome?_cons]
  dsimp only
  cases t.offence? start <;> rfl

theorem firstOffence?_eq_none {start : Nat} {trees : List Tree} :
    firstOffence? start trees = none ↔
      ∀ t ∈ trees, t.isNull = false → ∀ place ∈ t.places, place.fault? = none := by
  induction trees generalizing start with
  | nil => simp [firstOffence?]
  | cons t rest ih =>
    simp [firstOffence?_cons, Option.or_eq_none_iff, ih, Tree.offence?, firstError?_eq_none]

theorem documentsToJson_cons (document : Nat) (t : Tree) (rest : List Tree) :
    documentsToJson document (t :: rest) =
      if t.isNull then documentsToJson (document + 1) rest
      else do
        let x ← t.toJson document
        return x :: (← documentsToJson (document + 1) rest) := by
  cases t <;> rfl

theorem documentsToJson_ok {start : Nat} {trees : List Tree} {docs : List Json} :
    documentsToJson start trees = .ok docs ↔
      List.Forall₂ Tree.Converts (trees.filter fun t => !t.isNull) docs := by
  induction trees generalizing start docs with
  | nil => cases docs <;> simp [documentsToJson]
  | cons t rest ih =>
    rw [documentsToJson_cons]
    cases null : t.isNull with
    | true => simp [null, ih]
    | false =>
      cases docs <;>
        simp [null, bind_accepts, pure, Except.pure, t.toJson_ok, ih]

theorem documentsToJson_tells (start : Nat) (trees : List Tree) :
    Tells (documentsToJson start trees) (firstOffence? start trees) := by
  induction trees generalizing start with
  | nil => rfl
  | cons t rest ih =>
    rw [documentsToJson_cons, firstOffence?_cons, Tree.offence?]
    cases t.isNull with
    | true => exact ih (start + 1)
    | false => exact t.toJson_tells.bind fun _ _ => (ih (start + 1)).bind_pure

/-- Documents become values, one for each that is not null, exactly if no place in them has a fault.
Otherwise the error tells of the first place that has one. -/
theorem documentsToJson_first (trees : List Tree) :
    ((∃ docs, documentsToJson 0 trees = .ok docs) ↔
        ∀ t ∈ trees, t.isNull = false → ∀ place ∈ t.places, place.fault? = none) ∧
      (∀ docs, documentsToJson 0 trees = .ok docs ↔
        List.Forall₂ Tree.Converts (trees.filter fun t => !t.isNull) docs) ∧
      (∀ e, documentsToJson 0 trees = .error e ↔ firstOffence? 0 trees = some e) ∧
      ∀ text, Tree.documents text = .ok trees → parseDocuments text = documentsToJson 0 trees := by
  have tells := documentsToJson_tells 0 trees
  refine ⟨tells.ok_iff.trans firstOffence?_eq_none, fun docs => documentsToJson_ok,
    fun e => tells.error_iff, fun text loaded => ?_⟩
  unfold parseDocuments
  rw [loaded]

def mixed : List Tree := [
  .null, .sequence [.null, .int 1], .null,
  .mapping [(.text "a", .sequence [.real ".nan"]), (.sequence [], .null)]]

theorem documentsToJson_first_mixed :
    documentsToJson 0 mixed = .error (.invalid 3 ".nan") ∧
      documentsToJson 0 (mixed.take 3) = .ok [.array [.null, .int 1]] ∧
      ∃ trees, Tree.documents "a: [.nan]\n" = .ok trees ∧
        parseDocuments "a: [.nan]\n" = documentsToJson 0 trees := by
  obtain ⟨-, -, told, -⟩ := documentsToJson_first mixed
  obtain ⟨-, made, -, -⟩ := documentsToJson_first (mixed.take 3)
  have loads : (Tree.documents "a: [.nan]\n").isOk = true := by decide +kernel
  refine ⟨(told _).2 ?_, (made _).2 ?_, ?_⟩
  · decide
  · simp [mixed, Tree.isNull, Tree.Converts, itemsConvert]
  · match loaded : Tree.documents "a: [.nan]\n" with
    | .ok trees => exact ⟨trees, rfl, (documentsToJson_first trees).2.2.2 _ loaded⟩
    | .error e => simp [loaded, Except.isOk, Except.toBool] at loads

def boundless : Tree := .mapping [(.real ".inf", .text "a")]

theorem boundless_kept :
    (Tree.documents ".inf: a\n").toOption.map (fun trees => trees.map boundless.same) =
        some [true] ∧
      (∃ place ∈ boundless.places, place.tree = .real ".inf") ∧ finiteReal? ".inf" = none ∧
      documentsToJson 0 [boundless] = .ok [.object [(".inf", .string "a")]] := by
  refine ⟨by decide +kernel, ⟨.key (.real ".inf"), ?_, rfl⟩, by decide, rfl⟩
  simp [boundless, Tree.places, Tree.placesBelow, entriesPlaces]

end ShareCheck.Yaml
