import ShareCheck.Proofs.Fixture
import ShareCheck.Proofs.Text.Search
import ShareCheck.Proofs.Yaml.Members

set_option autoImplicit false

namespace ShareCheck

namespace Json

/-! ### Values that differ in one place -/

def besides (name : String) (members : List (String × Json)) : List (String × Json) :=
  members.filter fun m => m.1 != name

@[simp] theorem besides_insert (name : String) (value : Json) (members : List (String × Json)) :
    besides name (insert name value members) = besides name members := by
  induction members with
  | nil => simp [insert, besides]
  | cons head rest ih =>
    by_cases same : head.1 = name
    next => simp [insert, besides, same]
    next => simpa [insert, besides, same] using ih

def SameBeside : List String → Json → Json → Prop
  | [], _, _ => True
  | name :: path, .object members, .object others =>
    besides name members = besides name others ∧
      match members.lookup name, others.lookup name with
      | some x, some y => SameBeside path x y
      | _, _ => path = []
  | _ :: _, _, _ => False

variable {name : String} {path : List String} {members others : List (String × Json)}

theorem SameBeside.last (rest : besides name members = besides name others) :
    SameBeside [name] (.object members) (.object others) := by
  refine ⟨rest, ?_⟩
  split
  next => trivial
  next => rfl

theorem SameBeside.inner {x y : Json} (same : SameBeside path x y)
    (rest : besides name members = besides name others) (here : members.lookup name = some x)
    (there : others.lookup name = some y) :
    SameBeside (name :: path) (.object members) (.object others) := by
  refine ⟨rest, ?_⟩
  simpa only [here, there] using same

/-! ### Texts that a document declares -/

def textAt? : List String → Json → Option String
  | [], x => x.string?
  | name :: path, x => (x.member? name).bind (textAt? path)

structure Declares (doc : Json) (apiVersion kind name : String) : Prop where
  apiVersion : doc.textAt? ["apiVersion"] = some apiVersion
  kind : doc.textAt? ["kind"] = some kind
  name : doc.textAt? ["metadata", "name"] = some name

def IsManifest (doc : Json) : Prop := ∃ apiVersion kind name, doc.Declares apiVersion kind name

inductive Lacks (doc : Json) : String → Prop
  | apiVersion : doc.textAt? ["apiVersion"] = none → Lacks doc "missing apiVersion"
  | kind : (doc.textAt? ["apiVersion"]).isSome → doc.textAt? ["kind"] = none →
      Lacks doc "missing kind"
  | name : (doc.textAt? ["apiVersion"]).isSome → (doc.textAt? ["kind"]).isSome →
      doc.textAt? ["metadata", "name"] = none → Lacks doc "missing metadata.name"

theorem Declares.metadata {doc : Json} {apiVersion kind name : String}
    (declares : doc.Declares apiVersion kind name) :
    ∃ members metadata, doc = .object members ∧
      members.lookup "metadata" = some (.object metadata) ∧
      (Json.object metadata).textAt? ["name"] = some name := by
  obtain ⟨value, found, named⟩ := Option.bind_eq_some_iff.1 declares.name
  obtain ⟨text, inner, -⟩ := Option.bind_eq_some_iff.1 named
  match doc, value with
  | .object members, .object metadata => exact ⟨members, metadata, rfl, found, named⟩

theorem textAt?_insert_ne {other : String} {value : Json} (different : other ≠ name) :
    (Json.object (insert name value members)).textAt? (other :: path) =
      (Json.object members).textAt? (other :: path) := by
  simp only [textAt?, member?, lookup_insert_ne different]

end Json

/-! ### Documents that become objects -/

open Json (SameBeside Declares IsManifest Lacks)

theorem setNamespace_object {members metadata : List (String × Json)} (ns : String)
    (found : members.lookup "metadata" = some (.object metadata)) :
    setNamespace ns (.object members) = .object (Json.insert "metadata"
      (.object (Json.insert "namespace" (.string ns) metadata)) members) := by
  simp [setNamespace, found]

theorem setNamespace_declares {doc : Json} {apiVersion kind name : String} (ns : String)
    (declares : doc.Declares apiVersion kind name) :
    (setNamespace ns doc).Declares apiVersion kind name := by
  obtain ⟨members, metadata, rfl, found, named⟩ := declares.metadata
  rw [setNamespace_object ns found]
  refine ⟨?_, ?_, ?_⟩
  · rw [Json.textAt?_insert_ne (by decide)]
    exact declares.apiVersion
  · rw [Json.textAt?_insert_ne (by decide)]
    exact declares.kind
  · rw [Json.textAt?, Json.member?, Json.lookup_insert, Option.bind_some,
      Json.textAt?_insert_ne (by decide)]
    exact named

theorem setNamespace_sameBeside {doc : Json} {apiVersion kind name : String} (ns : String)
    (declares : doc.Declares apiVersion kind name) :
    SameBeside ["metadata", "namespace"] doc (setNamespace ns doc) := by
  obtain ⟨members, metadata, rfl, found, -⟩ := declares.metadata
  rw [setNamespace_object ns found]
  refine SameBeside.inner (.last ?_) ?_ found (Json.lookup_insert ..)
  · rw [Json.besides_insert]
  · rw [Json.besides_insert]

theorem setNamespace_moves {doc : Json} {apiVersion kind name : String} (ns other : String)
    (declares : doc.Declares apiVersion kind name) :
    SameBeside ["metadata", "namespace"] (setNamespace ns doc) (setNamespace other doc) := by
  obtain ⟨members, metadata, rfl, found, -⟩ := declares.metadata
  rw [setNamespace_object ns found, setNamespace_object other found]
  refine SameBeside.inner (.last ?_) ?_ (Json.lookup_insert ..) (Json.lookup_insert ..)
  · rw [Json.besides_insert, Json.besides_insert]
  · rw [Json.besides_insert, Json.besides_insert]

def SplitsAtSlash (apiVersion group version : String) : Prop :=
  (apiVersion = group ++ "/" ++ version ∧ '/' ∉ group.toList) ∨
    ('/' ∉ apiVersion.toList ∧ group = "" ∧ version = apiVersion)

theorem splitApiVersion_splits (apiVersion : String) :
    SplitsAtSlash apiVersion (splitApiVersion apiVersion).1 (splitApiVersion apiVersion).2 := by
  unfold splitApiVersion
  match cut : Text.splitOnce '/' apiVersion.toList with
  | some (group, version) =>
    obtain ⟨whole, first⟩ := Text.splitOnce_some.1 cut
    refine .inl ⟨String.toList_inj.1 ?_, by simpa using first⟩
    simpa using whole
  | none => exact .inr ⟨Text.splitOnce_none.1 cut, rfl, rfl⟩

structure FixtureObject.Binds (ns : String) (doc : Json) (o : FixtureObject) : Prop
    extends o.BelongsTo ns where
  manifest : SameBeside ["metadata", "namespace"] doc o.manifest
  declares : o.manifest.Declares o.type.apiVersion o.type.kind o.name
  splits : SplitsAtSlash o.type.apiVersion o.type.group o.type.version

theorem FixtureObject.ofDocument_eq (ns : String) (doc : Json) :
    ofDocument ns doc =
      match doc.textAt? ["apiVersion"], doc.textAt? ["kind"], doc.textAt? ["metadata", "name"] with
      | none, _, _ => .error "missing apiVersion"
      | some _, none, _ => .error "missing kind"
      | some _, some _, none => .error "missing metadata.name"
      | some apiVersion, some kind, some name =>
        .ok ⟨.of apiVersion kind, name, ns, setNamespace ns doc⟩ := by
  have name : doc.textAt? ["metadata", "name"] =
      ((doc.member? "metadata").bind (Json.member? "name")).bind Json.string? := by
    rw [Option.bind_assoc]
    rfl
  rw [name]
  rfl

theorem FixtureObject.ofDocument_ok {ns : String} {doc : Json} {o : FixtureObject} :
    ofDocument ns doc = .ok o ↔ ∃ apiVersion kind name, doc.Declares apiVersion kind name ∧
      o = ⟨.of apiVersion kind, name, ns, setNamespace ns doc⟩ := by
  rw [ofDocument_eq]
  constructor
  next =>
    intro made
    split at made
    next => cases made
    next => cases made
    next => cases made
    next apiVersion kind name found kinded named =>
      cases made
      exact ⟨apiVersion, kind, name, ⟨found, kinded, named⟩, rfl⟩
  next =>
    rintro ⟨apiVersion, kind, name, declares, rfl⟩
    rw [declares.apiVersion, declares.kind, declares.name]

theorem FixtureObject.ofDocument_error {ns : String} {doc : Json} {lack : String} :
    ofDocument ns doc = .error lack ↔ doc.Lacks lack := by
  rw [ofDocument_eq]
  constructor
  next =>
    intro refused
    split at refused
    next found =>
      cases refused
      exact .apiVersion found
    next found kinded =>
      cases refused
      exact .kind (by simp [found]) kinded
    next found kinded named =>
      cases refused
      exact .name (by simp [found]) (by simp [kinded]) named
    next => cases refused
  next =>
    rintro (found | ⟨found, kinded⟩ | ⟨found, kinded, named⟩)
    next => rw [found]
    next =>
      obtain ⟨apiVersion, found⟩ := Option.isSome_iff_exists.1 found
      rw [found, kinded]
    next =>
      obtain ⟨apiVersion, found⟩ := Option.isSome_iff_exists.1 found
      obtain ⟨kind, kinded⟩ := Option.isSome_iff_exists.1 kinded
      rw [found, kinded, named]

theorem FixtureObject.ofDocument_binds {ns : String} {doc : Json} {o : FixtureObject}
    (made : ofDocument ns doc = .ok o) : o.Binds ns doc := by
  obtain ⟨apiVersion, kind, name, declares, rfl⟩ := ofDocument_ok.1 made
  exact ⟨ofDocument_belongs made, setNamespace_sameBeside ns declares,
    setNamespace_declares ns declares, splitApiVersion_splits apiVersion⟩

structure FixtureObject.Moved (o p : FixtureObject) : Prop where
  type : p.type = o.type
  name : p.name = o.name
  manifest : SameBeside ["metadata", "namespace"] o.manifest p.manifest

theorem FixtureObject.ofDocument_moves {ns : String} {doc : Json} {o : FixtureObject}
    (made : ofDocument ns doc = .ok o) (other : String) :
    ∃ p, ofDocument other doc = .ok p ∧ o.Moved p := by
  obtain ⟨apiVersion, kind, name, declares, rfl⟩ := ofDocument_ok.1 made
  exact ⟨_, ofDocument_ok.2 ⟨_, _, _, declares, rfl⟩, rfl, rfl,
    setNamespace_moves ns other declares⟩

/-! ### Contents that become objects -/

def AllMade (ns : String) : List Json → List FixtureObject → Prop :=
  List.Forall₂ fun doc o => FixtureObject.ofDocument ns doc = .ok o

theorem AllMade.exists_iff {ns : String} {docs : List Json} :
    (∃ os, AllMade ns docs os) ↔ ∀ doc ∈ docs, doc.IsManifest := by
  induction docs with
  | nil => exact ⟨fun _ => nofun, fun _ => ⟨[], .nil⟩⟩
  | cons doc docs ih =>
    rw [List.forall_mem_cons, ← ih]
    constructor
    next =>
      rintro ⟨_, made⟩
      cases made with
      | cons first rest =>
        obtain ⟨apiVersion, kind, name, declares, -⟩ := FixtureObject.ofDocument_ok.1 first
        exact ⟨⟨apiVersion, kind, name, declares⟩, _, rest⟩
    next =>
      rintro ⟨⟨apiVersion, kind, name, declares⟩, os, rest⟩
      exact ⟨_, .cons (FixtureObject.ofDocument_ok.2 ⟨_, _, _, declares, rfl⟩) rest⟩

theorem AllMade.moves {ns : String} {docs : List Json} {os : List FixtureObject}
    (made : AllMade ns docs os) (other : String) :
    ∃ moved, AllMade other docs moved ∧ List.Forall₂ FixtureObject.Moved os moved := by
  induction made with
  | nil => exact ⟨[], .nil, .nil⟩
  | cons first _ ih =>
    obtain ⟨p, here, same⟩ := FixtureObject.ofDocument_moves first other
    obtain ⟨ps, later, rest⟩ := ih
    exact ⟨p :: ps, .cons here later, .cons same rest⟩

theorem objectsOf_ok {origin ns : String} {docs : List Json} {os : List FixtureObject} :
    objectsOf origin ns docs = .ok os ↔ AllMade ns docs os := by
  unfold AllMade
  induction docs generalizing os with
  | nil => cases os <;> simp [objectsOf]
  | cons doc docs ih =>
    unfold objectsOf
    cases os with
    | nil => cases FixtureObject.ofDocument ns doc <;> cases objectsOf origin ns docs <;> simp
    | cons o os =>
      rw [List.forall₂_cons, ← ih]
      cases FixtureObject.ofDocument ns doc <;> cases objectsOf origin ns docs <;> simp

theorem objectsOf_lacking {doc : Json} {lack : String} (lacks : doc.Lacks lack)
    (origin ns : String) (rest : List Json) :
    objectsOf origin ns (doc :: rest) = .error (.manifest origin lack) := by
  rw [objectsOf, FixtureObject.ofDocument_error.2 lacks]

theorem objectsOf_whole {doc : Json} (whole : doc.IsManifest) {origin ns : String}
    {rest : List Json} {e : Error} :
    objectsOf origin ns (doc :: rest) = .error e ↔ objectsOf origin ns rest = .error e := by
  obtain ⟨apiVersion, kind, name, declares⟩ := whole
  rw [objectsOf, FixtureObject.ofDocument_ok.2 ⟨_, _, _, declares, rfl⟩]
  cases objectsOf origin ns rest <;> simp

theorem objectsOf_error {origin ns : String} {docs : List Json} {e : Error} :
    objectsOf origin ns docs = .error e ↔ ∃ before doc after lack, docs = before ++ doc :: after ∧
      (∀ d ∈ before, d.IsManifest) ∧ doc.Lacks lack ∧ e = .manifest origin lack := by
  constructor
  next =>
    intro refused
    induction docs with
    | nil => cases refused
    | cons first rest ih =>
      match made : FixtureObject.ofDocument ns first with
      | .error lack =>
        have lacks := FixtureObject.ofDocument_error.1 made
        rw [objectsOf_lacking lacks] at refused
        cases refused
        exact ⟨[], first, rest, lack, rfl, nofun, lacks, rfl⟩
      | .ok o =>
        obtain ⟨_, _, _, declares, -⟩ := FixtureObject.ofDocument_ok.1 made
        have whole : first.IsManifest := ⟨_, _, _, declares⟩
        obtain ⟨before, doc, after, lack, rfl, others, lacks, same⟩ :=
          ih ((objectsOf_whole whole).1 refused)
        exact ⟨first :: before, doc, after, lack, rfl, List.forall_mem_cons.2 ⟨whole, others⟩,
          lacks, same⟩
  next =>
    rintro ⟨before, doc, after, lack, rfl, whole, lacks, rfl⟩
    induction before with
    | nil => exact objectsOf_lacking lacks origin ns after
    | cons first before ih =>
      obtain ⟨here, later⟩ := List.forall_mem_cons.1 whole
      exact (objectsOf_whole here).2 (ih later)

inductive Complaint (content : String) : String → Prop
  | notYaml {e : Yaml.DocumentError} : Yaml.parseDocuments content = .error e →
      Complaint content ("invalid YAML: " ++ e.message)
  | empty : Yaml.parseDocuments content = .ok [] → Complaint content "no documents"
  | lacking {before after : List Json} {doc : Json} {lack : String} :
      Yaml.parseDocuments content = .ok (before ++ doc :: after) → (∀ d ∈ before, d.IsManifest) →
        doc.Lacks lack → Complaint content lack

variable {origin content ns : String}

theorem parseFixture_ok {os : List FixtureObject} :
    parseFixture origin content ns = .ok os ↔
      ∃ docs, Yaml.parseDocuments content = .ok docs ∧ docs ≠ [] ∧ AllMade ns docs os := by
  unfold parseFixture
  match Yaml.parseDocuments content with
  | .error e => simp
  | .ok [] => simp
  | .ok (doc :: docs) => simp [objectsOf_ok]

theorem parseFixture_error {e : Error} :
    parseFixture origin content ns = .error e ↔
      ∃ text, Complaint content text ∧ e = .manifest origin text := by
  unfold parseFixture
  match loaded : Yaml.parseDocuments content with
  | .error cause =>
    constructor
    next =>
      rintro ⟨⟩
      exact ⟨_, .notYaml loaded, rfl⟩
    next =>
      rintro ⟨_, complaint, rfl⟩
      cases complaint with
      | notYaml same => cases loaded.symm.trans same; rfl
      | empty same | lacking same => cases loaded.symm.trans same
  | .ok [] =>
    constructor
    next =>
      rintro ⟨⟩
      exact ⟨_, .empty loaded, rfl⟩
    next =>
      rintro ⟨_, complaint, rfl⟩
      cases complaint with
      | empty => rfl
      | notYaml same => cases loaded.symm.trans same
      | lacking same => simp [loaded] at same
  | .ok (first :: rest) =>
    dsimp only
    rw [objectsOf_error]
    constructor
    next =>
      rintro ⟨before, doc, after, lack, cut, whole, bad, rfl⟩
      exact ⟨lack, .lacking (cut ▸ loaded) whole bad, rfl⟩
    next =>
      rintro ⟨_, complaint, rfl⟩
      cases complaint with
      | notYaml same | empty same => cases loaded.symm.trans same
      | lacking same whole bad =>
        exact ⟨_, _, _, _, Except.ok.inj (loaded.symm.trans same), whole, bad, rfl⟩

/-- A content gives objects exactly if it has documents and all of them are manifests: one object
for each, bound to the namespace. Otherwise the error says what is wrong with the first that is not
one. Another namespace changes the objects in their namespaces, and an error not at all. -/
theorem parseFixture_binds (origin content ns : String) :
    ((∃ os, parseFixture origin content ns = .ok os) ↔
        ∃ docs, Yaml.parseDocuments content = .ok docs ∧ docs ≠ [] ∧ ∀ doc ∈ docs, doc.IsManifest) ∧
      (∀ os, parseFixture origin content ns = .ok os →
        ∃ docs, Yaml.parseDocuments content = .ok docs ∧
          List.Forall₂ (fun doc o => o.Binds ns doc) docs os) ∧
      (∀ e, parseFixture origin content ns = .error e ↔
        ∃ text, Complaint content text ∧ e = .manifest origin text) ∧
      ∀ other,
        (∀ os, parseFixture origin content ns = .ok os →
          ∃ moved, parseFixture origin content other = .ok moved ∧
            List.Forall₂ FixtureObject.Moved os moved) ∧
        ∀ e, parseFixture origin content ns = .error e →
          parseFixture origin content other = .error e := by
  have whole (docs : List Json) : (∀ doc ∈ docs, doc.IsManifest) ↔ ∃ os, AllMade ns docs os :=
    AllMade.exists_iff.symm
  refine ⟨?_, fun os made => ?_, fun e => parseFixture_error, fun other => ⟨fun os made => ?_,
    fun e refused => parseFixture_error.2 (parseFixture_error.1 refused)⟩⟩
  · simp only [parseFixture_ok, whole]
    exact ⟨fun ⟨os, docs, loaded, filled, made⟩ => ⟨docs, loaded, filled, os, made⟩,
      fun ⟨docs, loaded, filled, os, made⟩ => ⟨os, docs, loaded, filled, made⟩⟩
  · obtain ⟨docs, loaded, -, each⟩ := parseFixture_ok.1 made
    exact ⟨docs, loaded, each.imp fun _ _ => FixtureObject.ofDocument_binds⟩
  · obtain ⟨docs, loaded, filled, each⟩ := parseFixture_ok.1 made
    obtain ⟨moved, again, same⟩ := each.moves other
    exact ⟨moved, parseFixture_ok.2 ⟨docs, loaded, filled, again⟩, same⟩

def household : String :=
  "apiVersion: apps/v1\nkind: Deployment\nmetadata:\n  namespace: elsewhere\n  name: a\n" ++
    "---\n---\napiVersion: v1\nkind: Secret\nmetadata:\n  name: b\n"

theorem parseFixture_binds_household :
    ∃ docs os moved, parseFixture "a.yaml" household "here" = .ok os ∧ os.length = 2 ∧
      List.Forall₂ (fun doc o => o.Binds "here" doc) docs os ∧
      parseFixture "a.yaml" household "there" = .ok moved ∧
      List.Forall₂ FixtureObject.Moved os moved ∧
      parseFixture "b.yaml" "~\n" "there" = .error (.manifest "b.yaml" "no documents") := by
  obtain ⟨-, binds, -, moves⟩ := parseFixture_binds "a.yaml" household "here"
  obtain ⟨-, -, refused, stays⟩ := parseFixture_binds "b.yaml" "~\n" "here"
  have none : (Yaml.parseDocuments "~\n").toOption.map List.length = some 0 := by decide +kernel
  have nothing : Complaint "~\n" "no documents" := by
    match loaded : Yaml.parseDocuments "~\n" with
    | .ok [] => exact .empty loaded
    | .ok (_ :: _) | .error _ => simp [loaded, Except.toOption] at none
  have two : (parseFixture "a.yaml" household "here").toOption.map List.length = some 2 := by
    decide +kernel
  obtain ⟨os, made, sized⟩ := Option.map_eq_some_iff.1 two
  have made : parseFixture "a.yaml" household "here" = .ok os := by
    revert made
    generalize parseFixture "a.yaml" household "here" = parsed
    cases parsed <;> simp [Except.toOption]
  obtain ⟨docs, -, each⟩ := binds os made
  obtain ⟨moved, again, same⟩ := (moves "there").1 os made
  exact ⟨docs, os, moved, made, sized, each, again, same,
    (stays "there").2 _ ((refused _).2 ⟨_, nothing, rfl⟩)⟩

end ShareCheck
