import ShareCheck.Fixture

set_option autoImplicit false

namespace ShareCheck

theorem Json.lookup_insert (name : String) (value : Json) (members : List (String × Json)) :
    (Json.insert name value members).lookup name = some value := by
  induction members with
  | nil => simp [Json.insert]
  | cons head rest ih =>
    obtain ⟨other, old⟩ := head
    by_cases same : other = name
    next => simp [Json.insert, same]
    next =>
      have apart : (name == other) = false := beq_false_of_ne (Ne.symm same)
      simp [Json.insert, same, List.lookup_cons, apart, ih]

def Json.namespace? (manifest : Json) : Option Json :=
  (manifest.member? "metadata").bind (Json.member? "namespace")

theorem setNamespace_namespace {doc metadata : Json} {name : Json} (ns : String)
    (found : doc.member? "metadata" = some metadata) (named : metadata.member? "name" = some name) :
    (setNamespace ns doc).namespace? = some (.string ns) := by
  -- What has a name is an object, so the namespace is written into it.
  match doc, metadata with
  | .object members, .object metadata =>
    have found : members.lookup "metadata" = some (.object metadata) := found
    simp only [setNamespace, found, Json.namespace?, Json.member?, Json.lookup_insert,
      Option.bind_some]

structure FixtureObject.BelongsTo (o : FixtureObject) (ns : String) : Prop where
  created : o.ns = ns
  declared : o.manifest.namespace? = some (.string ns)

theorem FixtureObject.ofDocument_belongs {ns : String} {doc : Json} {o : FixtureObject}
    (made : ofDocument ns doc = .ok o) : o.BelongsTo ns := by
  unfold ofDocument at made
  split at made
  next => cases made
  next => cases made
  next => cases made
  next apiVersion kind name _ _ named =>
    cases made
    obtain ⟨value, given, -⟩ := Option.bind_eq_some_iff.1 named
    obtain ⟨metadata, found, named⟩ := Option.bind_eq_some_iff.1 given
    exact ⟨rfl, setNamespace_namespace ns found named⟩

theorem objectsOf_belong {origin ns : String} {docs : List Json} {os : List FixtureObject}
    (made : objectsOf origin ns docs = .ok os) : ∀ o ∈ os, o.BelongsTo ns := by
  induction docs generalizing os with
  | nil =>
    cases made
    exact nofun
  | cons doc docs ih =>
    unfold objectsOf at made
    match first : FixtureObject.ofDocument ns doc, rest : objectsOf origin ns docs with
    | .error lack, _ => simp [first] at made
    | .ok o, .error e => simp [first, rest] at made
    | .ok o, .ok more =>
      simp only [first, rest, Except.ok.injEq] at made
      subst made
      exact List.forall_mem_cons.2 ⟨FixtureObject.ofDocument_belongs first, ih rest⟩

theorem Fixture.load_belong {files : Files} {f : Fixture} {os : List FixtureObject}
    (loaded : f.load files = .ok os) : ∀ o ∈ os, o.BelongsTo f.ns := by
  unfold load at loaded
  split at loaded
  next => cases loaded
  next content _ =>
    unfold parseFixture at loaded
    split at loaded
    next => cases loaded
    next => cases loaded
    next => exact objectsOf_belong loaded

end ShareCheck
