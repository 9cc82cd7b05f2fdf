import Mathlib.Data.List.TakeWhile
import ShareCheck.Kubernetes.Client
import ShareCheck.Proofs.Activity

set_option autoImplicit false

namespace ShareCheck

open Rest

theorem Uri.parse_rooted {base tail : String} {u : Uri} (rooted : base.toList.head? = some '/')
    (plain : ∀ c ∈ base.toList, c ≠ '#' ∧ c ≠ '?') (ends : tail = "" ∨ tail = "?")
    (parsed : Uri.parse (base ++ tail) = .ok u) : u.path = base := by
  have first : (base.toList ++ tail.toList).head? = some '/' := by
    rw [List.head?_append, rooted]
    rfl
  have path : ((base.toList ++ tail.toList).takeWhile (· != '#')).takeWhile (· != '?') =
      base.toList := by
    rw [List.takeWhile_append_of_pos (by simpa using fun c member => (plain c member).1),
      List.takeWhile_append_of_pos (by simpa using fun c member => (plain c member).2)]
    obtain rfl | rfl := ends <;> simp
  unfold Uri.parse at parsed
  simp only [String.toList_append, first] at parsed
  split at parsed
  next => cases parsed
  next =>
    split at parsed
    next => cases parsed
    next =>
      split at parsed
      next star =>
        rw [eq_of_beq star] at first
        cases first
      next =>
        simp only [beq_self_eq_true, if_true, Uri.readPath, path] at parsed
        split at parsed
        · cases parsed
          exact String.ofList_toList
        · cases parsed

namespace Rest.Message

variable {method : Method} {body : Option Json} {message : Message}

theorem to_method {address : String} (made : Message.to method address body = .ok message) :
    message.method = method := by
  unfold Message.to at made
  split at made
  · cases made
    rfl
  · cases made

theorem to_path {base tail : String} (rooted : base.toList.head? = some '/')
    (plain : ∀ c ∈ base.toList, c ≠ '#' ∧ c ≠ '?') (ends : tail = "" ∨ tail = "?")
    (made : Message.to method (base ++ tail) body = .ok message) : message.path = base := by
  unfold Message.to at made
  split at made
  next parsed =>
    cases made
    exact Uri.parse_rooted rooted plain ends parsed
  next => cases made

end Rest.Message

theorem ResourceType.collectionPath_rooted (type : ResourceType) (ns : String) :
    (type.collectionPath ns).toList.head? = some '/' := by
  unfold collectionPath
  split <;> simp

namespace FixtureObject

/-- No name in it ends the path of an address early. -/
def Plain (o : FixtureObject) : Prop := ∀ c ∈ o.path.toList, c ≠ '#' ∧ c ≠ '?'

def LedToBy (o : FixtureObject) (message : Message) : Prop :=
  match message.method with
  | .post => message.path ++ "/" ++ o.name = o.path
  | _ => message.path = o.path

end FixtureObject

namespace Kubernetes

variable {method : Method} {o : FixtureObject} {message : Message}

theorem objectRequest_method {type : ResourceType} {ns name query : String}
    (made : objectRequest method type ns name query = .ok message) : message.method = method := by
  unfold objectRequest at made
  split at made
  · cases made
  · exact Message.to_method made

theorem objectRequest_path {query : String} (plain : o.Plain) (ends : query = "" ∨ query = "?")
    (made : objectRequest method o.type o.ns o.name query = .ok message) :
    message.path = o.path := by
  unfold objectRequest at made
  split at made
  next => cases made
  next =>
    refine Message.to_path ?_ plain ends made
    rw [FixtureObject.path, ResourceType.objectPath, String.toList_append, String.toList_append,
      List.append_assoc, List.head?_append, ResourceType.collectionPath_rooted]
    rfl

theorem lookUp_leads (plain : o.Plain) (made : lookUp o = .ok message) : o.LedToBy message := by
  have get : message.method = .get := objectRequest_method made
  simp only [FixtureObject.LedToBy, get]
  exact objectRequest_path plain (.inl rfl) made

theorem removal_leads (plain : o.Plain) (made : removal o = .ok message) : o.LedToBy message := by
  have delete : message.method = .delete := objectRequest_method made
  simp only [FixtureObject.LedToBy, delete]
  exact objectRequest_path plain (.inr rfl) made

theorem creation_leads {body : Json} (plain : o.Plain) (made : creation o body = .ok message) :
    o.LedToBy message := by
  have post : message.method = .post := Message.to_method made
  have collection : message.path = o.type.collectionPath o.ns := by
    refine Message.to_path (o.type.collectionPath_rooted o.ns) (fun c member => ?_) (.inr rfl) made
    exact plain c (by simp [FixtureObject.path, ResourceType.objectPath, member])
  simp only [FixtureObject.LedToBy, post, collection]
  rfl

section

variable {τ σ : Type} {server : Server τ} (image : Server σ)
  {R : ∀ {α : Type}, Activity τ α → Activity σ α → Prop} (composes : Activity.Composes R)

include composes

theorem ensure_relates
    (looked : R (Activity.perform (send server (lookUp o)))
      (Activity.perform (send image (lookUp o))))
    (created : ∀ body, R (Activity.perform (send server (creation o body)))
      (Activity.perform (send image (creation o body)))) :
    R (ensure server o) (ensure image o) := by
  refine composes.bound looked fun answer => ?_
  split
  · exact composes.given _
  · exact composes.given _
  · split
    · exact composes.given _
    · exact composes.bound (created _) fun answer => composes.given _

theorem remove_relates
    (removed : R (Activity.perform (send server (removal o)))
      (Activity.perform (send image (removal o)))) :
    R (remove server o) (remove image o) :=
  composes.bound removed fun _ => composes.given _

end

end Kubernetes

end ShareCheck
