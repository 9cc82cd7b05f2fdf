import ShareCheck.Cluster
import ShareCheck.Json

set_option autoImplicit false

namespace ShareCheck

namespace Json

def present? (name : String) (j : Json) : Option Json :=
  (j.member? name).filter fun value => !value.isNull

def text? (name : String) (j : Json) : Option String := (j.present? name).bind string?

def textOrEmpty (name : String) (j : Json) : String := (j.text? name).getD ""

def list? (name : String) (j : Json) : Option (List Json) := (j.present? name).bind items?

end Json

def Condition.ofJson (j : Json) : Condition := ⟨j.textOrEmpty "type", j.textOrEmpty "status"⟩

def ContainerStatus.ofJson (j : Json) : ContainerStatus :=
  ⟨j.textOrEmpty "name", ((j.present? "ready").bind Json.bool?).getD false⟩

def PodStatus.ofJson (j : Json) : PodStatus where
  phase := j.text? "phase"
  ip := j.text? "podIP"
  conditions := (j.list? "conditions").map (·.map Condition.ofJson)
  containers := (j.list? "containerStatuses").map (·.map ContainerStatus.ofJson)

def nameInMetadata (j : Json) : Option String := (j.present? "metadata").bind (Json.text? "name")

def Pod.ofJson (j : Json) : Pod where
  name := nameInMetadata j
  containers := (j.present? "spec").map fun spec =>
    ((spec.list? "containers").getD []).map (Json.textOrEmpty "name")
  status := (j.present? "status").map PodStatus.ofJson

def Service.ofJson (j : Json) : Service where
  name := nameInMetadata j
  type := (j.present? "spec").bind (Json.text? "type")

def Event.ofJson (j : Json) : Event where
  reason := j.text? "reason"

end ShareCheck
