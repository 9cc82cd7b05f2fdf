import ShareCheck.Scenario.Step
import ShareCheck.Scripted.Cluster
import ShareCheck.Scripted.Share

set_option autoImplicit false

namespace ShareCheck.Scripted

structure World where
  cluster : Cluster := {}
  shares : Shares := {}
  drawn : UInt32 := 0
deriving Inhabited

namespace World

def clusterPart : Part World Cluster := ⟨cluster, fun c w => { w with cluster := c }⟩

def sharesPart : Part World Shares := ⟨shares, fun s w => { w with shares := s }⟩

def collaborators : Collaborators World where
  query := Cluster.query.within clusterPart
  fixtures := Cluster.fixtures.within clusterPart
  shares := Shares.client.within sharesPart
  suffix w := (w.drawn, { w with drawn := w.drawn + 1 })

end World

def effectStep (name : String) (e : Effect) : Step World := .check name fun _ => e.alone

def resultsStep (name : String) (checks : List Check) : Step World where
  name := name
  work _ := .ok (Activity.pure checks)

def panicStep (name : String) : Step World where
  name := name
  work _ := .ok (Activity.panic (.text "step exploded"))

def eagerPanicStep (name : String) : Step World where
  name := name
  work c :=
    if c.shareName = "" then (Step.check name fun _ => Activity.pure (.ok ())).work c
    else .error (.text "called")

def contextStep (name : String) : Step World :=
  .check name fun c => c.workloadPod.andThen fun p =>
    Activity.pure (.error (.verification name (c.selector ++ " " ++ p.name.getD "" ++ " " ++
      c.share.text ++ " " ++ c.shareName ++ " [" ++
      ",".intercalate (c.credentials.map (·.username)) ++ "]")))

end ShareCheck.Scripted
