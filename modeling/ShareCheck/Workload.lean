import ShareCheck.Cluster

set_option autoImplicit false

namespace ShareCheck

namespace Workload

def dnsCheckName : String := "dns-containers"

def balancerCheckName : String := "service-load-balancer"

def dnsSidecars : List String := ["dns-register", "svc-watch"]

def dnsContainerCount : Nat := 4

def containerNames (p : Pod) : List String := p.containers.getD []

def statuses (p : Pod) : List ContainerStatus := (p.status.bind (·.containers)).getD []

def isReady (p : Pod) (container : String) : Bool :=
  -- One ready status with the container's name is enough.
  (statuses p).any fun s => s.name == container && s.ready

def notReady (p : Pod) : List String := (containerNames p).filter fun c => !isReady p c

def checkDnsContainers (p : Pod) : Except Error Unit :=
  -- The number of containers counts first, then the side-cars, then that all are ready.
  let names := containerNames p
  if names.length ≠ dnsContainerCount then
    .error (.verification dnsCheckName
      (s!"expected {dnsContainerCount} containers, found {names.length}: " ++
        ", ".intercalate names))
  else match dnsSidecars.find? fun s => !names.contains s with
    | some sidecar => .error (.verification dnsCheckName ("container " ++ sidecar ++ " missing"))
    | none =>
      match notReady p with
      | [] => .ok ()
      | waiting =>
        .error (.verification dnsCheckName
          ("containers not ready: " ++ ", ".intercalate waiting))

def loadBalancer : String := "LoadBalancer"

def serviceType (s : Service) : String := s.type.getD "ClusterIP"

def checkLoadBalancer (selector : String) : List Service → Except Error Unit
  | [s] =>
    if serviceType s = loadBalancer then .ok ()
    else .error (.verification balancerCheckName
      ("service type is " ++ serviceType s ++ ", want " ++ loadBalancer))
  | services =>
    .error (.verification balancerCheckName
      ("expected 1 service matching " ++ selector ++ s!", found {services.length}"))

end Workload

end ShareCheck
