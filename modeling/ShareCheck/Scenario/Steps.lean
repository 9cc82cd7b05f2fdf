import ShareCheck.Access.Verify
import ShareCheck.EventTrail
import ShareCheck.Poll
import ShareCheck.Scenario.Step
import ShareCheck.Workload

set_option autoImplicit false

namespace ShareCheck.Step

variable {σ : Type}

def existsName : String := "share pod exists"

def readyName : String := "share pod ready"

def podsReady : Step σ :=
  check "pods-ready" fun c =>
    waitFor readyName c.config.readyTimeout c.config.pollInterval
      (podsProbe c.query c.config.ns c.selector (podReady c.selector)) c.config.clockReach

def unresolved (endpoint : Endpoint) (e : Error) (credentials : List Credential) : List Check :=
  credentials.map fun c =>
    let name := accessCheckName endpoint c
    .ofResult name 0 (.error (.verification name e.message))

def drawProbes (suffix : σ → UInt32 × σ) : List Credential → Activity σ (List (Credential × String))
  | [] => Activity.pure []
  | c :: cs => do
    let n ← Activity.change suffix
    let rest ← drawProbes suffix cs
    pure ((c, probeName n) :: rest)

def settle (endpoint : Endpoint) (delay : Nat) : Activity σ Unit :=
  -- External names are registered by a side-car, which may be late.
  if endpoint = .externalName then Activity.sleep delay else Activity.pure ()

def access (endpoint : Endpoint) : Step σ where
  -- Uses the share with every credential at once.
  name := "access-by-" ++ endpoint.label
  work c := .ok do
    settle endpoint c.config.dnsSettleDelay
    match ← endpoint.resolve c.query c.config c.share with
    | .error e => pure (unresolved endpoint e c.credentials)
    | .ok host =>
      let credentials ← drawProbes c.suffix c.credentials
      verifyEndpoint c.shares endpoint ⟨host, c.shareName⟩ c.config.accessTimeout credentials

def events (expected : Tally) : Step σ :=
  check EventTrail.checkName fun c =>
    (EventTrail.verify c.query c.config c.share expected).andThen fun _ => Activity.pure (.ok ())

def dnsContainers : Step σ :=
  check Workload.dnsCheckName fun c =>
    c.workloadPod.andThen fun p => Activity.pure (Workload.checkDnsContainers p)

def loadBalancer : Step σ :=
  check Workload.balancerCheckName fun c =>
    (Activity.perform (c.query.services c.config.ns c.selector)).andThen fun services =>
      Activity.pure (Workload.checkLoadBalancer c.selector services)

def dnsMember : List (Step σ) := [access .externalName, dnsContainers]

def externalNetwork : List (Step σ) := [loadBalancer]

def base : List (Step σ) :=
  [podsReady, access .address, access .serviceName, events EventTrail.defaultExpected]

end ShareCheck.Step
