import ShareCheck.Cluster
import ShareCheck.Config

set_option autoImplicit false

namespace ShareCheck

inductive Endpoint
  | address
  | serviceName
  | externalName
deriving DecidableEq, Repr

namespace Endpoint

def label : Endpoint → String
  | address => "address"
  | serviceName => "service-name"
  | externalName => "external-name"

def serviceHost (name ns clusterDomain : String) : String :=
  name ++ "." ++ ns ++ ".svc." ++ clusterDomain

def externalHost (name domain : String) : String := name ++ "-cluster." ++ domain

def addressOf (config : Config) (share : ShareIdentity) : List Pod → Except Error String
  | [] =>
    .error (.verification address.label
      ("no pod matches " ++ config.serviceSelector share.name ++ " in " ++ config.ns))
  | p :: _ =>
    match p.status.bind (·.ip) with
    | some ip =>
      if ip.isEmpty then .error (.verification address.label ("pod " ++ p.nameText ++ " has no IP"))
      else .ok ip
    | none => .error (.verification address.label ("pod " ++ p.nameText ++ " has no IP"))

def resolve {σ : Type} (query : ClusterQuery σ) (config : Config) (share : ShareIdentity) :
    Endpoint → Activity σ (Except Error String)
  -- Workloads live in the namespace of the settings, wherever the share is declared.
  | address =>
    (Activity.perform (query.pods config.ns (config.serviceSelector share.name))).andThen
      fun pods => Activity.pure (addressOf config share pods)
  | serviceName => Activity.pure (.ok (serviceHost share.name config.ns config.clusterDomain))
  | externalName => Activity.pure (.ok (externalHost share.name config.externalDomain))

end Endpoint

end ShareCheck
