import ShareCheck.Kubernetes.Kubeconfig
import ShareCheck.Kubernetes.Kubeconfig.Record

set_option autoImplicit false

namespace ShareCheck.Kubeconfig

open Record
open Yaml11 (Value)

def path? (v : Value) : Option Path := (text? v).map Path.mk

def extension? (v : Value) : Option Unit := do
  let m ← members? ["name", "extension"] 0 v
  let _ ← required text? "name" m
  required data? "extension" m

def extensions? (v : Value) : Option Unit := (list? extension? v).map fun _ => ()

def cluster? (v : Value) : Option KubeCluster := do
  let m ← members? ["server", "insecure-skip-tls-verify", "certificate-authority",
    "certificate-authority-data", "proxy-url", "disable-compression", "tls-server-name",
    "extensions"] 0 v
  check bool? ["insecure-skip-tls-verify", "disable-compression"] m
  check extensions? ["extensions"] m
  return {
    server := ← optional text? "server" m
    authority := ← optional path? "certificate-authority" m
    authorityData := ← optional text? "certificate-authority-data" m
    proxy := ← optional text? "proxy-url" m
    serverName := ← optional text? "tls-server-name" m }

def provider? (v : Value) : Option AuthProvider := do
  let m ← members? ["name", "config"] 1 v
  return ⟨← required text? "name" m, ((← lenient textMap? "config" m).getD [])⟩

def interactiveMode? (v : Value) : Option Unit :=
  let isMode (name : String) := ["Never", "IfAvailable", "Always"].contains name
  match v with
  | .scalar (.text name) => if isMode name then some () else none
  | .tagged name v => if isMode name && v.isNull then some () else none
  | _ => none

def plugin? (v : Value) : Option (Option String) := do
  let m ← members?
    ["apiVersion", "command", "args", "env", "interactiveMode", "provideClusterInfo"] 1 v
  check text? ["apiVersion"] m
  check (list? text?) ["args"] m
  check (list? textMap?) ["env"] m
  check interactiveMode? ["interactiveMode"] m
  let _ ← lenient bool? "provideClusterInfo" m
  optional text? "command" m

def user? (v : Value) : Option KubeUser := do
  let m ← members? ["username", "password", "token", "tokenFile", "client-certificate",
    "client-certificate-data", "client-key", "client-key-data", "as", "as-groups",
    "auth-provider", "exec"] 0 v
  return {
    username := ← optional text? "username" m
    password := ← optional text? "password" m
    token := ← optional text? "token" m
    tokenFile := ← optional path? "tokenFile" m
    certificate := ← optional path? "client-certificate" m
    certificateData := ← optional text? "client-certificate-data" m
    key := ← optional path? "client-key" m
    keyData := ← optional text? "client-key-data" m
    impersonated := ← optional text? "as" m
    impersonatedGroups := ← listed text? "as-groups" m
    provider := ← optional provider? "auth-provider" m
    plugin := ← optional plugin? "exec" m }

def context? (v : Value) : Option KubeContext := do
  let m ← members? ["cluster", "user", "namespace", "extensions"] 0 v
  check extensions? ["extensions"] m
  return ⟨← required text? "cluster" m, ← optional text? "user" m, ← optional text? "namespace" m⟩

def named? {α : Type} (member : String) (read : Value → Option α) (v : Value) :
    Option (String × Option α) := do
  let m ← members? ["name", member] 0 v
  return (← required text? "name" m, ← optional read member m)

def preferences? (v : Value) : Option Unit := do
  let m ← members? ["colors", "extensions"] 0 v
  check bool? ["colors"] m
  check extensions? ["extensions"] m

def ofValue? (v : Value) : Option Kubeconfig := do
  let m ← members? ["preferences", "clusters", "users", "contexts", "current-context", "extensions",
    "kind", "apiVersion"] 0 v
  check preferences? ["preferences"] m
  check extensions? ["extensions"] m
  return {
    kind := ← optional text? "kind" m
    apiVersion := ← optional text? "apiVersion" m
    currentContext := ← optional text? "current-context" m
    clusters := ← listed (named? "cluster" cluster?) "clusters" m
    contexts := ← listed (named? "context" context?) "contexts" m
    users := ← listed (named? "user" user?) "users" m }

end ShareCheck.Kubeconfig
