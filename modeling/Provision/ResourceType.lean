import Provision.Text.Case
import Provision.Text.Pieces

/-!
Types of cluster resources: the group and version that an API version names, the kind, and the plural
under which the server lists resources of that kind.
-/

namespace Provision

/-- A type of resource. -/
structure ResourceType where
  group : String
  version : String
  apiVersion : String
  kind : String
  plural : String
deriving DecidableEq, Repr

namespace ResourceType

/-- The group and the version of an API version: what stands before and after the first slash. Without
a slash there is no group. -/
def groupVersion (apiVersion : String) : String × String :=
  match splitOnce '/' apiVersion.toList with
  | some (group, version) => (String.ofList group, String.ofList version)
  | none => ("", apiVersion)

/-- The kinds that live outside any namespace. -/
def clusterScopedKinds : List String := [
  "Namespace", "Node", "PersistentVolume", "StorageClass", "ClusterRole", "ClusterRoleBinding",
  "CustomResourceDefinition", "MutatingWebhookConfiguration", "ValidatingWebhookConfiguration",
  "PriorityClass", "APIService", "IngressClass", "RuntimeClass", "CSIDriver", "VolumeAttachment",
  "FeatureTracker"]

/-- Whether resources of a kind live outside any namespace. -/
def isClusterScoped (kind : String) : Bool :=
  clusterScopedKinds.contains kind

/-- Plurals of kinds in lower case that the rules would get wrong, or that are used often. -/
def knownPlurals : List (String × String) := [
  ("endpoints", "endpoints"),
  ("podsecuritypolicy", "podsecuritypolicies"),
  ("networkpolicy", "networkpolicies"),
  ("ingress", "ingresses"),
  ("ingressclass", "ingressclasses"),
  ("storageclass", "storageclasses"),
  ("priorityclass", "priorityclasses"),
  ("runtimeclass", "runtimeclasses"),
  ("gateway", "gateways"),
  ("gatewayclass", "gatewayclasses"),
  ("authorizationpolicy", "authorizationpolicies"),
  ("peerauthentication", "peerauthentications"),
  ("envoyfilter", "envoyfilters"),
  ("featuretracker", "featuretrackers")]

/-- The plural of a word that is in no table, read from its end. -/
def regularPlural (word : List Char) : List Char :=
  match word.reverse with
  | 's' :: _ => word ++ ['e', 's']
  | 'h' :: 'c' :: _ => word ++ ['e', 's']
  | 'h' :: 's' :: _ => word ++ ['e', 's']
  | 'y' :: 'a' :: _ => word ++ ['s']
  | 'y' :: 'e' :: _ => word ++ ['s']
  | 'y' :: stem => stem.reverse ++ ['i', 'e', 's']
  | _ => word ++ ['s']

/-- The plural of a kind, in lower case. -/
def pluralOf (kind : String) : String :=
  let word := lowerText kind
  match knownPlurals.lookup word with
  | some plural => plural
  | none => String.ofList (regularPlural word.toList)

/-- The type that an API version and a kind name. -/
def of (apiVersion kind : String) : ResourceType :=
  let (group, version) := groupVersion apiVersion
  { group, version, apiVersion, kind, plural := pluralOf kind }

end ResourceType
end Provision
