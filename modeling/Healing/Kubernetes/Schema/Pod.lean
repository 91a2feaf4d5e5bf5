/-
  The shapes of pods.

  1. **Placement** - `affinity`, `toleration`, `topologySpreadConstraint`.
  2. **Settings** - resolver, aliases, gates, rights.
  3. **Pods** - `podSpec` and `podTemplate`.
-/
import Healing.Kubernetes.Schema.Container

namespace Healing.Kubernetes.Schema

open Shape (may must)

/-- A condition on a node. -/
def nodeSelectorRequirement : Shape := .record [
  must "key" .text, must "operator" .text, may "values" .texts]

/-- Conditions that hold together. -/
def nodeSelectorTerm : Shape := .record [
  may "matchExpressions" (.list nodeSelectorRequirement),
  may "matchFields" (.list nodeSelectorRequirement)]

/-- A preference with its weight. -/
def preferredSchedulingTerm : Shape := .record [
  must "preference" nodeSelectorTerm, must "weight" .int32]

/-- Terms of which one has to hold. -/
def nodeSelector : Shape := .record [
  must "nodeSelectorTerms" (.list nodeSelectorTerm)]

/-- The nodes that a pod is drawn to. -/
def nodeAffinity : Shape := .record [
  may "preferredDuringSchedulingIgnoredDuringExecution" (.list preferredSchedulingTerm),
  may "requiredDuringSchedulingIgnoredDuringExecution" nodeSelector]

/-- Pods to be near to or far from. -/
def podAffinityTerm : Shape := .record [
  may "labelSelector" labelSelector, may "matchLabelKeys" .texts, may "mismatchLabelKeys" .texts,
  may "namespaceSelector" labelSelector, may "namespaces" .texts, must "topologyKey" .text]

/-- Such pods with a weight. -/
def weightedPodAffinityTerm : Shape := .record [
  must "podAffinityTerm" podAffinityTerm, must "weight" .int32]

/-- The pods that a pod is drawn to or away from. -/
def podAffinity : Shape := .record [
  may "preferredDuringSchedulingIgnoredDuringExecution" (.list weightedPodAffinityTerm),
  may "requiredDuringSchedulingIgnoredDuringExecution" (.list podAffinityTerm)]

/-- Where a pod is drawn to. -/
def affinity : Shape := .record [
  may "nodeAffinity" nodeAffinity, may "podAffinity" podAffinity,
  may "podAntiAffinity" podAffinity]

/-- An option of the resolver. -/
def dnsOption : Shape := .record [
  may "name" .text, may "value" .text]

/-- The settings of the resolver. -/
def dnsConfig : Shape := .record [
  may "nameservers" .texts, may "options" (.list dnsOption), may "searches" .texts]

/-- Names of an address. -/
def hostAlias : Shape := .record [
  may "hostnames" .texts, must "ip" .text]

/-- The operating system of a pod. -/
def podOs : Shape := .record [
  must "name" .text]

/-- A condition that a pod waits for. -/
def readinessGate : Shape := .record [
  must "conditionType" .text]

/-- A claim of a pod. -/
def podResourceClaim : Shape := .record [
  must "name" .text, may "resourceClaimName" .text, may "resourceClaimTemplateName" .text]

/-- A gate before a pod is placed. -/
def schedulingGate : Shape := .record [
  must "name" .text]

/-- A parameter of the kernel. -/
def sysctl : Shape := .record [
  must "name" .text, must "value" .text]

/-- The rights of a pod. -/
def podSecurityContext : Shape := .record [
  may "appArmorProfile" appArmorProfile, may "fsGroup" .int64, may "fsGroupChangePolicy" .text,
  may "runAsGroup" .int64, may "runAsNonRoot" .flag, may "runAsUser" .int64,
  may "seLinuxOptions" seLinuxOptions, may "seccompProfile" seccompProfile,
  may "supplementalGroups" (.list .int64), may "supplementalGroupsPolicy" .text,
  may "sysctls" (.list sysctl), may "windowsOptions" windowsOptions]

/-- A taint that a pod tolerates. -/
def toleration : Shape := .record [
  may "effect" .text, may "key" .text, may "operator" .text, may "tolerationSeconds" .int64,
  may "value" .text]

/-- How pods are spread. -/
def topologySpreadConstraint : Shape := .record [
  may "labelSelector" labelSelector, may "matchLabelKeys" .texts, must "maxSkew" .int32,
  may "minDomains" .int32, may "nodeAffinityPolicy" .text, may "nodeTaintsPolicy" .text,
  must "topologyKey" .text, must "whenUnsatisfiable" .text]

/-- What a pod runs. -/
def podSpec : Shape := .record [
  may "activeDeadlineSeconds" .int64, may "affinity" affinity,
  may "automountServiceAccountToken" .flag, must "containers" (.list container),
  may "dnsConfig" dnsConfig, may "dnsPolicy" .text, may "enableServiceLinks" .flag,
  may "ephemeralContainers" (.list ephemeralContainer), may "hostAliases" (.list hostAlias),
  may "hostIPC" .flag, may "hostNetwork" .flag, may "hostPID" .flag, may "hostUsers" .flag,
  may "hostname" .text, may "imagePullSecrets" (.list localObjectReference),
  may "initContainers" (.list container), may "nodeName" .text, may "nodeSelector" .textMap,
  may "os" podOs, may "overhead" .textMap, may "preemptionPolicy" .text, may "priority" .int32,
  may "priorityClassName" .text, may "readinessGates" (.list readinessGate),
  may "resourceClaims" (.list podResourceClaim), may "restartPolicy" .text,
  may "runtimeClassName" .text, may "schedulerName" .text,
  may "schedulingGates" (.list schedulingGate), may "securityContext" podSecurityContext,
  may "serviceAccount" .text, may "serviceAccountName" .text, may "setHostnameAsFQDN" .flag,
  may "shareProcessNamespace" .flag, may "subdomain" .text,
  may "terminationGracePeriodSeconds" .int64, may "tolerations" (.list toleration),
  may "topologySpreadConstraints" (.list topologySpreadConstraint), may "volumes" (.list volume)]

/-- The pods that a job makes. -/
def podTemplate : Shape := .record [
  may "metadata" objectMeta, may "spec" podSpec]

end Healing.Kubernetes.Schema
