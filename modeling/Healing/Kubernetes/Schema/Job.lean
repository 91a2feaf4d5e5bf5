/-
  The shapes of batch jobs, and of secrets.

  1. **Policies** - when a job has failed or is done.
  2. **Jobs** - `jobSpec` and `jobStatus`.
  3. **Secrets** - `secret`, without the fields that tell its kind.
-/
import Healing.Kubernetes.Schema.Pod

namespace Healing.Kubernetes.Schema

open Shape (may must)

/-- A condition on the exit codes of containers. -/
def exitCodesRequirement : Shape := .record [
  may "containerName" .text, must "operator" .text, must "values" (.list .int32)]

/-- A condition of a pod. -/
def podConditionsPattern : Shape := .record [
  must "status" .text, must "type" .text]

/-- What to do when a pod fails in some way. -/
def podFailureRule : Shape := .record [
  must "action" .text, may "onExitCodes" exitCodesRequirement,
  may "onPodConditions" (.list podConditionsPattern)]

/-- What to do when pods fail. -/
def podFailurePolicy : Shape := .record [
  must "rules" (.list podFailureRule)]

/-- When a job counts as done. -/
def successRule : Shape := .record [
  may "succeededCount" .int32, may "succeededIndexes" .text]

/-- When a job counts as done, by rules. -/
def successPolicy : Shape := .record [
  must "rules" (.list successRule)]

/-- What a job does. -/
def jobSpec : Shape := .record [
  may "activeDeadlineSeconds" .int64, may "backoffLimit" .int32,
  may "backoffLimitPerIndex" .int32, may "completionMode" .text, may "completions" .int32,
  may "managedBy" .text, may "manualSelector" .flag, may "maxFailedIndexes" .int32,
  may "parallelism" .int32, may "podFailurePolicy" podFailurePolicy,
  may "podReplacementPolicy" .text, may "selector" labelSelector,
  may "successPolicy" successPolicy, may "suspend" .flag, must "template" podTemplate,
  may "ttlSecondsAfterFinished" .int32]

/-- A condition of a job. -/
def jobCondition : Shape := .record [
  may "lastProbeTime" .time, may "lastTransitionTime" .time, may "message" .text,
  may "reason" .text, must "status" .text, must "type" .text]

/-- Pods that have ended and are not counted yet. -/
def uncountedPods : Shape := .record [
  may "failed" .texts, may "succeeded" .texts]

/-- How far a job has come. -/
def jobStatus : Shape := .record [
  may "active" .int32, may "completedIndexes" .text, may "completionTime" .time,
  may "conditions" (.list jobCondition), may "failed" .int32, may "failedIndexes" .text,
  may "ready" .int32, may "startTime" .time, may "succeeded" .int32, may "terminating" .int32,
  may "uncountedTerminatedPods" uncountedPods]

/-- A secret. -/
def secret : Shape := .record [
  may "data" (.map .bytes), may "immutable" .flag, must "metadata" objectMeta,
  may "stringData" .textMap, may "type" .text]

end Healing.Kubernetes.Schema
