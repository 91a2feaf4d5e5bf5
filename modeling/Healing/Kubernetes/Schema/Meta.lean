/-
  The shapes of what all objects share: metadata and references.

  1. **Metadata** - `objectMeta`, with managers and owners.
  2. **Selectors** - `labelSelector`.
  3. **References** - `localObjectReference`.
-/
import Healing.Kubernetes.Shape

namespace Healing.Kubernetes.Schema

open Shape (may must)

/-- The fields of an object that one manager takes care of. -/
def managedFieldsEntry : Shape := .record [
  may "apiVersion" .text, may "fieldsType" .text, may "fieldsV1" .anything, may "manager" .text,
  may "operation" .text, may "subresource" .text, may "time" .time]

/-- An object that another one belongs to. -/
def ownerReference : Shape := .record [
  must "apiVersion" .text, may "blockOwnerDeletion" .flag, may "controller" .flag,
  must "kind" .text, must "name" .text, must "uid" .text]

/-- The metadata of an object. -/
def objectMeta : Shape := .record [
  may "annotations" .textMap, may "creationTimestamp" .time,
  may "deletionGracePeriodSeconds" .int64, may "deletionTimestamp" .time, may "finalizers" .texts,
  may "generateName" .text, may "generation" .int64, may "labels" .textMap,
  may "managedFields" (.list managedFieldsEntry), may "name" .text, may "namespace" .text,
  may "ownerReferences" (.list ownerReference), may "resourceVersion" .text, may "selfLink" .text,
  may "uid" .text]

/-- A condition on a label. -/
def labelSelectorRequirement : Shape := .record [
  must "key" .text, must "operator" .text, may "values" .texts]

/-- A choice of objects by their labels. -/
def labelSelector : Shape := .record [
  may "matchExpressions" (.list labelSelectorRequirement), may "matchLabels" .textMap]

/-- An object of the same namespace. -/
def localObjectReference : Shape := .record [
  must "name" .text]

end Healing.Kubernetes.Schema
