/-
  The shapes of containers.

  1. **Environment** - `envVar`, `envFromSource`.
  2. **Life** - `lifecycle`, `probe`.
  3. **Rights and resources** - `resources`, `securityContext`.
  4. **Containers** - `container`, and `ephemeralContainer` with a target.
-/
import Healing.Kubernetes.Schema.Volume

namespace Healing.Kubernetes.Schema

open Shape (may must)

/-- A key of a config map or a secret. -/
def keySelector : Shape := .record [
  must "key" .text, must "name" .text, may "optional" .flag]

/-- Where the value of a variable comes from. -/
def envVarSource : Shape := .record [
  may "configMapKeyRef" keySelector, may "fieldRef" objectFieldSelector,
  may "resourceFieldRef" resourceFieldSelector, may "secretKeyRef" keySelector]

/-- A variable of the environment. -/
def envVar : Shape := .record [
  must "name" .text, may "value" .text, may "valueFrom" envVarSource]

/-- A config map or a secret whose keys become variables. -/
def envSource : Shape := .record [
  must "name" .text, may "optional" .flag]

/-- Where variables come from. -/
def envFromSource : Shape := .record [
  may "configMapRef" envSource, may "prefix" .text, may "secretRef" envSource]

/-- A command to run. -/
def execAction : Shape := .record [
  may "command" .texts]

/-- A header of a request. -/
def httpHeader : Shape := .record [
  must "name" .text, must "value" .text]

/-- A request to make. -/
def httpGetAction : Shape := .record [
  may "host" .text, may "httpHeaders" (.list httpHeader), may "path" .text, must "port" .portion,
  may "scheme" .text]

/-- A time to wait. -/
def sleepAction : Shape := .record [
  must "seconds" .int64]

/-- A port to connect to. -/
def tcpSocketAction : Shape := .record [
  may "host" .text, must "port" .portion]

/-- A health service to ask. -/
def grpcAction : Shape := .record [
  must "port" .int32, may "service" .text]

/-- What to do at a point in the life of a container. -/
def lifecycleHandler : Shape := .record [
  may "exec" execAction, may "httpGet" httpGetAction, may "sleep" sleepAction,
  may "tcpSocket" tcpSocketAction]

/-- What to do when a container starts and stops. -/
def lifecycle : Shape := .record [
  may "postStart" lifecycleHandler, may "preStop" lifecycleHandler]

/-- How to see whether a container is well. -/
def probe : Shape := .record [
  may "exec" execAction, may "failureThreshold" .int32, may "grpc" grpcAction,
  may "httpGet" httpGetAction, may "initialDelaySeconds" .int32, may "periodSeconds" .int32,
  may "successThreshold" .int32, may "tcpSocket" tcpSocketAction,
  may "terminationGracePeriodSeconds" .int64, may "timeoutSeconds" .int32]

/-- A port of a container. -/
def containerPort : Shape := .record [
  must "containerPort" .int32, may "hostIP" .text, may "hostPort" .int32, may "name" .text,
  may "protocol" .text]

/-- What happens when a resource changes. -/
def resizePolicy : Shape := .record [
  must "resourceName" .text, must "restartPolicy" .text]

/-- A claim that a container uses. -/
def resourceClaim : Shape := .record [
  must "name" .text, may "request" .text]

/-- The resources of a container. -/
def resources : Shape := .record [
  may "claims" (.list resourceClaim), may "limits" .textMap, may "requests" .textMap]

/-- A profile of the kernel's access control. -/
def appArmorProfile : Shape := .record [
  may "localhostProfile" .text, must "type" .text]

/-- Rights to add and to drop. -/
def capabilities : Shape := .record [
  may "add" .texts, may "drop" .texts]

/-- The label of a process. -/
def seLinuxOptions : Shape := .record [
  may "level" .text, may "role" .text, may "type" .text, may "user" .text]

/-- A filter of system calls. -/
def seccompProfile : Shape := .record [
  may "localhostProfile" .text, must "type" .text]

/-- Settings of another operating system. -/
def windowsOptions : Shape := .record [
  may "gmsaCredentialSpec" .text, may "gmsaCredentialSpecName" .text, may "hostProcess" .flag,
  may "runAsUserName" .text]

/-- The rights of a container. -/
def securityContext : Shape := .record [
  may "allowPrivilegeEscalation" .flag, may "appArmorProfile" appArmorProfile,
  may "capabilities" capabilities, may "privileged" .flag, may "procMount" .text,
  may "readOnlyRootFilesystem" .flag, may "runAsGroup" .int64, may "runAsNonRoot" .flag,
  may "runAsUser" .int64, may "seLinuxOptions" seLinuxOptions,
  may "seccompProfile" seccompProfile, may "windowsOptions" windowsOptions]

/-- A device of a container. -/
def volumeDevice : Shape := .record [
  must "devicePath" .text, must "name" .text]

/-- A volume in the file system of a container. -/
def volumeMount : Shape := .record [
  must "mountPath" .text, may "mountPropagation" .text, must "name" .text, may "readOnly" .flag,
  may "recursiveReadOnly" .text, may "subPath" .text, may "subPathExpr" .text]

/-- A container. -/
def container : Shape := .record [
  may "args" .texts, may "command" .texts, may "env" (.list envVar),
  may "envFrom" (.list envFromSource), may "image" .text, may "imagePullPolicy" .text,
  may "lifecycle" lifecycle, may "livenessProbe" probe, must "name" .text,
  may "ports" (.list containerPort), may "readinessProbe" probe,
  may "resizePolicy" (.list resizePolicy), may "resources" resources, may "restartPolicy" .text,
  may "securityContext" securityContext, may "startupProbe" probe, may "stdin" .flag,
  may "stdinOnce" .flag, may "terminationMessagePath" .text, may "terminationMessagePolicy" .text,
  may "tty" .flag, may "volumeDevices" (.list volumeDevice),
  may "volumeMounts" (.list volumeMount), may "workingDir" .text]

/-- A container that is added to a running pod. -/
def ephemeralContainer : Shape := .record [
  may "args" .texts, may "command" .texts, may "env" (.list envVar),
  may "envFrom" (.list envFromSource), may "image" .text, may "imagePullPolicy" .text,
  may "lifecycle" lifecycle, may "livenessProbe" probe, must "name" .text,
  may "ports" (.list containerPort), may "readinessProbe" probe,
  may "resizePolicy" (.list resizePolicy), may "resources" resources, may "restartPolicy" .text,
  may "securityContext" securityContext, may "startupProbe" probe, may "stdin" .flag,
  may "stdinOnce" .flag, may "terminationMessagePath" .text, may "terminationMessagePolicy" .text,
  may "tty" .flag, may "volumeDevices" (.list volumeDevice),
  may "volumeMounts" (.list volumeMount), may "workingDir" .text, may "targetContainerName" .text]

end Healing.Kubernetes.Schema
