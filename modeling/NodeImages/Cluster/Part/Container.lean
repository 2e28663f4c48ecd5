import NodeImages.Cluster.Part.Basic

/-!
# Containers of pods

What a container runs, what it is given, how it is looked after and what it may do.
-/

namespace NodeImages.Cluster.Part

open Json

/-- A key of an object. -/
def keySelector (expected : String) : Schema Unit :=
  .checked expected (.unused "optional" .truth :: FieldSchema.allUnused .text ["key", "name"])

/-- An object all keys of which become variables. -/
def keysSource (expected : String) : Schema Unit :=
  .checked expected [.unused "name" .text, .unused "optional" .truth]

/-- A variable of the environment. -/
def environmentVariable : Schema Unit :=
  .checked "EnvVar"
    [.unused "name" .text, .unused "value" .text,
      .unused "valueFrom"
        (.checked "EnvVarSource"
          [.unused "configMapKeyRef" (keySelector "ConfigMapKeySelector"),
            .unused "fieldRef" fieldSelector, .unused "resourceFieldRef" resourceFieldSelector,
            .unused "secretKeyRef" (keySelector "SecretKeySelector")])]

/-- Where variables of the environment come from. -/
def variablesSource : Schema Unit :=
  .checked "EnvFromSource"
    [.unused "configMapRef" (keysSource "ConfigMapEnvSource"), .unused "prefix" .text,
      .unused "secretRef" (keysSource "SecretEnvSource")]

/-- A command in a container. -/
def execAction : Schema Unit := .checked "ExecAction" [.unused "command" textList]

/-- A request to a container. -/
def httpAction : Schema Unit :=
  .checked "HTTPGetAction"
    ([.unused "httpHeaders" (.list (textsOnly "HTTPHeader" ["name", "value"])),
      .unused "port" integerOrText] ++ FieldSchema.allUnused .text ["host", "path", "scheme"])

/-- A connection to a container. -/
def socketAction : Schema Unit :=
  .checked "TCPSocketAction" [.unused "host" .text, .unused "port" integerOrText]

/-- What is done when a container has started or is to stop. -/
def lifecycleHandler : Schema Unit :=
  .checked "LifecycleHandler"
    [.unused "exec" execAction, .unused "httpGet" httpAction,
      .unused "sleep" (.checked "SleepAction" [.unused "seconds" int64]),
      .unused "tcpSocket" socketAction]

/-- How a container is looked after. -/
def probe : Schema Unit :=
  .checked "Probe"
    ([.unused "exec" execAction, .unused "httpGet" httpAction, .unused "tcpSocket" socketAction,
      .unused "grpc" (.checked "GRPCAction" [.unused "port" int32, .unused "service" .text]),
      .unused "terminationGracePeriodSeconds" int64] ++
      FieldSchema.allUnused int32
        ["failureThreshold", "initialDelaySeconds", "periodSeconds", "successThreshold",
          "timeoutSeconds"])

/-- A port of a container. -/
def port : Schema Unit :=
  .checked "ContainerPort"
    (FieldSchema.allUnused int32 ["containerPort", "hostPort"] ++
      FieldSchema.allUnused .text ["hostIP", "name", "protocol"])

/-- A profile, by its type and its name. -/
def profile (expected : String) : Schema Unit := textsOnly expected ["localhostProfile", "type"]

/-- The marks that a container has for the security of the node. -/
def securityOptions : Schema Unit := textsOnly "SELinuxOptions" ["level", "role", "type", "user"]

/-- What a container may do on a node of another system. -/
def foreignOptions : Schema Unit :=
  .checked "WindowsSecurityContextOptions"
    (.unused "hostProcess" .truth ::
      FieldSchema.allUnused .text ["gmsaCredentialSpec", "gmsaCredentialSpecName", "runAsUserName"])

/-- What the containers of a pod and a container of their own have in common of what they may do. -/
def securityFields : List (FieldSchema Unit) :=
  [.unused "appArmorProfile" (profile "AppArmorProfile"), .unused "runAsGroup" int64,
    .unused "runAsNonRoot" .truth, .unused "runAsUser" int64, .unused "seLinuxOptions" securityOptions,
    .unused "seccompProfile" (profile "SeccompProfile"), .unused "windowsOptions" foreignOptions]

/-- What a container may do. -/
def securityContext : Schema Unit :=
  .checked "SecurityContext"
    (securityFields ++
      FieldSchema.allUnused .truth ["allowPrivilegeEscalation", "privileged", "readOnlyRootFilesystem"] ++
      [.unused "capabilities"
          (.checked "Capabilities" [.unused "add" textList, .unused "drop" textList]),
        .unused "procMount" .text])

/-- Where a volume is seen in a container. -/
def mount : Schema Unit :=
  .checked "VolumeMount"
    (.unused "readOnly" .truth ::
      FieldSchema.allUnused .text
        ["mountPath", "mountPropagation", "name", "recursiveReadOnly", "subPath", "subPathExpr"])

/-- The fields of a container. -/
def containerFields : List (FieldSchema Unit) :=
  [.unused "args" textList, .unused "command" textList, .unused "env" (.list environmentVariable),
    .unused "envFrom" (.list variablesSource),
    .unused "lifecycle"
      (.checked "Lifecycle"
        [.unused "postStart" lifecycleHandler, .unused "preStop" lifecycleHandler]),
    .unused "livenessProbe" probe, .unused "ports" (.list port), .unused "readinessProbe" probe,
    .unused "resizePolicy"
      (.list (textsOnly "ContainerResizePolicy" ["resourceName", "restartPolicy"])),
    .unused "resources" resourceRequirements, .unused "securityContext" securityContext,
    .unused "startupProbe" probe,
    .unused "volumeDevices" (.list (textsOnly "VolumeDevice" ["devicePath", "name"])),
    .unused "volumeMounts" (.list mount)] ++
    FieldSchema.allUnused .truth ["stdin", "stdinOnce", "tty"] ++
    FieldSchema.allUnused .text
      ["image", "imagePullPolicy", "name", "restartPolicy", "terminationMessagePath",
        "terminationMessagePolicy", "workingDir"]

/-- A container of a pod. -/
def container : Schema Unit := .checked "Container" containerFields

/-- A container that is put into a pod while it runs. -/
def ephemeralContainer : Schema Unit :=
  .checked "EphemeralContainer" (.unused "targetContainerName" .text :: containerFields)

end NodeImages.Cluster.Part
