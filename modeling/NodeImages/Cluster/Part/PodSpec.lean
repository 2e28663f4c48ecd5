import NodeImages.Cluster.Part.Container
import NodeImages.Cluster.Part.Volume

/-!
# Specifications of pods

The containers and the volumes of a pod, and the nodes on which it may run.
-/

namespace NodeImages.Cluster.Part

open Json

/-- The field of what is wished for when a pod is placed. -/
def wishes (term : Schema Unit) : FieldSchema Unit :=
  .unused "preferredDuringSchedulingIgnoredDuringExecution" (.list term)

/-- The name of the field of what is demanded when a pod is placed. -/
def demandName : String := "requiredDuringSchedulingIgnoredDuringExecution"

/-- A condition on nodes. -/
def nodeRequirement : Schema Unit :=
  .checked "NodeSelectorRequirement"
    (.unused "values" textList :: FieldSchema.allUnused .text ["key", "operator"])

/-- Conditions on nodes. -/
def nodeTerm : Schema Unit :=
  .checked "NodeSelectorTerm"
    [.unused "matchExpressions" (.list nodeRequirement), .unused "matchFields" (.list nodeRequirement)]

/-- The pods that a pod is placed with or apart from. -/
def podTerm : Schema Unit :=
  .checked "PodAffinityTerm"
    [.unused "labelSelector" labelSelector, .unused "matchLabelKeys" textList,
      .unused "mismatchLabelKeys" textList, .unused "namespaceSelector" labelSelector,
      .unused "namespaces" textList, .unused "topologyKey" .text]

/-- Pods that a pod is placed with or apart from. -/
def podAffinity (expected : String) : Schema Unit :=
  .checked expected
    [wishes
        (.checked "WeightedPodAffinityTerm"
          [.unused "podAffinityTerm" podTerm, .unused "weight" int32]),
      .unused demandName (.list podTerm)]

/-- Where a pod is placed. -/
def affinity : Schema Unit :=
  .checked "Affinity"
    [.unused "nodeAffinity"
        (.checked "NodeAffinity"
          [wishes
              (.checked "PreferredSchedulingTerm"
                [.unused "preference" nodeTerm, .unused "weight" int32]),
            .unused demandName
              (.checked "NodeSelector" [.unused "nodeSelectorTerms" (.list nodeTerm)])]),
      .unused "podAffinity" (podAffinity "PodAffinity"),
      .unused "podAntiAffinity" (podAffinity "PodAntiAffinity")]

/-- A taint of a node that a pod puts up with. -/
def toleration : Schema Unit :=
  .checked "Toleration"
    (.unused "tolerationSeconds" int64 ::
      FieldSchema.allUnused .text ["effect", "key", "operator", "value"])

/-- How evenly pods are spread. -/
def spread : Schema Unit :=
  .checked "TopologySpreadConstraint"
    ([.unused "labelSelector" labelSelector, .unused "matchLabelKeys" textList,
      .unused "maxSkew" int32, .unused "minDomains" int32] ++
      FieldSchema.allUnused .text
        ["nodeAffinityPolicy", "nodeTaintsPolicy", "topologyKey", "whenUnsatisfiable"])

/-- What the containers of a pod may do. -/
def podSecurityContext : Schema Unit :=
  .checked "PodSecurityContext"
    (securityFields ++
      [.unused "fsGroup" int64, .unused "supplementalGroups" (.list int64),
        .unused "sysctls" (.list (textsOnly "Sysctl" ["name", "value"]))] ++
      FieldSchema.allUnused .text
        ["fsGroupChangePolicy", "seLinuxChangePolicy", "supplementalGroupsPolicy"])

/-- How a pod finds others by their names. -/
def nameConfig : Schema Unit :=
  .checked "PodDNSConfig"
    [.unused "nameservers" textList,
      .unused "options" (.list (textsOnly "PodDNSConfigOption" ["name", "value"])),
      .unused "searches" textList]

/-- The specification of a pod. -/
def podSpec : Schema Unit :=
  .checked "PodSpec"
    ([.unused "activeDeadlineSeconds" int64, .unused "affinity" affinity,
      .unused "containers" (.list container), .unused "dnsConfig" nameConfig,
      .unused "ephemeralContainers" (.list ephemeralContainer),
      .unused "hostAliases"
        (.list (.checked "HostAlias" [.unused "hostnames" textList, .unused "ip" .text])),
      .unused "imagePullSecrets" (.list localReference),
      .unused "initContainers" (.list container), .unused "nodeSelector" texts,
      .unused "os" (textsOnly "PodOS" ["name"]), .unused "overhead" quantities,
      .unused "priority" int32,
      .unused "readinessGates" (.list (textsOnly "PodReadinessGate" ["conditionType"])),
      .unused "resourceClaims"
        (.list (textsOnly "PodResourceClaim"
          ["name", "resourceClaimName", "resourceClaimTemplateName"])),
      .unused "resources" resourceRequirements,
      .unused "schedulingGates" (.list (textsOnly "PodSchedulingGate" ["name"])),
      .unused "securityContext" podSecurityContext,
      .unused "terminationGracePeriodSeconds" int64, .unused "tolerations" (.list toleration),
      .unused "topologySpreadConstraints" (.list spread), .unused "volumes" (.list volume)] ++
      FieldSchema.allUnused .truth
        ["automountServiceAccountToken", "enableServiceLinks", "hostIPC", "hostNetwork", "hostPID",
          "hostUsers", "setHostnameAsFQDN", "shareProcessNamespace"] ++
      FieldSchema.allUnused .text
        ["dnsPolicy", "hostname", "nodeName", "preemptionPolicy", "priorityClassName",
          "restartPolicy", "runtimeClassName", "schedulerName", "serviceAccount",
          "serviceAccountName", "subdomain"])

end NodeImages.Cluster.Part
