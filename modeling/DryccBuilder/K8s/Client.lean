import DryccBuilder.Go.Builtin
import DryccBuilder.Go.Strings

/-!
# The Kubernetes client

The package `pkg/k8s` wraps what the builder uses of `client-go`.

* `PodWatcher` (`watch.go`) keeps a cache of the pods of a namespace, filled by an informer, and
  `StoreToPodLister.List(selector)` returns the cached pods whose labels the selector matches, in
  the order of the cache's `List`. The selectors the builder makes are sets of labels,
  `labels.Set{...}.AsSelector()`, which match a pod that has each label of the set with its value.
* `PullPolicyFromString` and `SecurityContextFromPrivileged` (`utils.go`) make the pull policy and
  the security context of the builder's container.
* `NewInCluster` (`client.go`) makes the clientset of the in-cluster configuration; it panics
  where `client-go` returns an error, so that it never returns one.

## The model

A pod has the fields the builder reads: its labels, its phase, the reason and message of its
status, and the exit codes of its containers. The cache is the list of pods its `List` returns at
the time of a call; the informer that fills it is not modelled, so a run of a poll sees any list
of caches, one after the other. `StoreToPodLister.List` never returns an error. A pull policy is
the string of `corev1.PullPolicy`.
-/

namespace DryccBuilder.K8s

open Go

/-- `corev1.PodPhase`. -/
inductive PodPhase where
  /-- `PodPending`. -/
  | pending
  /-- `PodRunning`. -/
  | running
  /-- `PodSucceeded`. -/
  | succeeded
  /-- `PodFailed`. -/
  | failed
  /-- `PodUnknown`. -/
  | unknown
  deriving DecidableEq, Repr

/-- `corev1.ContainerStatus`: the exit code of `State.Terminated`, `none` where `Terminated` is
nil, as it is while the container waits or runs. -/
structure ContainerStatus where
  /-- `State.Terminated.ExitCode`. -/
  terminated : Option Int32
  deriving DecidableEq, Repr

/-- `corev1.Pod`: the fields the builder reads. -/
structure Pod where
  /-- `ObjectMeta.Labels`. -/
  labels : GoMap GoString GoString
  /-- `Status.Phase`. -/
  phase : PodPhase
  /-- `Status.Reason`. -/
  reason : GoString
  /-- `Status.Message`. -/
  message : GoString
  /-- `Status.ContainerStatuses`. -/
  containerStatuses : List ContainerStatus
  deriving DecidableEq

/-- `labels.Set(set).AsSelector().Matches(labels.Set(ls))`: every label of the set is one of `ls`,
with the same value. -/
def selectorMatches (set ls : GoMap GoString GoString) : Bool :=
  set.entries.all fun kv => ls.get? kv.1 = some kv.2

/-- `s.List(selector)` over the cache `store`. -/
def StoreToPodLister.list (selector : GoMap GoString GoString) (store : List Pod) : List Pod :=
  store.filter fun pod => selectorMatches selector pod.labels

/-- The keys of `ValidPullPolicies`. -/
def validPullPolicies : List GoString := [lit "Always", lit "IfNotPresent", lit "Never"]

/-- `ErrInvalidPullPolicy{str}.Error()`. -/
def errInvalidPullPolicy (str : GoString) : GoString := str ++ lit " is an invalid pull policy"

/-- `PullPolicyFromString(ppStr)`: the lookup `ValidPullPolicies[candidatePP]`. -/
def pullPolicyFromString (ppStr : GoString) : Except GoString GoString :=
  if !validPullPolicies.contains ppStr then .error (errInvalidPullPolicy ppStr) else .ok ppStr

/-- `corev1.SecurityContext`: the field the builder sets. -/
structure SecurityContext where
  /-- `Privileged`. -/
  privileged : Option Bool
  deriving DecidableEq, Repr

/-- `SecurityContextFromPrivileged(privileged)`. -/
def securityContextFromPrivileged (privileged : Bool) : SecurityContext := ⟨some privileged⟩

/-- `NewInCluster()`, from what `rest.InClusterConfig` and `kubernetes.NewForConfig` return:
`none` where it panics. -/
def newInCluster (config clientset : Except GoString Unit) : Option (Except GoString Unit) :=
  match config, clientset with
  | .error _, _ => none
  | .ok (), .error _ => none
  | .ok (), .ok () => some (.ok ())

/-- `NewInCluster` returns no error: where `client-go` fails, it panics. -/
theorem newInCluster_ne_error (config clientset : Except GoString Unit) (err : GoString) :
    newInCluster config clientset ≠ some (.error err) := by
  unfold newInCluster
  rcases config with _ | ⟨⟩ <;> rcases clientset with _ | ⟨⟩ <;> simp

end DryccBuilder.K8s
