import AgentHosting.Kube.Cluster
import AgentHosting.Operator.Resources

/-!
# AgentHosting.Operator.Controller

The reconciler of `operator/src/controller.rs` as a program of API calls: the five steps of
`reconcile` in order, each error ending the run as `?` does.
-/

namespace AgentHosting
namespace Operator

open Kube

/-- What a run reads from the process environment: `STORAGE_CLASS`. -/
structure Context where
  storageClass : Option String := none

def Agent.alone (agent : Agent) : Cluster :=
  Cluster.empty.setAgent agent.nameAny (some ⟨agent.metadata, agent.spec.toJson, none⟩)

/-- `Action::requeue`. -/
structure Action where
  requeueSecs : Nat
deriving DecidableEq

def ensureExists (k : Kind) (name : String) (desired : Obj k) : Op Unit := do
  match ← getOpt k name with
  | some _ => pure ()
  | none => create k desired

def reconcilePvc (ctx : Context) (agent : Agent) : Op Unit :=
  ensureExists .pvc (pvcName agent.nameAny) (buildPvc ctx.storageClass agent)

/-- Whether a quantity read back is spelled as the spec spells it. -/
def limitMatches (limits : BTreeMap Quantity) (key spelled : String) : Bool :=
  ((limits.get key).map fun q => q == spelled).getD false

def podNeedsUpdate (existing : Pod) (agent : Agent) : Bool :=
  match existing.spec with
  | none => false
  | some spec =>
    match spec.containers.head? with
    | none => false
    | some container =>
      if container.image ≠ some agent.spec.image then true
      else
        match container.resources with
        | none => true
        | some resources =>
          match resources.limits with
          | none => true
          | some limits =>
            !limitMatches limits "cpu" agent.spec.cpu ||
              !limitMatches limits "memory" agent.spec.memory

def reconcilePod (agent : Agent) : Op Unit := do
  match ← getOpt .pod (podName agent.nameAny) with
  | some existing =>
    if podNeedsUpdate existing agent then do
      delete .pod (podName agent.nameAny)
      -- the deletion is given two seconds, whatever the pod's grace period
      sleep 2
      create .pod (buildPod agent)
    else pure ()
  | none => create .pod (buildPod agent)

def deletePodIfExists (agentName : String) : Op Unit := do
  match ← getOpt .pod (podName agentName) with
  | some _ => delete .pod (podName agentName)
  | none => pure ()

def reconcileNetworkPolicy (agent : Agent) : Op Unit :=
  ensureExists .netpol (netpolName agent.nameAny) (buildNetworkPolicy agent)

def reconcileService (agent : Agent) : Op Unit :=
  ensureExists .service (serviceName agent.nameAny) (buildService agent)

/-! ## Status -/

def restartCountSum (statuses : List ContainerStatus) : Int32 :=
  statuses.foldl (fun n cs => n + cs.restartCount) 0

def waitingCrashLoop (cs : ContainerStatus) : Bool :=
  match cs.state with
  | none => false
  | some state =>
    match state.waiting with
    | none => false
    | some waiting => (waiting.reason.map fun r => r == "CrashLoopBackOff").getD false

def phaseOf : Option String → String
  | some "Pending" => "Creating"
  | some "Running" => "Running"
  | some "Succeeded" => "Stopped"
  | some "Failed" => "Failed"
  | some other => other
  | none => "Unknown"

def deriveStatusFromPod (pod : Pod) : AgentStatus :=
  let statuses := pod.status.bind (·.containerStatuses)
  let restartCount := (statuses.map restartCountSum).getD 0
  let isCrashLoop := (statuses.map fun cs => cs.any waitingCrashLoop).getD false
  { phase := some (if isCrashLoop then "CrashLoopBackOff" else phaseOf (pod.status.bind (·.phase)))
    hostNode := pod.spec.bind (·.nodeName)
    podIp := pod.status.bind (·.podIp)
    restartCount := some restartCount }

def assignedNodePorts (ports : List ServicePort) : List NodePort :=
  ports.filterMap fun sp => sp.nodePort.map fun nodePort => ⟨sp.name.getD "", sp.port, nodePort⟩

/-- The status with the node ports of the Service that was read, if one was. -/
def withNodePorts (status : AgentStatus) : Except KubeError (Option Service) → AgentStatus
  | .ok (some svc) =>
    match svc.spec.bind (·.ports) with
    | some ports => { status with nodePorts := assignedNodePorts ports }
    | none => status
  | _ => status

def stoppedStatus : AgentStatus := { phase := some "Stopped", restartCount := some 0 }

def podStatus : Option Pod → AgentStatus
  | some pod => deriveStatusFromPod pod
  | none => { phase := some "Creating" }

def statusPatch (status : AgentStatus) : Json := Json.object [("status", status.toJson)]

def updateStatus (agent : Agent) : Op Unit := do
  let status ← if agent.spec.state = .stopped then pure stoppedStatus
    else do
      let pod ← getOpt .pod (podName agent.nameAny)
      pure (podStatus pod)
  -- an error of this read is swallowed
  let svc ← attempt (getOpt .service (serviceName agent.nameAny))
  patchAgentStatus agent.nameAny (statusPatch (withNodePorts status svc))

/-! ## The main loop body -/

def reconcile (ctx : Context) (agent : Agent) : Op Action := do
  reconcilePvc ctx agent
  if agent.spec.state = .stopped then deletePodIfExists agent.nameAny
  else reconcilePod agent
  reconcileNetworkPolicy agent
  reconcileService agent
  updateStatus agent
  pure ⟨30⟩

/-- Whatever the error, the run is repeated after a while. -/
def errorPolicy (_error : KubeError) : Action := ⟨15⟩

end Operator
end AgentHosting
