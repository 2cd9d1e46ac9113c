import AgentHosting.Api.Handlers

/-!
# AgentHosting.Api.Responses

The handlers that answer plain JSON instead of a stream: `get_instance`, `list_instances` and
`get_logs`, each as a function of what its client calls are answered, and `get_ssh_info`, which
reads two objects, as a program.
-/

namespace AgentHosting
namespace Api

open Json Kube

structure NodePortResponse where
  name : String
  port : Int32
  nodePort : Int32

structure InstanceResponse where
  name : String
  status : String
  image : String
  createdAt : String
  serviceType : Option String
  nodeId : Option String
  podIp : Option String
  hostNode : Option String
  restartCount : Option Int32
  nodePorts : List NodePortResponse

/-- `From<Agent>`. A timestamp is held as its RFC 3339 text. -/
def InstanceResponse.ofAgent (agent : Agent) : InstanceResponse :=
  let agentStatus := agent.status.getD {}
  let spec := agent.spec
  { name := agent.metadata.name.getD ""
    status := deriveStatusFromSpecAndStatus spec agentStatus
    image := spec.image
    createdAt := agent.metadata.creationTimestamp.getD ""
    serviceType := spec.serviceType
    nodeId := spec.nodeId.or agentStatus.hostNode
    podIp := agentStatus.podIp
    hostNode := agentStatus.hostNode
    restartCount := agentStatus.restartCount
    nodePorts := agentStatus.nodePorts.map fun np => ⟨np.name, np.port, np.nodePort⟩ }

def NodePortResponse.toJson (p : NodePortResponse) : Json :=
  object [("name", .str p.name), ("port", ofI32 p.port), ("node_port", ofI32 p.nodePort)]

def InstanceResponse.toJson (r : InstanceResponse) : Json :=
  record [
    ("name", some (.str r.name)),
    ("status", some (.str r.status)),
    ("image", some (.str r.image)),
    ("created_at", some (.str r.createdAt)),
    ("service_type", r.serviceType.map .str),
    ("node_id", r.nodeId.map .str),
    ("pod_ip", r.podIp.map .str),
    ("host_node", r.hostNode.map .str),
    ("restart_count", r.restartCount.map ofI32),
    ("node_ports", skipEmpty NodePortResponse.toJson r.nodePorts)]

/-! ## Handlers -/

/-- `get_opt(..).await?.ok_or_else(..)`. -/
def foundAgent (name : String) : Except KubeError (Option Agent) → Except AppError Agent
  | .ok (some agent) => .ok agent
  | .ok none => .error (instanceNotFound name)
  | .error e => .error (.kubeError e)

theorem requireAgent_eq (name : String) :
    (requireAgent name).run = (getOptAgent name).bind fun r => .ret (foundAgent name r) := by
  simp only [requireAgent, fromKube, getOptAgent, request]
  refine congrArg (Prog.call _) (funext fun r => ?_)
  cases h : decodeAnswer r with
  | error e => simp only [Prog.bind, foundAgent, h]; rfl
  | ok o =>
    cases o with
    | none => simp only [Prog.bind, foundAgent, h]; rfl
    | some agent => simp only [Prog.bind, foundAgent, h]; rfl

def getInstance (name : String) (answer : Except KubeError (Option Agent)) :
    Except AppError InstanceResponse :=
  (foundAgent name answer).map .ofAgent

def listInstances : Except KubeError (List Agent) → Except AppError (List InstanceResponse)
  | .ok agents => .ok (agents.map .ofAgent)
  | .error e => .error (.kubeError e)

def logsBody (name logs : String) : Json := object [("name", .str name), ("logs", .str logs)]

/-- `logs` is what the log call is answered; it is made for an Agent that is there. -/
def getLogs (name : String) (answer : Except KubeError (Option Agent))
    (logs : Except KubeError String) : Except AppError Json :=
  match foundAgent name answer with
  | .error e => .error e
  | .ok _ =>
    match logs with
    | .ok logs => .ok (logsBody name logs)
    | .error e =>
      if e.code = some 404 then
        .error (.notFound ("pod for instance '" ++ name ++ "' not found (instance may be stopped)"))
      else .error (.kubeError e)

/-- The port `get_ssh_info` reports for a Service. -/
def sshPort (svc : Service) : Int32 :=
  (((svc.spec.bind (·.ports)).bind fun ports => ports.find? fun p => p.name == some "ssh").bind
    (·.nodePort)).getD 22

def sshInfo (host : String) (port : Int32) : Json :=
  object [("host", .str host), ("port", ofI32 port), ("user", .str "agent")]

/-- `nodeSshHost` is the environment variable `NODE_SSH_HOST`. -/
def getSshInfo (nodeSshHost : Option String) (name : String) : Handler Json := do
  let _ ← requireAgent name
  match ← fromKube (request (.getOpt .service ("agent-" ++ name))) with
  | some svc => pure (sshInfo (nodeSshHost.getD "127.0.0.1") (sshPort svc))
  | none => throw (.notFound "service not found")

theorem getSshInfo_run (nodeSshHost : Option String) (name : String) :
    (getSshInfo nodeSshHost name).run =
      .call (.getAgent name) fun answer =>
        match foundAgent name (decodeAnswer answer) with
        | .error e => .ret (.error e)
        | .ok _ => .call (.getOpt .service ("agent-" ++ name)) fun
          | .ok (some svc) => .ret (.ok (sshInfo (nodeSshHost.getD "127.0.0.1") (sshPort svc)))
          | .ok none => .ret (.error (.notFound "service not found"))
          | .error e => .ret (.error (.kubeError e)) := by
  rw [getSshInfo, Prog.exceptT_bind, requireAgent_eq]
  refine congrArg (Prog.call _) (funext fun answer => ?_)
  simp only [Prog.ret_bind]
  cases foundAgent name (decodeAnswer answer) with
  | error e => rfl
  | ok agent =>
    refine congrArg (Prog.call _) (funext fun svc => ?_)
    rcases svc with e | _ | svc <;> rfl

/-- `IntoResponse` of a handler's result. -/
def respond {α : Type} (toJson : α → Json) : Except AppError α → Response
  | .ok a => ⟨200, toJson a⟩
  | .error e => e.intoResponse

end Api
end AgentHosting
