import AgentHosting.Api.Responses
import AgentHosting.Operator.StatusPatch

/-!
# AgentHosting.System.SshPort

The SSH port of an instance, as `get_ssh_info` and the operator's status report it. Both read it
off one Service: the handler takes the first port named `ssh` and falls back to 22 when that has no
node port, the operator leaves out the ports that have none.

* `getSshInfo_ok`        — what the handler answers once it has read a Service.
* `ssh_reports_agree_iff` — when the two reports are the same.
-/

namespace AgentHosting
namespace System

open Kube Operator Prog Json

def namedSsh (p : ServicePort) : Bool := p.name == some "ssh"

/-- The node port of the first port named `ssh`, if it has one. -/
def firstSshPort (svc : Service) : Option Int32 :=
  ((servicePorts (some svc)).find? namedSsh).bind (·.nodePort)

/-- The first node port of a port named `ssh`. -/
def assignedSshPort (svc : Service) : Option Int32 :=
  (servicePorts (some svc)).findSome? fun p => if namedSsh p then p.nodePort else none

/-- What the operator's status says of the SSH port. -/
def reportedSshPort (nodePorts : List NodePort) : Option Int32 :=
  (nodePorts.find? fun p => p.name == "ssh").map (·.nodePort)

theorem sshPort_eq (svc : Service) : Api.sshPort svc = (firstSshPort svc).getD 22 := by
  unfold Api.sshPort firstSshPort servicePorts
  show _ = ((((svc.spec.bind (·.ports)).getD []).find? namedSsh).bind (·.nodePort)).getD 22
  cases svc.spec.bind (·.ports) <;> rfl

theorem namedSsh_eq (p : ServicePort) : namedSsh p = (p.name.getD "" == "ssh") := by
  unfold namedSsh
  cases p.name with
  | none => rfl
  | some name => exact Bool.eq_iff_iff.mpr (by simp)

theorem reportedSshPort_assigned (ports : List ServicePort) :
    reportedSshPort (assignedNodePorts ports) =
      ports.findSome? fun p => if namedSsh p then p.nodePort else none := by
  induction ports with
  | nil => rfl
  | cons p ports ih =>
    rw [List.findSome?_cons, ← ih]
    cases hport : p.nodePort with
    | none =>
      have hskip : assignedNodePorts (p :: ports) = assignedNodePorts ports := by
        simp [assignedNodePorts, hport]
      rw [hskip, ite_self]
    | some nodePort =>
      have hcons : assignedNodePorts (p :: ports) =
          ⟨p.name.getD "", p.port, nodePort⟩ :: assignedNodePorts ports := by
        simp [assignedNodePorts, hport]
      rw [hcons, reportedSshPort, List.find?_cons, namedSsh_eq]
      cases p.name.getD "" == "ssh" <;> rfl

/-- The first port named `ssh` comes first: its node port is the first of them if it has one. -/
theorem assigned_of_first {svc : Service} {p : Int32} (h : firstSshPort svc = some p) :
    assignedSshPort svc = some p := by
  unfold firstSshPort at h
  unfold assignedSshPort
  generalize servicePorts (some svc) = ports at h ⊢
  induction ports with
  | nil => cases h
  | cons q ports ih =>
    rw [List.findSome?_cons]
    rw [List.find?_cons] at h
    cases hnamed : namedSsh q with
    | true =>
      rw [hnamed] at h
      have hport : q.nodePort = some p := h
      rw [if_pos rfl, hport]
    | false =>
      rw [hnamed] at h
      exact ih h

/-! ## The two reports -/

/-- The answer gives this port. -/
def ReturnsPort (r : Except Api.AppError Json) (p : Int32) : Prop :=
  ∃ info, r = .ok info ∧ info.get? "port" = some (ofI32 p)

/-- The handler answers the port the operator reports, and an error when it reports none. -/
structure ReportsAgree (nodePorts : List NodePort) (r : Except Api.AppError Json) : Prop where
  port : ∀ p, ReturnsPort r p ↔ reportedSshPort nodePorts = some p
  unassigned : reportedSshPort nodePorts = none → ∃ e, r = .error e

/-- The first port named `ssh` has a node port, or the first node port of one is the fallback. -/
def SshAssigned (svc : Service) : Prop :=
  (firstSshPort svc).isSome ∨ assignedSshPort svc = some 22

/-- Whatever is around: once the handler has read the Service, it answers a port. -/
theorem getSshInfo_ok {serves : Cluster → (c : Call) → Answer c → Cluster → Prop}
    {env : Cluster → Cluster → Prop} {host : Option String} {name : String} {s s' : Cluster}
    {tr : List (Event Cluster Call Answer)} {r : Except Api.AppError Json}
    (h : Exec serves env (Api.getSshInfo host name).run s tr r s') {svc : Service}
    (hsvc : ∃ s1 s2, ⟨s1, .getOpt .service ("agent-" ++ name), .ok (some svc), s2⟩ ∈ tr) :
    r = .ok (Api.sshInfo (host.getD "127.0.0.1") (Api.sshPort svc)) := by
  have hwp : wp serves env (fun tr r _ => ∀ svc,
      (∃ s1 s2, ⟨s1, .getOpt .service ("agent-" ++ name), .ok (some svc), s2⟩ ∈ tr) →
      r = .ok (Api.sshInfo (host.getD "127.0.0.1") (Api.sshPort svc)))
      (Api.getSshInfo host name).run s := by
    rw [Api.getSshInfo_run]
    rintro s1 - answer s2 -
    dsimp only
    rcases Api.foundAgent name (Api.decodeAnswer answer) with e | agent
    · rintro s3 - svc ⟨s4, s5, hmem⟩
      cases List.mem_singleton.mp hmem
    · rintro s3 - read s4 -
      have hread : ∀ svc, (∃ s5 s6, ⟨s5, .getOpt .service ("agent-" ++ name), .ok (some svc), s6⟩ ∈
          ([⟨s1, .getAgent name, answer, s2⟩, ⟨s3, .getOpt .service ("agent-" ++ name), read, s4⟩] :
            List (Event Cluster Call Answer))) → read = .ok (some svc) := by
        rintro svc ⟨s5, s6, hmem⟩
        rcases List.mem_cons.mp hmem with h | hmem
        · cases h
        · cases List.mem_singleton.mp hmem
          rfl
      rcases read with e | _ | found
      · intro s5 _ svc hsvc
        cases hread svc hsvc
      · intro s5 _ svc hsvc
        cases hread svc hsvc
      · intro s5 _ svc hsvc
        cases hread svc hsvc
        rfl
  exact exec_wp h hwp svc hsvc

theorem returnsPort_sshInfo (host : String) (q p : Int32) :
    ReturnsPort (.ok (Api.sshInfo host q)) p ↔ q = p := by
  constructor
  · rintro ⟨info, hinfo, hport⟩
    obtain rfl := Except.ok.inj hinfo
    have hread : i32? (ofI32 q) = i32? (ofI32 p) := congrArg i32? (Option.some.inj hport)
    rw [i32?_ofI32, i32?_ofI32] at hread
    exact Option.some.inj hread
  · rintro rfl
    exact ⟨_, rfl, rfl⟩

theorem reportedSshPort_status (agent : Agent) (pod : Option Pod) (svc : Service) :
    reportedSshPort (withNodePorts (baseStatus agent pod) (.ok (some svc))).nodePorts =
      assignedSshPort svc := by
  rw [withNodePorts_assigned (baseStatus_nodePorts agent pod), reportedSshPort_assigned]
  rfl

theorem reportsAgree_iff (agent : Agent) (pod : Option Pod) (svc : Service) (host : String) :
    ReportsAgree (withNodePorts (baseStatus agent pod) (.ok (some svc))).nodePorts
      (.ok (Api.sshInfo host (Api.sshPort svc))) ↔ SshAssigned svc := by
  have hport : ReturnsPort (.ok (Api.sshInfo host (Api.sshPort svc))) (Api.sshPort svc) :=
    (returnsPort_sshInfo ..).mpr rfl
  constructor
  · intro h
    have hassigned := (h.port _).mp hport
    rw [reportedSshPort_status, sshPort_eq] at hassigned
    cases hfirst : firstSshPort svc with
    | some p => exact .inl (by rw [hfirst]; rfl)
    | none =>
      rw [hfirst] at hassigned
      exact .inr hassigned
  · intro h
    have hassigned : assignedSshPort svc = some (Api.sshPort svc) := by
      rw [sshPort_eq]
      cases hfirst : firstSshPort svc with
      | some p => exact assigned_of_first hfirst
      | none =>
        rcases h with h | h
        · rw [hfirst] at h
          cases h
        · exact h
    constructor
    · intro p
      rw [reportedSshPort_status, hassigned, returnsPort_sshInfo, Option.some.injEq]
    · intro hnone
      rw [reportedSshPort_status, hassigned] at hnone
      cases hnone

/-- The two reports are the same exactly when the first port named `ssh` has a node port, or the
first node port of a port named `ssh` happens to be 22. -/
theorem ssh_reports_agree_iff {serves : Cluster → (c : Call) → Answer c → Cluster → Prop}
    {env : Cluster → Cluster → Prop} {host : Option String} {name : String} {s s' : Cluster}
    {tr : List (Event Cluster Call Answer)} {r : Except Api.AppError Json}
    (hexec : Exec serves env (Api.getSshInfo host name).run s tr r s') {svc : Service}
    (hsvc : ∃ s1 s2, ⟨s1, .getOpt .service ("agent-" ++ name), .ok (some svc), s2⟩ ∈ tr)
    (agent : Agent) (pod : Option Pod) :
    ReportsAgree (withNodePorts (baseStatus agent pod) (.ok (some svc))).nodePorts r ↔
      SshAssigned svc := by
  rw [getSshInfo_ok hexec hsvc]
  exact reportsAgree_iff agent pod svc _

/-- An instance whose Service has one port. -/
def onePort (name : String) (port nodePort : Int32) : Service where
  metadata := { name := some "agent-a" }
  spec := some { ports := some [{ name := some name, port := port, nodePort := some nodePort }] }

def withService (svc : Service) : Cluster :=
  (Agent.sample "a" "uid-1" .running).alone.set .service "agent-a" (some svc)

theorem withService_run (svc : Service) : ∃ tr r s',
    Exec (Answers Server.verbatim.exec) Alone (Api.getSshInfo none "a").run (withService svc)
      tr r s' ∧
    ∃ s1 s2, ⟨s1, .getOpt .service ("agent-" ++ "a"), .ok (some svc), s2⟩ ∈ tr :=
  ⟨_, _, _, run_exec .., _, _, List.mem_cons_of_mem _ (List.mem_singleton.mpr rfl)⟩

theorem ssh_reports_agree_assigned : ∃ tr r s',
    Exec (Answers Server.verbatim.exec) Alone (Api.getSshInfo none "a").run
      (withService (onePort "ssh" 22 30022)) tr r s' ∧
    ReportsAgree (withNodePorts (baseStatus (Agent.sample "a" "uid-1" .running) none)
      (.ok (some (onePort "ssh" 22 30022)))).nodePorts r := by
  obtain ⟨tr, r, s', hexec, hsvc⟩ := withService_run (onePort "ssh" 22 30022)
  exact ⟨tr, r, s', hexec, (ssh_reports_agree_iff hexec hsvc _ none).mpr (.inl rfl)⟩

/-- An instance without SSH: its clients are sent to port 22 of the host. -/
theorem ssh_falls_back_to_host : ∃ tr r s',
    Exec (Answers Server.verbatim.exec) Alone (Api.getSshInfo none "a").run
      (withService (onePort "http" 80 30080)) tr r s' ∧
    ReturnsPort r 22 ∧
    ¬ ReportsAgree (withNodePorts (baseStatus (Agent.sample "a" "uid-1" .running) none)
      (.ok (some (onePort "http" 80 30080)))).nodePorts r := by
  obtain ⟨tr, r, s', hexec, hsvc⟩ := withService_run (onePort "http" 80 30080)
  refine ⟨tr, r, s', hexec, ?_⟩
  rw [getSshInfo_ok hexec hsvc, reportsAgree_iff]
  refine ⟨(returnsPort_sshInfo ..).mpr rfl, ?_⟩
  rintro (h | h)
  · cases h
  · cases h

end System
end AgentHosting
