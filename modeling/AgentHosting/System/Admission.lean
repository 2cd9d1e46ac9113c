import Mathlib.Data.List.Nodup
import AgentHosting.Kube.Validation
import AgentHosting.Operator.Format
import AgentHosting.System.Tasks

/-!
# AgentHosting.System.Admission

What `create_instance` lets through against what the API server will admit. The handler checks that
a nameless request has a service type and nothing else; the name, the ports and the mount path
become parts of the objects the operator creates later, and are validated only there.

* `SafeRequest`                  — what the handler would have to check.
* `accepted_children_valid_iff`  — the children are admissible for exactly these requests.
-/

namespace AgentHosting
namespace System

open Kube Operator Prog

variable {S : Server} {env : Cluster → Cluster → Prop}

/-! ## The resulting Agent -/

/-- The object `create_instance` sends. -/
def createdObject (uuid : String) (req : Api.CreateInstanceRequest) : AgentObject :=
  ⟨{ name := some (Api.Request.create uuid req).name }, (Api.requestedSpec req).toJson, none⟩

def Creates (tr : List (Event Cluster Call Answer)) (o : AgentObject) : Prop :=
  ∃ e ∈ tr, e.call = .createAgent o

/-- The operator's view of an Agent that was created as `o`; the API server has filled in the rest
of its metadata. -/
structure Results (o : AgentObject) (agent : Agent) : Prop where
  name : agent.metadata.name = o.metadata.name
  spec : AgentSpec.fromJson o.spec = some agent.spec

theorem creates_eq {uuid : String} {req : Api.CreateInstanceRequest} {s s' : Cluster}
    {tr : List (Event Cluster Call Answer)} {r : Except Api.AppError Api.Stream} {o : AgentObject}
    (hexec : Exec S.Faulty env (Api.createInstance uuid req).run s tr r s') (ho : Creates tr o) :
    o = createdObject uuid req := by
  obtain ⟨e, he, hcall⟩ := ho
  have hcalls : (Api.createInstance uuid req).run.AllCalls
      fun c => ∀ o, c = .createAgent o → o = createdObject uuid req :=
    createInstance_calls (fun o h => nomatch h) fun o h => (Call.createAgent.inj h).symm
  exact exec_allCalls hexec hcalls e he o hcall

/-- An accepted request has created its Agent. -/
theorem accepted_creates {uuid : String} {req : Api.CreateInstanceRequest} {s s' : Cluster}
    {tr : List (Event Cluster Call Answer)} {stream : Api.Stream}
    (hexec : Exec S.Faulty env (Api.createInstance uuid req).run s tr (.ok stream) s') :
    Creates tr (createdObject uuid req) := by
  have hwp : wp S.Faulty env (fun tr r _ => ∀ stream, r = .ok stream →
      Creates tr (createdObject uuid req)) (Api.createInstance uuid req).run s := by
    unfold Api.createInstance
    split
    · intro s1 _ stream h
      nomatch h
    · show wp _ _ _ (ExceptT.run (_ >>= _)) _
      rw [exceptT_bind]
      refine wp_andThen (wp_of_forall (fun tr r s' => ?_) _ _)
      rcases r with e | _ | agent
      · intro s1 _ stream h
        nomatch h
      · show wp _ _ _ (ExceptT.run (_ >>= _)) _
        rw [exceptT_bind]
        refine wp_andThen ?_
        intro s1 _ r s2 _
        rcases r with e | ⟨⟩
        · intro s3 _ s4 _ stream h
          nomatch h
        · intro s3 _ s4 _ stream _
          exact ⟨_, List.mem_append_right tr (.head _), rfl⟩
      · intro s1 _ stream h
        nomatch h
  exact exec_wp hexec hwp stream rfl

theorem Results.eq {uuid : String} {req : Api.CreateInstanceRequest} {agent : Agent}
    (h : Results (createdObject uuid req) agent) :
    agent.nameAny = (Api.Request.create uuid req).name ∧
      agent.spec = (Api.requestedSpec req).toOperator := by
  constructor
  · show (agent.metadata.name.or _).getD "" = _
    rw [h.name]
    rfl
  · have hspec := AgentSpec.fromJson_of_api (Api.AgentSpec.fromJson_toJson (Api.requestedSpec req))
    exact Option.some.inj (h.spec.symm.trans hspec)

/-! ## The children -/

structure ChildrenValid (storageClass : Option String) (agent : Agent) : Prop where
  pvc : (buildPvc storageClass agent).metadata.LabelsFit
  pod : (buildPod agent).Valid
  netpol : (buildNetworkPolicy agent).metadata.LabelsFit
  service : (buildService agent).Valid

structure PortsSafe (ports : List Api.PortSpec) : Prop where
  named : ∀ p ∈ ports, p.name ≠ ""
  namesDistinct : (ports.map (·.name)).Nodup
  numbersDistinct : (ports.map (·.port)).Nodup
  inRange : ∀ p ∈ ports, 1 ≤ p.port.toInt ∧ p.port.toInt ≤ 65535

/-- What the handler would have to check. -/
structure SafeRequest (uuid : String) (req : Api.CreateInstanceRequest) : Prop where
  undotted : '.' ∉ (Api.Request.create uuid req).name.toList
  short : (Api.Request.create uuid req).name.length ≤ 57
  ports : PortsSafe req.ports
  mount : req.volumeMount ≠ some "/tmp"

theorem childMeta_labelsFit (agent : Agent) (n : String) :
    (childMeta agent n).LabelsFit ↔ agent.nameAny.length ≤ 63 := by
  constructor
  · intro h
    exact h ("agents.near.ai/name", agent.nameAny) (.head _)
  · intro h kv hkv
    rcases List.mem_cons.mp hkv with rfl | hkv
    · exact h
    · obtain rfl := List.mem_singleton.mp hkv
      show 5 ≤ 63
      omega

theorem serviceName_label {name : String} (h : isDns1123Subdomain name = true) :
    isDns1035Label (serviceName name) = true ↔ '.' ∉ name.toList ∧ name.length ≤ 57 := by
  have hlabel : isDns1035Label ("agent-" ++ name) = true ↔
      '.' ∉ name.toList ∧ 6 + name.length ≤ 63 :=
    dns1035_of_subdomain (by decide) (by decide) h
  rw [serviceName, hlabel]
  constructor
  · rintro ⟨hdot, hlength⟩
    exact ⟨hdot, by omega⟩
  · rintro ⟨hdot, hlength⟩
    exact ⟨hdot, by omega⟩

/-- The Service port of a requested port. -/
def servicePort (p : Api.PortSpec) : ServicePort where
  name := some p.name
  port := p.port
  targetPort := some (.int p.port)
  protocol := some "TCP"

theorem servicePorts_valid (ports : List Api.PortSpec) :
    PortsValid (ports.map servicePort) ↔ ports ≠ [] ∧ PortsSafe ports := by
  have hnames : (ports.map servicePort).map (·.name) = (ports.map (·.name)).map some := by
    simp only [List.map_map]
    rfl
  have hnumbers : (ports.map servicePort).map (·.port) = ports.map (·.port) := by
    simp only [List.map_map]
    rfl
  have hsome : Function.Injective (some : String → Option String) := fun _ _ => Option.some.inj
  constructor
  · intro h
    have hdistinct := h.namesDistinct
    rw [hnames, List.nodup_map_iff hsome] at hdistinct
    exact ⟨fun hnil => h.someport (by rw [hnil]; rfl),
      fun p hp => h.named _ (List.mem_map_of_mem hp), hdistinct, hnumbers ▸ h.portsDistinct,
      fun p hp => h.inRange _ (List.mem_map_of_mem hp)⟩
  · rintro ⟨hne, h⟩
    refine ⟨by simpa using hne, ?_, ?_, hnumbers ▸ h.numbersDistinct, ?_⟩
    · intro p hp
      obtain ⟨q, hq, rfl⟩ := List.mem_map.mp hp
      exact h.named q hq
    · rw [hnames, List.nodup_map_iff hsome]
      exact h.namesDistinct
    · intro p hp
      obtain ⟨q, hq, rfl⟩ := List.mem_map.mp hp
      exact h.inRange q hq

/-- The ports of a request that names none are safe. -/
theorem requestedPorts_safe (req : Api.CreateInstanceRequest) :
    (Api.requestedSpec req).ports ≠ [] ∧
      (PortsSafe (Api.requestedSpec req).ports ↔ PortsSafe req.ports) := by
  have hnil : PortsSafe [] := ⟨by simp, by simp, by simp, by simp⟩
  cases hports : req.ports with
  | nil =>
    cases hservice : req.serviceType with
    | none =>
      have hspec : (Api.requestedSpec req).ports = [⟨"ssh", 22⟩, ⟨"http", 80⟩] := by
        simp [Api.requestedSpec, hports, hservice]
      rw [hspec]
      exact ⟨by simp, fun _ => hnil, fun _ => ⟨by simp, by simp, by simp, by decide⟩⟩
    | some service =>
      have hspec : (Api.requestedSpec req).ports = [⟨"ssh", 2222⟩, ⟨"http", 8080⟩] := by
        simp [Api.requestedSpec, hports, hservice]
      rw [hspec]
      exact ⟨by simp, fun _ => hnil, fun _ => ⟨by simp, by simp, by simp, by decide⟩⟩
  | cons p ports =>
    have hspec : (Api.requestedSpec req).ports = p :: ports := by
      simp [Api.requestedSpec, hports]
    rw [hspec]
    exact ⟨by simp, Iff.rfl⟩

theorem requestedMount_tmp (req : Api.CreateInstanceRequest) :
    (Api.requestedSpec req).volumeMount ≠ "/tmp" ↔ req.volumeMount ≠ some "/tmp" := by
  cases hmount : req.volumeMount with
  | none => cases hservice : req.serviceType <;> simp [Api.requestedSpec, hmount, hservice]
  | some path => simp [Api.requestedSpec, hmount]

theorem buildPod_valid (agent : Agent) :
    (buildPod agent).Valid ↔ agent.nameAny.length ≤ 63 ∧ agent.spec.volumeMount ≠ "/tmp" := by
  have hmounts : (buildContainer agent.spec).MountsDistinct ↔ agent.spec.volumeMount ≠ "/tmp" := by
    show [agent.spec.volumeMount, "/tmp"].Nodup ↔ _
    simp
  constructor
  · intro h
    exact ⟨(childMeta_labelsFit agent _).mp h.labels, hmounts.mp (h.mounts _ (.head _))⟩
  · rintro ⟨hname, hpath⟩
    refine ⟨(childMeta_labelsFit agent _).mpr hname, fun c hc => ?_⟩
    obtain rfl := List.mem_singleton.mp hc
    exact hmounts.mpr hpath

theorem buildService_valid {agent : Agent} {req : Api.CreateInstanceRequest}
    (hname : isDns1123Subdomain agent.nameAny = true)
    (hspec : agent.spec = (Api.requestedSpec req).toOperator) :
    (buildService agent).Valid ↔
      ('.' ∉ agent.nameAny.toList ∧ agent.nameAny.length ≤ 57) ∧ PortsSafe req.ports := by
  have hports : PortsValid (((buildService agent).spec.bind (·.ports)).getD []) ↔
      PortsSafe req.ports := by
    obtain ⟨hne, hsafe⟩ := requestedPorts_safe req
    have heq : ((buildService agent).spec.bind (·.ports)).getD [] =
        (Api.requestedSpec req).ports.map servicePort := by
      show (agent.spec.ports.map _) = _
      rw [hspec]
      exact List.map_map
    rw [heq, servicePorts_valid, ← hsafe]
    exact and_iff_right hne
  constructor
  · intro h
    exact ⟨(serviceName_label hname).mp h.name, hports.mp h.ports⟩
  · rintro ⟨hlabel, hsafe⟩
    refine ⟨(serviceName_label hname).mpr hlabel, ?_, hports.mpr hsafe⟩
    exact (childMeta_labelsFit agent _).mpr (by omega)

theorem childrenValid_iff {storageClass : Option String} {uuid : String}
    {req : Api.CreateInstanceRequest} {agent : Agent}
    (hagent : Results (createdObject uuid req) agent)
    (hname : isDns1123Subdomain agent.nameAny = true) :
    ChildrenValid storageClass agent ↔ SafeRequest uuid req := by
  obtain ⟨hnameAny, hspec⟩ := hagent.eq
  have hmount : agent.spec.volumeMount ≠ "/tmp" ↔ req.volumeMount ≠ some "/tmp" := by
    rw [hspec]
    exact requestedMount_tmp req
  constructor
  · intro h
    obtain ⟨⟨hdot, hlength⟩, hports⟩ := (buildService_valid hname hspec).mp h.service
    obtain ⟨-, hpath⟩ := (buildPod_valid agent).mp h.pod
    rw [hnameAny] at hdot hlength
    exact ⟨hdot, hlength, hports, hmount.mp hpath⟩
  · intro h
    have hlength : agent.nameAny.length ≤ 57 := by
      rw [hnameAny]
      exact h.short
    have hdot : '.' ∉ agent.nameAny.toList := by
      rw [hnameAny]
      exact h.undotted
    have hlabels := fun n => (childMeta_labelsFit agent n).mpr (by omega)
    exact ⟨hlabels _, (buildPod_valid agent).mpr ⟨by omega, hmount.mpr h.mount⟩, hlabels _,
      (buildService_valid hname hspec).mpr ⟨⟨hdot, hlength⟩, h.ports⟩⟩

/-- A named request with the defaults of everything else, for concrete runs. -/
def namedRequest (name : String) : Api.CreateInstanceRequest :=
  { image := "img", name := some name }

def namedAgent (name : String) : Agent :=
  ⟨{ name := some name }, (Api.requestedSpec (namedRequest name)).toOperator, none⟩

theorem namedAgent_results (name : String) :
    Results (createdObject "" (namedRequest name)) (namedAgent name) :=
  ⟨rfl, AgentSpec.fromJson_of_api (Api.AgentSpec.fromJson_toJson _)⟩

theorem namedRequest_accepted (name : String) :
    ∃ tr stream s', Exec Server.verbatim.Faulty Alone
      (Api.createInstance "" (namedRequest name)).run Cluster.empty tr (.ok stream) s' :=
  ⟨_, Api.createInstanceStream name, _, Server.exec_of_run Server.verbatim Alone _ _⟩

/-- Whatever the cluster does meanwhile, an accepted request has created an Agent, and if its name
is a subdomain then its children are admissible exactly when the request was safe. -/
theorem accepted_children_valid_iff {uuid : String} {req : Api.CreateInstanceRequest}
    {s s' : Cluster} {tr : List (Event Cluster Call Answer)} {stream : Api.Stream}
    (hexec : Exec S.Faulty env (Api.createInstance uuid req).run s tr (.ok stream) s') :
    (∃ o, Creates tr o) ∧
      ∀ o agent storageClass, Creates tr o → Results o agent →
        isDns1123Subdomain agent.nameAny = true →
          (ChildrenValid storageClass agent ↔ SafeRequest uuid req) := by
  refine ⟨⟨_, accepted_creates hexec⟩, ?_⟩
  intro o agent storageClass ho hagent hname
  obtain rfl := creates_eq hexec ho
  exact childrenValid_iff hagent hname

theorem plain_name_admissible : ChildrenValid none (namedAgent "a") := by
  obtain ⟨tr, stream, s', hexec⟩ := namedRequest_accepted "a"
  have hsafe : SafeRequest "" (namedRequest "a") :=
    ⟨by decide, by decide, ⟨by simp [namedRequest], by simp [namedRequest], by simp [namedRequest],
      by simp [namedRequest]⟩, by simp [namedRequest]⟩
  exact ((accepted_children_valid_iff hexec).2 _ (namedAgent "a") none (accepted_creates hexec)
    (namedAgent_results "a") (by decide)).mpr hsafe

/-- A dot is fine in the name of an Agent and not in that of its Service. -/
theorem dotted_name_inadmissible :
    (∃ tr stream s' o, Exec Server.verbatim.Faulty Alone
      (Api.createInstance "" (namedRequest "my.agent")).run Cluster.empty tr (.ok stream) s' ∧
        Creates tr o ∧ Results o (namedAgent "my.agent")) ∧
      isDns1123Subdomain (namedAgent "my.agent").nameAny = true ∧
      ¬ ChildrenValid none (namedAgent "my.agent") := by
  have hname : isDns1123Subdomain (namedAgent "my.agent").nameAny = true := by decide
  obtain ⟨tr, stream, s', hexec⟩ := namedRequest_accepted "my.agent"
  refine ⟨⟨tr, stream, s', _, hexec, accepted_creates hexec, namedAgent_results _⟩, hname, ?_⟩
  intro h
  exact ((childrenValid_iff (namedAgent_results "my.agent") hname).mp h).undotted (by decide)

end System
end AgentHosting
