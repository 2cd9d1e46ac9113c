import AgentHosting.Api.Responses
import AgentHosting.Lib.Schema
import AgentHosting.Operator.Format
import AgentHosting.System.Lineage

/-!
# AgentHosting.Deploy.CrdManifest

The schema of `deploy/manifests/agent-crd.yaml`, a third copy of the format of Agents beside those
of the two crates, and the system under it. `scripts/deploy.sh` applies the manifest; the operator
applies one made from its own types over it when it starts.

* `specSchema`, `statusSchema` — the manifest.
* `shorn`            — a spec and a status as the manifest leaves them.
* `manifest_shears`  — what either crate reads back of what was written under the manifest.
* `CrdStep`          — one step of the system over a server that has this schema.
* `manifest_forgets` — in every run of it, nothing else is ever stored, reported or built from.
-/

namespace AgentHosting

open Json Kube Prog

/-! ## What the crates read back -/

namespace Operator

def AgentSpec.shorn (s : AgentSpec) : AgentSpec :=
  { s with
    volumeMount := defaultVolumeMount, securityProfile := defaultSecurityProfile
    enableDocker := false, ports := defaultPorts, command := []
    sshPubkey := none, serviceType := none, nodeId := none }

def AgentStatus.shorn (s : AgentStatus) : AgentStatus := { phase := s.phase, message := s.message }

end Operator

namespace Api

def AgentSpec.shorn (s : AgentSpec) : AgentSpec :=
  { s with
    volumeMount := defaultVolumeMount, securityProfile := defaultSecurityProfile
    enableDocker := false, ports := defaultPorts, command := []
    sshPubkey := none, serviceType := none, nodeId := none }

def AgentStatus.shorn (s : AgentStatus) : AgentStatus := { phase := s.phase, message := s.message }

end Api

namespace Deploy

open AgentHosting.System

/-! ## The manifest -/

def envSchema : Schema :=
  .array (.properties ["name", "value"] [
    ("name", .string none, none),
    ("value", .string none, none)])

def specSchema : Schema :=
  .properties ["image"] [
    ("image", .string none, none),
    ("cpu", .string none, some (.str "1")),
    ("memory", .string none, some (.str "4Gi")),
    ("disk", .string none, some (.str "10Gi")),
    ("state", .string (some ["running", "stopped"]), some (.str "running")),
    ("env", envSchema, none)]

/-- The format of `lastBackup` is not checked here; neither crate writes that member. -/
def statusSchema : Schema :=
  .properties [] [
    ("phase", .string none, none),
    ("hostNode", .string none, none),
    ("podIP", .string none, none),
    ("sshPort", .integer, none),
    ("restartCount", .integer, none),
    ("lastBackup", .string none, none),
    ("message", .string none, none)]

theorem envSchema_sound : envSchema.Sound := by
  intro k hk
  have hnames : k ∈ ["name", "value"] := hk
  simp only [List.mem_cons, List.not_mem_nil, or_false] at hnames
  rcases hnames with rfl | rfl
  all_goals exact ⟨trivial, fun d hd => by cases hd⟩

theorem specSchema_sound : specSchema.Sound := by
  intro k hk
  have hnames : k ∈ ["image", "cpu", "memory", "disk", "state", "env"] := hk
  simp only [List.mem_cons, List.not_mem_nil, or_false] at hnames
  rcases hnames with rfl | rfl | rfl | rfl | rfl | rfl
  · exact ⟨trivial, fun d hd => by cases hd⟩
  · exact ⟨trivial, fun d hd => by cases hd; exact ⟨by simp, rfl⟩⟩
  · exact ⟨trivial, fun d hd => by cases hd; exact ⟨by simp, rfl⟩⟩
  · exact ⟨trivial, fun d hd => by cases hd; exact ⟨by simp, rfl⟩⟩
  · exact ⟨trivial, fun d hd => by cases hd; exact ⟨by simp, rfl⟩⟩
  · exact ⟨envSchema_sound, fun d hd => by cases hd⟩

theorem statusSchema_sound : statusSchema.Sound := by
  intro k hk
  have hnames : k ∈ ["phase", "hostNode", "podIP", "sshPort", "restartCount", "lastBackup",
    "message"] := hk
  simp only [List.mem_cons, List.not_mem_nil, or_false] at hnames
  rcases hnames with rfl | rfl | rfl | rfl | rfl | rfl | rfl
  all_goals exact ⟨trivial, fun d hd => by cases hd⟩

/-! ## Members -/

section Keep

variable {f g : String → Option Json} {k : String} {values : Option (List String)}

theorem string_keep {dflt : Option String} {x : String}
    (hg : g k = Schema.keepMember (Schema.string values).keep (dflt.map .str) (f k))
    (h : field f k dflt string? = some x) : field g k dflt string? = some x := by
  refine Schema.field_keep hg (fun _ _ h => h) (fun d hd => ?_) (fun x h => by cases h) h
  obtain ⟨text, rfl, rfl⟩ := Option.map_eq_some_iff.mp hd
  rfl

theorem opt_string_keep {x : Option String}
    (hg : g k = Schema.keepMember (Schema.string values).keep none (f k))
    (h : field f k (some none) (opt string?) = some x) :
    field g k (some none) (opt string?) = some x :=
  Schema.field_keep hg (fun _ _ h => h) (fun d hd => by cases hd) (fun _ h => h) h

end Keep

theorem envVar_keep (v : Json) (e : Operator.EnvVar) (h : Operator.EnvVar.fromJson v = some e) :
    Operator.EnvVar.fromJson (Schema.keep (.properties ["name", "value"] [
      ("name", .string none, none), ("value", .string none, none)]) v) = some e := by
  cases v with
  | obj f =>
    obtain ⟨name, hname, h⟩ := Option.bind_eq_some_iff.mp h
    obtain ⟨value, hvalue, h⟩ := Option.bind_eq_some_iff.mp h
    refine Option.bind_eq_some_iff.mpr ⟨name, string_keep rfl hname, ?_⟩
    exact Option.bind_eq_some_iff.mpr ⟨value, string_keep rfl hvalue, h⟩
  | arr xs => exact h
  | _ => cases h

theorem spec_keep {v : Json} {spec : Operator.AgentSpec}
    (h : Operator.AgentSpec.fromJson v = some spec) :
    Operator.AgentSpec.fromJson (specSchema.keep v) = some spec.shorn := by
  cases v with
  | obj f =>
    obtain ⟨himage, hstate, hcpu, hmemory, hdisk, -, -, henv, -⟩ :=
      Operator.AgentSpec.fromJson_obj.mp h
    refine Operator.AgentSpec.fromJson_obj.mpr
      ⟨?_, ?_, ?_, ?_, ?_, ?_, ?_, ?_, ?_, ?_, ?_, ?_, ?_, ?_⟩
    · exact string_keep rfl himage
    · exact Schema.field_keep (s := .string (some ["running", "stopped"])) rfl (fun _ _ h => h)
        (fun d hd => by cases hd; rfl) (fun x h => by cases h) hstate
    · exact string_keep rfl hcpu
    · exact string_keep rfl hmemory
    · exact string_keep rfl hdisk
    · exact Schema.field_dropped rfl
    · exact Schema.field_dropped rfl
    · exact Schema.field_keep rfl (fun _ _ => Schema.seq_keep envVar_keep)
        (fun d hd => by cases hd) (fun x h => by cases h) henv
    · exact Schema.field_dropped rfl
    · exact Schema.field_dropped rfl
    · exact Schema.field_dropped rfl
    · exact Schema.field_dropped rfl
    · exact Schema.field_dropped rfl
    · exact Schema.field_dropped rfl
  | _ => cases h

theorem status_keep {v : Option Json} {status : Option Operator.AgentStatus}
    (h : Operator.AgentStatus.fromStored v = some status) :
    Operator.AgentStatus.fromStored (v.map statusSchema.keep) =
      some (status.map Operator.AgentStatus.shorn) := by
  cases v with
  | none =>
    obtain rfl := Option.some.inj h
    rfl
  | some v =>
    cases v with
    | obj f =>
      obtain ⟨status, hstatus, rfl⟩ := Option.map_eq_some_iff.mp h
      obtain ⟨hphase, -, -, -, -, -, hmessage, -⟩ := Operator.AgentStatus.fromJson_obj.mp hstatus
      refine Option.map_eq_some_iff.mpr ⟨status.shorn, ?_, rfl⟩
      refine Operator.AgentStatus.fromJson_obj.mpr ⟨?_, ?_, ?_, ?_, ?_, ?_, ?_, ?_⟩
      · exact opt_string_keep rfl hphase
      · exact Schema.field_dropped rfl
      · exact Schema.field_dropped rfl
      · exact Schema.field_dropped rfl
      · exact Schema.field_dropped rfl
      · exact Schema.field_dropped rfl
      · exact opt_string_keep rfl hmessage
      · exact Schema.field_dropped rfl
    | null =>
      obtain rfl := Option.some.inj h
      rfl
    | _ => cases h

theorem api_spec_keep {v : Json} {spec : Api.AgentSpec}
    (h : Api.AgentSpec.fromJson v = some spec) :
    Api.AgentSpec.fromJson (specSchema.keep v) = some spec.shorn := by
  have hkept := spec_keep (Operator.AgentSpec.fromJson_of_api h)
  have hshorn : spec.toOperator.shorn.toApi = spec.shorn := by
    show spec.toOperator.toApi.shorn = _
    rw [Api.AgentSpec.toApi_toOperator]
  cases v with
  | obj f =>
    rw [← hshorn]
    exact (Operator.AgentSpec.api_fromJson_obj _ _).mpr hkept
  | _ => cases h

theorem api_status_keep {v : Option Json} {status : Option Api.AgentStatus}
    (h : Api.AgentStatus.fromStored v = some status) :
    Api.AgentStatus.fromStored (v.map statusSchema.keep) =
      some (status.map Api.AgentStatus.shorn) := by
  rw [Operator.AgentStatus.api_fromStored] at h ⊢
  obtain ⟨own, hown, rfl⟩ := Option.map_eq_some_iff.mp h
  rw [status_keep hown, Option.map_some, Option.map_map, Option.map_map]
  rfl

/-- What the API server sends for a new Agent is taken, and nothing is said of what is dropped. -/
theorem spec_admitted (spec : Api.AgentSpec) :
    specSchema.admits (specSchema.keep spec.toJson) = true := by
  have henv : envSchema.admits (envSchema.keep (.arr (spec.env.map Api.EnvVar.toJson))) = true := by
    refine List.all_eq_true.mpr fun v hv => ?_
    rw [List.map_map] at hv
    obtain ⟨e, -, rfl⟩ := List.mem_map.mp hv
    rfl
  refine Schema.admits_object (fun k hk => ?_) fun k hk v hv => ?_
  · obtain rfl := List.mem_singleton.mp hk
    rfl
  · have hnames : k ∈ ["image", "cpu", "memory", "disk", "state", "env"] := hk
    simp only [List.mem_cons, List.not_mem_nil, or_false] at hnames
    rcases hnames with rfl | rfl | rfl | rfl | rfl | rfl
    · cases hv
      rfl
    · cases hv
      rfl
    · cases hv
      rfl
    · cases hv
      rfl
    · have hstate : Schema.keepMember (Schema.string (some ["running", "stopped"])).keep
          (some (.str "running")) (some spec.state.toJson) = some v := hv
      cases hs : spec.state with
      | running =>
        rw [hs] at hstate
        cases hstate
        rfl
      | stopped =>
        rw [hs] at hstate
        cases hstate
        rfl
    · cases hv
      exact henv

/-- Either crate, reading back what was written under the manifest, finds the spec and the status it
would have found, less what the manifest does not name; and no spec the API server writes is
refused. -/
theorem manifest_shears :
    (∀ v spec, Operator.AgentSpec.fromJson v = some spec →
      Operator.AgentSpec.fromJson (specSchema.keep v) = some spec.shorn) ∧
    (∀ v spec, Api.AgentSpec.fromJson v = some spec →
      Api.AgentSpec.fromJson (specSchema.keep v) = some spec.shorn) ∧
    (∀ v status, Operator.AgentStatus.fromStored v = some status →
      Operator.AgentStatus.fromStored (v.map statusSchema.keep) =
        some (status.map Operator.AgentStatus.shorn)) ∧
    (∀ v status, Api.AgentStatus.fromStored v = some status →
      Api.AgentStatus.fromStored (v.map statusSchema.keep) =
        some (status.map Api.AgentStatus.shorn)) ∧
    ∀ spec : Api.AgentSpec, specSchema.admits (specSchema.keep spec.toJson) = true :=
  ⟨fun _ _ => spec_keep, fun _ _ => api_spec_keep, fun _ _ => status_keep,
    fun _ _ => api_status_keep, spec_admitted⟩

/-- A request that names a node. -/
def samplePlaced : Api.CreateInstanceRequest :=
  { image := "agent:v1", name := some "a", nodeId := some "node-1" }

theorem manifest_shears_placed :
    (Api.requestedSpec samplePlaced).nodeId = some "node-1" ∧ ∃ spec, spec.nodeId = none ∧
      Api.AgentSpec.fromJson (specSchema.keep (Api.requestedSpec samplePlaced).toJson) =
        some spec :=
  ⟨rfl, (Api.requestedSpec samplePlaced).shorn, rfl,
    manifest_shears.2.1 _ _ (Api.AgentSpec.fromJson_toJson (Api.requestedSpec samplePlaced))⟩

/-! ## A server with the manifest's schema -/

def keepAgent (o : AgentObject) : AgentObject :=
  { o with spec := specSchema.keep o.spec, status := o.status.map statusSchema.keep }

def kept (s : Cluster) : Cluster := { s with agents := fun n => (s.agents n).map keepAgent }

def Admitted (s : Cluster) : Prop :=
  ∀ n o, s.agents n = some o → specSchema.admits o.spec = true ∧
    ∀ v, o.status = some v → statusSchema.admits v = true

/-- Every stored Agent is as the schema has it. -/
structure Conforms (s : Cluster) : Prop where
  kept : kept s = s
  admitted : Admitted s

/-- A write is stored as the schema keeps it, or refused; any call may fail, with or without its
effect. -/
inductive CrdServed (S : Server) (s : Cluster) (c : Call) : Answer c → Cluster → Prop where
  | written {r : Answer c} {s' : Cluster} : S.Faulty s c r s' → Admitted (kept s') →
      CrdServed S s c r (kept s')
  | refused (e : KubeError) : ¬ Admitted (kept (S.exec s c).2) → CrdServed S s c (c.failure e) s

/-- The other clients write through the same server. -/
def CrdOutside (s s' : Cluster) : Prop := ∃ s₁, Outside s s₁ ∧ Admitted (kept s₁) ∧ s' = kept s₁

theorem keepAgent_idem (o : AgentObject) : keepAgent (keepAgent o) = keepAgent o := by
  have hstatus : statusSchema.keep ∘ statusSchema.keep = statusSchema.keep :=
    funext (Schema.keep_idem statusSchema_sound)
  simp only [keepAgent, Schema.keep_idem specSchema_sound, Option.map_map, hstatus]

theorem conforms_kept {s : Cluster} (h : Admitted (kept s)) : Conforms (kept s) := by
  refine ⟨Cluster.ext rfl (funext fun n => ?_), h⟩
  show ((s.agents n).map keepAgent).map keepAgent = (s.agents n).map keepAgent
  rw [Option.map_map, show keepAgent ∘ keepAgent = keepAgent from funext keepAgent_idem]

/-- The spec and the status are ones that the manifest leaves. -/
structure Shorn (agent : Operator.Agent) : Prop where
  spec : agent.spec = agent.spec.shorn
  status : agent.status = agent.status.map Operator.AgentStatus.shorn

theorem Conforms.agent {s : Cluster} (h : Conforms s) {n : String} {o : AgentObject}
    (ho : s.agents n = some o) :
    specSchema.keep o.spec = o.spec ∧ o.status.map statusSchema.keep = o.status := by
  have hkept : (s.agents n).map keepAgent = s.agents n :=
    congrFun (congrArg Cluster.agents h.kept) n
  rw [ho] at hkept
  have hagent := Option.some.inj hkept
  exact ⟨congrArg AgentObject.spec hagent, congrArg AgentObject.status hagent⟩

theorem Conforms.snapshot {s : Cluster} (h : Conforms s) {agent : Operator.Agent}
    (hs : Snapshot s agent) : Shorn agent := by
  obtain ⟨o, ho, -, hspec, hstatus⟩ := hs
  obtain ⟨hkeep, hkeep'⟩ := h.agent ho
  have hspec' := spec_keep hspec
  have hstatus' := status_keep hstatus
  rw [hkeep, hspec] at hspec'
  rw [hkeep', hstatus] at hstatus'
  exact ⟨Option.some.inj hspec', Option.some.inj hstatus'⟩

/-- An instance as the API server shows it: no service type, no node, no address and no ports. -/
structure Anonymous (r : Api.InstanceResponse) : Prop where
  serviceType : r.serviceType = none
  nodeId : r.nodeId = none
  podIp : r.podIp = none
  hostNode : r.hostNode = none
  restartCount : r.restartCount = none
  nodePorts : r.nodePorts = []

theorem Conforms.shown {s : Cluster} (h : Conforms s) {n : String} {o : AgentObject}
    (ho : s.agents n = some o) {agent : Api.Agent} (hagent : Api.decodeAgent o = .ok agent) :
    Anonymous (.ofAgent agent) := by
  obtain ⟨-, hspec, hstatus⟩ := Api.decodeAgent_ok.mp hagent
  obtain ⟨hkeep, hkeep'⟩ := h.agent ho
  have hspec' := api_spec_keep hspec
  have hstatus' := api_status_keep hstatus
  rw [hkeep, hspec] at hspec'
  rw [hkeep', hstatus] at hstatus'
  have hshorn : agent.spec = agent.spec.shorn := Option.some.inj hspec'
  have hnode : agent.spec.nodeId = none := congrArg Api.AgentSpec.nodeId hshorn
  have hstatus'' : agent.status.getD {} = (agent.status.getD {}).shorn := by
    cases hs : agent.status with
    | none => rfl
    | some status =>
      rw [hs] at hstatus'
      exact Option.some.inj (Option.some.inj hstatus')
  have hhost : (agent.status.getD {}).hostNode = none := congrArg Api.AgentStatus.hostNode hstatus''
  refine ⟨congrArg Api.AgentSpec.serviceType hshorn, ?_, congrArg Api.AgentStatus.podIp hstatus'',
    hhost, congrArg Api.AgentStatus.restartCount hstatus'', ?_⟩
  · show agent.spec.nodeId.or (agent.status.getD {}).hostNode = none
    rw [hnode, hhost]
    rfl
  · have hports : (agent.status.getD {}).nodePorts = [] :=
      congrArg Api.AgentStatus.nodePorts hstatus''
    show (agent.status.getD {}).nodePorts.map _ = []
    rw [hports]
    rfl

/-! ## Runs -/

section Runs

variable {Slot : Type} {S : Server} {ctx : Operator.Context}

/-- A run of the operator works for an Agent that the manifest leaves. -/
def Working (ctx : Operator.Context) : TaskId Slot → Prog Call Answer System.Outcome → Prop
  | .operator _ _, p => ∃ agent, Shorn agent ∧ p.AllCalls (Operator.OperatorCall ctx agent)
  | .api _, p => p.AllCalls fun c => ∃ name, ApiCall name c

structure UnderManifest (ctx : Operator.Context) (w : World Slot) : Prop where
  conforms : Conforms w.state
  working : w.ProgsIn (Working ctx)

theorem Working.next {i : TaskId Slot} {c : Call} {k : Answer c → Prog Call Answer System.Outcome}
    (h : Working ctx i (.call c k)) (r : Answer c) : Working ctx i (k r) := by
  cases i with
  | operator name slot =>
    obtain ⟨agent, hshorn, hcalls⟩ := h
    exact ⟨agent, hshorn, hcalls.2 r⟩
  | api n => exact h.2 r

variable [DecidableEq Slot]

/-- One step of the whole system over such a server. -/
abbrev CrdStep (S : Server) (ctx : Operator.Context) :
    World Slot → Label Slot → World Slot → Prop :=
  Pool.Step (Spawns ctx) (CrdServed S) CrdOutside

theorem underManifest_step {w w' : World Slot} {l : Label Slot} {past : List (World Slot)}
    (hpast : ∀ v ∈ past, Conforms v.state) (h : UnderManifest ctx w) (hg : FromStore ctx past w l)
    (hs : CrdStep S ctx w l w') : UnderManifest ctx w' := by
  have hspawn : ∀ i p, l = .spawn i p → Working ctx i p := by
    rintro (⟨name, slot⟩ | n) p rfl
    · obtain ⟨agent, -, rfl, v, hv, hsnap⟩ := hg name slot p rfl
      exact ⟨agent, (hpast v hv).snapshot hsnap,
        (reconcileTask_runCalls ctx agent).mono fun _ hc => hc.1⟩
    · cases hs with
      | spawn _ hp => exact spawns_calls hp
  refine ⟨?_, Pool.progs_step hspawn (fun _ _ _ hp r => hp.next r) h.working hs.narrow⟩
  cases hs with
  | spawn _ _ => exact h.conforms
  | exit _ => exact h.conforms
  | call _ hserve =>
    cases hserve with
    | written _ hadmitted => exact conforms_kept hadmitted
    | refused _ _ => exact h.conforms
  | env he =>
    obtain ⟨s₁, -, hadmitted, heq⟩ := he
    rw [heq]
    exact conforms_kept hadmitted

/-- While the manifest's schema is in force, from a cluster whose Agents are as it has them, in
every run of the system whose reconcile runs start from stored Agents: no Agent read from the store
has anything the manifest does not name, no instance is shown with a node, an address or a port, and
every object a run creates is built from the defaults of what is missing. -/
theorem manifest_forgets {s : Cluster} (hs : Conforms s) {w : World Slot}
    {tr : List (World Slot × Label Slot)} (hrun : Run (CrdStep S ctx) (World.initial s) tr w)
    (hstore : Recalls (FromStore ctx) tr) :
    (∀ v ∈ visited tr w, ∀ agent, Snapshot v.state agent → Shorn agent) ∧
    (∀ v ∈ visited tr w, ∀ n o agent, v.state.agents n = some o → Api.decodeAgent o = .ok agent →
      Anonymous (.ofAgent agent)) ∧
    ∀ e ∈ tr, ∀ i k o r, e.2 = .call i (.create k o) r →
      ∃ agent, Shorn agent ∧ o = Operator.build ctx agent k := by
  have hall : ∀ v ∈ visited tr w, UnderManifest ctx v := by
    refine (hrun.invariant_past (I := fun past v => v ∈ past ∧ ∀ u ∈ past, UnderManifest ctx u)
      (fun past v l v' h hg hstep => ⟨by simp, fun u hu => ?_⟩) hstore
      ⟨List.mem_singleton.mpr rfl, fun u hu => ?_⟩).2
    · rcases List.mem_append.mp hu with hu | hu
      · exact h.2 u hu
      · obtain rfl := List.mem_singleton.mp hu
        exact underManifest_step (fun u hu => (h.2 u hu).conforms) (h.2 v h.1) hg hstep
    · obtain rfl := List.mem_singleton.mp hu
      exact ⟨hs, World.initial_progsIn _ s⟩
  refine ⟨fun v hv agent => (hall v hv).conforms.snapshot,
    fun v hv n o agent ho => (hall v hv).conforms.shown ho, fun e he i k o r hcall => ?_⟩
  obtain ⟨v, hv⟩ := hrun.step_of_mem e he
  rw [hcall] at hv
  cases hv with
  | call hp _ =>
    have hworking := (hall _ (mem_visited_of_mem he w)).working _ _ hp
    cases i with
    | operator name slot =>
      obtain ⟨agent, hshorn, hcalls⟩ := hworking
      exact ⟨agent, hshorn, operatorCall_create hcalls.1⟩
    | api n =>
      obtain ⟨name, hc⟩ := hworking.1
      cases hc

end Runs

theorem admitted_empty : Admitted (kept Cluster.empty) := by
  intro n o ho
  cases ho

/-- The request is accepted, and its instance is shown without the node. -/
theorem manifest_forgets_placed : ∃ tr w o agent,
    Run (CrdStep .verbatim {}) (World.initial Cluster.empty : World Unit) tr w ∧
      w.state.agents "a" = some o ∧ Api.decodeAgent o = .ok agent ∧
      Anonymous (.ofAgent agent) := by
  let spec := Api.requestedSpec samplePlaced
  let exec : Cluster → (c : Call) → Answer c × Cluster := fun s c =>
    ((Server.verbatim.exec s c).1, kept (Server.verbatim.exec s c).2)
  have hcreated : Admitted (kept (Cluster.empty.setAgent "a"
      (some ⟨{ name := some "a" }, spec.toJson, none⟩))) := by
    intro n o ho
    by_cases hn : n = "a"
    · subst hn
      obtain rfl := Option.some.inj ho
      exact ⟨spec_admitted spec, fun v hv => by cases hv⟩
    · have hnone : (Cluster.empty.setAgent "a"
          (some ⟨{ name := some "a" }, spec.toJson, none⟩)).agents n = none :=
        Cluster.setAgent_other _ hn _
      obtain ⟨o', ho', -⟩ := Option.map_eq_some_iff.mp ho
      rw [hnone] at ho'
      cases ho'
  let task := requestTask (.create "u" samplePlaced) 0 []
  have hspawn : Spawns {} (.api 0 : TaskId Unit) task := .request (.create "u" samplePlaced) 0 [] 0
  have hserves : ∀ m < 2, ∀ c, (task.after exec m Cluster.empty).1.next = some c →
      CrdServed Server.verbatim (task.after exec m Cluster.empty).2 c
        (exec (task.after exec m Cluster.empty).2 c).1
        (exec (task.after exec m Cluster.empty).2 c).2 := by
    intro m hm c hc
    interval_cases m
    · cases hc
      exact .written .served admitted_empty
    · cases hc
      exact .written .served hcreated
  obtain ⟨tr, hrun, hevents⟩ :=
    Pool.run_advanced CrdOutside exec (w := World.initial Cluster.empty) rfl hspawn 2 hserves
  have hstore : Recalls (FromStore {}) tr := .of_forall fun e he past _ name slot p hl => by
    rcases hevents e he with hfirst | ⟨m, -, -, c, r, -, hcall⟩
    · cases hfirst.symm.trans hl
    · cases hcall.symm.trans hl
  have hdecoded : Api.decodeAgent (keepAgent ⟨{ name := some "a" }, spec.toJson, none⟩) =
      .ok ⟨{ name := some "a" }, spec.shorn, none⟩ :=
    Api.decodeAgent_ok.mpr ⟨rfl, api_spec_keep (Api.AgentSpec.fromJson_toJson spec), rfl⟩
  have hforgets := manifest_forgets (conforms_kept admitted_empty) hrun hstore
  exact ⟨tr, _, _, _, hrun, rfl, hdecoded,
    hforgets.2.1 _ (mem_visited_last _ _) "a" _ _ rfl hdecoded⟩

end Deploy
end AgentHosting
