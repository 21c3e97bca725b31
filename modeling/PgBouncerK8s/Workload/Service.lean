import PgBouncerK8s.Lib.Dict
import PgBouncerK8s.Lib.Machine
import PgBouncerK8s.Lib.Text
import PgBouncerK8s.Model.CharmConfig

/-!
# The Kubernetes service

Model of `reconcile_k8s_service` (`charm.py`, lines 218–277) and of the part of
`_on_config_changed` (lines 372–405) that calls it, on the leader, with the
container ready and every Kubernetes call succeeding. An apply leaves the
service as it is described; `loads` is `json.loads`, `none` where it raises.

The service is described by three options, but the test that skips the apply
looks at two of them: the type of the existing service, and the port that was
in force at the last apply.

* `step_cases`: every handled event applies the description or skips it.
* `converged_iff`: one event leaves the service as described unless only the
  annotations of a load balancer change.
* `converged_of_reach`: runs without such events.
* `annotations_missed`: a run with one.
-/

namespace PgBouncerK8s.K8sService

open Text (str)

/-! ## Model -/

/-- The names the description is made of, and the owner of the pod. -/
structure Site where
  appName : String
  modelName : String
  ownerReferences : List String

/-- `self.k8s_service_name` (`charm.py`, line 141). -/
def Site.k8sServiceName (site : Site) : String := site.appName ++ "-service"

/-- `ServicePort`. -/
structure ServicePort where
  name : String
  port : ℕ
  targetPort : ℕ
  deriving DecidableEq

/-- A `Service` object, metadata and spec. -/
structure Service where
  name : String
  modelName : String
  ownerReferences : List String
  labels : List (String × String)
  annotations : Dict String String
  ports : List ServicePort
  serviceType : ServiceType
  selector : List (String × String)
  deriving DecidableEq

/-- What the handler reads and writes: the configuration, `current_port` in the
    peer application databag, and the service, if there is one. -/
structure State where
  config : CharmConfig
  currentPort : Option String
  service : Option Service

section Handler

variable (loads : String → Option (Dict String String)) (site : Site)

/-- `annotations` (`charm.py`, lines 235–239). -/
def desiredAnnotations (config : CharmConfig) : Option (Dict String String) :=
  if config.exposeExternal = .loadBalancer then loads config.loadbalancerExtraAnnotations
  else some .empty

/-- `desired_service` (`charm.py`, lines 241–260); `none` where `json.loads`
    raises. -/
def desiredService (config : CharmConfig) : Option Service :=
  (desiredAnnotations loads config).map fun annotations => {
    name := site.k8sServiceName
    modelName := site.modelName
    ownerReferences := site.ownerReferences
    labels := [("app.kubernetes.io/name", site.appName)]
    annotations := annotations
    ports := [⟨"pgbouncer", config.listenPort, config.listenPort⟩]
    serviceType := config.exposeExternal
    selector := [("app.kubernetes.io/name", site.appName)] }

/-- `not port_changed and service_exists and service.spec.type ==
    desired_service_type.name` (`charm.py`, line 229). -/
def State.skips (s : State) (portChanged : Bool) : Bool :=
  !portChanged && s.service.any fun service => service.serviceType = s.config.exposeExternal

/-- `reconcile_k8s_service` (`charm.py`, lines 218–277). -/
def reconcileK8sService (s : State) (portChanged : Bool) : Option State :=
  if s.skips portChanged then some s
  else (desiredService loads site s.config).map fun service => { s with service := some service }

/-- `port_changed` (`charm.py`, lines 387–388). -/
def State.portChanged (s : State) : Bool := s.currentPort ≠ some (str s.config.listenPort)

/-- `_on_config_changed` (`charm.py`, lines 372–405); `none` where it raises. -/
def onConfigChanged (s : State) : Option State :=
  (reconcileK8sService loads site s s.portChanged).map fun s' =>
    if s.portChanged then { s' with currentPort := some (str s.config.listenPort) } else s'

/-- The operator sets the options and the leader handles `config-changed`. -/
def step (s : State) (config : CharmConfig) : Option State :=
  onConfigChanged loads site { s with config := config }

/-- Runs start in a fresh deployment, with any configuration and service. -/
def machine : Machine State CharmConfig where
  init s := s.currentPort = none
  step := step loads site

/-- The service has the type, the port and the annotations, and the rest of the
    description, that the configuration asks for. -/
def Converged (s : State) : Prop :=
  s.service.isSome = true ∧ s.service = desiredService loads site s.config

/-- An event that leaves the type `loadbalancer` and the port as they are, and
    changes the annotations. -/
def OnlyAnnotations (s : State) (config : CharmConfig) : Prop :=
  s.config.exposeExternal = .loadBalancer ∧ config.exposeExternal = .loadBalancer ∧
    config.listenPort = s.config.listenPort ∧
    loads config.loadbalancerExtraAnnotations ≠ loads s.config.loadbalancerExtraAnnotations

/-- The first event, or one that changes not only the annotations. -/
def ChangesMore (s : State) (config : CharmConfig) : Prop :=
  s.currentPort = none ∨ ¬ OnlyAnnotations loads s config

instance (s : State) : Decidable (Converged loads site s) :=
  inferInstanceAs (Decidable (_ ∧ _))

instance (s : State) (config : CharmConfig) : Decidable (ChangesMore loads s config) :=
  inferInstanceAs (Decidable (_ ∨ ¬ (_ ∧ _ ∧ _ ∧ _)))

end Handler

/-! ## One event -/

variable {loads : String → Option (Dict String String)} {site : Site} {s s' : State}
  {config : CharmConfig}

/-- The existing service has the type of the configuration. -/
def State.TypeMatches (s : State) (config : CharmConfig) : Prop :=
  ∃ service, s.service = some service ∧ service.serviceType = config.exposeExternal

/-- What a handled event does: it applies the description, unless the port is
    that of the last apply and the existing service has the desired type. -/
theorem step_cases (h : step loads site s config = some s') :
    (¬ (s.currentPort = some (str config.listenPort) ∧ s.TypeMatches config) ∧
      ∃ service, desiredService loads site config = some service ∧
        s' = ⟨config, some (str config.listenPort), some service⟩) ∨
    (s.currentPort = some (str config.listenPort) ∧ s.TypeMatches config ∧
      s' = ⟨config, s.currentPort, s.service⟩) := by
  obtain ⟨old, currentPort, service⟩ := s
  unfold step onConfigChanged reconcileK8sService at h
  obtain ⟨t, ht, hs'⟩ := Option.map_eq_some_iff.mp h
  have hskips : ∀ portChanged, (State.mk config currentPort service).skips portChanged = true ↔
      portChanged = false ∧ (State.mk old currentPort service).TypeMatches config := by
    intro portChanged
    simp [State.skips, State.TypeMatches, Option.any_eq_true]
  have hport : (State.mk config currentPort service).portChanged = false ↔
      currentPort = some (str config.listenPort) := by
    simp [State.portChanged]
  dsimp only at ht hs'
  split_ifs at ht with hskip
  · obtain ⟨hsame, htype⟩ := (hskips _).mp hskip
    rw [if_neg (by simp [hsame]), ← Option.some_inj.mp ht] at hs'
    exact .inr ⟨hport.mp hsame, htype, hs'.symm⟩
  · obtain ⟨desired, hd, rfl⟩ := Option.map_eq_some_iff.mp ht
    refine .inl ⟨fun hc => hskip ((hskips _).mpr ⟨hport.mpr hc.1, hc.2⟩), desired, hd, ?_⟩
    split_ifs at hs' with hchanged
    · exact hs'.symm
    · rw [Bool.not_eq_true] at hchanged
      rw [← hs', hport.mp hchanged]

/-- A state in which the description has been applied. -/
structure Applied (loads : String → Option (Dict String String)) (site : Site) (s : State) :
    Prop where
  currentPort : s.currentPort = some (str s.config.listenPort)
  converged : Converged loads site s

theorem Applied.typeMatches (h : Applied loads site s) : s.TypeMatches s.config := by
  obtain ⟨hsome, hdesired⟩ := h.converged
  obtain ⟨service, hservice⟩ := Option.isSome_iff_exists.mp hsome
  rw [hservice] at hdesired
  obtain ⟨annotations, -, rfl⟩ := Option.map_eq_some_iff.mp hdesired.symm
  exact ⟨_, hservice, rfl⟩

/-- Descriptions with one port and one type differ in the annotations at most. -/
theorem desiredService_eq_iff {c c' : CharmConfig} (hport : c.listenPort = c'.listenPort)
    (htype : c.exposeExternal = c'.exposeExternal) :
    desiredService loads site c = desiredService loads site c' ↔
      desiredAnnotations loads c = desiredAnnotations loads c' := by
  unfold desiredService
  rw [hport, htype]
  refine ⟨fun h => ?_, fun h => by rw [h]⟩
  exact Option.map_injective (fun a a' ha => congrArg Service.annotations ha) h

theorem desiredAnnotations_ne_iff {c c' : CharmConfig}
    (htype : c.exposeExternal = c'.exposeExternal) :
    desiredAnnotations loads c ≠ desiredAnnotations loads c' ↔
      c'.exposeExternal = .loadBalancer ∧ loads c.loadbalancerExtraAnnotations ≠
        loads c'.loadbalancerExtraAnnotations := by
  unfold desiredAnnotations
  rw [htype]
  by_cases hl : c'.exposeExternal = .loadBalancer
  · simp [hl]
  · simp [hl]

/-- An event leaves the service as described unless it changes only the
    annotations of a load balancer. -/
theorem converged_iff (hs : Applied loads site s) (h : step loads site s config = some s') :
    Converged loads site s' ↔ ¬ OnlyAnnotations loads s config := by
  rcases step_cases h with ⟨hno, service, hd, rfl⟩ | ⟨hport, htype, rfl⟩
  · refine ⟨fun _ => ?_, fun _ => ⟨rfl, hd.symm⟩⟩
    rintro ⟨hold, hnew, hsame, -⟩
    refine hno ⟨by rw [hs.currentPort, hsame], ?_⟩
    obtain ⟨service, hservice, hst⟩ := hs.typeMatches
    exact ⟨service, hservice, hst.trans (hold.trans hnew.symm)⟩
  · have hsame : config.listenPort = s.config.listenPort := by
      rw [hs.currentPort, Option.some_inj] at hport
      exact (Text.str_injective hport).symm
    have heq : config.exposeExternal = s.config.exposeExternal := by
      obtain ⟨service, hservice, hst⟩ := htype
      obtain ⟨service', hservice', hst'⟩ := hs.typeMatches
      obtain rfl : service = service' := by simpa [hservice] using hservice'
      exact hst.symm.trans hst'
    have hconv : Converged loads site ⟨config, s.currentPort, s.service⟩ ↔
        desiredAnnotations loads config = desiredAnnotations loads s.config := by
      rw [← desiredService_eq_iff hsame heq, ← hs.converged.2, eq_comm]
      exact ⟨fun hc => hc.2, fun hc => ⟨hs.converged.1, hc⟩⟩
    rw [hconv, ← not_iff_not, not_not, ← ne_eq, desiredAnnotations_ne_iff heq]
    constructor
    · rintro ⟨hl, hne⟩
      exact ⟨hl, heq.trans hl, hsame, hne⟩
    · rintro ⟨hl, -, -, hne⟩
      exact ⟨hl, hne⟩

/-! ## Runs -/

theorem config_step (h : step loads site s config = some s') :
    s'.config = config ∧ s'.currentPort = some (str config.listenPort) := by
  rcases step_cases h with ⟨-, _, -, rfl⟩ | ⟨hport, -, rfl⟩
  · exact ⟨rfl, rfl⟩
  · exact ⟨rfl, hport⟩

theorem converged_of_fresh (hs : s.currentPort = none) (h : step loads site s config = some s') :
    Converged loads site s' := by
  rcases step_cases h with ⟨-, service, hd, rfl⟩ | ⟨hport, -⟩
  · exact ⟨rfl, hd.symm⟩
  · rw [hs] at hport
    cases hport

/-- One event of a run: the description is the applied one afterwards. -/
theorem applied_step (hs : s.currentPort = none ∨ Applied loads site s)
    (hg : ChangesMore loads s config) (h : step loads site s config = some s') :
    Applied loads site s' := by
  obtain ⟨hconfig, hport⟩ := config_step h
  refine ⟨by rw [hport, hconfig], ?_⟩
  rcases hs with hfresh | ha
  · exact converged_of_fresh hfresh h
  · refine (converged_iff ha h).mpr (hg.resolve_left ?_)
    rw [ha.currentPort]
    exact Option.some_ne_none _

/-- In every run in which no event changes only the annotations of a load
    balancer, the service is as described after each handled event. -/
theorem converged_of_reach (hs : (machine loads site).Reach (ChangesMore loads) s)
    (hg : ChangesMore loads s config) (h : (machine loads site).step s config = some s') :
    Converged loads site s' := by
  have hi : s.currentPort = none ∨ Applied loads site s :=
    hs.invariant (I := fun s => s.currentPort = none ∨ Applied loads site s) (fun _ => .inl)
      fun _ _ _ _ hi hg ha => .inr (applied_step hi hg ha)
  exact (applied_step hi hg h).converged

/-! ## Two runs -/

/-- `json.loads` of an object with one entry `a` and of any other text. -/
def sampleLoads (text : String) : Option (Dict String String) :=
  if text = "\x7b\"a\": \"1\"\x7d" then some (Dict.empty.set "a" "1") else some .empty

def sampleSite : Site := ⟨"pgbouncer-k8s", "dev", ["pgbouncer-k8s"]⟩

/-- A valid configuration with this type and these annotations. -/
def sampleConfig (exposeExternal : ServiceType) (annotations : String) : CharmConfig :=
  ⟨6432, "session", 0, 100, exposeExternal, annotations, Nat.succ_pos _⟩

/-- A deployment before its first `config-changed`. -/
def fresh : State := ⟨sampleConfig .clusterIP "\x7b\x7d", none, none⟩

/-- The annotations of a load balancer change, and the service keeps the old
    ones. -/
theorem annotations_missed :
    ∃ s s', (machine sampleLoads sampleSite).Reach Machine.always s ∧
      (machine sampleLoads sampleSite).step s
        (sampleConfig .loadBalancer "\x7b\"a\": \"1\"\x7d") = some s' ∧
      ¬ Converged sampleLoads sampleSite s' := by
  obtain ⟨s, hs, hp⟩ := Machine.exists_reach_of_exec (machine sampleLoads sampleSite)
    Machine.always fresh [sampleConfig .loadBalancer "\x7b\x7d"]
    (fun s => (step sampleLoads sampleSite s
      (sampleConfig .loadBalancer "\x7b\"a\": \"1\"\x7d")).any
        fun s' => !decide (Converged sampleLoads sampleSite s')) rfl (by decide +kernel)
  obtain ⟨s', hs', hc⟩ := (Option.any_eq_true _ _).mp hp
  exact ⟨s, s', hs, hs', by simpa using hc⟩

/-- The load balancer is made a node port: the service follows. -/
theorem converged_nodePort :
    ∃ s s', (machine sampleLoads sampleSite).Reach (ChangesMore sampleLoads) s ∧
      (machine sampleLoads sampleSite).step s
        (sampleConfig .nodePort "\x7b\"a\": \"1\"\x7d") = some s' ∧
      Converged sampleLoads sampleSite s' := by
  obtain ⟨s, hs, hp⟩ := Machine.exists_reach_of_exec (machine sampleLoads sampleSite)
    (ChangesMore sampleLoads) fresh [sampleConfig .loadBalancer "\x7b\x7d"]
    (fun s => (step sampleLoads sampleSite s
      (sampleConfig .nodePort "\x7b\"a\": \"1\"\x7d")).isSome &&
        decide (ChangesMore sampleLoads s
          (sampleConfig .nodePort "\x7b\"a\": \"1\"\x7d"))) rfl (by decide +kernel)
  obtain ⟨hsome, hg⟩ := Bool.and_eq_true_iff.mp hp
  obtain ⟨s', hs'⟩ := Option.isSome_iff_exists.mp hsome
  exact ⟨s, s', hs, hs', converged_of_reach hs (of_decide_eq_true hg) hs'⟩

end PgBouncerK8s.K8sService
