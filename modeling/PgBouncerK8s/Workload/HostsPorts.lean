import PgBouncerK8s.Lib.Lines
import PgBouncerK8s.Lib.Text
import PgBouncerK8s.Model.CharmConfig

/-!
# Endpoint strings

Models of `_get_node_address`, `get_node_hosts`, `get_hosts_ports` and
`check_service_connectivity` (`charm.py`, lines 535–631). The endpoints of the
service are written as `host:port`, joined by commas, and read back with
`split(",")` and `split(":")`. The nodes and the service are those that
Kubernetes returns; a call that fails is not modelled.

* `getHostsPorts_eq`: the text is the sorted join of the endpoints the service
  has.
* `decodes_iff`: the readers get the endpoints back exactly when each has an
  address, without a colon, and a port.
* `not_decodes_ipv6`: a node with an IPv6 address.
-/

namespace PgBouncerK8s.HostsPorts

open Text (str)

/-! ## Model -/

/-- An IPv4 or IPv6 address or a host name. -/
abbrev Address := { s : String // s ≠ "" ∧ ',' ∉ s.toList }

/-- The name of an application or a model. -/
abbrev Label := { s : String // ':' ∉ s.toList ∧ ',' ∉ s.toList }

/-- The types of node addresses. -/
inductive AddressType
  | externalIP
  | internalIP
  | hostname
  | externalDNS
  | internalDNS
  deriving DecidableEq

/-- `node.status.addresses`. -/
abbrev Node := List (AddressType × Address)

/-- An entry of `service.status.loadBalancer.ingress`. -/
structure Ingress where
  ip : Option Address
  hostname : Option Address

/-- An entry of `service.spec.ports`. -/
structure ServicePort where
  name : String
  nodePort : Option ℕ

/-- The service, spec and status. -/
structure Service where
  serviceType : ServiceType
  ports : List ServicePort
  ingress : List Ingress

/-- What `get_hosts_ports` reads. `nodes` are those of the peers and of the unit
    itself, `none` where there is no peer relation. -/
structure Cluster where
  appName : Label
  modelName : Label
  listenPort : ℕ
  nodes : Option (List Node)
  service : Option Service

/-- `_get_node_address` (`charm.py`, lines 535–542). -/
def getNodeAddress (node : Node) : Option Address :=
  [AddressType.externalIP, .internalIP, .hostname].findSome? fun typ =>
    (node.find? fun address => address.1 = typ).map Prod.snd

/-- `node_port`, the local variable the loop over the ports assigns
    (`charm.py`, lines 571–573). -/
def Service.pgbouncerPort (service : Service) : Option (Option ℕ) :=
  service.ports.foldl (fun nodePort p => if p.name = "pgbouncer" then some p.nodePort else nodePort)
    none

/-- `f"{host}"`. -/
def hostText : Option Address → String
  | some address => address.1
  | none => "None"

/-- `f"{node_port}"`. -/
def portText : Option ℕ → String
  | some port => str port
  | none => "None"

/-- `f"{host}:{port}"`. -/
def endpointText (host : Option Address) (port : Option ℕ) : String :=
  hostText host ++ ":" ++ portText port

namespace Cluster

variable (w : Cluster)

/-- The name of the service in the cluster. -/
def serviceHost : String :=
  w.appName.1 ++ "-service." ++ w.modelName.1 ++ ".svc.cluster.local"

/-- `get_node_hosts` (`charm.py`, lines 544–553). -/
def getNodeHosts : List (Option Address) := ((w.nodes.getD []).map getNodeAddress).dedup

/-- `get_hosts_ports` (`charm.py`, lines 555–585); `none` where `node_port` is
    not assigned. -/
def getHostsPorts : Option String :=
  match w.service with
  | none => some ""
  | some service =>
    match service.serviceType with
    | .clusterIP => some (w.serviceHost ++ ":" ++ str w.listenPort)
    | .nodePort =>
      let hosts := w.getNodeHosts
      match service.pgbouncerPort with
      | some nodePort =>
        some (Text.join ',' (Text.sortedSet (hosts.map fun host => endpointText host nodePort)))
      | none => if hosts = [] then some "" else none
    | .loadBalancer =>
      match service.ingress with
      | [] => some ""
      | ingress :: _ =>
        match ingress.ip, ingress.hostname with
        | some ip, _ => some (ip.1 ++ ":" ++ str w.listenPort)
        | none, some hostname => some (hostname.1 ++ ":" ++ str w.listenPort)
        | none, none => some ""

end Cluster

/-- What `connect_ex` and the resolver make of an endpoint. -/
inductive Connect
  | connected
  | refused
  | gaierror
  | otherError

/-- The exceptions of `check_service_connectivity`. -/
inductive Raised
  | valueError
  | unboundLocalError
  | other
  deriving DecidableEq

/-- The body of the loop over the endpoints (`charm.py`, lines 615–629). -/
def connectEndpoint (connect : String → ℕ → Connect) (endpoint : String) : Except Raised Bool :=
  match Text.split ':' endpoint with
  | [host, port] =>
    match Text.int port with
    | none => .error .valueError
    | some port =>
      match connect host port with
      | .connected => .ok true
      | .refused => .ok false
      | .gaierror => .ok false
      | .otherError => .error .other
  | _ => .error .valueError

/-- The loop over the endpoints. -/
def connectAll (connect : String → ℕ → Connect) : List String → Except Raised Bool
  | [] => .ok true
  | endpoint :: l => do
    if ← connectEndpoint connect endpoint then connectAll connect l else return false

/-- The loop over `endpoints_to_connect` (`charm.py`, lines 607–631). -/
def connectLists (connect : String → ℕ → Connect) : List String → Except Raised Bool
  | [] => .ok true
  | endpoints :: l =>
    if endpoints = "" then .ok false
    else do
      if ← connectAll connect (Text.split ',' endpoints) then connectLists connect l
      else return false

/-- `check_service_connectivity` (`charm.py`, lines 597–631). -/
def Cluster.checkServiceConnectivity (w : Cluster) (connect : String → ℕ → Connect) :
    Except Raised Bool :=
  match w.service with
  | none => .ok false
  | some service =>
    match w.getHostsPorts with
    | none => .error .unboundLocalError
    | some endpoints =>
      if endpoints ≠ "" ∨ service.serviceType ≠ .clusterIP then
        connectLists connect [endpoints, endpoints]
      else connectLists connect [endpoints]

/-! ## Endpoints -/

/-- One endpoint of the service: an address, which a node may not have, and a
    port. -/
structure HostPort where
  host : Option Address
  port : Option ℕ

/-- `f"{host}:{port}"` of an endpoint. -/
def HostPort.text (e : HostPort) : String := endpointText e.host e.port

/-- The endpoint has an address, without a colon, and a port. -/
def HostPort.Plain (e : HostPort) : Prop :=
  ∃ address port, e = ⟨some address, some port⟩ ∧ ':' ∉ address.1.toList

namespace Cluster

variable (w : Cluster)

theorem serviceHost_ok : w.serviceHost ≠ "" ∧ ',' ∉ w.serviceHost.toList := by
  constructor
  · intro h
    have hl := congrArg String.length h
    simp [serviceHost, String.length_append] at hl
  · intro h
    simp only [serviceHost, String.toList_append, List.mem_append] at h
    rcases h with ((h | h) | h) | h
    · exact w.appName.2.2 h
    · revert h; decide
    · exact w.modelName.2.2 h
    · revert h; decide

/-- The name of the service as an address. -/
def serviceAddress : Address := ⟨w.serviceHost, w.serviceHost_ok⟩

/-- The endpoints of the service. -/
def endpoints : List HostPort :=
  match w.service with
  | none => []
  | some service =>
    match service.serviceType with
    | .clusterIP => [⟨some w.serviceAddress, some w.listenPort⟩]
    | .nodePort =>
      match service.pgbouncerPort with
      | some nodePort => w.getNodeHosts.map fun host => ⟨host, nodePort⟩
      | none => []
    | .loadBalancer =>
      (service.ingress.head?.bind fun ingress => ingress.ip <|> ingress.hostname).toList.map
        fun address => ⟨some address, some w.listenPort⟩

/-- The addresses of the nodes and of the service. -/
def addresses : List Address :=
  w.serviceAddress :: ((w.nodes.getD []).flatten.map Prod.snd ++
    (w.service.toList.flatMap Service.ingress).flatMap fun ingress =>
      ingress.ip.toList ++ ingress.hostname.toList)

/-- The readers of the endpoint string get back what it was made of: its parts
    are the texts of the endpoints, and each splits into the address, which is
    one of a node or of the service, and the port. -/
def Decodes : Prop :=
  ∀ text, w.getHostsPorts = some text → text ≠ "" →
    (∀ part ∈ Text.split ',' text, ∃ e ∈ w.endpoints, e.text = part) ∧
    ∀ e ∈ w.endpoints, e.text ∈ Text.split ',' text ∧
      ∃ address port, e.host = some address ∧ e.port = some port ∧ address ∈ w.addresses ∧
        Text.split ':' e.text = [address.1, str port]

/-- `check_service_connectivity` does not raise `ValueError`, whatever the
    endpoints answer. -/
def NoValueError : Prop :=
  ∀ connect, w.checkServiceConnectivity connect ≠ .error .valueError

end Cluster

/-! ## The texts -/

theorem not_mem_str {c : Char} (hc : c.isDigit = false) (n : ℕ) : c ∉ (str n).toList := by
  intro h
  rw [Text.isDigit_of_mem_str h] at hc
  cases hc

theorem comma_not_mem_text (e : HostPort) : ',' ∉ e.text.toList := by
  obtain ⟨host, port⟩ := e
  simp only [HostPort.text, endpointText, String.toList_append, List.mem_append, not_or]
  refine ⟨⟨?_, by decide⟩, ?_⟩
  · cases host with
    | none => decide
    | some address => exact address.2.2
  · cases port with
    | none => decide
    | some port => exact not_mem_str (by decide) port

theorem text_ne_empty (e : HostPort) : e.text ≠ "" := by
  intro h
  have hl := congrArg String.length h
  simp [HostPort.text, endpointText, String.length_append] at hl

/-- An endpoint with an address and a port splits into the two exactly when the
    address has no colon. -/
theorem split_text_iff (address : Address) (port : ℕ) :
    Text.split ':' (endpointText (some address) (some port)) = [address.1, str port] ↔
      ':' ∉ address.1.toList := by
  have hport : ':' ∉ (str port).toList := not_mem_str (by decide) port
  have hsplit : Text.split ':' (endpointText (some address) (some port)) =
      Text.split ':' address.1 ++ [str port] :=
    Text.split_append address.1 (by decide) hport
  rw [hsplit]
  constructor
  · intro h
    have hself : Text.split ':' address.1 = [address.1] :=
      List.append_cancel_right (by simpa using h)
    obtain ⟨part, hp, hpart⟩ := List.mem_map.mp (hself ▸ List.mem_singleton_self address.1)
    have hmem := Lines.not_mem_of_mem_splitOn hp
    rwa [← hpart, String.toList_ofList]
  · intro h
    rw [Text.split_of_not_mem h]
    rfl

namespace Cluster

variable {w : Cluster} {text : String}

/-- The text is the sorted join of the endpoints. -/
theorem getHostsPorts_eq (h : w.getHostsPorts = some text) :
    text = Text.join ',' (Text.sortedSet (w.endpoints.map HostPort.text)) := by
  unfold getHostsPorts at h
  unfold endpoints
  cases hs : w.service with
  | none =>
    simp only [hs, Option.some_inj] at h
    simp [← h]
  | some service =>
    simp only [hs] at h ⊢
    cases ht : service.serviceType with
    | clusterIP =>
      simp only [ht, Option.some_inj] at h
      simp [← h, HostPort.text, endpointText, hostText, portText, serviceAddress]
    | nodePort =>
      simp only [ht] at h
      cases hp : service.pgbouncerPort with
      | none =>
        simp only [hp] at h
        split_ifs at h
        simpa using h.symm
      | some nodePort =>
        simp only [hp, Option.some_inj] at h
        rw [← h]
        simp only [List.map_map]
        rfl
    | loadBalancer =>
      simp only [ht] at h
      rcases hi : service.ingress with _ | ⟨⟨ip, hostname⟩, l⟩
      · simp only [hi, Option.some_inj] at h
        simp [← h]
      · rcases ip with _ | ip <;> rcases hostname with _ | hostname <;>
          simp only [hi, Option.some_inj] at h <;>
          simp [← h, HostPort.text, endpointText, hostText, portText]

/-- Where there are endpoints there is a text. -/
theorem exists_text (h : w.endpoints ≠ []) : ∃ text, w.getHostsPorts = some text := by
  unfold endpoints at h
  unfold getHostsPorts
  cases hs : w.service with
  | none => exact ⟨_, rfl⟩
  | some service =>
    simp only [hs] at h ⊢
    cases ht : service.serviceType with
    | clusterIP => exact ⟨_, rfl⟩
    | nodePort =>
      simp only [ht] at h ⊢
      cases hp : service.pgbouncerPort with
      | none => simp [hp] at h
      | some nodePort => exact ⟨_, rfl⟩
    | loadBalancer =>
      simp only
      split
      · exact ⟨_, rfl⟩
      · split <;> exact ⟨_, rfl⟩

/-- The parts of the text. -/
theorem split_getHostsPorts (h : w.getHostsPorts = some text) (hne : w.endpoints ≠ []) :
    Text.split ',' text = Text.sortedSet (w.endpoints.map HostPort.text) := by
  rw [getHostsPorts_eq h]
  apply Text.split_join
  · rwa [ne_eq, Text.sortedSet_eq_nil, List.map_eq_nil_iff]
  · intro part hp
    obtain ⟨e, -, rfl⟩ := List.mem_map.mp (Text.mem_sortedSet.mp hp)
    exact comma_not_mem_text e

/-- The text is empty where there are no endpoints. -/
theorem getHostsPorts_eq_empty_iff (h : w.getHostsPorts = some text) :
    text = "" ↔ w.endpoints = [] := by
  constructor
  · rintro rfl
    by_contra hne
    have hsplit := split_getHostsPorts h hne
    have hempty : Text.split ',' "" = [""] := by decide
    have hmem : "" ∈ Text.sortedSet (w.endpoints.map HostPort.text) := by
      rw [← hsplit, hempty]
      exact List.mem_singleton_self ""
    obtain ⟨e, -, he⟩ := List.mem_map.mp (Text.mem_sortedSet.mp hmem)
    exact text_ne_empty e he
  · intro hnil
    rw [getHostsPorts_eq h, hnil]
    simp

end Cluster

/-! ## The addresses -/

theorem mem_of_getNodeAddress {node : Node} {address : Address}
    (h : getNodeAddress node = some address) : ∃ typ, (typ, address) ∈ node := by
  obtain ⟨typ, -, hfind⟩ := List.exists_of_findSome?_eq_some h
  obtain ⟨entry, hentry, rfl⟩ := Option.map_eq_some_iff.mp hfind
  exact ⟨entry.1, List.mem_of_find?_eq_some hentry⟩

/-- The address of an endpoint is one of a node or of the service. -/
theorem Cluster.host_mem_addresses {w : Cluster} {e : HostPort} {address : Address}
    (he : e ∈ w.endpoints) (hhost : e.host = some address) : address ∈ w.addresses := by
  unfold endpoints at he
  unfold addresses
  cases hs : w.service with
  | none => simp [hs] at he
  | some service =>
    simp only [hs] at he
    cases ht : service.serviceType with
    | clusterIP =>
      simp only [ht, List.mem_singleton] at he
      subst he
      exact List.mem_cons.mpr (.inl (Option.some_inj.mp hhost).symm)
    | nodePort =>
      simp only [ht] at he
      cases hp : service.pgbouncerPort with
      | none => simp [hp] at he
      | some nodePort =>
        simp only [hp] at he
        obtain ⟨host, hmem, rfl⟩ := List.mem_map.mp he
        obtain ⟨node, hnode, hget⟩ := List.mem_map.mp (List.mem_dedup.mp hmem)
        obtain ⟨typ, hmem⟩ := mem_of_getNodeAddress (hget.trans hhost)
        refine List.mem_cons_of_mem _ (List.mem_append_left _ ?_)
        exact List.mem_map.mpr ⟨_, List.mem_flatten_of_mem hnode hmem, rfl⟩
    | loadBalancer =>
      simp only [ht, List.mem_map, Option.mem_toList, Option.bind_eq_some_iff] at he
      obtain ⟨address', ⟨ingress, hi, hor⟩, rfl⟩ := he
      obtain rfl := Option.some_inj.mp hhost
      refine List.mem_cons_of_mem _ (List.mem_append_right _ (List.mem_flatMap.mpr
        ⟨ingress, by simpa using List.mem_of_mem_head? hi, ?_⟩))
      cases hip : ingress.ip with
      | some ip =>
        have heq : address' = ip := by simpa [hip, eq_comm] using hor
        simp [heq]
      | none => simpa [hip, eq_comm] using hor

/-! ## The connectivity check -/

section Connect

variable {connect : String → ℕ → Connect}

/-- The part is an address without a colon and a port. -/
def Readable (part : String) : Prop := ∃ host port, Text.split ':' part = [host, str port]

theorem connectEndpoint_ne {part : String} (h : Readable part) :
    connectEndpoint connect part ≠ .error .valueError := by
  obtain ⟨host, port, hsplit⟩ := h
  simp only [connectEndpoint, hsplit, Text.int_str]
  cases connect host port <;> simp

theorem connectAll_ne {parts : List String} (h : ∀ part ∈ parts, Readable part) :
    connectAll connect parts ≠ .error .valueError := by
  induction parts with
  | nil => simp [connectAll]
  | cons part parts ih =>
    obtain ⟨hp, h⟩ := List.forall_mem_cons.mp h
    have hone : connectEndpoint connect part ≠ _ := connectEndpoint_ne hp
    rw [connectAll]
    cases hc : connectEndpoint connect part with
    | error e =>
      rw [hc] at hone
      exact hone
    | ok b =>
      cases b with
      | true => exact ih h
      | false => exact fun h => by cases h

theorem connectLists_ne {lists : List String}
    (h : ∀ endpoints ∈ lists, endpoints ≠ "" → ∀ part ∈ Text.split ',' endpoints, Readable part) :
    connectLists connect lists ≠ .error .valueError := by
  induction lists with
  | nil => simp [connectLists]
  | cons endpoints lists ih =>
    obtain ⟨hp, h⟩ := List.forall_mem_cons.mp h
    rw [connectLists]
    split_ifs with hne
    · simp
    have hone : connectAll connect (Text.split ',' endpoints) ≠ _ := connectAll_ne (hp hne)
    cases hc : connectAll connect (Text.split ',' endpoints) with
    | error e =>
      rw [hc] at hone
      exact hone
    | ok b =>
      cases b with
      | true => exact ih h
      | false => exact fun h => by cases h

end Connect

/-! ## What the readers get back -/

theorem HostPort.Plain.split {e : HostPort} (h : e.Plain) : Readable e.text := by
  obtain ⟨address, port, rfl, hcolon⟩ := h
  exact ⟨address.1, port, (split_text_iff address port).mpr hcolon⟩

theorem noValueError_of_plain {w : Cluster} (h : ∀ e ∈ w.endpoints, e.Plain) :
    w.NoValueError := by
  intro connect
  unfold Cluster.checkServiceConnectivity
  cases w.service with
  | none => simp
  | some service =>
    cases htext : w.getHostsPorts with
    | none => simp
    | some text =>
      have hparts : text ≠ "" → ∀ part ∈ Text.split ',' text, Readable part := by
        intro hne part hp
        rw [ne_eq, Cluster.getHostsPorts_eq_empty_iff htext] at hne
        rw [Cluster.split_getHostsPorts htext hne, Text.mem_sortedSet] at hp
        obtain ⟨e, he, rfl⟩ := List.mem_map.mp hp
        exact (h e he).split
      simp only
      split_ifs
      · exact connectLists_ne (by simpa using hparts)
      · exact connectLists_ne (by simpa using hparts)

/-- The readers get back what was written exactly when every endpoint has an
    address, without a colon, and a port. -/
theorem decodes_iff (w : Cluster) :
    w.Decodes ∧ w.NoValueError ↔ ∀ e ∈ w.endpoints, e.Plain := by
  constructor
  · rintro ⟨h, -⟩ e he
    have hne : w.endpoints ≠ [] := List.ne_nil_of_mem he
    obtain ⟨text, htext⟩ := Cluster.exists_text hne
    have hempty : text ≠ "" := fun h => hne ((Cluster.getHostsPorts_eq_empty_iff htext).mp h)
    obtain ⟨-, address, port, hhost, hport, -, hsplit⟩ := (h text htext hempty).2 e he
    obtain ⟨host, port'⟩ := e
    obtain rfl : host = some address := hhost
    obtain rfl : port' = some port := hport
    exact ⟨address, port, rfl, (split_text_iff address port).mp hsplit⟩
  · intro h
    refine ⟨fun text htext hempty => ?_, noValueError_of_plain h⟩
    rw [ne_eq, Cluster.getHostsPorts_eq_empty_iff htext] at hempty
    rw [Cluster.split_getHostsPorts htext hempty]
    refine ⟨fun part hp => by simpa using hp, fun e he => ⟨?_, ?_⟩⟩
    · exact Text.mem_sortedSet.mpr (List.mem_map_of_mem he)
    · obtain ⟨address, port, rfl, hcolon⟩ := h e he
      exact ⟨address, port, rfl, rfl, Cluster.host_mem_addresses he rfl,
        (split_text_iff address port).mpr hcolon⟩

/-- A `NodePort` service on a node with an IPv6 address. -/
def ipv6 : Cluster where
  appName := ⟨"pgbouncer-k8s", by decide⟩
  modelName := ⟨"dev", by decide⟩
  listenPort := 6432
  nodes := some [[(.internalIP, ⟨"fd00::1", by decide⟩)]]
  service := some ⟨.nodePort, [⟨"pgbouncer", some 30000⟩], []⟩

/-- The check of the connectivity raises `ValueError` there. -/
theorem not_decodes_ipv6 : ¬ (ipv6.Decodes ∧ ipv6.NoValueError) := by
  rintro ⟨-, h⟩
  exact h (fun _ _ => .connected) (by decide)

end PgBouncerK8s.HostsPorts
