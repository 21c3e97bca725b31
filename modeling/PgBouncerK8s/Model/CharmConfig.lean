import Mathlib.Data.Int.Notation
import Mathlib.Data.Nat.Notation

/-!
# The charm configuration

Model of `CharmConfig` (`config.py`) and of the access `self.config`
(`data_models.py`, lines 196–200), which builds it anew from the options every
time it is read.
-/

namespace PgBouncerK8s

/-- `ServiceType`. -/
inductive ServiceType
  | clusterIP
  | nodePort
  | loadBalancer
  deriving DecidableEq

/-- `ServiceType(value)`. -/
def ServiceType.ofValue (value : String) : Option ServiceType :=
  if value = "false" then some .clusterIP
  else if value = "nodeport" then some .nodePort
  else if value = "loadbalancer" then some .loadBalancer
  else none

/-- The options as Juju has them (`config.yaml`). -/
structure Options where
  listenPort : ℤ
  poolMode : String
  maxDbConnections : ℤ
  maxPreparedStatements : ℤ
  exposeExternal : String
  loadbalancerExtraAnnotations : String

/-- `CharmConfig`. -/
structure CharmConfig where
  listenPort : ℕ
  poolMode : String
  maxDbConnections : ℕ
  maxPreparedStatements : ℕ
  exposeExternal : ServiceType
  loadbalancerExtraAnnotations : String
  listenPort_pos : 0 < listenPort

/-- The values of `pool_mode`. -/
def poolModes : List String := ["session", "transaction", "statement"]

/-- `CharmConfig(**options)`; `none` where the validation raises `ValueError`. -/
def CharmConfig.build (o : Options) : Option CharmConfig :=
  if h : 0 < o.listenPort ∧ o.poolMode ∈ poolModes ∧ 0 ≤ o.maxDbConnections ∧
      0 ≤ o.maxPreparedStatements ∧ o.maxPreparedStatements ≤ 1000 then
    (ServiceType.ofValue o.exposeExternal).map fun serviceType =>
      { listenPort := o.listenPort.toNat
        poolMode := o.poolMode
        maxDbConnections := o.maxDbConnections.toNat
        maxPreparedStatements := o.maxPreparedStatements.toNat
        exposeExternal := serviceType
        loadbalancerExtraAnnotations := o.loadbalancerExtraAnnotations
        listenPort_pos := by
          have hpos := h.1
          omega }
  else none

end PgBouncerK8s
