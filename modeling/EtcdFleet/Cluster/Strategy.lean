import EtcdFleet.Cluster.Health

set_option autoImplicit false

/-!
# Strategies and the life of a cluster

A strategy realizes clusters of one type: a step for each stage of creation, update and deletion, the
question whether a cluster is as desired, and its status. Creation ends with the descriptor as it now
is; no other step changes one. The stages run one after the other, and the first failure ends the
run.
-/

namespace EtcdFleet

structure Strategy (Call : Type) (Reply : Call → Type) where
  name : String
  beforeCreate : Cluster → Program Call Reply Unit
  create : Cluster → Program Call Reply Unit
  afterCreate : Cluster → Program Call Reply Cluster
  beforeUpdate : Cluster → Program Call Reply Unit
  update : Cluster → Program Call Reply Unit
  afterUpdate : Cluster → Program Call Reply Unit
  beforeDelete : Cluster → Program Call Reply Unit
  delete : Cluster → Program Call Reply Unit
  afterDelete : Cluster → Program Call Reply Unit
  inSync : Cluster → Program Call Reply Bool
  /-- The endpoints are those that were discovered. -/
  status : Cluster → List String → Option TlsFiles → Observation StatusReport

namespace Strategy

variable {Call : Type} {Reply : Call → Type}

def idle (_ : Cluster) : Program Call Reply Unit := pure ()

def began (strategy : Strategy Call Reply) (operation : String) (cluster : Cluster) : Event :=
  ⟨.info, "Cluster operation",
    [("operation", operation), ("cluster", cluster.name), ("namespace", cluster.namespace),
      ("provider", strategy.name)]⟩

def skipped (cluster : Cluster) : Event :=
  ⟨.debug, "Remote resource in sync, skipping update",
    [("cluster", cluster.name), ("namespace", cluster.namespace)]⟩

def createCluster (strategy : Strategy Call Reply) (cluster : Cluster) :
    Program Call Reply Cluster := do
  Program.report (strategy.began "create" cluster)
  strategy.beforeCreate cluster
  strategy.create cluster
  strategy.afterCreate cluster

def updateCluster (strategy : Strategy Call Reply) (cluster : Cluster) :
    Program Call Reply Bool := do
  if ← strategy.inSync cluster then
    Program.report (skipped cluster)
    return false
  Program.report (strategy.began "update" cluster)
  strategy.beforeUpdate cluster
  strategy.update cluster
  strategy.afterUpdate cluster
  return true

def deleteCluster (strategy : Strategy Call Reply) (cluster : Cluster) :
    Program Call Reply Unit := do
  Program.report (strategy.began "delete" cluster)
  strategy.beforeDelete cluster
  strategy.delete cluster
  strategy.afterDelete cluster

end Strategy
end EtcdFleet
