import EtcdFleet.Cluster.Operated

set_option autoImplicit false

/-!
# Clusters run elsewhere

An imported cluster is observed and nothing more: it is always as desired, and no step of its life
touches the store.
-/

namespace EtcdFleet

def nothingToCreate (cluster : Cluster) : Event :=
  ⟨.debug, "Imported cluster, nothing to create",
    [("cluster", cluster.name), ("namespace", cluster.namespace)]⟩

namespace Strategy

def imported (settings : Settings) : Strategy StoreCall StoreReply where
  name := "imported"
  beforeCreate := idle
  create cluster := Program.report (nothingToCreate cluster)
  afterCreate := pure
  beforeUpdate := idle
  update := idle
  afterUpdate := idle
  beforeDelete := idle
  delete := idle
  afterDelete := idle
  inSync _ := pure true
  status := Cluster.statusUnder settings

end Strategy
end EtcdFleet
