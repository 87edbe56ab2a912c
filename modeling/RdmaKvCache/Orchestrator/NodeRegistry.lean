import RdmaKvCache.Common.Types

/-!
# The registry of nodes

`NodeRegistry` keeps the registered nodes and the connection of each.  The order
in which an unordered map is traversed is not specified, so a traversal is
modelled as the entries in some order and the callers say which.
-/

namespace RdmaKvCache

structure NodeRegistry where
  nodes : UnorderedMap ByteString NodeInfo := ∅
  nodesFd : UnorderedMap ByteString Int32 := ∅

namespace NodeRegistry

def addNode (registry : NodeRegistry) (node : NodeInfo) : NodeRegistry :=
  { registry with nodes := registry.nodes.insert node.nodeId node }

def addNodeFd
    (registry : NodeRegistry) (nodeId : ByteString) (fd : Int32) :
    NodeRegistry :=
  { registry with nodesFd := registry.nodesFd.insert nodeId fd }

def getNodeFd (registry : NodeRegistry) (nodeId : ByteString) :
    Option Int32 :=
  registry.nodesFd.lookup nodeId

def getTotalRegisteredNodes (registry : NodeRegistry) : Nat :=
  registry.nodes.entries.length

def getAllNodes (registry : NodeRegistry) : List NodeInfo :=
  registry.nodes.entries.map Sigma.snd

def getHealthyNodes (registry : NodeRegistry) (role : NodeRole) :
    List NodeInfo :=
  registry.getAllNodes.filter fun node =>
    decide (node.role = role) && node.isHealthy

end NodeRegistry

end RdmaKvCache
