import RdmaKvCache.Common.Types

/-!
# Configuration of a process

The sizes a process reads from its configuration file.  `required_mb` is not
read but computed from the others when the file is loaded, so a loaded
configuration is one whose `requiredMb` is that product.
-/

namespace RdmaKvCache

structure MemoryConfig where
  kvBufferMb : UInt64 := 16384
  requiredMb : UInt64 := 0
  layerSizeMb : UInt64 := 128
  maxConcurrentRequests : Int32 := 8
  deriving DecidableEq

structure Config where
  nodeId : ByteString
  role : ByteString
  numLayers : UInt32
  memory : MemoryConfig
  deriving DecidableEq

namespace Config

/-- The minimum buffer size, in megabytes. -/
def computeRequiredMb (config : Config) : UInt64 :=
  config.numLayers.toUInt64 * config.memory.layerSizeMb *
    config.memory.maxConcurrentRequests.toInt64.toUInt64

end Config

/-- What `Config::fromFile` returns. -/
structure LoadedConfig extends Config where
  requiredMb_eq : memory.requiredMb = toConfig.computeRequiredMb

namespace LoadedConfig

def fromFile (config : Config) : LoadedConfig where
  nodeId := config.nodeId
  role := config.role
  numLayers := config.numLayers
  memory :=
    { config.memory with requiredMb := config.computeRequiredMb }
  requiredMb_eq := rfl

end LoadedConfig

end RdmaKvCache
