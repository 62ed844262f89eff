import ChassisRegistry.Sink
import ChassisRegistry.SiteMap

/-! # The sink in memory

    Keeps the blobs for as long as it lives. It can be switched to refuse
    every store. -/

namespace ChassisRegistry

/-- The content of the sink. -/
structure MemorySink where
  blobs   : SiteMap ByteArray
  failing : Bool

namespace MemorySink

/-- Nothing stored. -/
def empty : MemorySink := ⟨.empty, false⟩

instance : Inhabited MemorySink := ⟨empty⟩

/-- Stores a blob. -/
def store (site : Site) (blob : ByteArray) (m : MemorySink) : Except SinkError Unit × MemorySink :=
  if m.failing then (.error (.unavailable "memory sink set to fail"), m)
  else (.ok (), { m with blobs := m.blobs.insert site blob })

/-- All blobs. -/
def load (m : MemorySink) : List (Site × ByteArray) := m.blobs.entries

/-- The sink as such. -/
def sink : Sink MemorySink where
  store := store
  load m := .ok m.load

end MemorySink

end ChassisRegistry
