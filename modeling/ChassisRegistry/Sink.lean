import ChassisRegistry.Sink.Error
import ChassisRegistry.Site

/-! # Sinks

    Where snapshots are kept: one blob of bytes per site. A sink does not look
    into the bytes. -/

namespace ChassisRegistry

/-- A sink whose content is of type `σ`. -/
structure Sink (σ : Type) where
  /-- Puts a blob in place of the one of the site. -/
  store : Site → ByteArray → σ → Except SinkError Unit × σ
  /-- All blobs, in the order of their sites. -/
  load  : σ → Except SinkError (List (Site × ByteArray))

/-- A sink whose content is a part of something larger. -/
def Sink.within {σ τ : Type} (sink : Sink σ) (part : τ → σ) (change : σ → τ → τ) : Sink τ where
  store site blob s :=
    let (result, inner) := sink.store site blob (part s)
    (result, change inner s)
  load s := sink.load (part s)

end ChassisRegistry
