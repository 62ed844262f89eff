import ChassisRegistry.Site
import ChassisRegistry.Coordinate

/-! # Generated identifiers

    The names under which a terminal is known to other systems, made from the
    site, the rack and shelf, and the terminal's coordinate. -/

namespace ChassisRegistry.Identifier

/-- `PON rack/shelf/slot/port:terminal.1.1` -/
def nasPort (rack shelf : UInt32) (c : TerminalCoordinate) : String :=
  s!"PON {rack.toNat}/{shelf.toNat}/{c.slot}/{c.port}:{c.terminal}.1.1"

/-- `site rack/shelf/slot/port:terminal.1.1` -/
def circuit (site : Site) (rack shelf : UInt32) (c : TerminalCoordinate) : String :=
  s!"{site} {rack.toNat}/{shelf.toNat}/{c.slot}/{c.port}:{c.terminal}.1.1"

/-- `site_slot_port_terminal_RG` -/
def subscriber (site : Site) (c : TerminalCoordinate) : String :=
  s!"{site}_{c.slot}_{c.port}_{c.terminal}_RG"

end ChassisRegistry.Identifier
