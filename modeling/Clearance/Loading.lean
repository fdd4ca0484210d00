import Clearance.Configuration
import Clearance.Roster
import Clearance.Store.Host

/-!
# Loading

A host reads configurations and rosters from files, and opens the store that a configuration
chooses.

## Main definitions

* `Clearance.Host.loadConfiguration`, `Clearance.Host.loadRoster`, `Clearance.Host.openChosen`.
-/

namespace Clearance.Host

/-- Reads a file. -/
def readText (file : String) : HostM String := do ofDisk ((← get).disk.readText file)

/-- Reads a configuration from a file. -/
def loadConfiguration (file : String) : HostM Configuration := do
  let c ← liftM (Configuration.parse (← readText file))
  report [.configurationLoaded file]
  return c

/-- Reads a roster from a file. -/
def loadRoster (file : String) : HostM Roster := do
  let r ← liftM (Roster.parse (← readText file))
  report [.requestersLoaded r.users.size r.hierarchies.size file]
  return r

/-- Opens the store that is chosen and holds it under a handle. Persistent stores are opened through
the registry. -/
def openChosen (h : String) : StoreChoice → HostM Unit
  | .memory => openNew h (.memory {})
  | .empty => openNew h .empty
  | .persistent dir options => openRegistered h dir options

end Clearance.Host
