import RiscvTrap.Basic
import RiscvTrap.State
import RiscvTrap.Core
import RiscvTrap.Scan
import RiscvTrap.Arbiter
import RiscvTrap.Clic
import RiscvTrap.Interrupt
import RiscvTrap.ClicState
import RiscvTrap.Debug
import RiscvTrap.Trap
import RiscvTrap.Return
import RiscvTrap.RoundTrip
import RiscvTrap.Fetch
import RiscvTrap.Delivery
import RiscvTrap.Resume
import RiscvTrap.Cluster
import RiscvTrap.Invariants
import RiscvTrap.Reachable
import RiscvTrap.DebugRuns
import RiscvTrap.Window
import RiscvTrap.Layout
import RiscvTrap.Ports
import RiscvTrap.Coherence
import RiscvTrap.Bus
import RiscvTrap.NoAbort
import RiscvTrap.Vmi
import RiscvTrap.Modes
import RiscvTrap.Warl
import RiscvTrap.Targets
import RiscvTrap.VectorFault
