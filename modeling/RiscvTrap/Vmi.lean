import RiscvTrap.Trap

/-!
# The memory-fault handlers

The simulator calls six handlers of `riscvExceptions.c` when a load or a store
faults: a misaligned address (`riscvRdAlignExcept`, `riscvWrAlignExcept`), a bus
abort (`riscvRdAbortExcept`, `riscvWrAbortExcept`), and a device error
(`riscvRdDeviceExcept`, `riscvWrDeviceExcept`).  Each takes the fault through
`riscvTakeMemoryException` with the code of its kind and the address as the trap
value; an abort met by the page-table walker only marks the walk, and a device
error first latches `AFErrorIn`.  The privilege-fault handlers hand the access to
`riscvVMMiss` of the address-translation code and are not modelled.

* `riscvTakeMemoryException_sync`: outside Debug mode, and unless a fault-only-first
  vector access suppresses it, a synchronous fault records its exception and
  latches `AFErrorOut` from `AFErrorIn` exactly for the access-fault codes.
* `memoryFault_report`: so each handler reports its own code, and `AFErrorOut`
  says `device` after a device error, nothing after a misaligned access, and
  whatever `AFErrorIn` held after a bus abort: this file never clears it.
-/

namespace RiscvTrap

/-- The page-table walker's flags the abort handlers read and set
(`riscv->PTWActive`, `riscv->PTWBadAddr`); the walker is outside this file. -/
structure Ptw where
  PTWActive : Bool
  PTWBadAddr : Bool
  deriving DecidableEq, Repr

namespace Hart

variable (cfg : Config) (cc : Cliccfg) (host : Host) (h : Hart)

/-- `riscvRdAlignExcept` and `riscvWrAlignExcept`: the fault is taken with the
address (the handlers then return `0`). -/
def alignExcept (exception : Exception) (address : BitVec 64) : Hart :=
  h.riscvTakeMemoryException cfg cc host exception address

def riscvRdAlignExcept (address : BitVec 64) : Hart :=
  h.alignExcept cfg cc host .LoadAddressMisaligned address

def riscvWrAlignExcept (address : BitVec 64) : Hart :=
  h.alignExcept cfg cc host .StoreAMOAddressMisaligned address

/-- `riscvRdAbortExcept` and `riscvWrAbortExcept`: during a page-table walk the walk
is marked bad and no trap is taken. -/
def abortExcept (exception : Exception) (ptw : Ptw) (address : BitVec 64) : Hart × Ptw :=
  if ptw.PTWActive then (h, { ptw with PTWBadAddr := true })
  else (h.riscvTakeMemoryException cfg cc host exception address, ptw)

def riscvRdAbortExcept (ptw : Ptw) (address : BitVec 64) : Hart × Ptw :=
  h.abortExcept cfg cc host .LoadAccessFault ptw address

def riscvWrAbortExcept (ptw : Ptw) (address : BitVec 64) : Hart × Ptw :=
  h.abortExcept cfg cc host .StoreAMOAccessFault ptw address

/-- `riscvRdDeviceExcept` and `riscvWrDeviceExcept`: the device error is latched in
`AFErrorIn`, then the fault is taken (the handlers then return `0`). -/
def deviceExcept (exception : Exception) (address : BitVec 64) : Hart :=
  ({ h with AFErrorIn := .device } : Hart).riscvTakeMemoryException cfg cc host exception address

def riscvRdDeviceExcept (address : BitVec 64) : Hart :=
  h.deviceExcept cfg cc host .LoadAccessFault address

def riscvWrDeviceExcept (address : BitVec 64) : Hart :=
  h.deviceExcept cfg cc host .StoreAMOAccessFault address

/-- What a taken fault reports: the exception recorded, and the access-fault
detail latched. -/
def FaultReport (h' : Hart) (exception : Exception) (AFErrorOut : AFault) : Prop :=
  h'.exception = exception ∧ h'.AFErrorOut = AFErrorOut

theorem AFErrorOut_trapPrologue (e : Exception) :
    (h.trapPrologue cfg e).AFErrorOut = if e.accessFaultCode then h.AFErrorIn else .none := by
  unfold trapPrologue; split <;> rfl

theorem AFErrorOut_setPP (X Y : Mode) : (h.setPP X Y).AFErrorOut = h.AFErrorOut := by
  cases X <;> rfl

/-- A synchronous trap is vectored to the base address, so it reports what the
prologue latched. -/
theorem takeTrap_sync (nested : Hart → Nat → BitVec 64 → Hart) {e : Exception}
    (he : e.isInterrupt = false) (tval : BitVec 64) :
    FaultReport (h.takeTrap cfg cc host nested e tval) e
      (if e.accessFaultCode then h.AFErrorIn else .none) := by
  simp only [FaultReport, takeTrap, trapVector, he, Bool.not_false, Bool.or_true, if_true]
  refine ⟨rfl, ?_⟩
  dsimp only [finishTrap, setPC, setMode]
  rw [AFErrorOut_setPP]
  exact AFErrorOut_trapPrologue cfg h e

/-- Unless a fault-only-first vector access past its first element suppresses it,
`handleFF` lets the fault through and keeps what the trap reads. -/
theorem handleFF_pass (hff : h.vFirstFault = false ∨ h.csr.vstart = 0) :
    h.handleFF.1 = false ∧ h.handleFF.2.DM = h.DM ∧ h.handleFF.2.AFErrorIn = h.AFErrorIn := by
  unfold handleFF
  split
  · rename_i hv
    simp only [hv, Bool.true_eq_false, false_or] at hff
    simp [hff]
  · exact ⟨rfl, rfl, rfl⟩

/-- **A synchronous memory fault outside Debug mode** records its exception and
latches `AFErrorOut` from `AFErrorIn` exactly for the access-fault codes, unless a
fault-only-first vector access past its first element suppresses it. -/
theorem riscvTakeMemoryException_sync (hd : h.DM = false)
    (hff : h.vFirstFault = false ∨ h.csr.vstart &&& cfg.vstartMask = 0) (e : Exception)
    (he : e.isInterrupt = false) (tval : BitVec 64) :
    FaultReport (h.riscvTakeMemoryException cfg cc host e tval) e
      (if e.accessFaultCode then h.AFErrorIn else .none) := by
  dsimp only [riscvTakeMemoryException, memoryExceptionWith]
  obtain ⟨hf, hdm, haf⟩ := handleFF_pass (h.setCsr { h.csr with vstart := h.csr.vstart &&& cfg.vstartMask }) hff
  generalize (h.setCsr _).handleFF = p at hf hdm haf ⊢
  obtain ⟨ff, h₁⟩ := p
  dsimp only at hf hdm haf ⊢
  rw [hf, if_neg Bool.false_ne_true, riscvTakeException, takeExceptionWith, if_neg (by simpa [hdm] using hd)]
  have ht := takeTrap_sync cfg cc host h₁ (vectorFault cfg cc host) he tval
  rwa [haf] at ht

/-- **Each memory-fault handler reports its own fault.**  Outside Debug mode and
outside a suppressing fault-only-first vector access, and for an abort outside a
page-table walk, each of the six handlers leaves the hart having taken its own
exception, with `AFErrorOut` `device` after a device error, clear after a
misaligned access, and after a bus abort whatever `AFErrorIn` held, which this
file never clears. -/
theorem memoryFault_report (hd : h.DM = false)
    (hff : h.vFirstFault = false ∨ h.csr.vstart &&& cfg.vstartMask = 0) (address : BitVec 64) {ptw : Ptw}
    (hw : ptw.PTWActive = false) :
    FaultReport (h.riscvRdAlignExcept cfg cc host address) .LoadAddressMisaligned .none ∧
      FaultReport (h.riscvWrAlignExcept cfg cc host address) .StoreAMOAddressMisaligned .none ∧
      FaultReport (h.riscvRdAbortExcept cfg cc host ptw address).1 .LoadAccessFault h.AFErrorIn ∧
      FaultReport (h.riscvWrAbortExcept cfg cc host ptw address).1 .StoreAMOAccessFault h.AFErrorIn ∧
      FaultReport (h.riscvRdDeviceExcept cfg cc host address) .LoadAccessFault .device ∧
      FaultReport (h.riscvWrDeviceExcept cfg cc host address) .StoreAMOAccessFault .device := by
  have take := riscvTakeMemoryException_sync cfg cc host h hd hff
  have dev := riscvTakeMemoryException_sync cfg cc host { h with AFErrorIn := .device } hd hff
  simp only [riscvRdAbortExcept, riscvWrAbortExcept, abortExcept, hw, Bool.false_eq_true, if_false]
  exact ⟨take .LoadAddressMisaligned rfl address, take .StoreAMOAddressMisaligned rfl address,
    take .LoadAccessFault rfl address, take .StoreAMOAccessFault rfl address,
    dev .LoadAccessFault rfl address, dev .StoreAMOAccessFault rfl address⟩

theorem memoryFault_report_reset :
    FaultReport ((Hart.new (Config.rv64 true) Host.flat default).riscvRdDeviceExcept (Config.rv64 true)
      (Cliccfg.initial true) Host.flat 0x80) .LoadAccessFault .device :=
  (memoryFault_report (Config.rv64 true) (Cliccfg.initial true) Host.flat _ rfl (.inl rfl) 0x80
    (show (⟨false, false⟩ : Ptw).PTWActive = false from rfl)).2.2.2.2.1

end Hart

end RiscvTrap
