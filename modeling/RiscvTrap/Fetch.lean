import RiscvTrap.Return

/-!
# The fetch gate and the net inputs

`riscvIFetchExcept`, through which every interrupt is delivered (`doInterrupt`),
the NMI (`doNMI`), and the callbacks of the hart's input nets: `nmi`, `haltreq`,
`resethaltreq`, `SC_valid`, the interrupt wires and their ID ports, and
`deferint`.  The `reset` net and the state restore reach the whole cluster and
are in `RiscvTrap.Cluster`.

The simulator calls the fetch gate twice per fetch, first to probe
(`complete` false, no state change in this file) and then to commit; the model is
the committing call.

* `deliveredInterrupt`: the interrupt the fetch gate would take now, and
  `riscvIFetchExcept_of_delivered`, that it takes it through `riscvTakeException`.
-/

namespace RiscvTrap

/-- `posedge`. -/
def posedge (old new : Bool) : Bool := !old && new

/-- `negedge`. -/
def negedge (old new : Bool) : Bool := old && !new

namespace Hart

variable (cfg : Config) (cc : Cliccfg) (host : Host) (h : Hart)

/-- `validateFetchAddressInt`: an executable address passes; a translation miss is
handled (and its exception raised) by the VM module; a mapped address that is not
executable takes an instruction access fault. -/
def validateFetchAddressInt (thisPC : BitVec 64) : Bool × Hart :=
  match host.fetchProbe thisPC with
  | .executable => (true, h)
  | .vmFault exc tval => (false, h.riscvTakeException cfg cc host exc tval)
  | .mapped executable =>
    if executable then (true, h)
    else (false, h.riscvTakeException cfg cc host .InstructionAccessFault thisPC)

/-- `validateFetchAddress`: the second half-word of a four-byte instruction is
checked too. -/
def validateFetchAddress (thisPC : BitVec 64) : Bool × Hart :=
  let (ok, h) := h.validateFetchAddressInt cfg cc host thisPC
  if !ok then (false, h)
  else if host.instrSize thisPC ≤ 2 then (true, h)
  else h.validateFetchAddressInt cfg cc host (thisPC + 2)

/-- `doInterrupt`: unregister the selected interrupt and take it (with no
selection, the `VMI_ASSERT` stops the simulation). -/
def doInterrupt : Hart :=
  let id := h.pendEnab.id
  let h := { h with pendEnab := { h.pendEnab with id := none } }
  match id with
  | none => h.emit .abort
  | some id => h.riscvTakeException cfg cc host (.int id) 0

/-- `riscvIFetchExcept` at the PC: Debug entry out of reset or on a halt request,
else the selected interrupt, else the checks of the fetch address.  The flag is
whether the fetch goes ahead. -/
def riscvIFetchExcept : Bool × Hart :=
  if h.netValue.resethaltreqS then
    (false, ({ h with netValue := { h.netValue with resethaltreqS := false } } : Hart).enterDM cfg
      .resethaltreq)
  else if h.netValue.haltreq && !h.DM then (false, h.enterDM cfg .haltreq)
  else if h.getPendingAndEnabled then (false, h.doInterrupt cfg cc host)
  else h.validateFetchAddress cfg cc host h.pc

/-- The interrupt the fetch gate takes in state `h`, if any. -/
def deliveredInterrupt : Option Nat :=
  if h.netValue.resethaltreqS || (h.netValue.haltreq && !h.DM) then none
  else if h.getPendingAndEnabled then h.pendEnab.id
  else none

/-- `doNMI`: restart, switch to Machine mode, write `mcause` and `mepc` whole, and
jump to the NMI address. -/
def doNMI : Hart :=
  let h := h.restartProcessor cfg.reasons.RESTART_NMI
  let h := h.setMode .machine
  let h := h.setCsr { h.csr with cause := h.csr.cause.set .machine (Cause.ofRaw cfg.xlen64 cfg.ecode_nmi) }
  let h := h.setCsr { h.csr with epc := h.csr.epc.set .machine h.getEPC }
  let h := { h with exception := .sync 0 }
  h.setPC cfg.nmi_address

/-! ### Net callbacks -/

/-- `nmiPortCB`: an NMI on the rising edge outside Debug mode; `dcsr.nmip`
mirrors the net. -/
def nmiPortCB (newValue : Bool) : Hart :=
  let h := if !h.DM && posedge h.netValue.nmi newValue then h.doNMI cfg else h
  let h := h.setCsr { h.csr with dcsr := { h.csr.dcsr with nmip := newValue } }
  { h with netValue := { h.netValue with nmi := newValue } }

/-- `haltreqPortCB`: the rising edge outside Debug mode makes the simulator call
the fetch gate. -/
def haltreqPortCB (newValue : Bool) : Hart :=
  let h := if !h.DM && posedge h.netValue.haltreq newValue then h.emit .doSynchronousInterrupt else h
  { h with netValue := { h.netValue with haltreq := newValue } }

/-- `resethaltreqPortCB`: sampled at reset. -/
def resethaltreqPortCB (newValue : Bool) : Hart :=
  { h with netValue := { h.netValue with resethaltreq := newValue } }

/-- `SCValidPortCB`: a low `SC_valid` drops the reservation. -/
def SCValidPortCB (newValue : Bool) : Hart := if !newValue then h.clearEA else h

/-- `interruptPortCB`: the wire of interrupt `index` changes. -/
def interruptPortCB (index : Nat) (newValue : Bool) : Hart :=
  if cfg.getIntNum ≤ index then h.emit .abort
  else
    let offset := index / 64
    let mask : BitVec 64 := 1#64 <<< (index % 64)
    let word := if newValue then h.ip offset ||| mask else h.ip offset &&& ~~~mask
    let h := { h with ip := Function.update h.ip offset word }
    let h := if cfg.CLICPresent then h.updateCLICInput cfg cc index newValue else h
    if cfg.basicICPresent then h.riscvUpdatePending cfg cc else h

/-- `interruptIDPortCB`: latch the ID of the external interrupt of a mode. -/
def interruptIDPortCB (offset newValue : Nat) : Hart :=
  if 4 ≤ offset then h.emit .abort
  else { h with extInt := Function.update h.extInt (Mode.ofField offset) newValue }

/-- `deferintPortCB`: interrupts held back while the net was high are handled when
it falls. -/
def deferintPortCB (newValue : Bool) : Hart :=
  let old := h.netValue.deferint
  let h := { h with netValue := { h.netValue with deferint := newValue } }
  if negedge old newValue then h.handlePendingAndEnabled else h

/-! ### The fetch gate delivers the selected interrupt -/

/-- When `deliveredInterrupt` names `id`, the fetch gate takes interrupt `id`, with
the selection cleared, through `riscvTakeException`. -/
theorem riscvIFetchExcept_of_delivered {id : Nat} (hd : h.deliveredInterrupt = some id) :
    h.riscvIFetchExcept cfg cc host =
      (false, ({ h with pendEnab := { h.pendEnab with id := none } } : Hart).riscvTakeException
        cfg cc host (.int id) 0) := by
  unfold deliveredInterrupt at hd
  unfold riscvIFetchExcept
  split_ifs at hd ⊢ with h1 h2 h3 h4 <;> simp_all [doInterrupt]

end Hart

end RiscvTrap
