import RiscvTrap.ClicState

/-!
# Debug mode

Entry to and exit from Debug mode (`enterDM`, `leaveDM`, `riscvSetDM`), the
Debug-mode stall (`updateDMStall`), single-step (`riscvStepExcept`,
`riscvSetStepBreakpoint`) and the return path shared with the xRET instructions
(`clearMPRV`, `doERETCommon`).

`DebugFrame` is what an operation in Debug mode must leave alone: the mode, the
trap CSRs, the trap observers, the requests for the fetch gate (`doSyncCalls`:
no interrupt is scheduled), and `dcsr.prv`, `dcsr.cause`, `dpc` and
`inSaveRestore`, which leaving Debug mode reads.  `enterDM` keeps it once in
Debug mode (`debugFrame_enterDM`): the save of `dcsr` and `dpc` happens on the
first entry only.  `leaveDM_spec` says what leaving does.
-/

namespace RiscvTrap

namespace Hart

variable (cfg : Config) (cc : Cliccfg) (h : Hart)

/-- `updateDMStall`: only the halt flavour of Debug mode stalls the hart. -/
def updateDMStall (DMStall : Bool) : Hart :=
  if cfg.debug_mode = .halt then
    let h := { h with DMStall := DMStall }
    if DMStall then h.haltProcessor cfg.reasons.DEBUG else h.restartProcessor cfg.reasons.DEBUG
  else h

/-- `setDM` (the write of the Debug-mode output net is not modelled). -/
def setDM (DM : Bool) : Hart := { h with DM := DM }

/-- The first-entry half of `enterDM`: save the mode, the cause and the return
address, and switch to Machine mode.  The instruction-count inhibit bookkeeping
is not modelled. -/
def enterDMSave (cause : DmCause) : Hart :=
  let h := h.setDM true
  let dcsr := { h.csr.dcsr with prv := h.mode, cause := cause }
  let h := h.setCsr { h.csr with dcsr := dcsr, dpc := h.getEPC }
  h.setMode .machine

/-- The second half of `enterDM`: what every entry does, by `debug_mode`; `wasDM`
is whether the hart was in Debug mode already. -/
def enterDMAction (wasDM : Bool) : Hart :=
  match cfg.debug_mode with
  | .interrupt => h.emit .interrupt
  | .vector => h.setPC (if wasDM then cfg.dexc_address else cfg.debug_address)
  | _ => h.updateDMStall cfg true

/-- `enterDM`. -/
def enterDM (cause : DmCause) : Hart :=
  let DM := h.DM
  let h := if !DM then h.enterDMSave cause else h
  h.enterDMAction cfg DM

/-- `clearMPRV`: from the version after 20190405, a return below Machine mode
clears `mstatus.MPRV`. -/
def clearMPRV (newMode : Mode) : Hart :=
  if cfg.privAfter20190405 && newMode ≠ .machine then
    h.setCsr { h.csr with mstatus := { h.csr.mstatus with MPRV := false } }
  else h

/-- `doERETCommon`: switch mode, jump, notify the derived model and test for
interrupts. -/
def doERETCommon (retMode newMode : Mode) (epc : BitVec 64) : Hart :=
  let h := h.setMode newMode
  let h := h.setPCxRET epc
  let h := h.emit (.eret retMode)
  h.riscvTestInterrupt cfg cc

/-- `leaveDM`. -/
def leaveDM : Hart :=
  let newMode := h.csr.dcsr.prv
  let h := h.setDM false
  let h := h.clearMPRV cfg newMode
  let h := h.doERETCommon cfg cc .machine newMode h.csr.dpc
  h.updateDMStall cfg false

/-- `riscvSetDM`: nothing changes during a state restore. -/
def riscvSetDM (DM : Bool) : Hart :=
  if h.DM = DM || h.inSaveRestore then h
  else if DM then h.enterDM cfg .haltreq
  else h.leaveDM cfg cc

/-- `riscvSetDMStall`. -/
def riscvSetDMStall (DMStall : Bool) : Hart := h.updateDMStall cfg DMStall

/-- `riscvStepExcept`: the step timer enters Debug mode. -/
def riscvStepExcept : Hart :=
  if !h.DM && h.csr.dcsr.step then h.enterDM cfg .step else h

/-- `riscvSetStepBreakpoint`. -/
def riscvSetStepBreakpoint : Hart :=
  if !h.DM && h.csr.dcsr.step then h.emit .setModelTimer else h

/-! ### Requests for the fetch gate -/

/-- How many times the hart has called `vmirtDoSynchronousInterrupt`, which makes
the simulator run the fetch gate: the way a pending interrupt, or a halt request,
is delivered. -/
def doSyncCalls : Nat := h.effects.count .doSynchronousInterrupt

@[simp] theorem doSyncCalls_emit {e : Effect} (he : e ≠ .doSynchronousInterrupt) :
    (h.emit e).doSyncCalls = h.doSyncCalls :=
  List.count_cons_of_ne (Ne.symm he) _

theorem doSyncCalls_restartProcessor (r : BitVec 32) :
    (h.restartProcessor r).doSyncCalls = h.doSyncCalls := by
  simp only [restartProcessor]; split <;> simp [doSyncCalls, emit]

theorem doSyncCalls_haltProcessor (r : BitVec 32) :
    (h.haltProcessor r).doSyncCalls = h.doSyncCalls := by
  simp only [haltProcessor]; split <;> simp [doSyncCalls, emit]

theorem doSyncCalls_refreshPendingAndEnabled :
    (h.refreshPendingAndEnabled cfg cc).doSyncCalls = h.doSyncCalls := by
  have hp : ∀ h₁ : Hart, (h₁.refreshPendingAndEnabledCLIC cfg cc).doSyncCalls = h₁.doSyncCalls := by
    intro h₁
    dsimp only [refreshPendingAndEnabledCLIC]
    generalize List.foldl _ _ _ = p
    cases p.2 with
    | none => rfl
    | some m => simp only [presentCLIC]; split_ifs <;> simp [doSyncCalls, emit]
  dsimp only [refreshPendingAndEnabled]
  split <;> split <;> first | rfl | exact hp _

/-- In Debug mode the hart never asks for the fetch gate: `getPendingAndEnabled`
is false there. -/
theorem doSyncCalls_handlePendingAndEnabled (hd : h.DM = true) :
    h.handlePendingAndEnabled.doSyncCalls = h.doSyncCalls := by
  simp [handlePendingAndEnabled, getPendingAndEnabled, hd]

theorem doSyncCalls_riscvTestInterrupt (hd : h.DM = true) :
    (h.riscvTestInterrupt cfg cc).doSyncCalls = h.doSyncCalls := by
  have hr := (pickFrame_refreshPendingAndEnabled cfg cc h).sel
  have hq := doSyncCalls_refreshPendingAndEnabled cfg cc h
  dsimp only [riscvTestInterrupt]
  split
  · have hf := hr.trans (selFrame_restartProcessor _ cfg.reasons.RESTART_WFI)
    rw [doSyncCalls_handlePendingAndEnabled _ (hf.DM.trans hd), doSyncCalls_restartProcessor, hq]
  · rw [doSyncCalls_handlePendingAndEnabled _ (hr.DM.trans hd), hq]

section
variable (hd : h.DM = true) (i : Nat)
include hd

theorem doSyncCalls_updateCLICInterruptField (type : Nat) (v : BitVec 8) :
    (h.updateCLICInterruptField cfg cc i type v).doSyncCalls = h.doSyncCalls := by
  unfold updateCLICInterruptField; split
  · exact doSyncCalls_riscvTestInterrupt cfg cc _ hd
  · rfl

theorem doSyncCalls_writeCLICInterruptIPE (type other : Nat) (v : BitVec 8) :
    (h.writeCLICInterruptIPE cfg cc type other i v).doSyncCalls = h.doSyncCalls := by
  dsimp only [writeCLICInterruptIPE]; split
  · exact doSyncCalls_riscvTestInterrupt cfg cc _ hd
  · rfl

theorem doSyncCalls_updateCLICInput (v : Bool) :
    (h.updateCLICInput cfg cc i v).doSyncCalls = h.doSyncCalls := by
  dsimp only [updateCLICInput]; split
  · exact doSyncCalls_writeCLICInterruptIPE cfg cc h hd i _ _ _
  · rfl

end

/-! ### Operations inside Debug mode -/

/-- What an operation in Debug mode leaves alone. -/
structure DebugFrame (h h' : Hart) : Prop where
  DM : h'.DM = h.DM
  mode : h'.mode = h.mode
  mstatus : h'.csr.mstatus = h.csr.mstatus
  cause : h'.csr.cause = h.csr.cause
  epc : h'.csr.epc = h.csr.epc
  tval : h'.csr.tval = h.csr.tval
  mintstatus : h'.csr.mintstatus = h.csr.mintstatus
  dcsr_prv : h'.csr.dcsr.prv = h.csr.dcsr.prv
  dcsr_cause : h'.csr.dcsr.cause = h.csr.dcsr.cause
  dpc : h'.csr.dpc = h.csr.dpc
  compressed : h'.compressed = h.compressed
  traps : h'.traps = h.traps
  inSaveRestore : h'.inSaveRestore = h.inSaveRestore
  /-- No interrupt is scheduled: `vmirtDoSynchronousInterrupt` is not called. -/
  doSyncCalls : h'.doSyncCalls = h.doSyncCalls

theorem DebugFrame.refl : DebugFrame h h := by constructor <;> rfl

theorem DebugFrame.trans {h₁ h₂ h₃ : Hart} (h12 : DebugFrame h₁ h₂) (h23 : DebugFrame h₂ h₃) :
    DebugFrame h₁ h₃ where
  DM := h23.DM.trans h12.DM
  mode := h23.mode.trans h12.mode
  mstatus := h23.mstatus.trans h12.mstatus
  cause := h23.cause.trans h12.cause
  epc := h23.epc.trans h12.epc
  tval := h23.tval.trans h12.tval
  mintstatus := h23.mintstatus.trans h12.mintstatus
  dcsr_prv := h23.dcsr_prv.trans h12.dcsr_prv
  dcsr_cause := h23.dcsr_cause.trans h12.dcsr_cause
  dpc := h23.dpc.trans h12.dpc
  compressed := h23.compressed.trans h12.compressed
  traps := h23.traps.trans h12.traps
  inSaveRestore := h23.inSaveRestore.trans h12.inSaveRestore
  doSyncCalls := h23.doSyncCalls.trans h12.doSyncCalls

/-- A change that keeps the mode, the CSRs, `DM`, `compressed`, the trap
observers and `inSaveRestore`, and schedules no interrupt, is a Debug frame. -/
theorem DebugFrame.of_eq {h h' : Hart} (hd : h'.DM = h.DM) (hm : h'.mode = h.mode)
    (hc : h'.csr = h.csr) (hcomp : h'.compressed = h.compressed) (ht : h'.traps = h.traps)
    (hs : h'.inSaveRestore = h.inSaveRestore) (hq : h'.doSyncCalls = h.doSyncCalls) :
    DebugFrame h h' := by
  constructor <;> simp only [hd, hm, hc, hcomp, ht, hs, hq]

theorem SelFrame.debug {h h' : Hart} (hf : SelFrame h h') (hq : h'.doSyncCalls = h.doSyncCalls) :
    DebugFrame h h' :=
  .of_eq hf.DM hf.mode hf.csr hf.compressed hf.traps hf.inSaveRestore hq

theorem CoreFrame.debug {h h' : Hart} (hf : CoreFrame h h') (hq : h'.doSyncCalls = h.doSyncCalls) :
    DebugFrame h h' :=
  .of_eq hf.DM hf.mode hf.csr hf.compressed hf.traps hf.inSaveRestore hq

theorem debugFrame_updateDMStall (b : Bool) : DebugFrame h (h.updateDMStall cfg b) := by
  have h0 : DebugFrame h { h with DMStall := b } := .of_eq rfl rfl rfl rfl rfl rfl rfl
  dsimp only [updateDMStall]
  split
  · split
    · exact h0.trans ((selFrame_haltProcessor _ _).debug (doSyncCalls_haltProcessor _ _))
    · exact h0.trans ((selFrame_restartProcessor _ _).debug (doSyncCalls_restartProcessor _ _))
  · exact .refl h

theorem debugFrame_enterDMAction (b : Bool) : DebugFrame h (h.enterDMAction cfg b) := by
  unfold enterDMAction
  split
  · exact (selFrame_emit h _).debug (doSyncCalls_emit h (by decide))
  · exact .of_eq rfl rfl rfl rfl rfl rfl rfl
  · exact debugFrame_updateDMStall cfg h _

/-- **Once in Debug mode, entering again saves nothing.** -/
theorem debugFrame_enterDM (hd : h.DM = true) (cause : DmCause) :
    DebugFrame h (h.enterDM cfg cause) := by
  simp only [enterDM, hd, Bool.not_true, Bool.false_eq_true, if_false]
  exact debugFrame_enterDMAction cfg h _

theorem DebugFrame.enterDM {h h₁ : Hart} (hf : DebugFrame h h₁) (hd : h.DM = true) (cause : DmCause) :
    DebugFrame h (h₁.enterDM cfg cause) :=
  hf.trans (debugFrame_enterDM cfg h₁ (hf.DM.trans hd) cause)

theorem DM_enterDM (cause : DmCause) : (h.enterDM cfg cause).DM = true := by
  simp only [enterDM]
  rw [(debugFrame_enterDMAction cfg _ _).DM]
  cases hd : h.DM <;> simp [enterDMSave, setDM, hd]

/-- The first entry saves the mode, the cause and the return address. -/
theorem enterDM_save (hd : h.DM = false) (cause : DmCause) :
    let h' := h.enterDM cfg cause
    h'.csr.dcsr.prv = h.mode ∧ h'.csr.dcsr.cause = cause ∧ h'.csr.dpc = h.getEPC ∧
      h'.compressed = h.compressed ∧ h'.inSaveRestore = h.inSaveRestore := by
  have hf := debugFrame_enterDMAction cfg (h.enterDMSave cause) false
  simp only [enterDM, hd, Bool.not_false, if_true]
  exact ⟨hf.dcsr_prv, hf.dcsr_cause, hf.dpc, hf.compressed, hf.inSaveRestore⟩

/-! ### Leaving Debug mode -/

theorem updateDMStall_frame (b : Bool) :
    let h' := h.updateDMStall cfg b
    h'.DM = h.DM ∧ h'.mode = h.mode ∧ h'.pc = h.pc ∧ h'.csr = h.csr ∧ h'.compressed = h.compressed := by
  dsimp only [updateDMStall]
  split
  · split
    · have hf := selFrame_haltProcessor ({ h with DMStall := b } : Hart) cfg.reasons.DEBUG
      exact ⟨hf.DM, hf.mode, hf.pc, hf.csr, hf.compressed⟩
    · have hf := selFrame_restartProcessor ({ h with DMStall := b } : Hart) cfg.reasons.DEBUG
      exact ⟨hf.DM, hf.mode, hf.pc, hf.csr, hf.compressed⟩
  · exact ⟨rfl, rfl, rfl, rfl, rfl⟩

section
variable (b : Bool) (retMode newMode : Mode) (epc : BitVec 64)

@[simp] theorem updateDMStall_DM : (h.updateDMStall cfg b).DM = h.DM := (updateDMStall_frame cfg h b).1
@[simp] theorem updateDMStall_mode : (h.updateDMStall cfg b).mode = h.mode :=
  (updateDMStall_frame cfg h b).2.1
@[simp] theorem updateDMStall_pc : (h.updateDMStall cfg b).pc = h.pc := (updateDMStall_frame cfg h b).2.2.1
@[simp] theorem updateDMStall_csr : (h.updateDMStall cfg b).csr = h.csr :=
  (updateDMStall_frame cfg h b).2.2.2.1

@[simp] theorem doERETCommon_DM : (h.doERETCommon cfg cc retMode newMode epc).DM = h.DM :=
  (selFrame_riscvTestInterrupt cfg cc _).DM
@[simp] theorem doERETCommon_mode : (h.doERETCommon cfg cc retMode newMode epc).mode = newMode :=
  (selFrame_riscvTestInterrupt cfg cc _).mode
@[simp] theorem doERETCommon_csr : (h.doERETCommon cfg cc retMode newMode epc).csr = h.csr :=
  (selFrame_riscvTestInterrupt cfg cc _).csr
@[simp] theorem doERETCommon_compressed :
    (h.doERETCommon cfg cc retMode newMode epc).compressed = h.compressed :=
  (selFrame_riscvTestInterrupt cfg cc _).compressed
@[simp] theorem doERETCommon_pc :
    (h.doERETCommon cfg cc retMode newMode epc).pc = if h.compressed then epc else epc &&& ~~~3 :=
  (selFrame_riscvTestInterrupt cfg cc _).pc
@[simp] theorem doERETCommon_traps : (h.doERETCommon cfg cc retMode newMode epc).traps = h.traps :=
  (selFrame_riscvTestInterrupt cfg cc _).traps

@[simp] theorem csr_clearMPRV :
    (h.clearMPRV cfg newMode).csr = { h.csr with mstatus := { h.csr.mstatus with
      MPRV := if cfg.privAfter20190405 && newMode ≠ .machine then false else h.csr.mstatus.MPRV } } := by
  unfold clearMPRV; split <;> simp_all

@[simp] theorem clearMPRV_DM : (h.clearMPRV cfg newMode).DM = h.DM := by unfold clearMPRV; split <;> rfl
@[simp] theorem clearMPRV_mode : (h.clearMPRV cfg newMode).mode = h.mode := by
  unfold clearMPRV; split <;> rfl
@[simp] theorem clearMPRV_compressed : (h.clearMPRV cfg newMode).compressed = h.compressed := by
  unfold clearMPRV; split <;> rfl

end

/-- **Leaving Debug mode** returns to `dcsr.prv` at `dpc` (its low two bits
cleared without compressed instructions), and leaves `dcsr` as it was. -/
theorem leaveDM_spec :
    let h' := h.leaveDM cfg cc
    h'.DM = false ∧ h'.mode = h.csr.dcsr.prv ∧
      h'.pc = (if h.compressed then h.csr.dpc else h.csr.dpc &&& ~~~3) ∧
      h'.csr.dcsr = h.csr.dcsr := by
  simp [leaveDM, setDM]

end Hart

end RiscvTrap
