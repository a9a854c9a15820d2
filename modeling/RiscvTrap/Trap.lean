import RiscvTrap.Debug

/-!
# Taking a trap

`riscvTakeException` and its callers (`riscvTakeMemoryException`,
`riscvIllegalInstruction`, `riscvInstructionAddressMisaligned`, `riscvECALL`,
`riscvEBREAK`).

The source is one long function; the model cuts it where the source's own
comments do:

* `trapPrologue`: the retired-instruction count, the access-fault detail and the
  reservation;
* `trapModeX`, `reportedCode`, `trapLevel`: the target mode `X`, the code
  reported in `xcause` and the interrupt level;
* `targetModeX` (`TARGET_MODE_X`) and `setPP`: the CSR updates of mode `X`'s bank;
* `trapVector`: the handler address, direct, vectored, CLIC or CLIC selective
  hardware vectoring (SHV), whose vector-table read may itself trap.

That nested trap is a load fault raised by the memory system through
`riscvTakeMemoryException`; it is synchronous, so it never reaches the vector
read again.  `takeExceptionWith` takes it as a parameter, and `riscvTakeException`
instantiates it with the synchronous engine (`takeTrap_sync`, in `RiscvTrap.Vmi`,
shows the instance does not matter for synchronous codes).
-/

namespace RiscvTrap

namespace Config

variable (cfg : Config)

/-- `ptrBytes`: the size of a vector-table entry, `XLEN/8`. -/
def ptrBytes : Nat := if cfg.xlen64 then 8 else 4

/-- The address of the vector-table entry of `intNum`, `TBASE + ptrBytes*intNum`
with the product an `Uns32`. -/
def vectorAddress (TBASE : BitVec 64) (intNum : Nat) : BitVec 64 :=
  TBASE + (BitVec.ofNat 32 (cfg.ptrBytes * intNum)).setWidth 64

end Config

/-- The CSRs of a trap to `X` from `modeY`, as `TARGET_MODE_X` and the
previous-privilege write leave them, given the final `xcause.inhv`: the enable
stack pushed, `SPP` or `MPP` written, and `xcause`, `xepc`, `xtval` and the level
`xil` of the bank of `X`. -/
def trapCsr (cfg : Config) (c : Csrs) (X modeY : Mode) (isInt : Bool) (ecode : Nat)
    (EPC tval : BitVec 64) (level : Option (BitVec 8)) (inhv : Bool) : Csrs :=
  { c with
    mstatus := { c.mstatus with
      IE := c.mstatus.IE.set X false,
      PIE := c.mstatus.PIE.set X (c.mstatus.IE.get X),
      SPP := if X = .supervisor then modeY.toSPP else c.mstatus.SPP,
      MPP := if 2 ≤ X.toNat then modeY else c.mstatus.MPP },
    cause := c.cause.set X
      { ExceptionCode := BitVec.ofNat 12 ecode, Interrupt := isInt,
        pil := c.mintstatus.get X, inhv := inhv },
    epc := c.epc.set X (EPC &&& cfg.epcMask.get X),
    tval := c.tval.set X tval,
    mintstatus := match level with
      | some l => c.mintstatus.set X l
      | none => c.mintstatus }

namespace Hart

variable (cfg : Config) (cc : Cliccfg) (host : Host) (h : Hart)

/-- The start of a trap: count the instruction unless it retired (or counting is
inhibited), latch or clear the access-fault detail, drop the reservation. -/
def trapPrologue (exception : Exception) : Hart :=
  let h := if !exception.retiredCode cfg.privBefore112 && !h.csr.inhibitIR then
      { h with baseInstructions := h.baseInstructions + 1 } else h
  let h := { h with AFErrorOut := if exception.accessFaultCode then h.AFErrorIn else .none }
  h.clearEA

/-- The target mode `X`: delegation for exceptions and basic interrupts, the CLIC
selection's mode for CLIC interrupts. -/
def trapModeX : Exception → Mode
  | .sync c => h.getExceptionModeX c
  | .int i => if h.pendEnab.isCLIC then h.pendEnab.priv else h.getInterruptModeX i

/-- The code reported in `xcause`: an external interrupt reports the ID latched on
its mode's ID port, when non-zero. -/
def reportedCode (exception : Exception) : Nat :=
  let ecode := exception.getExceptionCode
  if exception.isExternalInterrupt then
    let id := h.extInt (Mode.ofField (ecode - Exception.UExternalInterrupt))
    if id ≠ 0 then id else ecode
  else ecode

/-- The interrupt level of the trap: the selection's for an interrupt, `0` for a
vertical exception, none (`-1`) for a horizontal one. -/
def trapLevel (exception : Exception) (modeX : Mode) : Option (BitVec 8) :=
  if exception.isInterrupt then some h.pendEnab.level
  else if modeX ≠ h.mode then some 0
  else none

/-- `TARGET_MODE_X` for the bank of `X`. -/
def targetModeX (X : Mode) (isInt : Bool) (ecode : Nat) (EPC tval : BitVec 64)
    (level : Option (BitVec 8)) : Hart :=
  let c := h.csr
  let IE := c.mstatus.IE.get X
  let IL := c.mintstatus.get X
  let mstatus := { c.mstatus with PIE := c.mstatus.PIE.set X IE, IE := c.mstatus.IE.set X false }
  let cause : Cause := if !h.useCLIC cfg .machine then ⟨0, false, 0, false⟩ else c.cause.get X
  let cause := { cause with ExceptionCode := BitVec.ofNat 12 ecode, Interrupt := isInt, pil := IL }
  let mintstatus := match level with
    | some l => c.mintstatus.set X l
    | none => c.mintstatus
  h.setCsr { c with
    mstatus := mstatus, cause := c.cause.set X cause, epc := c.epc.set X (EPC &&& cfg.epcMask.get X),
    tval := c.tval.set X tval, mintstatus := mintstatus }

/-- The previous-privilege write of a trap to `X` from `modeY`. -/
def setPP (X modeY : Mode) : Hart :=
  match X with
  | .user => h
  | .supervisor => h.setCsr { h.csr with mstatus := { h.csr.mstatus with SPP := modeY.toSPP } }
  | _ => h.setCsr { h.csr with mstatus := { h.csr.mstatus with MPP := modeY } }

/-- The trap base address, `xtvec.BASE << 2`. -/
def trapBase (X : Mode) : BitVec 64 := (h.csr.tvec.get X).BASE <<< 2

/-- The interrupt mode of `X` (`getIMode`). -/
def trapIMode (X : Mode) : Nat := getIMode (cfg.IMode.get X) (h.csr.tvec.get X).MODE.toNat

/-- Write `xcause.inhv` of the bank of `X`. -/
def setInhv (X : Mode) (b : Bool) : Hart :=
  h.setCsr { h.csr with cause := h.csr.cause.set X { h.csr.cause.get X with inhv := b } }

/-- `vmirtSetPCException` at the handler, and the trap observers. -/
def finishTrap (X : Mode) (handlerPC : BitVec 64) : Hart :=
  { h.setPC handlerPC with traps := X :: h.traps }

/-- `readCLICVectorTableEntry`: read the `XLEN`-bit entry of `intNum` in the data
domain of `mode`; the memory system takes a load fault through `nested`.  It
answers whether no nested trap was taken, the entry with bit `0` cleared, and the
state. -/
def readCLICVectorTableEntry (nested : Hart → Nat → BitVec 64 → Hart) (intNum : Nat)
    (mode : Mode) (TBASE : BitVec 64) : Bool × BitVec 64 × Hart :=
  let r := host.read mode (cfg.vectorAddress TBASE intNum) cfg.ptrBytes
  let h := match r.fault with
    | none => h
    | some (code, tval) => nested h code tval
  (h.exception.isInterrupt, r.value &&& ~~~1, h)

/-- The handler address and the jump. -/
def trapVector (nested : Hart → Nat → BitVec 64 → Hart) (modeX : Mode) (isInt : Bool)
    (ecode ecodeMod : Nat) (shv : Bool) (base : BitVec 64) (mode : Nat) : Hart :=
  if mode = riscv_int_Direct || !isInt then h.finishTrap modeX base
  else if mode ≠ riscv_int_CLIC then h.finishTrap modeX (base + BitVec.ofNat 64 (4 * ecode))
  else if !shv then h.finishTrap modeX (base &&& ~~~63)
  else
    let h := h.riscvAcknowledgeCLICInt cfg cc ecode
    let TBASE := h.csr.tvt.get modeX
    let h := h.setInhv modeX true
    let (ok, handlerPC, h) := h.readCLICVectorTableEntry cfg host nested ecodeMod modeX TBASE
    if ok then (h.setInhv modeX false).finishTrap modeX handlerPC else h

/-- `riscvTakeException` outside Debug mode. -/
def takeTrap (nested : Hart → Nat → BitVec 64 → Hart) (exception : Exception)
    (tval : BitVec 64) : Hart :=
  let shv := h.sel.shv
  let isInt := exception.isInterrupt
  let ecode := exception.getExceptionCode
  let ecodeMod := h.reportedCode exception
  let EPC := h.getEPC
  let modeY := h.mode
  let h := h.trapPrologue cfg exception
  let modeX := h.trapModeX exception
  let level := h.trapLevel exception modeX
  let tval := if cfg.tval_zero then 0 else tval
  let base := h.trapBase modeX
  let mode := h.trapIMode cfg modeX
  let h := (h.targetModeX cfg modeX isInt ecodeMod EPC tval level).setPP modeX modeY
  let h := { h.setMode modeX with exception := exception }
  h.trapVector cfg cc host nested modeX isInt ecode ecodeMod shv base mode

/-- `riscvTakeException`, given the nested trap of the vector-table read: in Debug
mode the program buffer is abandoned and Debug mode re-entered. -/
def takeExceptionWith (nested : Hart → Nat → BitVec 64 → Hart) (exception : Exception)
    (tval : BitVec 64) : Hart :=
  if h.DM then (h.emit .abortRepeat).enterDM cfg .none
  else h.takeTrap cfg cc host nested exception tval

/-- `riscvTakeMemoryException`, given the trap engine: `vstart` is masked, and a
fault-only-first vector access suppresses the trap. -/
def memoryExceptionWith (take : Hart → Exception → BitVec 64 → Hart) (exception : Exception)
    (tval : BitVec 64) : Hart :=
  let h := h.setCsr { h.csr with vstart := h.csr.vstart &&& cfg.vstartMask }
  let (ff, h) := h.handleFF
  if ff then h else take h exception tval

/-- The load fault of the vector-table read, taken by `riscvTakeMemoryException`
with the synchronous engine. -/
def vectorFault (h : Hart) (code : Nat) (tval : BitVec 64) : Hart :=
  h.memoryExceptionWith cfg
    (fun h exception tval => h.takeExceptionWith cfg cc host (fun h _ _ => h) exception tval)
    (.sync code) tval

/-- `riscvTakeException`. -/
def riscvTakeException (exception : Exception) (tval : BitVec 64) : Hart :=
  h.takeExceptionWith cfg cc host (vectorFault cfg cc host) exception tval

/-- `riscvTakeMemoryException` (its verbose report is not modelled). -/
def riscvTakeMemoryException (exception : Exception) (tval : BitVec 64) : Hart :=
  h.memoryExceptionWith cfg (fun h => h.riscvTakeException cfg cc host) exception tval

/-- `riscvIllegalInstruction`: the trap value is the instruction when so
configured. -/
def riscvIllegalInstruction : Hart :=
  let tval := if cfg.tval_ii_code && !cfg.tval_zero then host.instrAt h.pc else 0
  h.riscvTakeException cfg cc host .IllegalInstruction tval

/-- `riscvInstructionAddressMisaligned`. -/
def riscvInstructionAddressMisaligned (tval : BitVec 64) : Hart :=
  h.riscvTakeException cfg cc host .InstructionAddressMisaligned (tval &&& ~~~1)

/-- `riscvECALL`. -/
def riscvECALL : Hart :=
  h.riscvTakeException cfg cc host (.EnvironmentCall h.mode) 0

/-- Whether `EBREAK` enters Debug mode (`dcsr.ebreaku`, `ebreaks`, `ebreakm`). -/
def ebreakUseDM : Bool :=
  if h.DM then true
  else match h.mode with
    | .user => h.csr.dcsr.ebreaku
    | .supervisor => h.csr.dcsr.ebreaks
    | .machine => h.csr.dcsr.ebreakm
    | .hypervisor => false

/-- `riscvEBREAK`. -/
def riscvEBREAK : Hart :=
  if h.ebreakUseDM then
    let h := if h.csr.dcsr.stopcount then
        { h with
          baseCycles := if !h.csr.inhibitCY then h.baseCycles + 1 else h.baseCycles
          baseInstructions := if !h.csr.inhibitIR then h.baseInstructions + 1 else h.baseInstructions }
      else h
    h.enterDM cfg .ebreak
  else
    let tval := if cfg.privBefore112 then h.pc else 0
    h.riscvTakeException cfg cc host .Breakpoint tval

/-! ### What a trap does -/

/-- The trap takes the CLIC selective-hardware-vectoring path and the read of its
vector-table entry faults. -/
def shvReadFaults (exception : Exception) : Bool :=
  let modeX := h.trapModeX exception
  exception.isInterrupt && h.trapIMode cfg modeX == riscv_int_CLIC && h.sel.shv &&
    (host.read modeX (cfg.vectorAddress (h.csr.tvt.get modeX) (h.reportedCode exception))
      cfg.ptrBytes).fault.isSome

theorem trapPrologue_eq (exception : Exception) :
    h.trapPrologue cfg exception = { h with
      baseInstructions := (h.trapPrologue cfg exception).baseInstructions,
      AFErrorOut := (h.trapPrologue cfg exception).AFErrorOut, exclusiveTag := none } := by
  unfold trapPrologue; split <;> rfl

@[simp] theorem setInhv_mode (X : Mode) (b : Bool) : (h.setInhv X b).mode = h.mode := rfl
@[simp] theorem setInhv_DM (X : Mode) (b : Bool) : (h.setInhv X b).DM = h.DM := rfl
@[simp] theorem setInhv_compressed (X : Mode) (b : Bool) :
    (h.setInhv X b).compressed = h.compressed := rfl
@[simp] theorem setInhv_traps (X : Mode) (b : Bool) : (h.setInhv X b).traps = h.traps := rfl
@[simp] theorem setInhv_exception (X : Mode) (b : Bool) :
    (h.setInhv X b).exception = h.exception := rfl

theorem setInhv_get (X : Mode) : h.setInhv X (h.csr.cause.get X).inhv = h := by
  show h.setCsr { h.csr with cause := h.csr.cause.set X (h.csr.cause.get X) } = h
  simp [setCsr]

@[simp] theorem setInhv_setInhv (X : Mode) (a b : Bool) :
    (h.setInhv X a).setInhv X b = h.setInhv X b := by
  simp [setInhv, setCsr]

theorem coreFrame_setInhv_csr {h h' : Hart} (hf : CoreFrame h h') (X : Mode) (b : Bool) :
    (h'.setInhv X b).csr = (h.setInhv X b).csr := by
  simp only [setInhv, setCsr_csr, hf.csr]

/-- What the vectoring keeps: the mode, the Debug flag, the CSRs but `xcause.inhv`. -/
def VectorFrame (modeX : Mode) (h h' : Hart) : Prop :=
  h'.mode = h.mode ∧ h'.DM = h.DM ∧ h'.compressed = h.compressed ∧
    h'.traps = modeX :: h.traps ∧ ∃ b, h'.csr = (h.setInhv modeX b).csr

theorem vectorFrame_finishTrap {h h₁ : Hart} (modeX : Mode) (pc : BitVec 64) (b : Bool)
    (hm : h₁.mode = h.mode) (hd : h₁.DM = h.DM) (hc : h₁.compressed = h.compressed)
    (ht : h₁.traps = h.traps) (hcsr : h₁.csr = (h.setInhv modeX b).csr) :
    VectorFrame modeX h (h₁.finishTrap modeX pc) :=
  ⟨hm, hd, hc, by simp [finishTrap, ht], b, hcsr⟩

/-- Outside the faulting SHV path, the vectoring keeps the mode and the CSRs
(except `xcause.inhv`) and reports the trap to the observers. -/
theorem trapVector_spec (nested : Hart → Nat → BitVec 64 → Hart) (modeX : Mode) (isInt : Bool)
    (ecode ecodeMod : Nat) (shv : Bool) (base : BitVec 64) (mode : Nat)
    (hex : h.exception.isInterrupt = isInt)
    (hnf : (isInt && mode == riscv_int_CLIC && shv &&
      (host.read modeX (cfg.vectorAddress (h.csr.tvt.get modeX) ecodeMod)
        cfg.ptrBytes).fault.isSome) = false) :
    VectorFrame modeX h (h.trapVector cfg cc host nested modeX isInt ecode ecodeMod shv base mode) := by
  have hsame := (congrArg Hart.csr (setInhv_get h modeX)).symm
  unfold trapVector
  split
  · exact vectorFrame_finishTrap _ _ _ rfl rfl rfl rfl hsame
  split
  · exact vectorFrame_finishTrap _ _ _ rfl rfl rfl rfl hsame
  split
  · exact vectorFrame_finishTrap _ _ _ rfl rfl rfl rfl hsame
  rename_i hd hc hs
  have hack := coreFrame_riscvAcknowledgeCLICInt cfg cc h ecode
  have hint : isInt = true := by cases isInt <;> simp at hd ⊢
  have hnone : (host.read modeX (cfg.vectorAddress (h.csr.tvt.get modeX) ecodeMod)
      cfg.ptrBytes).fault = none := by
    have hmode : mode = riscv_int_CLIC := by simpa using hc
    simpa [hint, hmode, show shv = true by simpa using hs] using hnf
  simp only [readCLICVectorTableEntry, hack.csr, hnone, setInhv_exception, hack.exception, hex,
    hint, if_true]
  exact vectorFrame_finishTrap _ _ false (by simp [hack.mode]) (by simp [hack.DM])
    (by simp [hack.compressed]) (by simp [hack.traps])
    (by rw [setInhv_setInhv]; exact coreFrame_setInhv_csr hack _ _)

theorem VectorFrame.congr {modeX : Mode} {h₀ h₁ h' : Hart} (hf : VectorFrame modeX h₀ h')
    (hm : h₁.mode = h₀.mode) (hd : h₁.DM = h₀.DM) (hc : h₁.compressed = h₀.compressed)
    (ht : h₁.traps = h₀.traps) (hcsr : h₁.csr = h₀.csr) : VectorFrame modeX h₁ h' := by
  obtain ⟨h1, h2, h3, h4, b, h5⟩ := hf
  exact ⟨h1.trans hm.symm, h2.trans hd.symm, h3.trans hc.symm, by rw [h4, ht], b,
    by simp only [h5, setInhv, setCsr_csr, hcsr]⟩

section
variable (X modeY : Mode)

@[simp] theorem setPP_mode : (h.setPP X modeY).mode = h.mode := by cases X <;> rfl
@[simp] theorem setPP_DM : (h.setPP X modeY).DM = h.DM := by cases X <;> rfl
@[simp] theorem setPP_compressed : (h.setPP X modeY).compressed = h.compressed := by cases X <;> rfl
@[simp] theorem setPP_traps : (h.setPP X modeY).traps = h.traps := by cases X <;> rfl
@[simp] theorem setPP_tvt : (h.setPP X modeY).csr.tvt = h.csr.tvt := by cases X <;> rfl

theorem setPP_csr_congr {h h' : Hart} (hc : h.csr = h'.csr) :
    (h.setPP X modeY).csr = (h'.setPP X modeY).csr := by
  cases X <;> simp [setPP, hc]

end

section
variable (X : Mode) (isInt : Bool) (ecode : Nat) (EPC tval : BitVec 64) (level : Option (BitVec 8))

@[simp] theorem targetModeX_mode : (h.targetModeX cfg X isInt ecode EPC tval level).mode = h.mode :=
  rfl
@[simp] theorem targetModeX_DM : (h.targetModeX cfg X isInt ecode EPC tval level).DM = h.DM := rfl
@[simp] theorem targetModeX_compressed :
    (h.targetModeX cfg X isInt ecode EPC tval level).compressed = h.compressed := rfl
@[simp] theorem targetModeX_traps :
    (h.targetModeX cfg X isInt ecode EPC tval level).traps = h.traps := rfl
@[simp] theorem targetModeX_tvt :
    (h.targetModeX cfg X isInt ecode EPC tval level).csr.tvt = h.csr.tvt := rfl

end

/-- **A trap outside the faulting SHV path.**  The hart is in the target mode, with the
CSRs `TARGET_MODE_X` and the previous-privilege write produce (but `xcause.inhv`),
and the trap is reported. -/
theorem takeTrap_spec (nested : Hart → Nat → BitVec 64 → Hart) (e : Exception) (tval : BitVec 64)
    (hnf : h.shvReadFaults cfg host e = false) :
    let X := h.trapModeX e
    VectorFrame X (((h.targetModeX cfg X e.isInterrupt (h.reportedCode e) h.getEPC
        (if cfg.tval_zero then 0 else tval) (h.trapLevel e X)).setPP X h.mode).setMode X)
      (h.takeTrap cfg cc host nested e tval) := by
  intro X
  unfold takeTrap
  rw [trapPrologue_eq]
  refine (trapVector_spec cfg cc host _ nested _ _ _ _ _ _ _ rfl ?_).congr
    (by simp; rfl) (by simp) (by simp) (by simp) (setPP_csr_congr _ _ rfl)
  simpa [shvReadFaults] using hnf

theorem targetModeX_setPP_csr (X modeY : Mode) (isInt : Bool) (ecode : Nat) (EPC tval : BitVec 64)
    (level : Option (BitVec 8)) (b : Bool) :
    (((h.targetModeX cfg X isInt ecode EPC tval level).setPP X modeY).setInhv X b).csr =
      trapCsr cfg h.csr X modeY isInt ecode EPC tval level b := by
  cases X <;> simp [trapCsr, targetModeX, setPP, setInhv, setCsr, PerMode.set, PerMode.get, Mode.toNat]

/-- **What `riscvTakeException` does outside Debug mode** (but on the faulting SHV
path): the hart is in the target mode `X`, whose bank holds the trap. -/
theorem riscvTakeException_spec (e : Exception) (tval : BitVec 64) (hd : h.DM = false)
    (hnf : h.shvReadFaults cfg host e = false) :
    let X := h.trapModeX e
    let h' := h.riscvTakeException cfg cc host e tval
    h'.mode = X ∧ h'.DM = false ∧ h'.compressed = h.compressed ∧ h'.traps = X :: h.traps ∧
      ∃ inhv, h'.csr = trapCsr cfg h.csr X h.mode e.isInterrupt (h.reportedCode e) h.getEPC
        (if cfg.tval_zero then 0 else tval) (h.trapLevel e X) inhv := by
  intro X
  obtain ⟨hm, hdm, hc, ht, b, hcsr⟩ := takeTrap_spec cfg cc host h (vectorFault cfg cc host) e tval hnf
  simp only [riscvTakeException, takeExceptionWith, hd, Bool.false_eq_true, if_false]
  refine ⟨by simpa using hm, by simpa [hd] using hdm, by simpa using hc, by simpa using ht, b, ?_⟩
  rw [hcsr, ← targetModeX_setPP_csr]
  rfl

/-- Interrupt `40`, implemented and delegated to Supervisor mode by bit `40` of
`mideleg`, is taken from User mode into Machine mode: `getModeX` reads bit `8` of
the truncated mask. -/
theorem riscvTakeException_delegated40 :
    40 < (Config.rv64Local 25).getIntNum ∧ delegated40.delegMode 40 = .supervisor ∧
      (delegated40.riscvTakeException (Config.rv64Local 25) (Cliccfg.initial false) Host.flat
        (.int 40) 0).mode = .machine := by
  decide

end Hart

end RiscvTrap
