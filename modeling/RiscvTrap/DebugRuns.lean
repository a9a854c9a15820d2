import RiscvTrap.Cluster

/-!
# Runs in Debug mode

While a hart is in Debug mode, nothing but leaving Debug mode, a reset of the hart
or a write of its CSRs moves what `DebugFrame` keeps: the mode, the trap CSRs,
`dcsr.prv`, `dcsr.cause`, `dpc`, the trap observers, and the count of requests
for the fetch gate.  Every trap taken in Debug mode re-enters Debug mode, whose
second entry saves nothing; no interrupt test schedules the fetch gate, and the
gate itself takes no interrupt (`deliveredInterrupt_of_DM`).

* `debugFrame_step`: one event of the cluster, on any hart.
* `DebugSave`: what leaving Debug mode reads, which a CSR write that puts `dcsr`
  and `dpc` back keeps as well (`debugSave_csrWrite`).
* `DebugRun`, `DebugRun.save`: a run of such events and writes, of any length.
* `debug_roundTrip`: an entry, a run, and the exit through `dret` or `setDM`
  return the hart to the mode and the instruction it was entered from.

Taking a trap never moves the Debug flag (`DM_riscvTakeException`), so an entry
through the fetch gate or `EBREAK` is an entry through `enterDM`.
-/

namespace RiscvTrap

namespace Hart

variable (cfg : Config) (cc : Cliccfg) (host : Host) (h : Hart)

/-! ### A trap never moves the Debug flag -/

section
variable {nested : Hart → Nat → BitVec 64 → Hart} (hn : ∀ h c t, (nested h c t).DM = h.DM)
include hn

theorem DM_trapVector (modeX : Mode) (isInt : Bool) (ecode ecodeMod : Nat) (shv : Bool)
    (base : BitVec 64) (mode : Nat) :
    (h.trapVector cfg cc host nested modeX isInt ecode ecodeMod shv base mode).DM = h.DM := by
  have hack := (coreFrame_riscvAcknowledgeCLICInt cfg cc h ecode).DM
  unfold trapVector
  split
  · rfl
  split
  · rfl
  split
  · rfl
  dsimp only [readCLICVectorTableEntry]
  split <;> split <;> simp_all [finishTrap, setPC]

theorem DM_takeTrap (e : Exception) (tval : BitVec 64) :
    (h.takeTrap cfg cc host nested e tval).DM = h.DM := by
  unfold takeTrap
  rw [DM_trapVector cfg cc host _ hn, trapPrologue_eq]
  simp

theorem DM_takeExceptionWith (e : Exception) (tval : BitVec 64) :
    (h.takeExceptionWith cfg cc host nested e tval).DM = h.DM := by
  unfold takeExceptionWith; split
  · rename_i hd; rw [DM_enterDM, hd]
  · exact DM_takeTrap cfg cc host h hn e tval

end

theorem DM_memoryExceptionWith {take : Hart → Exception → BitVec 64 → Hart}
    (ht : ∀ h e t, (take h e t).DM = h.DM) (e : Exception) (tval : BitVec 64) :
    (h.memoryExceptionWith cfg take e tval).DM = h.DM := by
  have hff : ∀ h₁ : Hart, h₁.handleFF.2.DM = h₁.DM := fun h₁ => by
    unfold handleFF; split
    · dsimp only; split <;> rfl
    · rfl
  dsimp only [memoryExceptionWith]
  show _ = (h.setCsr { h.csr with vstart := h.csr.vstart &&& cfg.vstartMask }).DM
  generalize h.setCsr _ = h₁
  have h1 := hff h₁
  generalize h₁.handleFF = p at h1 ⊢
  obtain ⟨ff, h₂⟩ := p
  dsimp only at h1 ⊢
  split
  · exact h1
  · rw [ht, h1]

/-- **Taking a trap never moves the Debug flag**: outside Debug mode the trap
(and the nested fault of its vector-table read) stays outside, in Debug mode it
re-enters Debug mode. -/
theorem DM_riscvTakeException (e : Exception) (tval : BitVec 64) :
    (h.riscvTakeException cfg cc host e tval).DM = h.DM :=
  DM_takeExceptionWith cfg cc host h (fun h₁ _ _ => DM_memoryExceptionWith cfg h₁
    (fun h₂ _ _ => DM_takeExceptionWith cfg cc host h₂ (fun _ _ _ => rfl) _ _) _ _) e tval

/-! ### Operations in Debug mode -/

section
variable (hd : h.DM = true)
include hd

theorem debugFrame_takeExceptionWith (nested : Hart → Nat → BitVec 64 → Hart) (e : Exception)
    (tval : BitVec 64) : DebugFrame h (h.takeExceptionWith cfg cc host nested e tval) := by
  simp only [takeExceptionWith, hd, if_true]
  exact DebugFrame.enterDM cfg ((selFrame_emit h _).debug (doSyncCalls_emit h (by decide))) hd _

theorem debugFrame_riscvTakeException (e : Exception) (tval : BitVec 64) :
    DebugFrame h (h.riscvTakeException cfg cc host e tval) :=
  debugFrame_takeExceptionWith cfg cc host h hd _ e tval

theorem debugFrame_riscvTakeMemoryException (e : Exception) (tval : BitVec 64) :
    DebugFrame h (h.riscvTakeMemoryException cfg cc host e tval) := by
  have hff : ∀ h₁ : Hart, DebugFrame h₁ h₁.handleFF.2 := fun h₁ => by
    unfold handleFF; split
    · dsimp only; split <;> exact .of_eq rfl rfl rfl rfl rfl rfl rfl
    · exact .refl h₁
  have h0 : DebugFrame h (h.setCsr { h.csr with vstart := h.csr.vstart &&& cfg.vstartMask }) := by
    constructor <;> rfl
  dsimp only [riscvTakeMemoryException, memoryExceptionWith]
  refine h0.trans ?_
  have hd₁ := h0.DM.trans hd
  generalize h.setCsr _ = h₁ at hd₁ ⊢
  have h1 := hff h₁
  generalize h₁.handleFF = p at h1 ⊢
  obtain ⟨ff, h₂⟩ := p
  dsimp only at h1 ⊢
  split
  · exact h1
  · exact h1.trans (debugFrame_riscvTakeException cfg cc host h₂ (h1.DM.trans hd₁) _ _)

theorem debugFrame_riscvIllegalInstruction : DebugFrame h (h.riscvIllegalInstruction cfg cc host) :=
  debugFrame_riscvTakeException cfg cc host h hd _ _

theorem debugFrame_riscvInstructionAddressMisaligned (tval : BitVec 64) :
    DebugFrame h (h.riscvInstructionAddressMisaligned cfg cc host tval) :=
  debugFrame_riscvTakeException cfg cc host h hd _ _

theorem debugFrame_riscvECALL : DebugFrame h (h.riscvECALL cfg cc host) :=
  debugFrame_riscvTakeException cfg cc host h hd _ _

theorem debugFrame_riscvEBREAK : DebugFrame h (h.riscvEBREAK cfg cc host) := by
  have hu : h.ebreakUseDM = true := by simp [ebreakUseDM, hd]
  simp only [riscvEBREAK, hu, if_true]
  split
  · refine DebugFrame.enterDM cfg ?_ hd _
    exact .of_eq rfl rfl rfl rfl rfl rfl rfl
  · exact debugFrame_enterDM cfg h hd _

theorem eretFromPP_of_DM (X PP : Mode) (writePP : Mstatus → Mode → Mstatus) :
    h.eretFromPP cfg cc X PP writePP = h := by
  simp [eretFromPP, hd]

theorem riscvURET_of_DM : h.riscvURET cfg cc = h := by simp [riscvURET, hd]

theorem riscvWFI_of_DM : h.riscvWFI cfg = h := by simp [riscvWFI, hd]

theorem riscvStepExcept_of_DM : h.riscvStepExcept cfg = h := by simp [riscvStepExcept, hd]

theorem debugFrame_validateFetchAddressInt (pc : BitVec 64) :
    DebugFrame h (h.validateFetchAddressInt cfg cc host pc).2 := by
  unfold validateFetchAddressInt; split
  · exact .refl h
  · exact debugFrame_riscvTakeException cfg cc host h hd _ _
  · split
    · exact .refl h
    · exact debugFrame_riscvTakeException cfg cc host h hd _ _

/-- **The fetch gate in Debug mode** takes no interrupt: it re-enters Debug mode on
a reset-halt request, else checks the fetch address. -/
theorem debugFrame_riscvIFetchExcept : DebugFrame h (h.riscvIFetchExcept cfg cc host).2 := by
  have hp : h.getPendingAndEnabled = false := by simp [getPendingAndEnabled, hd]
  unfold riscvIFetchExcept
  split
  · refine DebugFrame.enterDM cfg ?_ hd _
    exact .of_eq rfl rfl rfl rfl rfl rfl rfl
  simp only [hd, Bool.not_true, Bool.and_false, Bool.false_eq_true, if_false, hp]
  unfold validateFetchAddress
  have h1 := debugFrame_validateFetchAddressInt cfg cc host h hd h.pc
  generalize h.validateFetchAddressInt cfg cc host h.pc = p at h1 ⊢
  obtain ⟨ok, h₁⟩ := p
  dsimp only at h1 ⊢
  split
  · exact h1
  split
  · exact h1
  · exact h1.trans (debugFrame_validateFetchAddressInt cfg cc host h₁ (h1.DM.trans hd) _)

theorem riscvSetDM_true_of_DM : h.riscvSetDM cfg cc true = h := by simp [riscvSetDM, hd]

theorem debugFrame_nmiPortCB (v : Bool) : DebugFrame h (h.nmiPortCB cfg v) := by
  dsimp only [nmiPortCB]
  rw [if_neg (by simp [hd])]
  constructor <;> rfl

theorem debugFrame_haltreqPortCB (v : Bool) : DebugFrame h (h.haltreqPortCB v) := by
  dsimp only [haltreqPortCB]
  rw [if_neg (by simp [hd])]
  exact .of_eq rfl rfl rfl rfl rfl rfl rfl

/-! ### Interrupt tests and wires in Debug mode -/

/-- A test in Debug mode refreshes the selection and schedules nothing. -/
theorem debugFrame_riscvTestInterrupt : DebugFrame h (h.riscvTestInterrupt cfg cc) :=
  (selFrame_riscvTestInterrupt cfg cc h).debug (doSyncCalls_riscvTestInterrupt cfg cc h hd)

theorem debugFrame_riscvUpdatePending : DebugFrame h (h.riscvUpdatePending cfg cc) := by
  dsimp only [riscvUpdatePending]; split
  · refine DebugFrame.trans ?_ (debugFrame_riscvTestInterrupt cfg cc _ ?_)
    · constructor <;> rfl
    · exact hd
  · exact .refl h

theorem debugFrame_interruptPortCB (index : Nat) (v : Bool) :
    DebugFrame h (h.interruptPortCB cfg cc index v) := by
  unfold interruptPortCB
  split
  · exact (selFrame_emit h _).debug (doSyncCalls_emit h (by decide))
  dsimp only
  generalize Function.update h.ip (index / 64) _ = ip
  have hc : DebugFrame h (if cfg.CLICPresent = true
      then ({ h with ip := ip } : Hart).updateCLICInput cfg cc index v else { h with ip := ip }) := by
    split
    · refine DebugFrame.trans ?_ ((coreFrame_updateCLICInput cfg cc _ index v).debug
        (doSyncCalls_updateCLICInput cfg cc _ ?_ index v))
      · exact .of_eq rfl rfl rfl rfl rfl rfl rfl
      · exact hd
    · exact .of_eq rfl rfl rfl rfl rfl rfl rfl
  split
  · exact hc.trans (debugFrame_riscvUpdatePending cfg cc _ (hc.DM.trans hd))
  · exact hc

theorem debugFrame_deferintPortCB (v : Bool) : DebugFrame h (h.deferintPortCB v) := by
  dsimp only [deferintPortCB]; split
  · refine DebugFrame.trans ?_
      ((selFrame_handlePendingAndEnabled _).debug (doSyncCalls_handlePendingAndEnabled _ ?_))
    · exact .of_eq rfl rfl rfl rfl rfl rfl rfl
    · exact hd
  · exact .of_eq rfl rfl rfl rfl rfl rfl rfl

theorem debugFrame_writeCLICInterruptAttr (i : Nat) (v : BitVec 8) (pageMode : Mode) :
    DebugFrame h (h.writeCLICInterruptAttr cfg cc i v pageMode) :=
  (coreFrame_updateCLICInterruptField cfg cc h _ _ _).debug
    (doSyncCalls_updateCLICInterruptField cfg cc h hd i _ _)

end

/-! ### Operations anywhere that keep the Debug frame -/

theorem debugFrame_interruptIDPortCB (offset id : Nat) : DebugFrame h (h.interruptIDPortCB offset id) := by
  unfold interruptIDPortCB; split
  · exact (selFrame_emit h _).debug (doSyncCalls_emit h (by decide))
  · exact .of_eq rfl rfl rfl rfl rfl rfl rfl

theorem debugFrame_SCValidPortCB (v : Bool) : DebugFrame h (h.SCValidPortCB v) := by
  unfold SCValidPortCB; split
  · exact .of_eq rfl rfl rfl rfl rfl rfl rfl
  · exact .refl h

/-! ### Entering Debug mode -/

theorem DM_validateFetchAddressInt (pc : BitVec 64) :
    (h.validateFetchAddressInt cfg cc host pc).2.DM = h.DM := by
  unfold validateFetchAddressInt; split
  · rfl
  · exact DM_riscvTakeException cfg cc host h _ _
  · split
    · rfl
    · exact DM_riscvTakeException cfg cc host h _ _

theorem DM_validateFetchAddress (pc : BitVec 64) :
    (h.validateFetchAddress cfg cc host pc).2.DM = h.DM := by
  unfold validateFetchAddress
  have h1 := DM_validateFetchAddressInt cfg cc host h pc
  generalize h.validateFetchAddressInt cfg cc host pc = p at h1 ⊢
  obtain ⟨ok, h₁⟩ := p
  dsimp only at h1 ⊢
  split
  · exact h1
  split
  · exact h1
  · rw [DM_validateFetchAddressInt, h1]

theorem DM_doInterrupt : (h.doInterrupt cfg cc host).DM = h.DM := by
  dsimp only [doInterrupt]; split
  · rfl
  · exact DM_riscvTakeException cfg cc host _ _ _

/-- What the first entry into Debug mode saves. -/
structure EntrySave (h h₁ : Hart) (cause : DmCause) : Prop where
  prv : h₁.csr.dcsr.prv = h.mode
  cause : h₁.csr.dcsr.cause = cause
  dpc : h₁.csr.dpc = h.getEPC
  compressed : h₁.compressed = h.compressed
  inSaveRestore : h₁.inSaveRestore = h.inSaveRestore

/-- What leaving Debug mode reads, and a CSR write that puts `dcsr` and `dpc`
back keeps. -/
structure DebugSave (h h' : Hart) : Prop where
  DM : h'.DM = h.DM
  dcsr_prv : h'.csr.dcsr.prv = h.csr.dcsr.prv
  dcsr_cause : h'.csr.dcsr.cause = h.csr.dcsr.cause
  dpc : h'.csr.dpc = h.csr.dpc
  compressed : h'.compressed = h.compressed
  inSaveRestore : h'.inSaveRestore = h.inSaveRestore

theorem DebugSave.trans {h₁ h₂ h₃ : Hart} (h12 : DebugSave h₁ h₂) (h23 : DebugSave h₂ h₃) :
    DebugSave h₁ h₃ :=
  ⟨h23.DM.trans h12.DM, h23.dcsr_prv.trans h12.dcsr_prv, h23.dcsr_cause.trans h12.dcsr_cause,
    h23.dpc.trans h12.dpc, h23.compressed.trans h12.compressed,
    h23.inSaveRestore.trans h12.inSaveRestore⟩

theorem DebugFrame.save {h h' : Hart} (hf : DebugFrame h h') : DebugSave h h' :=
  ⟨hf.DM, hf.dcsr_prv, hf.dcsr_cause, hf.dpc, hf.compressed, hf.inSaveRestore⟩

theorem entrySave_enterDM {h₀ : Hart} (hd : h₀.DM = false) (hm : h₀.mode = h.mode)
    (he : h₀.getEPC = h.getEPC) (hc : h₀.compressed = h.compressed)
    (hs : h₀.inSaveRestore = h.inSaveRestore) (cause : DmCause) :
    EntrySave h (h₀.enterDM cfg cause) cause := by
  obtain ⟨h1, h2, h3, h4, h5⟩ := enterDM_save cfg h₀ hd cause
  exact ⟨h1.trans hm, h2, h3.trans he, h4.trans hc, h5.trans hs⟩

end Hart

namespace Event

/-- Whether an event may take hart `k` out of the Debug frame: its return from
Debug mode, `setDM` clearing the flag, its reset net, or a write of its CSRs. -/
def leavesDebug (k : Nat) : Event → Bool
  | .dret j => j == k
  | .setDM j DM => j == k && !DM
  | .reset j _ => j == k
  | .csrWrite j _ => j == k
  | _ => false

/-- The events through which a hart enters Debug mode: the fetch gate (on a halt
request), `EBREAK`, the step timer, and `setDM` setting the flag. -/
def entersDebug : Event → Bool
  | .fetch _ | .ebreak _ | .stepTimer _ => true
  | .setDM _ DM => DM
  | _ => false

/-- The cause the entry through an event from `h` passes to `enterDM`. -/
def debugCause (h : Hart) : Event → DmCause
  | .fetch _ => if h.netValue.resethaltreqS then .resethaltreq else .haltreq
  | .ebreak _ => .ebreak
  | .stepTimer _ => .step
  | _ => .haltreq

end Event

namespace Hart

variable (cfg : Config) (cc : Cliccfg) (host : Host) (h : Hart)

/-- **One event on a hart in Debug mode** keeps the Debug frame unless it leaves
Debug mode, resets the hart or writes its CSRs. -/
theorem debugFrame_hartStep (hd : h.DM = true) (ev : Event)
    (hev : ev.leavesDebug (ev.hart cfg) = false) :
    DebugFrame h (Cluster.hartStep cfg host cc ev h) := by
  cases ev with
  | takeException => exact debugFrame_riscvTakeException cfg cc host h hd _ _
  | takeMemoryException => exact debugFrame_riscvTakeMemoryException cfg cc host h hd _ _
  | illegalInstruction => exact debugFrame_riscvIllegalInstruction cfg cc host h hd
  | instructionAddressMisaligned => exact debugFrame_riscvInstructionAddressMisaligned cfg cc host h hd _
  | ecall => exact debugFrame_riscvECALL cfg cc host h hd
  | ebreak => exact debugFrame_riscvEBREAK cfg cc host h hd
  | mret =>
    show DebugFrame h (h.riscvMRET cfg cc)
    rw [riscvMRET, eretFromPP_of_DM cfg cc h hd]; exact .refl h
  | sret =>
    show DebugFrame h (h.riscvSRET cfg cc)
    rw [riscvSRET, eretFromPP_of_DM cfg cc h hd]; exact .refl h
  | uret =>
    show DebugFrame h (h.riscvURET cfg cc)
    rw [riscvURET_of_DM cfg cc h hd]; exact .refl h
  | dret => simp [Event.leavesDebug, Event.hart] at hev
  | wfi =>
    show DebugFrame h (h.riscvWFI cfg)
    rw [riscvWFI_of_DM cfg h hd]; exact .refl h
  | fetch => exact debugFrame_riscvIFetchExcept cfg cc host h hd
  | stepTimer =>
    show DebugFrame h (h.riscvStepExcept cfg)
    rw [riscvStepExcept_of_DM cfg h hd]; exact .refl h
  | setDM k DM =>
    obtain rfl : DM = true := by simpa [Event.leavesDebug, Event.hart] using hev
    show DebugFrame h (h.riscvSetDM cfg cc true)
    rw [riscvSetDM_true_of_DM cfg cc h hd]; exact .refl h
  | setDMStall => exact debugFrame_updateDMStall cfg h _
  | csrWrite => simp [Event.leavesDebug, Event.hart] at hev
  | nmi => exact debugFrame_nmiPortCB cfg h hd _
  | haltreq => exact debugFrame_haltreqPortCB h hd _
  | resethaltreq => exact .of_eq rfl rfl rfl rfl rfl rfl rfl
  | SCValid => exact debugFrame_SCValidPortCB h _
  | interrupt => exact debugFrame_interruptPortCB cfg cc h hd _ _
  | interruptID => exact debugFrame_interruptIDPortCB h _ _
  | deferint => exact debugFrame_deferintPortCB h hd _
  | reset => exact .refl h
  | clicWrite => exact .refl h

/-- **Entering Debug mode** from outside it through the fetch gate, `EBREAK`, the
step timer or `setDM` saves the mode, the return address and the entry's cause. -/
theorem entrySave_hartStep (hd : h.DM = false) {ev : Event}
    (hev : ev.entersDebug = true) (hin : (Cluster.hartStep cfg host cc ev h).DM = true) :
    EntrySave h (Cluster.hartStep cfg host cc ev h) (ev.debugCause h) := by
  cases ev <;> simp only [Event.entersDebug, Bool.false_eq_true] at hev
  case fetch =>
    simp only [Cluster.hartStep, Event.debugCause] at hin ⊢
    unfold riscvIFetchExcept at hin ⊢
    by_cases hr : h.netValue.resethaltreqS = true
    · simp only [hr, if_true]
      exact entrySave_enterDM cfg h (by exact hd) (by rfl) (by rfl) (by rfl) (by rfl) _
    simp only [hr, Bool.false_eq_true, if_false] at hin ⊢
    by_cases hh : (h.netValue.haltreq && !h.DM) = true
    · simp only [hh, if_true]
      exact entrySave_enterDM cfg h hd rfl rfl rfl rfl _
    simp only [hh, Bool.false_eq_true, if_false] at hin
    split at hin
    · rw [DM_doInterrupt] at hin; simp [hd] at hin
    · rw [DM_validateFetchAddress] at hin; simp [hd] at hin
  case ebreak =>
    simp only [Cluster.hartStep, Event.debugCause, riscvEBREAK] at hin ⊢
    split
    · split
      · exact entrySave_enterDM cfg h (by exact hd) (by rfl) (by rfl) (by rfl) (by rfl) _
      · exact entrySave_enterDM cfg h hd rfl rfl rfl rfl _
    · rename_i hu; rw [if_neg hu, DM_riscvTakeException] at hin; simp [hd] at hin
  case stepTimer =>
    simp only [Cluster.hartStep, Event.debugCause, riscvStepExcept] at hin ⊢
    split
    · exact entrySave_enterDM cfg h hd rfl rfl rfl rfl _
    · rename_i hstep; rw [if_neg hstep] at hin; simp [hd] at hin
  case setDM k DM =>
    subst hev
    by_cases hs : h.inSaveRestore = true
    · simp [Cluster.hartStep, riscvSetDM, hs, hd] at hin
    simp only [Cluster.hartStep, Event.debugCause, riscvSetDM, hd, hs]
    exact entrySave_enterDM cfg h hd rfl rfl rfl rfl _

end Hart

namespace Cluster

open Hart

variable (cfg : Config) (host : Host) {cl : Cluster} {k : Nat}

theorem debugFrame_mapHart {j : Nat} {f : Hart → Hart}
    (hf : k = j → DebugFrame (cl.harts k) (f (cl.harts k))) :
    DebugFrame (cl.harts k) ((cl.mapHart j f).harts k) := by
  rw [harts_mapHart]; split
  · exact hf ‹_›
  · exact .refl _

section
variable (hd : (cl.harts k).DM = true)
include hd

theorem debugFrame_refreshCCLICInterruptAll :
    DebugFrame (cl.harts k) ((refreshCCLICInterruptAll cfg cl).harts k) := by
  dsimp only [refreshCCLICInterruptAll]; split
  · exact debugFrame_riscvTestInterrupt cfg _ _ hd
  · exact .refl _

theorem debugFrame_cliccfgW (v : BitVec 8) : DebugFrame (cl.harts k) ((cl.cliccfgW cfg v).harts k) := by
  unfold cliccfgW; dsimp only; split
  · exact @debugFrame_refreshCCLICInterruptAll cfg { cl with cliccfg := cfg.cliccfgValue v } k hd
  · exact .refl _

theorem debugFrame_resetCLIC (j : Nat) : DebugFrame (cl.harts k) ((cl.resetCLIC cfg j).harts k) := by
  unfold resetCLIC; split
  · exact .refl _
  split
  · dsimp only; split
    · refine DebugFrame.trans ?_ (debugFrame_refreshCCLICInterruptAll cfg ?_)
      · exact debugFrame_mapHart fun _ => .of_eq rfl rfl rfl rfl rfl rfl rfl
      · rw [harts_mapHart]; split <;> exact hd
    · exact .refl _
  · exact debugFrame_cliccfgW cfg hd 0

/-- The reset of another hart reaches hart `k` only through the CLIC
configuration, which makes it test for interrupts. -/
theorem debugFrame_resetPortCB {j : Nat} (hj : k ≠ j) (v : Bool) :
    DebugFrame (cl.harts k) ((cl.resetPortCB cfg host j v).harts k) := by
  unfold resetPortCB; dsimp only
  refine DebugFrame.trans ?_ (debugFrame_mapHart fun h => absurd h hj)
  split
  · exact debugFrame_mapHart fun h => absurd h hj
  split
  · unfold riscvReset; dsimp only
    refine DebugFrame.trans ?_ (debugFrame_mapHart fun h => absurd h hj)
    refine DebugFrame.trans ?_ (debugFrame_resetCLIC cfg ?_ j)
    · exact debugFrame_mapHart fun h => absurd h hj
    · rw [harts_mapHart, if_neg hj]; exact hd
  · exact .refl _

theorem debugFrame_writeCLICInt (offset : Nat) (v : BitVec 8) :
    DebugFrame (cl.harts k) ((cl.writeCLICInt cfg offset v).harts k) := by
  unfold writeCLICInt; split
  · unfold writeCLICInterrupt; split
    · refine debugFrame_mapHart fun _ => ?_
      dsimp only; split
      · exact (coreFrame_writeCLICInterruptIPE cfg _ _ _ _ _ _).debug
          (doSyncCalls_writeCLICInterruptIPE cfg _ _ hd _ _ _ _)
      · exact (coreFrame_writeCLICInterruptIPE cfg _ _ _ _ _ _).debug
          (doSyncCalls_writeCLICInterruptIPE cfg _ _ hd _ _ _ _)
      · exact debugFrame_writeCLICInterruptAttr cfg _ _ hd _ _ _
      · exact (coreFrame_updateCLICInterruptField cfg _ _ _ _ _).debug
          (doSyncCalls_updateCLICInterruptField cfg _ _ hd _ _ _)
    · exact .refl _
  split
  · exact debugFrame_cliccfgW cfg hd v
  · exact .refl _

/-- One event of the cluster, other than one that takes hart `k` out of Debug mode,
keeps the Debug frame of hart `k`. -/
theorem step_debugFrame {ev : Event} (hev : ev.leavesDebug k = false) :
    DebugFrame (cl.harts k) ((step cfg host ev cl).harts k) := by
  cases ev
  case reset j v =>
    have hj : k ≠ j := by rintro rfl; simp [Event.leavesDebug] at hev
    exact debugFrame_resetPortCB cfg host hd hj v
  case clicWrite offset v => exact debugFrame_writeCLICInt cfg hd offset v
  all_goals
    refine debugFrame_mapHart fun hk => ?_
    subst hk
    exact debugFrame_hartStep cfg _ host _ hd _ hev

end

/-- A CSR write of hart `k` that writes its `dcsr` and `dpc` back as they are. -/
theorem debugSave_csrWrite {c : Csrs} (hc : c.dcsr = (cl.harts k).csr.dcsr)
    (hp : c.dpc = (cl.harts k).csr.dpc) :
    DebugSave (cl.harts k) ((step cfg host (.csrWrite k c) cl).harts k) := by
  have hf := selFrame_riscvTestInterrupt cfg cl.cliccfg ((cl.harts k).setCsr c)
  simp only [step, harts_mapHart, Event.hart, if_true, hartStep]
  exact ⟨hf.DM, by rw [hf.csr]; exact congrArg _ hc, by rw [hf.csr]; exact congrArg _ hc,
    by rw [hf.csr]; exact hp, hf.compressed, hf.inSaveRestore⟩

/-- A run of events in Debug mode that keep what leaving it reads: events that
leave the Debug frame of hart `k` alone, and CSR writes of hart `k` that put its
`dcsr` and `dpc` back as they are. -/
inductive DebugRun (k : Nat) : Cluster → Cluster → Prop
  | refl (cl : Cluster) : DebugRun k cl cl
  | step {cl cl' : Cluster} {ev : Event} : DebugRun k cl cl' → ev.leavesDebug k = false →
      DebugRun k cl (step cfg host ev cl')
  | csrWrite {cl cl' : Cluster} {c : Csrs} : DebugRun k cl cl' →
      c.dcsr = (cl'.harts k).csr.dcsr → c.dpc = (cl'.harts k).csr.dpc →
      DebugRun k cl (step cfg host (.csrWrite k c) cl')

theorem DebugRun.save {cl cl' : Cluster} (hr : DebugRun cfg host k cl cl')
    (hd : (cl.harts k).DM = true) : DebugSave (cl.harts k) (cl'.harts k) := by
  induction hr with
  | refl => exact (DebugFrame.refl _).save
  | step _ hev ih => exact ih.trans (step_debugFrame cfg host (ih.DM.trans hd) hev).save
  | csrWrite _ hc hp ih => exact ih.trans (debugSave_csrWrite cfg host hc hp)

theorem step_harts_of_entersDebug {ev : Event} (he : ev.entersDebug = true) :
    (step cfg host ev cl).harts (ev.hart cfg) =
      hartStep cfg host cl.cliccfg ev (cl.harts (ev.hart cfg)) := by
  cases ev <;> simp only [Event.entersDebug, Bool.false_eq_true] at he <;> simp [step, mapHart]

/-- **Into Debug mode and back.**  A hart outside Debug mode enters it through the
fetch gate, `EBREAK`, the step timer or `setDM`; whatever happens then that does
not leave Debug mode or reset the hart, CSR writes included when they put `dcsr`
and `dpc` back; and `dret` or `setDM` clearing the flag outside a state restore
brings it back: out of Debug mode, in the mode it was entered from, at the
instruction it was entered at, with `dcsr.cause` the first entry's. -/
theorem debug_roundTrip {cl₀ cl₂ : Cluster} {entry exit : Event}
    (hd : (cl₀.harts k).DM = false)
    (hentry : entry.entersDebug = true) (hk : entry.hart cfg = k)
    (hin : ((step cfg host entry cl₀).harts k).DM = true)
    (hrun : DebugRun cfg host k (step cfg host entry cl₀) cl₂)
    (hexit : exit = .dret k ∨ exit = .setDM k false ∧ (cl₀.harts k).inSaveRestore = false) :
    let h := cl₀.harts k
    let h₃ := (step cfg host exit cl₂).harts k
    h₃.DM = false ∧ h₃.mode = h.mode ∧
      h₃.pc = (if h.compressed then h.getEPC else h.getEPC &&& ~~~3) ∧
      h₃.csr.dcsr.cause = entry.debugCause h := by
  have h1 := @step_harts_of_entersDebug cfg host cl₀ entry hentry
  rw [hk] at h1
  have hf := DebugRun.save cfg host hrun hin
  rw [h1] at hin hf
  have hsave := entrySave_hartStep cfg _ host _ hd hentry hin
  have hd₂ : (cl₂.harts k).DM = true := hf.DM.trans hin
  have h3 : (step cfg host exit cl₂).harts k = (cl₂.harts k).leaveDM cfg cl₂.cliccfg := by
    rcases hexit with rfl | ⟨rfl, hs⟩
    · simp [step, mapHart, hartStep, Event.hart, riscvDRET, hd₂]
    · have hs₂ : (cl₂.harts k).inSaveRestore = false :=
        hf.inSaveRestore.trans (hsave.inSaveRestore.trans hs)
      simp [step, mapHart, hartStep, Event.hart, riscvSetDM, hd₂, hs₂]
  obtain ⟨l1, l2, l3, l4⟩ := leaveDM_spec cfg cl₂.cliccfg (cl₂.harts k)
  dsimp only
  rw [h3]
  refine ⟨l1, ?_, ?_, ?_⟩
  · rw [l2, hf.dcsr_prv, hsave.prv]
  · rw [l3, hf.dpc, hf.compressed, hsave.dpc, hsave.compressed]
  · rw [l4, hf.dcsr_cause, hsave.cause]

/-- A debugger halts hart 0, which then executes an `EBREAK`; the debugger writes
`mie` (with `dcsr` and `dpc` as they are) and resumes the hart in Machine mode. -/
theorem debug_roundTrip_setDM_csrWrite_dret :
    ((step (Config.rv64 false) Host.flat (.dret 0) (step (Config.rv64 false) Host.flat
      (.csrWrite 0 { ((step (Config.rv64 false) Host.flat (.ebreak 0) (step (Config.rv64 false) Host.flat
        (.setDM 0 true) (new (Config.rv64 false) Host.flat default))).harts 0).csr with mie := 0x80 })
      (step (Config.rv64 false) Host.flat (.ebreak 0) (step (Config.rv64 false) Host.flat (.setDM 0 true)
        (new (Config.rv64 false) Host.flat default))))).harts 0).mode =
      ((new (Config.rv64 false) Host.flat default).harts 0).mode :=
  (@debug_roundTrip (Config.rv64 false) Host.flat 0 (new (Config.rv64 false) Host.flat default)
    (step (Config.rv64 false) Host.flat
      (.csrWrite 0 { ((step (Config.rv64 false) Host.flat (.ebreak 0) (step (Config.rv64 false) Host.flat
        (.setDM 0 true) (new (Config.rv64 false) Host.flat default))).harts 0).csr with mie := 0x80 })
      (step (Config.rv64 false) Host.flat (.ebreak 0) (step (Config.rv64 false) Host.flat (.setDM 0 true)
        (new (Config.rv64 false) Host.flat default))))
    (.setDM 0 true) (.dret 0) rfl rfl rfl (by decide)
    (.csrWrite (.step (.refl _) (rfl : Event.leavesDebug 0 (.ebreak 0) = false)) rfl rfl) (.inl rfl)).2.1

end Cluster

end RiscvTrap
