import RiscvTrap.Targets
import RiscvTrap.Vmi

/-!
# A faulting read of the CLIC vector table

A CLIC interrupt with `shv` set is acknowledged, and then jumps through the entry
its number selects in the table at `xtvt`, read with `xcause.inhv` set.  When the
read faults, the load fault is taken at once, from the interrupt's target mode `X`
and on top of the interrupt's own trap, and the interrupt's handler is never
entered.  For a Machine-mode interrupt the fault goes to Machine mode too: `mepc`
is still the interrupted `EPC`, but `MPP` and `MPIE` now describe Machine mode
with `MIE` clear, so nothing in `mstatus` remembers the interrupted mode.  This is
the path the round trips of `RiscvTrap.RoundTrip` and `RiscvTrap.Targets` leave
out.

* `trapVector_shvFault`: on that path the vectoring is the nested fault.
* `vectorFault_spec`: what the nested fault does, from the hart it starts from.
* `riscvTakeException_shvFault`: the whole trap, and the `MRET` of the fault's
  handler, which resumes the interrupted `EPC` in Machine mode with `MIE` clear.
-/

namespace RiscvTrap

theorem Mode.raise_machine (x : Mode) : Mode.raise x .machine = .machine := by
  cases x <;> decide

namespace Hart

variable (cfg : Config) (cc : Cliccfg) (host : Host) (h : Hart)

theorem vFirstFault_riscvAcknowledgeCLICInt (i : Nat) :
    (h.riscvAcknowledgeCLICInt cfg cc i).vFirstFault = h.vFirstFault := by
  dsimp only [riscvAcknowledgeCLICInt, writeCLICInterruptPending, writeCLICInterruptIPE, updateCLICPendingEnable]
  split
  · split
    · rw [selFrame_riscvTestInterrupt cfg cc _]; rfl
    · rfl
  · rw [pickFrame_refreshPendingAndEnabled cfg cc h]

/-- On the SHV path, a faulting read of the table entry leaves the nested fault in
place of the handler's jump. -/
theorem trapVector_shvFault (nested : Hart → Nat → BitVec 64 → Hart) (modeX : Mode) (ecode ecodeMod : Nat)
    (base : BitVec 64) {code : Nat} {tv : BitVec 64}
    (hf : (host.read modeX (cfg.vectorAddress (h.csr.tvt.get modeX) ecodeMod) cfg.ptrBytes).fault =
      some (code, tv))
    (hn : (nested ((h.riscvAcknowledgeCLICInt cfg cc ecode).setInhv modeX true) code tv).exception.isInterrupt =
      false) :
    h.trapVector cfg cc host nested modeX true ecode ecodeMod true base riscv_int_CLIC =
      nested ((h.riscvAcknowledgeCLICInt cfg cc ecode).setInhv modeX true) code tv := by
  have hack := coreFrame_riscvAcknowledgeCLICInt cfg cc h ecode
  simp only [trapVector, riscv_int_CLIC, riscv_int_Direct, readCLICVectorTableEntry, hack.csr, hf, hn]
  rfl

/-- **The nested fault.**  From a hart outside Debug mode and out of any
fault-only-first vector access, the table's load fault is an ordinary synchronous
trap from the current mode, with `vstart` masked first. -/
theorem vectorFault_spec (hd : h.DM = false) (hv : h.vFirstFault = false) (code : Nat) (tv : BitVec 64) :
    let X := h.getExceptionModeX code
    let h' := vectorFault cfg cc host h code tv
    h'.mode = X ∧ h'.DM = false ∧ h'.compressed = h.compressed ∧ h'.exception = .sync code ∧
      ∃ b, h'.csr = trapCsr cfg { h.csr with vstart := h.csr.vstart &&& cfg.vstartMask } X h.mode false code
        h.getEPC (if cfg.tval_zero then 0 else tv) (h.trapLevel (.sync code) X) b := by
  let g : Hart := h.setCsr { h.csr with vstart := h.csr.vstart &&& cfg.vstartMask }
  have hg : vectorFault cfg cc host h code tv = g.takeTrap cfg cc host (fun h _ _ => h) (.sync code) tv := by
    simp [vectorFault, memoryExceptionWith, handleFF, setCsr, hv, takeExceptionWith, hd, g]
  obtain ⟨hm, hdm, hc, -, b, hcsr⟩ := takeTrap_spec cfg cc host g (fun h _ _ => h) (.sync code) tv rfl
  rw [hg]
  exact ⟨hm, hdm.trans (by simp [g, setCsr, hd]), hc.trans (by simp [g, setCsr]),
    (@takeTrap_sync cfg cc host g (fun h _ _ => h) (.sync code) rfl tv).1, b,
    hcsr.trans (targetModeX_setPP_csr cfg g _ _ _ _ _ _ _ b)⟩

/-- **A faulting table read takes the interrupted mode away.**  Outside Debug mode
and out of any fault-only-first vector access, a Machine-mode CLIC interrupt with
`shv` set whose table entry faults leaves the hart in the load fault's handler:
Machine mode, with the fault recorded, `mepc` the interrupted `EPC`, but `MPP`
Machine and `MPIE` clear.  The `MRET` of that handler therefore resumes the
interrupted `EPC` in Machine mode with `MIE` clear, whatever mode the interrupt
struck. -/
theorem riscvTakeException_shvFault (hd : h.DM = false) (hv : h.vFirstFault = false) {i code : Nat}
    {tv : BitVec 64} (tval : BitVec 64) (hX : h.trapModeX (.int i) = .machine)
    (hI : h.trapIMode cfg .machine = riscv_int_CLIC) (hs : h.sel.shv = true)
    (hf : (host.read .machine (cfg.vectorAddress (h.csr.tvt.get .machine) (h.reportedCode (.int i)))
      cfg.ptrBytes).fault = some (code, tv)) :
    let h' := h.riscvTakeException cfg cc host (.int i) tval
    let h₂ := h'.riscvMRET cfg cc
    h'.mode = .machine ∧ h'.exception = .sync code ∧ h'.csr.mstatus.MPP = .machine ∧
      h'.csr.mstatus.PIE.get .machine = false ∧ h'.csr.epc.get .machine = h.getEPC &&& cfg.epcMask.get .machine ∧
      h₂.mode = .machine ∧ h₂.csr.mstatus.IE.get .machine = false ∧
      (h.getEPC &&& cfg.epcMask.get .machine = h.getEPC → (h.compressed = true ∨ h.getEPC &&& 3 = 0) →
        h₂.pc = h.getEPC) := by
  -- the hart the interrupt's vectoring starts from, and the one the nested fault starts from
  let T : Hart := { (((h.trapPrologue cfg (.int i)).targetModeX cfg .machine true (h.reportedCode (.int i))
      h.getEPC (if cfg.tval_zero then 0 else tval) ((h.trapPrologue cfg (.int i)).trapLevel (.int i) .machine)).setPP
      .machine h.mode).setMode .machine with exception := .int i }
  let G := (T.riscvAcknowledgeCLICInt cfg cc i).setInhv .machine true
  have hack := coreFrame_riscvAcknowledgeCLICInt cfg cc T i
  have hP : T.DM = h.DM ∧ T.vFirstFault = h.vFirstFault ∧ T.getEPC = h.getEPC ∧ T.compressed = h.compressed := by
    simp only [T]; rw [trapPrologue_eq]; exact ⟨rfl, rfl, rfl, rfl⟩
  have hGd : G.DM = false := hack.DM.trans (hP.1.trans hd)
  have hGv : G.vFirstFault = false :=
    (vFirstFault_riscvAcknowledgeCLICInt cfg cc T i).trans (hP.2.1.trans hv)
  obtain ⟨hm, hdm, hc, hex, b, hcsr⟩ := vectorFault_spec cfg cc host G hGd hGv code tv
  have heq : h.riscvTakeException cfg cc host (.int i) tval = vectorFault cfg cc host G code tv := by
    have hX₀ : (h.trapPrologue cfg (.int i)).trapModeX (.int i) = .machine := by rw [trapPrologue_eq]; exact hX
    have hI₀ : (h.trapPrologue cfg (.int i)).trapIMode cfg .machine = riscv_int_CLIC := by
      rw [trapPrologue_eq]; exact hI
    have hf' : (host.read .machine (cfg.vectorAddress (T.csr.tvt.get .machine) (h.reportedCode (.int i)))
        cfg.ptrBytes).fault = some (code, tv) := by
      simp only [T]; rw [trapPrologue_eq]; exact hf
    simp only [riscvTakeException, takeExceptionWith, hd, Bool.false_eq_true, if_false]
    unfold takeTrap
    simp only [hX₀, hI₀, hs, Exception.isInterrupt, Exception.getExceptionCode]
    exact trapVector_shvFault cfg cc host T _ .machine i _ _ hf' (by rw [hex]; rfl)
  -- the nested fault is taken from Machine mode, over the interrupt's cleared `MIE`
  have hGm : G.mode = .machine := hack.mode
  have hXm : G.getExceptionModeX code = .machine := by
    simp only [getExceptionModeX, getModeX, hGm]; exact Mode.raise_machine _
  have hGE : G.getEPC = h.getEPC := by
    show (T.riscvAcknowledgeCLICInt cfg cc i).getEPC = h.getEPC
    rw [← hP.2.2.1]; simp only [getEPC, hack.pc, hack.dsOffset, hack.jumpBase]
  have hIE : G.csr.mstatus.IE.get .machine = false := by
    simp only [G, setInhv, setCsr_csr, hack.csr, T]; rfl
  rw [hXm, hGm, hGE] at hcsr
  rw [hXm] at hm
  dsimp only
  rw [heq]
  have hms : (vectorFault cfg cc host G code tv).csr.mstatus.MPP = .machine ∧
      (vectorFault cfg cc host G code tv).csr.mstatus.PIE.get .machine = false ∧
      (vectorFault cfg cc host G code tv).csr.epc.get .machine = h.getEPC &&& cfg.epcMask.get .machine := by
    rw [hcsr]; simp [trapCsr, hIE, Mode.toNat]
  -- its `MRET` returns to what `MPP` and `MPIE` now hold
  obtain ⟨-, hm₂, -, hpc₂, hcs₂⟩ := eretFromPP_spec cfg cc (vectorFault cfg cc host G code tv) .machine
    (vectorFault cfg cc host G code tv).csr.mstatus.MPP (fun ms m => { ms with MPP := m }) hdm
  refine ⟨hm, hex, hms.1, hms.2.1, hms.2.2, ?_, ?_, fun hmask hal => ?_⟩
  · rw [riscvMRET, hm₂, hms.1]; rfl
  · rw [riscvMRET, hcs₂]; simp [eretCsr, hms.2.1]
  · rw [riscvMRET, hpc₂, hms.2.2, hmask, hc, show G.compressed = h.compressed from hack.compressed.trans hP.2.2.2]
    rcases hal with hcomp | h3
    · simp [hcomp]
    · split
      · rfl
      · exact and_not_three h3

theorem riscvTakeException_shvFault_user16 :
    let h : Hart := { Hart.new (Config.rv64 true) Host.flat default with
      mode := .user, csr := { (default : Csrs) with tvec := ⟨default, default, ⟨0x1000, 3⟩⟩ },
      pendEnab := ⟨some 16, .machine, 0xFF, true⟩, sel := ⟨some 16, .machine, 0xFF, true⟩ }
    let host : Host := { Host.flat with read := fun _ a _ => ⟨0, some (5, a)⟩ }
    h.mode = .user ∧
      ((h.riscvTakeException (Config.rv64 true) (Cliccfg.initial true) host (.int 16) 0).riscvMRET
        (Config.rv64 true) (Cliccfg.initial true)).mode = .machine :=
  ⟨rfl, (riscvTakeException_shvFault (Config.rv64 true) (Cliccfg.initial true)
    { Host.flat with read := fun _ a _ => ⟨0, some (5, a)⟩ }
    { Hart.new (Config.rv64 true) Host.flat default with
      mode := .user, csr := { (default : Csrs) with tvec := ⟨default, default, ⟨0x1000, 3⟩⟩ },
      pendEnab := ⟨some 16, .machine, 0xFF, true⟩, sel := ⟨some 16, .machine, 0xFF, true⟩ }
    rfl rfl 0 (by decide) (by decide) rfl rfl).2.2.2.2.2.1⟩

end Hart

end RiscvTrap
