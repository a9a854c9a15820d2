import RiscvTrap.Return

/-!
# A trap and its return

A synchronous exception or a basic interrupt taken by `riscvTakeException`,
followed at once by the return of the bank it wrote (`eretOf`), puts the hart
back in the mode it trapped from, with the interrupt enables as they were.  The
trap leaves its marks in the bank of the target mode `X`: `xcause`, `xepc`,
`xtval`, and `xil` unless CLIC mode restores it; the return sets `xPIE`, resets
`xPP` to the lowest implemented mode and may clear `MPRV`.

The return goes back to the mode the trap saved only when that mode is
implemented (`getERETMode`), so the round trip assumes it of the mode trapped from.
-/

namespace RiscvTrap

namespace Hart

variable (cfg : Config) (cc : Cliccfg) (host : Host) (h : Hart)

theorem mode_le_getModeX (mMask sMask : BitVec 32) (ecode : Nat) :
    h.mode ≤ h.getModeX mMask sMask ecode :=
  Mode.le_raise_right _ _

theorem getModeX_ne_hypervisor (hm : h.mode ≠ .hypervisor) (mMask sMask : BitVec 32)
    (ecode : Nat) : h.getModeX mMask sMask ecode ≠ .hypervisor := by
  simp only [getModeX, Mode.raise]
  split_ifs <;> simp_all

/-- The target of a synchronous exception or a basic interrupt is never below the
current mode. -/
theorem mode_le_trapModeX (e : Exception) (hbasic : e.isInterrupt = true → h.pendEnab.isCLIC = false) :
    h.mode ≤ h.trapModeX e := by
  cases e with
  | sync c => exact mode_le_getModeX h _ _ _
  | int i => simp_all [trapModeX, Exception.isInterrupt, getInterruptModeX, mode_le_getModeX]

theorem trapModeX_ne_hypervisor (e : Exception) (hm : h.mode ≠ .hypervisor)
    (hbasic : e.isInterrupt = true → h.pendEnab.isCLIC = false) : h.trapModeX e ≠ .hypervisor := by
  cases e with
  | sync c => exact getModeX_ne_hypervisor h hm _ _ _
  | int i =>
    simp_all [trapModeX, Exception.isInterrupt, getInterruptModeX, getModeX_ne_hypervisor]

theorem and_not_three {x : BitVec 64} (hx : x &&& 3 = 0) : x &&& ~~~3 = x := by
  apply BitVec.eq_of_getLsbD_eq
  intro i
  have hi := congrArg (BitVec.getLsbD · i.val) hx
  simp only [BitVec.getLsbD_and, BitVec.getLsbD_not, BitVec.getLsbD_zero] at hi ⊢
  rcases i with ⟨_ | _ | i, hlt⟩ <;> simp_all [BitVec.getLsbD_ofNat, Nat.testBit]

theorem useCLIC_of_tvec {h h' : Hart} (ht : h'.csr.tvec = h.csr.tvec) (X : Mode) :
    h'.useCLIC cfg X = h.useCLIC cfg X := by
  simp only [useCLIC, ht]

/-- **A trap and its return.**  From a mode that is implemented, a synchronous
exception or a basic interrupt taken outside Debug mode (and not on the faulting
SHV path), followed by the return of its bank, restores the mode and every
interrupt enable.  What differs is confined to the bank of the target `X`: its
`xPIE`, its previous-privilege field, `MPRV`, `xcause`, `xtval`, `xepc` (the
masked EPC) and, unless CLIC mode restores it, `xil` (the trap's level). -/
theorem trap_eret_roundTrip (e : Exception) (tval : BitVec 64) (hd : h.DM = false)
    (hY : cfg.riscvHasMode h.mode = true)
    (hbasic : e.isInterrupt = true → h.pendEnab.isCLIC = false)
    (hnf : h.shvReadFaults cfg host e = false) :
    let X := h.trapModeX e
    let EPC := h.getEPC
    let h₂ := (h.riscvTakeException cfg cc host e tval).eretOf cfg cc X
    h₂.mode = h.mode ∧ h₂.DM = false ∧
      (EPC &&& cfg.epcMask.get X = EPC → (h.compressed = true ∨ EPC &&& 3 = 0) → h₂.pc = EPC) ∧
      ∃ inhv, h₂.csr = { h.csr with
        mstatus := { h.csr.mstatus with
          PIE := h.csr.mstatus.PIE.set X true,
          SPP := if X = .supervisor then cfg.riscvGetMinMode.toSPP else h.csr.mstatus.SPP,
          MPP := if X = .machine then cfg.riscvGetMinMode else h.csr.mstatus.MPP,
          MPRV := if X ≠ .user ∧ cfg.privAfter20190405 = true ∧ h.mode ≠ .machine then false
            else h.csr.mstatus.MPRV },
        cause := h.csr.cause.set X
          ⟨BitVec.ofNat 12 (h.reportedCode e), e.isInterrupt, h.csr.mintstatus.get X, inhv⟩,
        epc := h.csr.epc.set X (EPC &&& cfg.epcMask.get X),
        tval := h.csr.tval.set X (if cfg.tval_zero then 0 else tval),
        mintstatus := h.csr.mintstatus.set X (if h.useCLIC cfg X then h.csr.mintstatus.get X
          else (h.trapLevel e X).getD (h.csr.mintstatus.get X)) } := by
  have hXY := mode_le_trapModeX h e hbasic
  have hXH :=
    trapModeX_ne_hypervisor h e (fun hm => by simp [hm, Config.riscvHasMode] at hY) hbasic
  obtain ⟨hm, hdm, hc, -, inhv, hcsr⟩ := riscvTakeException_spec cfg cc host h e tval hd hnf
  have hu : ∀ X, (h.riscvTakeException cfg cc host e tval).useCLIC cfg X = h.useCLIC cfg X :=
    useCLIC_of_tvec cfg (by rw [hcsr]; rfl)
  dsimp only
  generalize h.riscvTakeException cfg cc host e tval = h₁ at hm hdm hc hcsr hu ⊢
  generalize h.trapLevel e (h.trapModeX e) = level at hcsr ⊢
  generalize h.trapModeX e = X' at *
  have hpc : ∀ h₂ : Hart,
      h₂.pc = (if h₁.compressed then h₁.csr.epc.get X' else h₁.csr.epc.get X' &&& ~~~3) →
      h.getEPC &&& cfg.epcMask.get X' = h.getEPC → (h.compressed = true ∨ h.getEPC &&& 3 = 0) →
      h₂.pc = h.getEPC := by
    intro h₂ hp hmask hal
    rw [hp, hc, hcsr]
    simp only [trapCsr, PerMode.get_set, hmask]
    rcases hal with hcomp | h3
    · simp [hcomp]
    · split
      · rfl
      · exact and_not_three h3
  obtain ⟨d2, p2, m2, cs2⟩ := eretOf_spec cfg cc h₁ X' hXH hdm
  have hmode : (h₁.eretOf cfg cc X').mode = h.mode := by
    rw [m2, hcsr]
    cases X' with
    | hypervisor => exact absurd rfl hXH
    | user => exact (if_pos rfl).trans (by revert hXY; cases h.mode <;> decide)
    | supervisor => simp [trapCsr, Mode.ofSPP_toSPP hXY, cfg.getERETMode_of_has hY]
    | machine => simp [trapCsr, Mode.toNat, cfg.getERETMode_of_has hY]
  refine ⟨hmode, d2, hpc _ p2, inhv, ?_⟩
  rw [cs2, hmode, hu, hcsr]
  cases X' <;> first
    | exact absurd rfl hXH
    | cases level <;> cases h.useCLIC cfg _ <;> simp [eretCsr, trapCsr, PerMode.set, PerMode.get, Mode.toNat]

/-- An `ECALL` from Machine mode after reset and its `MRET` come back to Machine mode. -/
theorem trap_eret_roundTrip_ecall :
    (((Hart.new (Config.rv64 false) Host.flat default).riscvTakeException (Config.rv64 false)
        (Cliccfg.initial false) Host.flat (.EnvironmentCall .machine) 0).eretOf
        (Config.rv64 false) (Cliccfg.initial false) .machine).mode = .machine :=
  (trap_eret_roundTrip (Config.rv64 false) (Cliccfg.initial false) Host.flat
    (Hart.new (Config.rv64 false) Host.flat default) (.EnvironmentCall .machine) 0 rfl rfl
    (fun _ => rfl) (by decide)).1

/-- The round trip keeps the trap's mark in `xepc`: after reset `mepc` is zero, and an
`ECALL` and its `MRET` leave it holding the address of the `ECALL`. -/
theorem trap_eret_keeps_mepc :
    (Hart.new (Config.rv64 false) Host.flat default).csr.epc.get .machine = 0 ∧
      (((Hart.new (Config.rv64 false) Host.flat default).riscvTakeException (Config.rv64 false)
        (Cliccfg.initial false) Host.flat (.EnvironmentCall .machine) 0).eretOf
        (Config.rv64 false) (Cliccfg.initial false) .machine).csr.epc.get .machine = 0x1000 := by
  decide

/- The round trip needs the mode trapped from to be implemented: a hart in Supervisor
mode on a configuration without it takes its `ECALL` to Machine mode, and `MRET`
goes on to the lowest implemented mode. -/
example :
    let cfg := { Config.rv64 false with arch := ISA_C ||| ISA_U }
    let h : Hart := { Hart.new cfg Host.flat default with mode := .supervisor }
    cfg.riscvHasMode h.mode = false ∧
      ((h.riscvTakeException cfg (Cliccfg.initial false) Host.flat (.EnvironmentCall .supervisor) 0).eretOf
        cfg (Cliccfg.initial false) .machine).mode = .user := by
  decide

end Hart

end RiscvTrap
