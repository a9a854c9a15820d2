import RiscvTrap.RoundTrip

/-!
# A trap and its return, for every target

`trap_eret_roundTrip` takes the trap of a synchronous exception or a basic
interrupt, whose target `trapModeX` is never below the current mode.  A CLIC
interrupt goes to the mode the arbiter presented, `pendEnab.priv`, which is at least
the mode the hart was in when the interrupt was presented.  Here the round trip is
proved for every trap whose target is at least the current mode and not the reserved
mode, so for the CLIC interrupts too: the return of the target's bank restores the
mode and every interrupt enable, and in CLIC mode the level `xil`, from the
`xcause.pil` the trap saved.

* `eretOf_mode_of_trapCsr`, `eretOf_pc_of_trapCsr`, `eretOf_csr_of_trapCsr`: the
  return of the bank of `X` from the CSRs a trap from mode `Y` to `X` wrote.
* `trap_eret_anyTarget`: the round trip, from `riscvTakeException_spec` and those three.
-/

namespace RiscvTrap

namespace Hart

variable (cfg : Config) (cc : Cliccfg)

section
variable {h₁ : Hart} {c : Csrs} {X Y : Mode} {isInt inhv : Bool} {code : Nat} {EPC tval : BitVec 64}
  {level : Option (BitVec 8)}
  (hcsr : h₁.csr = trapCsr cfg c X Y isInt code EPC tval level inhv) (hXH : X ≠ .hypervisor)
  (hdm : h₁.DM = false)
include hcsr hXH hdm

/-- The return goes back to the mode `Y` the trap saved, when `Y` is implemented and
not above `X`. -/
theorem eretOf_mode_of_trapCsr (hXY : Y ≤ X) (hY : cfg.riscvHasMode Y = true) :
    (h₁.eretOf cfg cc X).mode = Y := by
  obtain ⟨-, -, hm, -⟩ := eretOf_spec cfg cc h₁ X hXH hdm
  rw [hm, hcsr]
  cases X with
  | hypervisor => exact absurd rfl hXH
  | user => exact (if_pos rfl).trans (by revert hXY; cases Y <;> decide)
  | supervisor => simp [trapCsr, Mode.ofSPP_toSPP hXY, cfg.getERETMode_of_has hY]
  | machine => simp [trapCsr, Mode.toNat, cfg.getERETMode_of_has hY]

/-- The return jumps to the `EPC` the trap saved, when the mask of `xepc` and the
alignment keep it. -/
theorem eretOf_pc_of_trapCsr (hmask : EPC &&& cfg.epcMask.get X = EPC)
    (hal : h₁.compressed = true ∨ EPC &&& 3 = 0) : (h₁.eretOf cfg cc X).pc = EPC := by
  obtain ⟨-, hp, -, -⟩ := eretOf_spec cfg cc h₁ X hXH hdm
  rw [hp, hcsr]
  simp only [trapCsr, PerMode.get_set, hmask]
  rcases hal with hc | h3
  · simp [hc]
  · split
    · rfl
    · exact and_not_three h3

/-- The CSRs after the return: those before the trap but for the bank of `X`. -/
theorem eretOf_csr_of_trapCsr {u : Bool} (hu : h₁.useCLIC cfg X = u) (hm : (h₁.eretOf cfg cc X).mode = Y) :
    (h₁.eretOf cfg cc X).csr = { c with
      mstatus := { c.mstatus with
        PIE := c.mstatus.PIE.set X true,
        SPP := if X = .supervisor then cfg.riscvGetMinMode.toSPP else c.mstatus.SPP,
        MPP := if X = .machine then cfg.riscvGetMinMode else c.mstatus.MPP,
        MPRV := if X ≠ .user ∧ cfg.privAfter20190405 = true ∧ Y ≠ .machine then false
          else c.mstatus.MPRV },
      cause := c.cause.set X ⟨BitVec.ofNat 12 code, isInt, c.mintstatus.get X, inhv⟩,
      epc := c.epc.set X (EPC &&& cfg.epcMask.get X),
      tval := c.tval.set X tval,
      mintstatus := c.mintstatus.set X (if u then c.mintstatus.get X else level.getD (c.mintstatus.get X)) } := by
  obtain ⟨-, -, -, hc⟩ := eretOf_spec cfg cc h₁ X hXH hdm
  rw [hc, hm, hu, hcsr]
  cases X <;> first
    | exact absurd rfl hXH
    | (cases level <;> simp [eretCsr, trapCsr, PerMode.set, PerMode.get, Mode.toNat]); split <;> rfl

end

variable (host : Host) (h : Hart)

/-- **A trap and its return, for every target.**  From an implemented mode, any trap
taken outside Debug mode (and not on the faulting SHV path) to a mode `X` at least
the current one and not the reserved one, followed by the return of the bank of `X`,
restores the mode and every interrupt enable.  This covers the CLIC interrupts, whose
target is the presented mode: what differs is confined to the bank of `X`, and in
CLIC mode `xil` is back at its value before the trap. -/
theorem trap_eret_anyTarget (e : Exception) (tval : BitVec 64) (hd : h.DM = false)
    (hY : cfg.riscvHasMode h.mode = true) (hXY : h.mode ≤ h.trapModeX e)
    (hXH : h.trapModeX e ≠ .hypervisor) (hnf : h.shvReadFaults cfg host e = false) :
    let X := h.trapModeX e
    let EPC := h.getEPC
    let h₂ := (h.riscvTakeException cfg cc host e tval).eretOf cfg cc X
    h₂.mode = h.mode ∧ h₂.DM = false ∧
      (EPC &&& cfg.epcMask.get X = EPC → (h.compressed = true ∨ EPC &&& 3 = 0) → h₂.pc = EPC) ∧
      ∃ cause epc tval' il, h₂.csr = { h.csr with
        mstatus := { h.csr.mstatus with
          PIE := h.csr.mstatus.PIE.set X true,
          SPP := if X = .supervisor then cfg.riscvGetMinMode.toSPP else h.csr.mstatus.SPP,
          MPP := if X = .machine then cfg.riscvGetMinMode else h.csr.mstatus.MPP,
          MPRV := if X ≠ .user ∧ cfg.privAfter20190405 = true ∧ h.mode ≠ .machine then false
            else h.csr.mstatus.MPRV },
        cause := h.csr.cause.set X cause,
        epc := h.csr.epc.set X epc,
        tval := h.csr.tval.set X tval',
        mintstatus := h.csr.mintstatus.set X (if h.useCLIC cfg X then h.csr.mintstatus.get X else il) } := by
  obtain ⟨-, hdm, hc, -, inhv, hcsr⟩ := riscvTakeException_spec cfg cc host h e tval hd hnf
  have hu : (h.riscvTakeException cfg cc host e tval).useCLIC cfg (h.trapModeX e) = h.useCLIC cfg (h.trapModeX e) :=
    useCLIC_of_tvec cfg (by rw [hcsr]; rfl) _
  have hm := eretOf_mode_of_trapCsr cfg cc hcsr hXH hdm hXY hY
  exact ⟨hm, (eretOf_spec cfg cc _ _ hXH hdm).1,
    fun hmask hal => eretOf_pc_of_trapCsr cfg cc hcsr hXH hdm hmask (hc ▸ hal), _, _, _, _,
    eretOf_csr_of_trapCsr cfg cc hcsr hXH hdm hu hm⟩

/-- A Machine-mode CLIC interrupt taken from Machine mode and its `MRET` come back to
Machine mode. -/
theorem trap_eret_anyTarget_clic16 :
    let h : Hart := { Hart.new (Config.rv64 true) Host.flat default with pendEnab := ⟨some 16, .machine, 0xFF, true⟩ }
    ((h.riscvTakeException (Config.rv64 true) (Cliccfg.initial true) Host.flat (.int 16) 0).eretOf
      (Config.rv64 true) (Cliccfg.initial true) .machine).mode = .machine :=
  (trap_eret_anyTarget (Config.rv64 true) (Cliccfg.initial true) Host.flat
    { Hart.new (Config.rv64 true) Host.flat default with pendEnab := ⟨some 16, .machine, 0xFF, true⟩ }
    (.int 16) 0 rfl rfl (by decide) (by decide) (by decide)).1

end Hart

end RiscvTrap
