import RiscvTrap.Trap

/-!
# Returning from a trap

`riscvMRET`, `riscvSRET`, `riscvURET` and `riscvDRET`.

`riscvMRET` and `riscvSRET` differ only in the bank they restore and in the
previous-privilege field they read and reset, so both are `eretFromPP` at their
own values.  `riscvURET` has no previous-privilege field and never clears `MPRV`,
so it keeps its own body.  All three restore the interrupt-enable stack through
`eretRestore`.

* `eretFromPP_spec`, `riscvURET_spec`: what a return does outside Debug mode.
* `eretOf`: the return that matches a trap to mode `X`; the round trip of a trap
  and its return is in `RiscvTrap.RoundTrip`.
-/

namespace RiscvTrap

namespace Hart

variable (cfg : Config) (cc : Cliccfg) (host : Host) (h : Hart)

/-- The part of a return from `X` that all three share: restore `xil` from
`xcause.pil` in CLIC mode, `xIE := xPIE`, `xPIE := 1`. -/
def eretRestore (X : Mode) : Hart :=
  let c := h.csr
  let mintstatus := if h.useCLIC cfg X then c.mintstatus.set X (c.cause.get X).pil else c.mintstatus
  h.setCsr { c with
    mintstatus := mintstatus,
    mstatus := { c.mstatus with
      IE := c.mstatus.IE.set X (c.mstatus.PIE.get X), PIE := c.mstatus.PIE.set X true } }

/-- `riscvMRET` and `riscvSRET`: return from `X` to the mode its previous-privilege
field `PP` names (the minimum mode when that one is not implemented), resetting the
field with `writePP`.  A no-op in Debug mode. -/
def eretFromPP (X PP : Mode) (writePP : Mstatus → Mode → Mstatus) : Hart :=
  if h.DM then h
  else
    let minMode := cfg.riscvGetMinMode
    let newMode := cfg.getERETMode PP
    let h := (h.clearEAxRET cfg).eretRestore cfg X
    let h := h.setCsr { h.csr with mstatus := writePP h.csr.mstatus minMode }
    let h := h.clearMPRV cfg newMode
    h.doERETCommon cfg cc X newMode (h.csr.epc.get X)

/-- `riscvMRET`. -/
def riscvMRET : Hart :=
  h.eretFromPP cfg cc .machine h.csr.mstatus.MPP (fun ms m => { ms with MPP := m })

/-- `riscvSRET`: `SPP` is one bit. -/
def riscvSRET : Hart :=
  h.eretFromPP cfg cc .supervisor (Mode.ofSPP h.csr.mstatus.SPP)
    (fun ms m => { ms with SPP := m.toSPP })

/-- `riscvURET`. -/
def riscvURET : Hart :=
  if h.DM then h
  else
    let h := (h.clearEAxRET cfg).eretRestore cfg .user
    h.doERETCommon cfg cc .user .user (h.csr.epc.get .user)

/-- `riscvDRET`: outside Debug mode it is an illegal instruction. -/
def riscvDRET : Hart :=
  if !h.DM then h.riscvIllegalInstruction cfg cc host else h.leaveDM cfg cc

/-- The return instruction of the bank a trap to `X` writes (the reserved mode
shares the machine bank). -/
def eretOf (X : Mode) : Hart :=
  match X with
  | .user => h.riscvURET cfg cc
  | .supervisor => h.riscvSRET cfg cc
  | .hypervisor => h.riscvMRET cfg cc
  | .machine => h.riscvMRET cfg cc

/-! ### What a return does -/

@[simp] theorem eretRestore_mode (X : Mode) : (h.eretRestore cfg X).mode = h.mode := rfl
@[simp] theorem eretRestore_DM (X : Mode) : (h.eretRestore cfg X).DM = h.DM := rfl
@[simp] theorem eretRestore_compressed (X : Mode) :
    (h.eretRestore cfg X).compressed = h.compressed := rfl
@[simp] theorem clearEAxRET_csr : (h.clearEAxRET cfg).csr = h.csr := by
  unfold clearEAxRET; split <;> rfl
@[simp] theorem clearEAxRET_DM : (h.clearEAxRET cfg).DM = h.DM := by
  unfold clearEAxRET; split <;> rfl
@[simp] theorem clearEAxRET_compressed : (h.clearEAxRET cfg).compressed = h.compressed := by
  unfold clearEAxRET; split <;> rfl

/-- The CSRs after the shared part of a return from `X`. -/
def eretCsr (c : Csrs) (useCLIC : Bool) (X : Mode) : Csrs :=
  { c with
    mintstatus := if useCLIC then c.mintstatus.set X (c.cause.get X).pil else c.mintstatus,
    mstatus := { c.mstatus with
      IE := c.mstatus.IE.set X (c.mstatus.PIE.get X), PIE := c.mstatus.PIE.set X true } }

@[simp] theorem eretRestore_csr (X : Mode) :
    (h.eretRestore cfg X).csr = eretCsr h.csr (h.useCLIC cfg X) X := rfl

@[simp] theorem useCLIC_clearEAxRET (X : Mode) : (h.clearEAxRET cfg).useCLIC cfg X = h.useCLIC cfg X := by
  unfold clearEAxRET; split <;> rfl

/-- **`riscvMRET`, `riscvSRET` outside Debug mode**: to the mode `PP` names, at
`xepc`, with the enable stack popped, `PP` reset and `MPRV` cleared below Machine
mode. -/
theorem eretFromPP_spec (X PP : Mode) (writePP : Mstatus → Mode → Mstatus) (hd : h.DM = false) :
    let h' := h.eretFromPP cfg cc X PP writePP
    let newMode := cfg.getERETMode PP
    let c := eretCsr h.csr (h.useCLIC cfg X) X
    let ms := writePP c.mstatus cfg.riscvGetMinMode
    h'.DM = false ∧ h'.mode = newMode ∧ h'.compressed = h.compressed ∧
      h'.pc = (if h.compressed then h.csr.epc.get X else h.csr.epc.get X &&& ~~~3) ∧
      h'.csr = { c with mstatus := { ms with
        MPRV := if cfg.privAfter20190405 && newMode ≠ .machine then false else ms.MPRV } } := by
  simp [eretFromPP, hd, eretCsr]

/-- **`riscvURET` outside Debug mode**: to User mode at `uepc`, with the enable
stack popped. -/
theorem riscvURET_spec (hd : h.DM = false) :
    let h' := h.riscvURET cfg cc
    h'.DM = false ∧ h'.mode = .user ∧ h'.compressed = h.compressed ∧
      h'.pc = (if h.compressed then h.csr.epc.get .user else h.csr.epc.get .user &&& ~~~3) ∧
      h'.csr = eretCsr h.csr (h.useCLIC cfg .user) .user := by
  simp [riscvURET, hd, eretCsr]

/-- **The return of the bank of `X`** outside Debug mode: `riscvURET` for User mode,
`riscvSRET` and `riscvMRET` to the mode `SPP` or `MPP` names. -/
theorem eretOf_spec (X : Mode) (hX : X ≠ .hypervisor) (hd : h.DM = false) :
    let h' := h.eretOf cfg cc X
    let c := eretCsr h.csr (h.useCLIC cfg X) X
    let minMode := cfg.riscvGetMinMode
    h'.DM = false ∧
      h'.pc = (if h.compressed then h.csr.epc.get X else h.csr.epc.get X &&& ~~~3) ∧
      h'.mode = (if X = .user then .user else cfg.getERETMode
        (if X = .supervisor then Mode.ofSPP h.csr.mstatus.SPP else h.csr.mstatus.MPP)) ∧
      h'.csr = { c with mstatus := { c.mstatus with
        SPP := if X = .supervisor then minMode.toSPP else c.mstatus.SPP,
        MPP := if X = .machine then minMode else c.mstatus.MPP,
        MPRV := if X ≠ .user ∧ cfg.privAfter20190405 = true ∧ h'.mode ≠ .machine then false
          else c.mstatus.MPRV } } := by
  cases X with
  | hypervisor => exact absurd rfl hX
  | user =>
    obtain ⟨d, m, -, p, cs⟩ := riscvURET_spec cfg cc h hd
    exact ⟨d, p, m, by rw [eretOf, cs]; rfl⟩
  | supervisor =>
    obtain ⟨d, m, -, p, cs⟩ := eretFromPP_spec cfg cc h .supervisor
      (Mode.ofSPP h.csr.mstatus.SPP) (fun ms m => { ms with SPP := m.toSPP }) hd
    refine ⟨d, p, m, ?_⟩
    rw [eretOf, riscvSRET, cs, m]
    simp [eretCsr]
  | machine =>
    obtain ⟨d, m, -, p, cs⟩ := eretFromPP_spec cfg cc h .machine
      h.csr.mstatus.MPP (fun ms m => { ms with MPP := m }) hd
    refine ⟨d, p, m, ?_⟩
    rw [eretOf, riscvMRET, cs, m]
    simp [eretCsr]

end Hart

end RiscvTrap
