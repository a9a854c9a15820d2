import RiscvTrap.Clic

/-!
# Testing for interrupts

`riscvTestInterrupt` and what it is built from: the refresh of the selection
`refreshPendingAndEnabled`, the WFI wake-up, and the scheduling of the fetch gate
`handlePendingAndEnabled`; with `riscvWFI` and `riscvUpdatePending`.

* `SelFrame`: what an interrupt test may change.  A test leaves everything but
  the selection (`pendEnab`, `sel`), the halt state and the simulator calls as it
  was (`selFrame_riscvTestInterrupt`), so no test ever moves the mode, the PC or
  a CSR.
* `HaltInv`: the simulator's halted state is `disable ≠ 0`.  Halting and
  restarting keep it (`halted_haltProcessor`, `halted_restartProcessor`).
* `wfi_riscvTestInterrupt`: after a test the WFI halt reason is clear, or nothing
  is pending.  This is what makes WFI wake up; `RiscvTrap.Reachable` carries both
  invariants over every run.
-/

namespace RiscvTrap

namespace Hart

variable (cfg : Config) (cc : Cliccfg) (h : Hart)

/-- `refreshPendingAndEnabled`: reset `pendEnab`, then let the basic and the CLIC
arbiters propose. -/
def refreshPendingAndEnabled : Hart :=
  let h := { h with pendEnab := PendEnab.none }
  let h := if cfg.basicICPresent then h.refreshPendingAndEnabledBasic cfg else h
  if cfg.CLICPresent then h.refreshPendingAndEnabledCLIC cfg cc else h

/-- `getPendingAndEnabled`: an interrupt is selected, outside Debug mode and with
`deferint` low. -/
def getPendingAndEnabled : Bool :=
  h.pendEnab.id.isSome && !h.DM && !h.netValue.deferint

/-- `handlePendingAndEnabled`: schedule the fetch gate. -/
def handlePendingAndEnabled : Hart :=
  if h.getPendingAndEnabled then h.emit .doSynchronousInterrupt else h

/-- `riscvTestInterrupt`. -/
def riscvTestInterrupt : Hart :=
  let h := h.refreshPendingAndEnabled cfg cc
  let h := if h.getPending then h.restartProcessor cfg.reasons.RESTART_WFI else h
  h.handlePendingAndEnabled

/-- `riscvWFI`. -/
def riscvWFI : Hart :=
  if !(h.DM || h.getPending) then h.haltProcessor cfg.reasons.WFI else h

/-- `riscvUpdatePending`: `mip` is the external and software pending bits. -/
def riscvUpdatePending : Hart :=
  let newValue := h.ip 0 ||| h.swip
  if h.csr.mip ≠ newValue then
    ({ h with csr := { h.csr with mip := newValue } }).riscvTestInterrupt cfg cc
  else h

/-! ### What a test may change -/

/-- `h'` differs from `h` at most in the selection and the simulator calls: what a
refresh may change. -/
def PickFrame (h h' : Hart) : Prop :=
  h' = { h with pendEnab := h'.pendEnab, sel := h'.sel, effects := h'.effects }

/-- `h'` differs from `h` at most in the selection, the halt state and the
simulator calls: what a test may change. -/
def SelFrame (h h' : Hart) : Prop :=
  h' = { h with
    pendEnab := h'.pendEnab, sel := h'.sel, disable := h'.disable, halted := h'.halted,
    effects := h'.effects }

theorem PickFrame.trans {h₁ h₂ h₃ : Hart} (h12 : PickFrame h₁ h₂) (h23 : PickFrame h₂ h₃) :
    PickFrame h₁ h₃ := by
  unfold PickFrame at *; rw [h23, h12]

theorem SelFrame.refl : SelFrame h h := rfl

theorem SelFrame.trans {h₁ h₂ h₃ : Hart} (h12 : SelFrame h₁ h₂) (h23 : SelFrame h₂ h₃) :
    SelFrame h₁ h₃ := by
  unfold SelFrame at *; rw [h23, h12]

theorem PickFrame.sel {h h' : Hart} (hf : PickFrame h h') : SelFrame h h' := by
  unfold PickFrame SelFrame at *; rw [hf]

section
variable {h h' : Hart}

theorem PickFrame.disable (hf : PickFrame h h') : h'.disable = h.disable := by rw [hf]
theorem PickFrame.halted (hf : PickFrame h h') : h'.halted = h.halted := by rw [hf]

variable (hf : SelFrame h h')
include hf

theorem SelFrame.mode : h'.mode = h.mode := by rw [hf]
theorem SelFrame.DM : h'.DM = h.DM := by rw [hf]
theorem SelFrame.csr : h'.csr = h.csr := by rw [hf]
theorem SelFrame.pc : h'.pc = h.pc := by rw [hf]
theorem SelFrame.traps : h'.traps = h.traps := by rw [hf]
theorem SelFrame.intState : h'.intState = h.intState := by rw [hf]
theorem SelFrame.ipe : h'.ipe = h.ipe := by rw [hf]
theorem SelFrame.netValue : h'.netValue = h.netValue := by rw [hf]
theorem SelFrame.inSaveRestore : h'.inSaveRestore = h.inSaveRestore := by rw [hf]
theorem SelFrame.compressed : h'.compressed = h.compressed := by rw [hf]

end

theorem selFrame_emit (e : Effect) : SelFrame h (h.emit e) := rfl

theorem selFrame_restartProcessor (r : BitVec 32) : SelFrame h (h.restartProcessor r) := by
  simp only [restartProcessor]; split <;> rfl

theorem selFrame_haltProcessor (r : BitVec 32) : SelFrame h (h.haltProcessor r) := by
  simp only [haltProcessor]; split <;> rfl

theorem selFrame_handlePendingAndEnabled : SelFrame h h.handlePendingAndEnabled := by
  unfold handlePendingAndEnabled; split <;> rfl

theorem pickFrame_presentCLIC (id : Option Nat) : PickFrame h (h.presentCLIC cfg cc id) := by
  cases id with
  | none => rfl
  | some m => simp only [presentCLIC]; split_ifs <;> rfl

theorem pickFrame_refreshPendingAndEnabledCLIC :
    PickFrame h (h.refreshPendingAndEnabledCLIC cfg cc) :=
  pickFrame_presentCLIC cfg cc h _

theorem pickFrame_refreshPendingAndEnabled :
    PickFrame h (h.refreshPendingAndEnabled cfg cc) := by
  have hc : ∀ h₁ : Hart, PickFrame h h₁ →
      PickFrame h (if cfg.CLICPresent then h₁.refreshPendingAndEnabledCLIC cfg cc else h₁) := by
    intro h₁ h1; split
    · exact h1.trans (pickFrame_refreshPendingAndEnabledCLIC cfg cc h₁)
    · exact h1
  apply hc
  split <;> rfl

theorem selFrame_riscvTestInterrupt : SelFrame h (h.riscvTestInterrupt cfg cc) := by
  have hr := (pickFrame_refreshPendingAndEnabled cfg cc h).sel
  dsimp only [riscvTestInterrupt]
  split
  · exact (hr.trans (selFrame_restartProcessor _ _)).trans (selFrame_handlePendingAndEnabled _)
  · exact hr.trans (selFrame_handlePendingAndEnabled _)

/-! ### Halting -/

/-- The simulator's halted state is `disable ≠ 0`. -/
def HaltInv (h : Hart) : Prop := h.halted = true ↔ h.disable ≠ 0

theorem haltInv_of_eq {h h' : Hart} (hd : h'.disable = h.disable) (hh : h'.halted = h.halted)
    (hi : HaltInv h) : HaltInv h' := by
  unfold HaltInv; rw [hd, hh]; exact hi

theorem haltInv_handlePendingAndEnabled (hi : HaltInv h) : HaltInv h.handlePendingAndEnabled := by
  unfold handlePendingAndEnabled; split <;> exact hi

theorem haltInv_riscvTestInterrupt (hi : HaltInv h) : HaltInv (h.riscvTestInterrupt cfg cc) := by
  have hr := pickFrame_refreshPendingAndEnabled cfg cc h
  have hi' := haltInv_of_eq hr.disable hr.halted hi
  dsimp only [riscvTestInterrupt]
  split
  · exact haltInv_handlePendingAndEnabled _ (halted_restartProcessor _ _ hi')
  · exact haltInv_handlePendingAndEnabled _ hi'

/-! ### Waking from WFI -/

theorem getPending_of_selFrame {h h' : Hart} (hf : SelFrame h h') (hs : h'.sel = h.sel) :
    h'.getPending = h.getPending := by
  unfold getPending getPendingBasic getPendingCLIC; rw [hf.csr, hs]

theorem sel_restartProcessor (r : BitVec 32) : (h.restartProcessor r).sel = h.sel := by
  simp only [restartProcessor]; split <;> rfl

theorem sel_haltProcessor (r : BitVec 32) : (h.haltProcessor r).sel = h.sel := by
  simp only [haltProcessor]; split <;> rfl

theorem sel_handlePendingAndEnabled : h.handlePendingAndEnabled.sel = h.sel := by
  unfold handlePendingAndEnabled; split <;> rfl

theorem disable_handlePendingAndEnabled : h.handlePendingAndEnabled.disable = h.disable := by
  unfold handlePendingAndEnabled; split <;> rfl

/-- The WFI reason is clear, or nothing is pending. -/
def WfiInv (h : Hart) : Prop := h.disable &&& cfg.reasons.WFI ≠ 0 → h.getPending = false

theorem disable_restartProcessor (r : BitVec 32) :
    (h.restartProcessor r).disable = h.disable &&& ~~~r := by
  simp only [restartProcessor]; split <;> rfl

theorem disable_haltProcessor (r : BitVec 32) :
    (h.haltProcessor r).disable = h.disable ||| r := by
  simp only [haltProcessor]; split <;> rfl

/-- **A test leaves the WFI reason set only when nothing is pending.** -/
theorem wfi_riscvTestInterrupt : WfiInv cfg (h.riscvTestInterrupt cfg cc) := by
  intro hw
  dsimp only [riscvTestInterrupt] at hw ⊢
  rw [getPending_of_selFrame (selFrame_handlePendingAndEnabled _) (sel_handlePendingAndEnabled _)]
  rw [disable_handlePendingAndEnabled] at hw
  generalize h.refreshPendingAndEnabled cfg cc = h₁ at hw ⊢
  by_cases hp : h₁.getPending
  · rw [if_pos hp, disable_restartProcessor] at hw
    exact absurd (and_not_and_eq_zero cfg.reasons.restart_wfi) hw
  · rw [if_neg hp]; simpa using hp

end Hart

end RiscvTrap
