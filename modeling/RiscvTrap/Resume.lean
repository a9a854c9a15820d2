import RiscvTrap.Delivery

/-!
# A halt request loses no interrupt

The arbiters read the mode, the interrupt CSRs (`mie`, `mip`, the `mstatus`
enables, `mideleg`, `sideleg`, `xtvec`, `mintstatus`, `xintthresh`) and the CLIC
interrupt state, and nothing of the Debug state.  A halt request at the fetch gate
takes the hart into Debug mode in place of the selected interrupt; the resume
(`DRET`, through `leaveDM` and `doERETCommon`) comes back to the saved mode and
tests again, so it selects what the gate held back.

* `ArbFrame`: the arbiters' inputs other than the mode, and the latched nets, are
  unchanged.  One lemma per operation of Debug entry and exit.
* `pendEnab_refreshPendingAndEnabled_congr`: the selection depends on those inputs
  and the mode only.
* `haltreq_riscvDRET_keeps`: a halt request at the fetch gate and then the
  debugger's `DRET` bring the hart back to its mode with the selection it had, so
  once the request falls the gate takes the interrupt it held back.
-/

namespace RiscvTrap

namespace Hart

/-- What the interrupt arbiters read of a hart besides its mode, and the latched
nets the fetch gate reads, are unchanged. -/
structure ArbFrame (h h' : Hart) : Prop where
  mie : h'.csr.mie = h.csr.mie
  mip : h'.csr.mip = h.csr.mip
  IE : h'.csr.mstatus.IE = h.csr.mstatus.IE
  mideleg : h'.csr.mideleg = h.csr.mideleg
  sideleg : h'.csr.sideleg = h.csr.sideleg
  tvec : h'.csr.tvec = h.csr.tvec
  mintstatus : h'.csr.mintstatus = h.csr.mintstatus
  intthresh : h'.csr.intthresh = h.csr.intthresh
  intState : h'.intState = h.intState
  ipe : h'.ipe = h.ipe
  netValue : h'.netValue = h.netValue

section
variable {h h₁ h₂ h' : Hart}

theorem ArbFrame.refl : ArbFrame h h := by constructor <;> rfl

theorem ArbFrame.trans (h12 : ArbFrame h h₁) (h23 : ArbFrame h₁ h₂) : ArbFrame h h₂ where
  mie := h23.mie.trans h12.mie
  mip := h23.mip.trans h12.mip
  IE := h23.IE.trans h12.IE
  mideleg := h23.mideleg.trans h12.mideleg
  sideleg := h23.sideleg.trans h12.sideleg
  tvec := h23.tvec.trans h12.tvec
  mintstatus := h23.mintstatus.trans h12.mintstatus
  intthresh := h23.intthresh.trans h12.intthresh
  intState := h23.intState.trans h12.intState
  ipe := h23.ipe.trans h12.ipe
  netValue := h23.netValue.trans h12.netValue

/-- A change of none of the CSRs, the interrupt state, the `ipe` words and the nets. -/
theorem ArbFrame.of_eq (hc : h'.csr = h.csr) (hi : h'.intState = h.intState) (he : h'.ipe = h.ipe)
    (hn : h'.netValue = h.netValue) : ArbFrame h h' := by
  constructor <;> simp only [hc, hi, he, hn]

theorem SelFrame.arb (hf : SelFrame h h') : ArbFrame h h' := .of_eq hf.csr hf.intState hf.ipe hf.netValue

end

variable (cfg : Config) (cc : Cliccfg)

/-! ### The selection reads nothing else -/

section
variable {h h' : Hart} (ha : ArbFrame h h') (hm : h'.mode = h.mode)
include ha hm

theorem ArbFrame.pendingEnabledBasic : h'.pendingEnabledBasic cfg = h.pendingEnabledBasic cfg := by
  simp only [Hart.pendingEnabledBasic, getPendingBasic, effIE, getIE, useCLIC, hm, ha.mie, ha.mip, ha.IE,
    ha.mideleg, ha.sideleg, ha.tvec]

theorem ArbFrame.selectBasic : h'.selectBasic = h.selectBasic := by
  funext s i
  simp only [Hart.selectBasic, getInterruptModeX, getModeX, hm, ha.mideleg, ha.sideleg]

theorem ArbFrame.presentCLIC_pendEnab (hp : h'.pendEnab = h.pendEnab) (id : Option Nat) :
    (h'.presentCLIC cfg cc id).pendEnab = (h.presentCLIC cfg cc id).pendEnab := by
  cases id with
  | none => exact hp
  | some m =>
    simp only [Hart.presentCLIC_pendEnab, getCLICInterruptMode, presentIntClic, useCLIC, hm, hp, ha.intState,
      ha.IE, ha.tvec, ha.mintstatus, ha.intthresh]

theorem ArbFrame.refreshPendingAndEnabledBasic_pendEnab (hp : h'.pendEnab = h.pendEnab) :
    (h'.refreshPendingAndEnabledBasic cfg).pendEnab = (h.refreshPendingAndEnabledBasic cfg).pendEnab := by
  simp only [refreshPendingAndEnabledBasic, ha.pendingEnabledBasic cfg hm, ha.selectBasic hm, hp]

theorem ArbFrame.refreshPendingAndEnabledCLIC_pendEnab (hp : h'.pendEnab = h.pendEnab) :
    (h'.refreshPendingAndEnabledCLIC cfg cc).pendEnab = (h.refreshPendingAndEnabledCLIC cfg cc).pendEnab := by
  have hs : h'.clicSelect cfg cc = h.clicSelect cfg cc := by
    funext acc i
    simp only [clicSelect, clicRank, getCLICInterruptMode, ha.intState]
  simp only [refreshPendingAndEnabledCLIC, hs, ha.ipe]
  exact ha.presentCLIC_pendEnab cfg cc hm hp _

/-- **The selection reads nothing but the mode and the arbiters' inputs.** -/
theorem pendEnab_refreshPendingAndEnabled_congr :
    (h'.refreshPendingAndEnabled cfg cc).pendEnab = (h.refreshPendingAndEnabled cfg cc).pendEnab := by
  dsimp only [refreshPendingAndEnabled]
  split <;> split
  · exact ArbFrame.refreshPendingAndEnabledCLIC_pendEnab cfg cc { ha with } hm
      (ArbFrame.refreshPendingAndEnabledBasic_pendEnab cfg { ha with } hm rfl)
  · exact ArbFrame.refreshPendingAndEnabledCLIC_pendEnab cfg cc { ha with } hm rfl
  · exact ArbFrame.refreshPendingAndEnabledBasic_pendEnab cfg { ha with } hm rfl
  · rfl

end

/-! ### Debug entry and exit -/

variable (h : Hart)

theorem pendEnab_haltProcessor (r : BitVec 32) : (h.haltProcessor r).pendEnab = h.pendEnab := by
  dsimp only [haltProcessor]; split <;> rfl

theorem pendEnab_updateDMStall (b : Bool) : (h.updateDMStall cfg b).pendEnab = h.pendEnab := by
  dsimp only [updateDMStall]
  split
  · split
    · exact pendEnab_haltProcessor _ _
    · exact pendEnab_restartProcessor _ _
  · rfl

theorem arbFrame_updateDMStall (b : Bool) : ArbFrame h (h.updateDMStall cfg b) := by
  have h0 : ArbFrame h { h with DMStall := b } := .of_eq rfl rfl rfl rfl
  dsimp only [updateDMStall]
  split
  · split
    · exact h0.trans (selFrame_haltProcessor _ _).arb
    · exact h0.trans (selFrame_restartProcessor _ _).arb
  · exact .refl

theorem arbFrame_enterDM (cause : DmCause) : ArbFrame h (h.enterDM cfg cause) := by
  have hact : ∀ (h₁ : Hart) (b : Bool), ArbFrame h₁ (h₁.enterDMAction cfg b) := by
    intro h₁ b
    unfold enterDMAction
    split
    · exact (selFrame_emit h₁ _).arb
    · exact .of_eq rfl rfl rfl rfl
    · exact arbFrame_updateDMStall cfg h₁ _
  have hsave : ArbFrame h (h.enterDMSave cause) := by constructor <;> rfl
  dsimp only [enterDM]
  split
  · exact hsave.trans (hact _ _)
  · exact hact _ _

theorem arbFrame_clearMPRV (m : Mode) : ArbFrame h (h.clearMPRV cfg m) := by
  unfold clearMPRV
  split
  · constructor <;> rfl
  · exact .refl

/-- The hart `doERETCommon` tests, after `leaveDM` left Debug mode. -/
theorem arbFrame_leaveDM_test :
    ArbFrame h (((((h.setDM false).clearMPRV cfg h.csr.dcsr.prv).setMode h.csr.dcsr.prv).setPCxRET
      ((h.setDM false).clearMPRV cfg h.csr.dcsr.prv).csr.dpc).emit (.eret .machine)) := by
  have hs : ArbFrame h (h.setDM false) := .of_eq rfl rfl rfl rfl
  exact (hs.trans (arbFrame_clearMPRV cfg _ h.csr.dcsr.prv)).trans (.of_eq rfl rfl rfl rfl)

theorem arbFrame_leaveDM : ArbFrame h (h.leaveDM cfg cc) := by
  dsimp only [leaveDM, doERETCommon]
  exact ((arbFrame_leaveDM_test cfg h).trans (selFrame_riscvTestInterrupt cfg cc _).arb).trans
    (arbFrame_updateDMStall cfg _ _)

/-- The resume selects as the arbiters would in the mode it returns to, from a hart
with the same inputs. -/
theorem pendEnab_leaveDM {g : Hart} (ha : ArbFrame g h) (hm : h.csr.dcsr.prv = g.mode) :
    (h.leaveDM cfg cc).pendEnab = (g.refreshPendingAndEnabled cfg cc).pendEnab := by
  dsimp only [leaveDM, doERETCommon]
  rw [pendEnab_updateDMStall, pendEnab_riscvTestInterrupt]
  exact pendEnab_refreshPendingAndEnabled_congr cfg cc (ha.trans (arbFrame_leaveDM_test cfg h)) hm

theorem riscvDRET_of_DM (host : Host) (hd : h.DM = true) : h.riscvDRET cfg cc host = h.leaveDM cfg cc := by
  simp [riscvDRET, hd]

/-- A halt request outside Debug mode, with no reset-halt request, wins the fetch gate. -/
theorem riscvIFetchExcept_haltreq (host : Host) (hr : h.netValue.resethaltreqS = false)
    (hq : h.netValue.haltreq = true) (hd : h.DM = false) :
    h.riscvIFetchExcept cfg cc host = (false, h.enterDM cfg .haltreq) := by
  simp [riscvIFetchExcept, hr, hq, hd]

theorem haltreqPortCB_false : h.haltreqPortCB false = { h with netValue := { h.netValue with haltreq := false } } := by
  simp [haltreqPortCB, posedge]

variable (host : Host)

/-- **A halt request loses no interrupt.**  Outside Debug mode, when a halt request
(and no reset-halt request) is up after a test, the fetch gate takes no interrupt
and enters Debug mode.  The debugger's `DRET` then brings the hart back to its mode
with the selection the test had made, so once the request falls the gate takes the
interrupt it would have taken without the Debug session. -/
theorem haltreq_riscvDRET_keeps (hd : h.DM = false) (hr : h.netValue.resethaltreqS = false)
    (hq : h.netValue.haltreq = true) :
    (h.riscvTestInterrupt cfg cc).deliveredInterrupt = none ∧
      let h₂ := ((h.riscvTestInterrupt cfg cc).riscvIFetchExcept cfg cc host).2
      let h₃ := h₂.riscvDRET cfg cc host
      h₂.DM = true ∧ h₃.DM = false ∧ h₃.mode = h.mode ∧ h₃.pendEnab = (h.riscvTestInterrupt cfg cc).pendEnab ∧
        (h₃.haltreqPortCB false).deliveredInterrupt =
          ((h.riscvTestInterrupt cfg cc).haltreqPortCB false).deliveredInterrupt := by
  have hf := selFrame_riscvTestInterrupt cfg cc h
  have hd₁ := hf.DM.trans hd
  have hr₁ : (h.riscvTestInterrupt cfg cc).netValue.resethaltreqS = false := hf.netValue ▸ hr
  have hq₁ : (h.riscvTestInterrupt cfg cc).netValue.haltreq = true := hf.netValue ▸ hq
  dsimp only
  rw [riscvIFetchExcept_haltreq cfg cc _ host hr₁ hq₁ hd₁]
  -- the Debug session: entry saves the mode, the resume restores it and tests again
  have hD := DM_enterDM cfg (h.riscvTestInterrupt cfg cc) .haltreq
  have hprv := (enterDM_save cfg _ hd₁ .haltreq).1
  have ha := arbFrame_enterDM cfg (h.riscvTestInterrupt cfg cc) .haltreq
  rw [riscvDRET_of_DM cfg cc _ host hD]
  obtain ⟨hD₃, hm₃, -, -⟩ := leaveDM_spec cfg cc ((h.riscvTestInterrupt cfg cc).enterDM cfg .haltreq)
  have hpe : (((h.riscvTestInterrupt cfg cc).enterDM cfg .haltreq).leaveDM cfg cc).pendEnab =
      (h.riscvTestInterrupt cfg cc).pendEnab := by
    rw [pendEnab_leaveDM cfg cc _ (hf.arb.trans ha) (hprv.trans hf.mode), pendEnab_riscvTestInterrupt]
  have hn := (ha.trans (arbFrame_leaveDM cfg cc _)).netValue
  refine ⟨by simp [deliveredInterrupt, hq₁, hd₁], hD, hD₃, hm₃.trans (hprv.trans hf.mode), hpe, ?_⟩
  simp only [haltreqPortCB_false, deliveredInterrupt, getPendingAndEnabled, hD₃, hd₁, hpe, hn]

theorem haltreq_riscvDRET_keeps_timer :
    let h : Hart := { Hart.new (Config.rv64 false) Host.flat default with
      mode := .user, csr := { (default : Csrs) with mip := 1 <<< 7, mie := 1 <<< 7 },
      netValue := { (Hart.new (Config.rv64 false) Host.flat default).netValue with haltreq := true } }
    ((((h.riscvTestInterrupt (Config.rv64 false) (Cliccfg.initial false)).riscvIFetchExcept (Config.rv64 false)
      (Cliccfg.initial false) Host.flat).2.riscvDRET (Config.rv64 false) (Cliccfg.initial false) Host.flat).haltreqPortCB
        false).deliveredInterrupt =
      ((h.riscvTestInterrupt (Config.rv64 false) (Cliccfg.initial false)).haltreqPortCB false).deliveredInterrupt :=
  (haltreq_riscvDRET_keeps (Config.rv64 false) (Cliccfg.initial false)
    { Hart.new (Config.rv64 false) Host.flat default with
      mode := .user, csr := { (default : Csrs) with mip := 1 <<< 7, mie := 1 <<< 7 },
      netValue := { (Hart.new (Config.rv64 false) Host.flat default).netValue with haltreq := true } }
    Host.flat rfl rfl rfl).2.2.2.2.2

/-- The interrupt held back there is the timer interrupt. -/
example : ((({ Hart.new (Config.rv64 false) Host.flat default with
      mode := .user, csr := { (default : Csrs) with mip := 1 <<< 7, mie := 1 <<< 7 },
      netValue := { (Hart.new (Config.rv64 false) Host.flat default).netValue with haltreq := true } } : Hart
    ).riscvTestInterrupt (Config.rv64 false) (Cliccfg.initial false)).haltreqPortCB false).deliveredInterrupt =
      some 7 := by
  decide

end Hart

end RiscvTrap
