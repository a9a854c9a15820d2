import RiscvTrap.Cluster
import RiscvTrap.Delivery
import RiscvTrap.RoundTrip

/-!
# No hart enters the reserved mode

The mode encoding of `riscvExceptions.c` has a slot for a hypervisor mode that no
hart of this model implements.  Every way into a mode keeps clear of it: a trap
goes to the delegation target or to the mode the CLIC arbiter presented (which
never presents the reserved mode), `MRET` and `SRET` go through `getERETMode`,
which falls back to the least implemented mode, `URET` goes to User mode, and NMI,
reset and Debug entry go to Machine mode.  Only `leaveDM` trusts a CSR: it returns
to `dcsr.prv` unchecked.  That field is written here only by Debug entry, with the
current mode; the CSR writes of the rest of the simulator (`csrWrite` events and
`riscvCSRReset`) have to leave it legal, and that is the one assumption.

* `ModeOk`: the mode and `dcsr.prv` are not the reserved mode, nor is a presented
  CLIC interrupt's, nor any mode a trap was reported to the observers for.
* `ModeKeep h h'`: `h'` keeps `ModeOk`.  One lemma per operation.
* `prvReachable_modeOk`: over every run whose CSR writes keep `dcsr.prv` legal, no
  hart is ever in the reserved mode, nor reports a trap to it.
-/

namespace RiscvTrap

/-- The CSR reset of the simulator keeps `dcsr.prv` out of the reserved mode. -/
def Host.KeepsPrv (host : Host) : Prop :=
  ∀ c : Csrs, c.dcsr.prv ≠ .hypervisor → (host.csrReset c).dcsr.prv ≠ .hypervisor

namespace Config

theorem getERETMode_ne_hypervisor (cfg : Config) (m : Mode) : cfg.getERETMode m ≠ .hypervisor := by
  unfold getERETMode; split
  · rename_i hm; rintro rfl; simp [riscvHasMode] at hm
  · exact cfg.riscvGetMinMode_ne_hypervisor

end Config

namespace Hart

/-- The hart is clear of the reserved mode: its mode, the mode `dcsr.prv` returns
to, the mode of a presented CLIC interrupt, and every mode a trap was reported
for. -/
structure ModeOk (h : Hart) : Prop where
  mode : h.mode ≠ .hypervisor
  prv : h.csr.dcsr.prv ≠ .hypervisor
  priv : h.pendEnab.isCLIC = true → h.pendEnab.priv ≠ .hypervisor
  traps : ∀ X ∈ h.traps, X ≠ .hypervisor

/-- `h'` keeps `ModeOk`. -/
def ModeKeep (h h' : Hart) : Prop := ModeOk h → ModeOk h'

section
variable {h h₁ h₂ h' : Hart}

theorem ModeKeep.refl : ModeKeep h h := id

theorem ModeKeep.trans (h12 : ModeKeep h h₁) (h23 : ModeKeep h₁ h₂) : ModeKeep h h₂ := h23 ∘ h12

/-- A change of nothing `ModeOk` reads. -/
theorem ModeKeep.of_eq (hm : h'.mode = h.mode) (hp : h'.csr.dcsr.prv = h.csr.dcsr.prv)
    (he : h'.pendEnab = h.pendEnab) (ht : h'.traps = h.traps) : ModeKeep h h' := fun hok =>
  ⟨hm ▸ hok.mode, hp ▸ hok.prv, he ▸ hok.priv, ht ▸ hok.traps⟩

/-- Such a change, before a change that keeps `ModeOk`. -/
theorem ModeKeep.after (h12 : ModeKeep h₁ h₂) (hm : h₁.mode = h.mode)
    (hp : h₁.csr.dcsr.prv = h.csr.dcsr.prv) (he : h₁.pendEnab = h.pendEnab) (ht : h₁.traps = h.traps) :
    ModeKeep h h₂ :=
  (of_eq hm hp he ht).trans h12

end

variable (cfg : Config) (cc : Cliccfg) (host : Host) (h : Hart)

/-! ### The arbiters and the test -/

/-- After the arbiters, a presented CLIC interrupt is never of the reserved mode. -/
theorem priv_refreshPendingAndEnabled :
    (h.refreshPendingAndEnabled cfg cc).pendEnab.isCLIC = true →
      (h.refreshPendingAndEnabled cfg cc).pendEnab.priv ≠ .hypervisor :=
  fun hc => (presented_refreshPendingAndEnabled cfg cc h hc).2

/-- A test leaves a hart `ModeOk` as soon as it is clear of the reserved mode in
what the test does not recompute. -/
theorem modeOk_riscvTestInterrupt (hm : h.mode ≠ .hypervisor) (hp : h.csr.dcsr.prv ≠ .hypervisor)
    (ht : ∀ X ∈ h.traps, X ≠ .hypervisor) : ModeOk (h.riscvTestInterrupt cfg cc) := by
  have hf := selFrame_riscvTestInterrupt cfg cc h
  exact ⟨hf.mode ▸ hm, hf.csr ▸ hp, pendEnab_riscvTestInterrupt cfg cc h ▸ priv_refreshPendingAndEnabled cfg cc h,
    hf.traps ▸ ht⟩

/-- A change of none of the mode, `dcsr.prv` and the reported traps, then a test. -/
theorem ModeKeep.test {h₁ : Hart} (hm : h₁.mode = h.mode) (hp : h₁.csr.dcsr.prv = h.csr.dcsr.prv)
    (ht : h₁.traps = h.traps) : ModeKeep h (h₁.riscvTestInterrupt cfg cc) := fun hok =>
  modeOk_riscvTestInterrupt cfg cc h₁ (hm ▸ hok.mode) (hp ▸ hok.prv) (ht ▸ hok.traps)

theorem modeKeep_riscvTestInterrupt : ModeKeep h (h.riscvTestInterrupt cfg cc) :=
  ModeKeep.test cfg cc h rfl rfl rfl

theorem modeKeep_refreshPendingAndEnabled : ModeKeep h (h.refreshPendingAndEnabled cfg cc) := fun hok =>
  have hf := (pickFrame_refreshPendingAndEnabled cfg cc h).sel
  ⟨hf.mode ▸ hok.mode, hf.csr ▸ hok.prv, priv_refreshPendingAndEnabled cfg cc h, hf.traps ▸ hok.traps⟩

theorem modeKeep_restartProcessor (r : BitVec 32) : ModeKeep h (h.restartProcessor r) :=
  have hf := selFrame_restartProcessor h r
  .of_eq hf.mode (by rw [hf.csr]) (pendEnab_restartProcessor h r) hf.traps

theorem modeKeep_haltProcessor (r : BitVec 32) : ModeKeep h (h.haltProcessor r) := by
  dsimp only [haltProcessor]; split <;> exact .of_eq rfl rfl rfl rfl

theorem modeKeep_handlePendingAndEnabled : ModeKeep h h.handlePendingAndEnabled :=
  have hf := selFrame_handlePendingAndEnabled h
  .of_eq hf.mode (by rw [hf.csr]) (pendEnab_handlePendingAndEnabled h) hf.traps

/-! ### Debug mode -/

theorem modeKeep_updateDMStall (b : Bool) : ModeKeep h (h.updateDMStall cfg b) := by
  dsimp only [updateDMStall]; split
  · split
    · exact (modeKeep_haltProcessor _ _).after rfl rfl rfl rfl
    · exact (modeKeep_restartProcessor _ _).after rfl rfl rfl rfl
  · exact .refl

/-- Debug entry saves the current mode in `dcsr.prv` and enters Machine mode. -/
theorem modeKeep_enterDMSave (c : DmCause) : ModeKeep h (h.enterDMSave c) := fun hok =>
  ⟨nofun, hok.mode, hok.priv, hok.traps⟩

theorem modeKeep_enterDMAction (b : Bool) : ModeKeep h (h.enterDMAction cfg b) := by
  unfold enterDMAction; split
  · exact .of_eq rfl rfl rfl rfl
  · exact .of_eq rfl rfl rfl rfl
  · exact modeKeep_updateDMStall cfg h true

theorem modeKeep_enterDM (c : DmCause) : ModeKeep h (h.enterDM cfg c) := by
  dsimp only [enterDM]; split
  · exact (modeKeep_enterDMSave h c).trans (modeKeep_enterDMAction cfg _ _)
  · exact modeKeep_enterDMAction cfg _ _

theorem modeKeep_clearMPRV (m : Mode) : ModeKeep h (h.clearMPRV cfg m) := by
  unfold clearMPRV; split <;> exact .of_eq rfl rfl rfl rfl

/-- A return to a mode other than the reserved one. -/
theorem modeKeep_doERETCommon (retMode : Mode) {newMode : Mode} (hn : newMode ≠ .hypervisor)
    (epc : BitVec 64) : ModeKeep h (h.doERETCommon cfg cc retMode newMode epc) := fun hok =>
  modeOk_riscvTestInterrupt cfg cc _ hn hok.prv hok.traps

/-- `leaveDM` returns to `dcsr.prv`, which `ModeOk` keeps legal. -/
theorem modeKeep_leaveDM : ModeKeep h (h.leaveDM cfg cc) := by
  intro hok
  dsimp only [leaveDM]
  refine modeKeep_updateDMStall cfg _ _ (modeKeep_doERETCommon cfg cc _ _ ?_ _ ?_)
  · simpa using hok.prv
  · exact modeKeep_clearMPRV cfg _ _ ⟨hok.mode, hok.prv, hok.priv, hok.traps⟩

theorem modeKeep_riscvSetDM (DM : Bool) : ModeKeep h (h.riscvSetDM cfg cc DM) := by
  unfold riscvSetDM; split
  · exact .refl
  split
  · exact modeKeep_enterDM cfg h _
  · exact modeKeep_leaveDM cfg cc h

theorem modeKeep_riscvStepExcept : ModeKeep h (h.riscvStepExcept cfg) := by
  unfold riscvStepExcept; split
  · exact modeKeep_enterDM cfg h _
  · exact .refl

/-! ### The CLIC writers -/

theorem modeKeep_updateCLICPendingEnable (i : Nat) (b : Bool) :
    ModeKeep h (h.updateCLICPendingEnable cfg cc i b) :=
  ModeKeep.test cfg cc h rfl rfl rfl

theorem modeKeep_writeCLICInterruptIPE (type other i : Nat) (v : BitVec 8) :
    ModeKeep h (h.writeCLICInterruptIPE cfg cc type other i v) := by
  dsimp only [writeCLICInterruptIPE]; split
  · exact (modeKeep_updateCLICPendingEnable cfg cc _ _ _).after rfl rfl rfl rfl
  · exact .of_eq rfl rfl rfl rfl

theorem modeKeep_updateCLICInterruptField (i type : Nat) (v : BitVec 8) :
    ModeKeep h (h.updateCLICInterruptField cfg cc i type v) := by
  unfold updateCLICInterruptField; split
  · exact ModeKeep.test cfg cc h rfl rfl rfl
  · exact .refl

theorem modeKeep_updateCLICInput (i : Nat) (b : Bool) : ModeKeep h (h.updateCLICInput cfg cc i b) := by
  dsimp only [updateCLICInput]; split
  · exact modeKeep_writeCLICInterruptIPE cfg cc h _ _ _ _
  · exact .refl

theorem modeKeep_riscvAcknowledgeCLICInt (i : Nat) : ModeKeep h (h.riscvAcknowledgeCLICInt cfg cc i) := by
  dsimp only [riscvAcknowledgeCLICInt]; split
  · exact modeKeep_writeCLICInterruptIPE cfg cc h _ _ _ _
  · exact modeKeep_refreshPendingAndEnabled cfg cc h

/-! ### Traps and returns -/

/-- The target of a trap from a `ModeOk` hart is not the reserved mode. -/
theorem trapModeX_ne_hypervisor_of_ok (hok : ModeOk h) (e : Exception) :
    h.trapModeX e ≠ .hypervisor := by
  cases e with
  | sync c => exact getModeX_ne_hypervisor h hok.mode _ _ _
  | int i =>
    simp only [trapModeX]; split
    · exact hok.priv ‹_›
    · exact getModeX_ne_hypervisor h hok.mode _ _ _

theorem modeKeep_setInhv (X : Mode) (b : Bool) : ModeKeep h (h.setInhv X b) := .of_eq rfl rfl rfl rfl

/-- The observers are told of a trap for a mode other than the reserved one. -/
theorem modeKeep_finishTrap {X : Mode} (hX : X ≠ .hypervisor) (pc : BitVec 64) : ModeKeep h (h.finishTrap X pc) :=
  fun hok => ⟨hok.mode, hok.prv, hok.priv, fun _ hY => (List.mem_cons.mp hY).elim (· ▸ hX) (hok.traps _)⟩

section
variable {nested : Hart → Nat → BitVec 64 → Hart} (hn : ∀ h c t, ModeKeep h (nested h c t))
include hn

theorem modeKeep_trapVector {X : Mode} (hX : X ≠ .hypervisor) (isInt : Bool) (ecode ecodeMod : Nat)
    (shv : Bool) (base : BitVec 64) (mode : Nat) :
    ModeKeep h (h.trapVector cfg cc host nested X isInt ecode ecodeMod shv base mode) := by
  unfold trapVector
  split
  · exact modeKeep_finishTrap h hX _
  split
  · exact modeKeep_finishTrap h hX _
  split
  · exact modeKeep_finishTrap h hX _
  refine (modeKeep_riscvAcknowledgeCLICInt cfg cc h ecode).trans ((modeKeep_setInhv _ X true).trans ?_)
  simp only [readCLICVectorTableEntry]
  generalize (host.read _ _ _).fault = fault
  have hr : ∀ h₁ : Hart, ModeKeep h₁ (match fault with
      | none => h₁
      | some (code, tval) => nested h₁ code tval) := fun h₁ => by
    cases fault with
    | none => exact .refl
    | some f => exact hn _ _ _
  split
  · exact (hr _).trans ((modeKeep_setInhv _ X false).trans (modeKeep_finishTrap _ hX _))
  · exact hr _

/-- A trap goes to the target `trapModeX` picks, which `ModeOk` keeps legal. -/
theorem modeKeep_takeTrap (e : Exception) (tval : BitVec 64) :
    ModeKeep h (h.takeTrap cfg cc host nested e tval) := by
  intro hok
  have hp : ModeOk (h.trapPrologue cfg e) := by
    rw [trapPrologue_eq]; exact ⟨hok.mode, hok.prv, hok.priv, hok.traps⟩
  have hX := trapModeX_ne_hypervisor_of_ok _ hp e
  dsimp only [takeTrap]
  generalize h.trapPrologue cfg e = h₁ at hp hX ⊢
  generalize h₁.trapModeX e = X at hX ⊢
  refine modeKeep_trapVector cfg cc host _ hn hX _ _ _ _ _ _ ?_
  cases X <;> exact ⟨hX, hp.prv, hp.priv, hp.traps⟩

theorem modeKeep_takeExceptionWith (e : Exception) (tval : BitVec 64) :
    ModeKeep h (h.takeExceptionWith cfg cc host nested e tval) := by
  unfold takeExceptionWith; split
  · exact (modeKeep_enterDM cfg _ _).after rfl rfl rfl rfl
  · exact modeKeep_takeTrap cfg cc host h hn e tval

end

theorem modeKeep_memoryExceptionWith {take : Hart → Exception → BitVec 64 → Hart}
    (ht : ∀ h e t, ModeKeep h (take h e t)) (e : Exception) (tval : BitVec 64) :
    ModeKeep h (h.memoryExceptionWith cfg take e tval) := by
  dsimp only [memoryExceptionWith]
  refine ModeKeep.trans (.of_eq rfl rfl rfl rfl : ModeKeep h (h.setCsr { h.csr with vstart := h.csr.vstart &&& cfg.vstartMask })) ?_
  generalize h.setCsr _ = h₁
  have hff : ModeKeep h₁ h₁.handleFF.2 := by
    unfold handleFF; split
    · dsimp only; split <;> exact .of_eq rfl rfl rfl rfl
    · exact .refl
  generalize h₁.handleFF = p at hff ⊢
  obtain ⟨ff, h₂⟩ := p
  dsimp only at hff ⊢
  split
  · exact hff
  · exact hff.trans (ht _ _ _)

theorem modeKeep_riscvTakeException (e : Exception) (tval : BitVec 64) :
    ModeKeep h (h.riscvTakeException cfg cc host e tval) :=
  modeKeep_takeExceptionWith cfg cc host h (fun h₁ _ _ => modeKeep_memoryExceptionWith cfg h₁
    (fun h₂ _ _ => modeKeep_takeExceptionWith cfg cc host h₂ (fun _ _ _ => .refl) _ _) _ _) e tval

theorem modeKeep_riscvTakeMemoryException (e : Exception) (tval : BitVec 64) :
    ModeKeep h (h.riscvTakeMemoryException cfg cc host e tval) :=
  modeKeep_memoryExceptionWith cfg h (fun h₁ _ _ => modeKeep_riscvTakeException cfg cc host h₁ _ _) e tval

theorem modeKeep_riscvEBREAK : ModeKeep h (h.riscvEBREAK cfg cc host) := by
  dsimp only [riscvEBREAK]
  split
  · refine ModeKeep.trans ?_ (modeKeep_enterDM cfg _ _)
    split
    · exact .of_eq rfl rfl rfl rfl
    · exact .refl
  · exact modeKeep_riscvTakeException cfg cc host h _ _

/-- `MRET` and `SRET` return to the mode `getERETMode` picks, never the reserved
one. -/
theorem modeKeep_eretFromPP (X PP : Mode) (writePP : Mstatus → Mode → Mstatus) :
    ModeKeep h (h.eretFromPP cfg cc X PP writePP) := by
  unfold eretFromPP; split
  · exact .refl
  refine ModeKeep.trans ?_ (modeKeep_doERETCommon cfg cc _ _ (cfg.getERETMode_ne_hypervisor PP) _)
  refine ModeKeep.trans ?_ (modeKeep_clearMPRV cfg _ _)
  have hq : ModeKeep h ((h.clearEAxRET cfg).eretRestore cfg X) := by
    unfold clearEAxRET; split <;> exact .of_eq rfl rfl rfl rfl
  exact hq.trans (.of_eq rfl rfl rfl rfl)

theorem modeKeep_riscvMRET : ModeKeep h (h.riscvMRET cfg cc) := modeKeep_eretFromPP cfg cc h _ _ _

theorem modeKeep_riscvSRET : ModeKeep h (h.riscvSRET cfg cc) := modeKeep_eretFromPP cfg cc h _ _ _

theorem modeKeep_riscvURET : ModeKeep h (h.riscvURET cfg cc) := by
  unfold riscvURET; split
  · exact .refl
  have hq : ModeKeep h ((h.clearEAxRET cfg).eretRestore cfg .user) := by
    unfold clearEAxRET; split <;> exact .of_eq rfl rfl rfl rfl
  exact hq.trans (modeKeep_doERETCommon cfg cc _ _ (by decide) _)

theorem modeKeep_riscvDRET : ModeKeep h (h.riscvDRET cfg cc host) := by
  unfold riscvDRET; split
  · exact modeKeep_riscvTakeException cfg cc host h _ _
  · exact modeKeep_leaveDM cfg cc h

/-! ### The fetch gate and the nets -/

theorem modeKeep_riscvWFI : ModeKeep h (h.riscvWFI cfg) := by
  unfold riscvWFI; split
  · exact modeKeep_haltProcessor h _
  · exact .refl

theorem modeKeep_riscvUpdatePending : ModeKeep h (h.riscvUpdatePending cfg cc) := by
  dsimp only [riscvUpdatePending]; split
  · exact ModeKeep.test cfg cc h rfl rfl rfl
  · exact .refl

theorem modeKeep_validateFetchAddressInt (pc : BitVec 64) :
    ModeKeep h (h.validateFetchAddressInt cfg cc host pc).2 := by
  unfold validateFetchAddressInt; split
  · exact .refl
  · exact modeKeep_riscvTakeException cfg cc host h _ _
  · split
    · exact .refl
    · exact modeKeep_riscvTakeException cfg cc host h _ _

theorem modeKeep_riscvIFetchExcept : ModeKeep h (h.riscvIFetchExcept cfg cc host).2 := by
  unfold riscvIFetchExcept
  split
  · exact (modeKeep_enterDM cfg _ _).after rfl rfl rfl rfl
  split
  · exact modeKeep_enterDM cfg _ _
  split
  · dsimp only [doInterrupt]
    have hc : ModeKeep h { h with pendEnab := { h.pendEnab with id := none } } := fun hok =>
      ⟨hok.mode, hok.prv, hok.priv, hok.traps⟩
    split
    · exact hc.trans (.of_eq rfl rfl rfl rfl)
    · exact hc.trans (modeKeep_riscvTakeException cfg cc host _ _ _)
  · unfold validateFetchAddress
    have h1 := modeKeep_validateFetchAddressInt cfg cc host h h.pc
    generalize h.validateFetchAddressInt cfg cc host h.pc = p at h1 ⊢
    obtain ⟨ok, h₁⟩ := p
    dsimp only at h1 ⊢
    split
    · exact h1
    split
    · exact h1
    · exact h1.trans (modeKeep_validateFetchAddressInt cfg cc host _ _)

/-- An NMI enters Machine mode. -/
theorem modeKeep_doNMI : ModeKeep h (h.doNMI cfg) := fun hok =>
  have h₁ := modeKeep_restartProcessor h cfg.reasons.RESTART_NMI hok
  ⟨nofun, h₁.prv, h₁.priv, h₁.traps⟩

theorem modeKeep_nmiPortCB (v : Bool) : ModeKeep h (h.nmiPortCB cfg v) := by
  unfold nmiPortCB
  refine ModeKeep.trans (?_ : ModeKeep h (if !h.DM && posedge h.netValue.nmi v then h.doNMI cfg else h))
    (.of_eq rfl rfl rfl rfl)
  split
  · exact modeKeep_doNMI cfg h
  · exact .refl

theorem modeKeep_haltreqPortCB (v : Bool) : ModeKeep h (h.haltreqPortCB v) := by
  dsimp only [haltreqPortCB]; split <;> exact .of_eq rfl rfl rfl rfl

theorem modeKeep_SCValidPortCB (v : Bool) : ModeKeep h (h.SCValidPortCB v) := by
  unfold SCValidPortCB; split <;> exact .of_eq rfl rfl rfl rfl

theorem modeKeep_deferintPortCB (v : Bool) : ModeKeep h (h.deferintPortCB v) := by
  dsimp only [deferintPortCB]; split
  · exact (modeKeep_handlePendingAndEnabled _).after rfl rfl rfl rfl
  · exact .of_eq rfl rfl rfl rfl

theorem modeKeep_interruptPortCB (index : Nat) (v : Bool) :
    ModeKeep h (h.interruptPortCB cfg cc index v) := by
  unfold interruptPortCB
  split
  · exact .of_eq rfl rfl rfl rfl
  dsimp only
  generalize Function.update h.ip (index / 64) _ = ip
  have hc : ModeKeep h (if cfg.CLICPresent = true
      then ({ h with ip := ip } : Hart).updateCLICInput cfg cc index v else { h with ip := ip }) := by
    split
    · exact (modeKeep_updateCLICInput cfg cc _ _ _).after rfl rfl rfl rfl
    · exact .of_eq rfl rfl rfl rfl
  split
  · exact hc.trans (modeKeep_riscvUpdatePending cfg cc _)
  · exact hc

theorem modeKeep_interruptIDPortCB (offset id : Nat) : ModeKeep h (h.interruptIDPortCB offset id) := by
  unfold interruptIDPortCB; split <;> exact .of_eq rfl rfl rfl rfl

end Hart

/-- The CSR writes of a run keep `dcsr.prv` out of the reserved mode. -/
def Event.LegalPrv : Event → Prop
  | .csrWrite _ c => c.dcsr.prv ≠ .hypervisor
  | _ => True

instance (ev : Event) : Decidable ev.LegalPrv := by
  cases ev <;> dsimp only [Event.LegalPrv] <;> infer_instance

namespace Hart

variable (cfg : Config) (cc : Cliccfg) (host : Host) (h : Hart)

/-- **One event on its hart** whose CSR write keeps `dcsr.prv` legal keeps
`ModeOk`. -/
theorem modeKeep_hartStep (ev : Event) (hl : ev.LegalPrv) :
    ModeKeep h (Cluster.hartStep cfg host cc ev h) := by
  cases ev with
  | takeException => exact modeKeep_riscvTakeException cfg cc host h _ _
  | takeMemoryException => exact modeKeep_riscvTakeMemoryException cfg cc host h _ _
  | illegalInstruction => exact modeKeep_riscvTakeException cfg cc host h _ _
  | instructionAddressMisaligned => exact modeKeep_riscvTakeException cfg cc host h _ _
  | ecall => exact modeKeep_riscvTakeException cfg cc host h _ _
  | ebreak => exact modeKeep_riscvEBREAK cfg cc host h
  | mret => exact modeKeep_riscvMRET cfg cc h
  | sret => exact modeKeep_riscvSRET cfg cc h
  | uret => exact modeKeep_riscvURET cfg cc h
  | dret => exact modeKeep_riscvDRET cfg cc host h
  | wfi => exact modeKeep_riscvWFI cfg h
  | fetch => exact modeKeep_riscvIFetchExcept cfg cc host h
  | stepTimer => exact modeKeep_riscvStepExcept cfg h
  | setDM => exact modeKeep_riscvSetDM cfg cc h _
  | setDMStall => exact modeKeep_updateDMStall cfg h _
  | csrWrite _ c => exact fun hok => modeOk_riscvTestInterrupt cfg cc _ hok.mode hl hok.traps
  | nmi => exact modeKeep_nmiPortCB cfg h _
  | haltreq => exact modeKeep_haltreqPortCB h _
  | resethaltreq => exact .of_eq rfl rfl rfl rfl
  | SCValid => exact modeKeep_SCValidPortCB h _
  | interrupt => exact modeKeep_interruptPortCB cfg cc h _ _
  | interruptID => exact modeKeep_interruptIDPortCB h _ _
  | deferint => exact modeKeep_deferintPortCB h _
  | reset => exact .refl
  | clicWrite => exact .refl

end Hart

namespace Cluster

open Hart

variable {cfg : Config} {host : Host} {cl cl' : Cluster}

/-- Every hart is `ModeOk`. -/
def ModesOk (cl : Cluster) : Prop := ∀ k, ModeOk (cl.harts k)

theorem modesOk_mapHart {k : Nat} {f : Hart → Hart} (hi : ModesOk cl) (hf : ModeKeep (cl.harts k) (f (cl.harts k))) :
    ModesOk (cl.mapHart k f) := by
  intro j
  rw [harts_mapHart]; split
  · subst j; exact hf (hi _)
  · exact hi j

theorem modesOk_refreshCCLICInterruptAll (hi : ModesOk cl) : ModesOk (refreshCCLICInterruptAll cfg cl) := by
  intro j; dsimp only [refreshCCLICInterruptAll]; split
  · exact modeKeep_riscvTestInterrupt cfg cl.cliccfg (cl.harts j) (hi j)
  · exact hi j

theorem modesOk_cliccfgW (hi : ModesOk cl) (v : BitVec 8) : ModesOk (cl.cliccfgW cfg v) := by
  unfold cliccfgW; dsimp only; split
  · exact @modesOk_refreshCCLICInterruptAll cfg { cl with cliccfg := _ } hi
  · exact hi

theorem modesOk_resetCLIC (hi : ModesOk cl) (k : Nat) : ModesOk (cl.resetCLIC cfg k) := by
  unfold resetCLIC; split
  · exact hi
  split
  · dsimp only; split
    · exact modesOk_refreshCCLICInterruptAll (modesOk_mapHart hi (.of_eq rfl rfl rfl rfl))
    · exact hi
  · exact modesOk_cliccfgW hi 0

/-- A reset enters Machine mode, and the CSR reset keeps `dcsr.prv` legal. -/
theorem modesOk_riscvReset (hh : host.KeepsPrv) (hi : ModesOk cl) (k : Nat) :
    ModesOk (cl.riscvReset cfg host k) := by
  unfold riscvReset
  refine modesOk_mapHart (modesOk_resetCLIC (modesOk_mapHart hi fun hok => ?_) k) (.of_eq rfl rfl rfl rfl)
  have h₁ := ((modeKeep_restartProcessor _ cfg.reasons.RESTART_RESET).trans
    (modeKeep_riscvSetDM cfg cl.cliccfg _ false)) hok
  exact ⟨nofun, hh _ h₁.prv, h₁.priv, h₁.traps⟩

theorem modesOk_resetPortCB (hh : host.KeepsPrv) (hi : ModesOk cl) (k : Nat) (v : Bool) :
    ModesOk (cl.resetPortCB cfg host k v) := by
  unfold resetPortCB; dsimp only
  refine modesOk_mapHart ?_ (.of_eq rfl rfl rfl rfl)
  split
  · exact modesOk_mapHart hi (modeKeep_haltProcessor _ _)
  split
  · exact modesOk_riscvReset hh hi k
  · exact hi

theorem modesOk_writeCLICInt (hi : ModesOk cl) (offset : Nat) (v : BitVec 8) :
    ModesOk (cl.writeCLICInt cfg offset v) := by
  unfold writeCLICInt; split
  · unfold writeCLICInterrupt; split
    · refine modesOk_mapHart hi ?_
      dsimp only
      split
      · exact modeKeep_writeCLICInterruptIPE cfg _ _ _ _ _ _
      · exact modeKeep_writeCLICInterruptIPE cfg _ _ _ _ _ _
      · exact modeKeep_updateCLICInterruptField cfg _ _ _ _ _
      · exact modeKeep_updateCLICInterruptField cfg _ _ _ _ _
    · exact hi
  split
  · exact modesOk_cliccfgW hi v
  · exact hi

/-- A restore touches nothing `ModeOk` reads but through its test. -/
theorem modesOk_riscvNetRestore (hi : ModesOk cl) (k : Nat) (s : NetSnapshot) :
    ModesOk (cl.riscvNetRestore cfg k s) := by
  unfold riscvNetRestore
  have hc : ModesOk (if cfg.CLICPresent then { cl with cliccfg := s.cliccfg } else cl) := by
    split <;> exact hi
  generalize (if cfg.CLICPresent then { cl with cliccfg := s.cliccfg } else cl) = cl₁ at hc ⊢
  refine modesOk_mapHart hc ?_
  dsimp only
  split <;> exact ModeKeep.test cfg _ _ rfl rfl rfl

/-- **One event** whose CSR write keeps `dcsr.prv` legal keeps `ModesOk`. -/
theorem modesOk_step (hh : host.KeepsPrv) {ev : Event} (hi : ModesOk cl) (hl : ev.LegalPrv) :
    ModesOk (step cfg host ev cl) := by
  cases ev
  case reset k v => exact modesOk_resetPortCB hh hi k v
  case clicWrite offset v => exact modesOk_writeCLICInt hi offset v
  all_goals exact modesOk_mapHart hi (modeKeep_hartStep cfg _ host _ _ hl)

variable (cfg host)

/-- The clusters a run reaches from a reset state whose `dcsr.prv` is legal, by
enabled events whose CSR writes keep it legal, and by restores from states saved in
such runs. -/
inductive PrvReachable : Cluster → Prop
  | new (csr₀ : Csrs) : csr₀.dcsr.prv ≠ .hypervisor → PrvReachable (new cfg host csr₀)
  | step {cl : Cluster} {ev : Event} : PrvReachable cl → Enabled cfg cl ev → ev.LegalPrv →
      PrvReachable (step cfg host ev cl)
  | restore {cl cl' : Cluster} {k : Nat} : PrvReachable cl → PrvReachable cl' → k < cfg.getNumHarts →
      PrvReachable (cl.riscvNetRestore cfg k (cl'.riscvNetSave k))

variable {cfg host}

/-- Such a run is a run of `Reachable`, so every invariant of those holds on it. -/
theorem PrvReachable.reachable (hr : PrvReachable cfg host cl) : Reachable cfg host cl := by
  induction hr with
  | new csr₀ _ => exact .new csr₀
  | step _ he _ ih => exact ih.step he
  | restore _ _ hk ih ih' => exact ih.restore ih' hk

theorem modesOk_new (hh : host.KeepsPrv) {csr₀ : Csrs} (hp : csr₀.dcsr.prv ≠ .hypervisor) :
    ModesOk (new cfg host csr₀) := fun _ =>
  ⟨by simp [new, Hart.new], hh _ hp, by simp [new, Hart.new, PendEnab.none], by simp [new, Hart.new]⟩

/-- **No hart enters the reserved mode.**  Over every run whose CSR reset and CSR
writes keep `dcsr.prv` out of the reserved mode, no hart is ever in it, `dcsr.prv`
never names it (so `DRET` never returns to it), the CLIC arbiter never presents an
interrupt for it, and no trap is ever reported to the observers for it. -/
theorem prvReachable_modeOk (hh : host.KeepsPrv) (hr : PrvReachable cfg host cl) (k : Nat) :
    (cl.harts k).mode ≠ .hypervisor ∧ (cl.harts k).csr.dcsr.prv ≠ .hypervisor ∧
      ((cl.harts k).pendEnab.isCLIC = true → (cl.harts k).pendEnab.priv ≠ .hypervisor) ∧
      ∀ X ∈ (cl.harts k).traps, X ≠ .hypervisor := by
  have hm : ModesOk cl := by
    induction hr with
    | new csr₀ hp => exact modesOk_new hh hp
    | step _ _ hl ih => exact modesOk_step hh ih hl
    | restore _ _ _ ih _ => exact modesOk_riscvNetRestore ih _ _
  exact ⟨(hm k).mode, (hm k).prv, (hm k).priv, (hm k).traps⟩

theorem prvReachable_modeOk_interrupt11 :
    let cl := step (Config.rv64 true) Host.flat (.interrupt 0 11 true) (new (Config.rv64 true) Host.flat default)
    (cl.harts 0).mode ≠ .hypervisor ∧ (cl.harts 0).csr.dcsr.prv ≠ .hypervisor ∧
      ((cl.harts 0).pendEnab.isCLIC = true → (cl.harts 0).pendEnab.priv ≠ .hypervisor) ∧
      ∀ X ∈ (cl.harts 0).traps, X ≠ .hypervisor :=
  prvReachable_modeOk (fun _ hp => hp)
    (.step (.new default (by decide)) ⟨by decide, fun h => by simp [Event.isInstruction] at h⟩ (by decide)) 0

end Cluster

end RiscvTrap
