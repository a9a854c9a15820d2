import RiscvTrap.Cluster

/-!
# What every operation keeps

Three invariants of every hart of a reachable cluster:

* `HaltInv`: the simulator's halted state is `disable ≠ 0`;
* `ClicInv`: the CLIC `ipe` bits and interrupt fields are consistent;
* `WfiInv`: while the WFI halt reason is set, nothing is pending.

`Safe h h'` says what an operation must do for the three to survive it, wherever
it runs; `SafeRun` drops the part about `WfiInv`, which only a hart waiting in WFI
needs and which instructions, seen only by a running hart, never face.  Each
operation gets one lemma (`safe_riscvTestInterrupt`, `safeRun_riscvTakeException`,
...), built from those of what it calls; `reachable_inv` puts them together over
every run.
-/

namespace RiscvTrap

theorem and_and_eq_zero {w : Nat} {d r m : BitVec w} (h : d &&& m = 0) : d &&& r &&& m = 0 := by
  apply BitVec.eq_of_getLsbD_eq; intro i
  have hi := congrArg (·.getLsbD i) h
  simp only [BitVec.getLsbD_and, BitVec.getLsbD_zero] at hi ⊢
  revert hi
  cases d.getLsbD i <;> cases r.getLsbD i <;> cases m.getLsbD i <;> simp

theorem or_and_eq_zero {w : Nat} {d r m : BitVec w} (hd : d &&& m = 0) (hr : r &&& m = 0) :
    (d ||| r) &&& m = 0 := by
  apply BitVec.eq_of_getLsbD_eq; intro i
  have h1 := congrArg (·.getLsbD i) hd
  have h2 := congrArg (·.getLsbD i) hr
  simp only [BitVec.getLsbD_and, BitVec.getLsbD_or, BitVec.getLsbD_zero] at h1 h2 ⊢
  revert h1 h2
  cases d.getLsbD i <;> cases r.getLsbD i <;> cases m.getLsbD i <;> simp

namespace Hart

variable (cfg : Config) (cc : Cliccfg) (host : Host)

/-- The WFI halt reason is never newly set. -/
def NoWfiSet (h h' : Hart) : Prop :=
  h.disable &&& cfg.reasons.WFI = 0 → h'.disable &&& cfg.reasons.WFI = 0

/-- What an operation that can reach a hart waiting in WFI must do: with the WFI
reason set afterwards, nothing is pending, or the reason was set before and what
is pending has not changed. -/
def WfiStep (h h' : Hart) : Prop :=
  h'.disable &&& cfg.reasons.WFI ≠ 0 →
    h'.getPending = false ∨ (h.disable &&& cfg.reasons.WFI ≠ 0 ∧ h'.getPending = h.getPending)

/-- What an instruction keeps: the halt and CLIC invariants, and a clear WFI
reason. -/
structure SafeRun (h h' : Hart) : Prop where
  halt : HaltInv h → HaltInv h'
  clic : ClicInv cfg h → ClicInv cfg h'
  noWfi : NoWfiSet cfg h h'

/-- The halt and WFI half of `Safe`, for operations that pass through states where
the CLIC invariant is broken for a moment. -/
structure Steady (h h' : Hart) : Prop where
  halt : HaltInv h → HaltInv h'
  noWfi : NoWfiSet cfg h h'
  wfi : WfiStep cfg h h'

/-- What an operation that may reach a hart waiting in WFI keeps: as `SafeRun`,
and `WfiStep`. -/
structure Safe (h h' : Hart) extends SafeRun cfg h h' : Prop where
  wfi : WfiStep cfg h h'

/-- `h'` differs from `h` in nothing the halt and WFI invariants read. -/
structure Calm (h h' : Hart) : Prop where
  disable : h'.disable = h.disable
  halted : h'.halted = h.halted
  sel : h'.sel = h.sel
  mie : h'.csr.mie = h.csr.mie
  mip : h'.csr.mip = h.csr.mip

/-- `h'` differs from `h` in nothing any of the invariants reads. -/
structure Quiet (h h' : Hart) extends Calm h h' : Prop where
  intState : h'.intState = h.intState
  ipe : h'.ipe = h.ipe

section
variable {cfg} {h h₁ h₂ h' : Hart}

theorem WfiStep.trans (h12 : WfiStep cfg h h₁) (h23 : WfiStep cfg h₁ h₂) : WfiStep cfg h h₂ := by
  intro hw
  rcases h23 hw with hp | ⟨hw₁, hp⟩
  · exact .inl hp
  · rcases h12 hw₁ with hp₁ | ⟨hw₀, hp₁⟩
    · exact .inl (hp.trans hp₁)
    · exact .inr ⟨hw₀, hp.trans hp₁⟩

theorem WfiStep.inv (hs : WfiStep cfg h h') (hi : WfiInv cfg h) : WfiInv cfg h' := by
  intro hw
  rcases hs hw with hp | ⟨hw₀, hp⟩
  · exact hp
  · exact hp.trans (hi hw₀)

theorem wfiStep_of_inv (hi : WfiInv cfg h') : WfiStep cfg h h' := fun hw => .inl (hi hw)

theorem wfiStep_of_clear (hc : h'.disable &&& cfg.reasons.WFI = 0) : WfiStep cfg h h' :=
  fun hw => absurd hc hw

theorem SafeRun.refl : SafeRun cfg h h := ⟨id, id, id⟩

theorem SafeRun.trans (h12 : SafeRun cfg h h₁) (h23 : SafeRun cfg h₁ h₂) : SafeRun cfg h h₂ :=
  ⟨h23.halt ∘ h12.halt, h23.clic ∘ h12.clic, h23.noWfi ∘ h12.noWfi⟩

theorem Safe.refl : Safe cfg h h := ⟨.refl, fun hw => .inr ⟨hw, rfl⟩⟩

theorem Safe.trans (h12 : Safe cfg h h₁) (h23 : Safe cfg h₁ h₂) : Safe cfg h h₂ :=
  ⟨h12.toSafeRun.trans h23.toSafeRun, h12.wfi.trans h23.wfi⟩

/-- An operation that leaves the WFI reason clear needs only `SafeRun`. -/
theorem SafeRun.safe (hs : SafeRun cfg h h') (hc : h'.disable &&& cfg.reasons.WFI = 0) :
    Safe cfg h h' :=
  ⟨hs, wfiStep_of_clear hc⟩

theorem Calm.pending (hc : Calm h h') : h'.getPending = h.getPending := by
  unfold getPending getPendingBasic getPendingCLIC; rw [hc.mie, hc.mip, hc.sel]

theorem Steady.trans (h12 : Steady cfg h h₁) (h23 : Steady cfg h₁ h₂) : Steady cfg h h₂ :=
  ⟨h23.halt ∘ h12.halt, h23.noWfi ∘ h12.noWfi, h12.wfi.trans h23.wfi⟩

theorem Safe.steady (hs : Safe cfg h h') : Steady cfg h h' := ⟨hs.halt, hs.noWfi, hs.wfi⟩

theorem Steady.safe (hs : Steady cfg h h') (hi : ClicInv cfg h → ClicInv cfg h') : Safe cfg h h' :=
  ⟨⟨hs.halt, hi, hs.noWfi⟩, hs.wfi⟩

theorem Calm.steady (hc : Calm h h') : Steady cfg h h' where
  halt := haltInv_of_eq hc.disable hc.halted
  noWfi hw := by rw [hc.disable]; exact hw
  wfi hw := .inr ⟨by rwa [hc.disable] at hw, hc.pending⟩

/-- A calm change is safe as soon as it keeps the CLIC invariant. -/
theorem Calm.safe (hc : Calm h h') (hi : ClicInv cfg h → ClicInv cfg h') : Safe cfg h h' :=
  hc.steady.safe hi

theorem Quiet.refl : Quiet h h := ⟨⟨rfl, rfl, rfl, rfl, rfl⟩, rfl, rfl⟩

theorem Quiet.safe (hq : Quiet h h') : Safe cfg h h' :=
  hq.toCalm.safe fun hi => ⟨fun i => by rw [hq.ipe, hq.intState]; exact hi.ipe_bit i,
    fun i hn => by rw [hq.intState]; exact hi.valid i hn⟩

/-- A change of the CSRs, the CLIC state aside, that keeps the halt state keeps
everything but `WfiInv`. -/
theorem safeRun_of_frame (hd : h'.disable = h.disable) (hh : h'.halted = h.halted)
    (hs : h'.intState = h.intState) (hp : h'.ipe = h.ipe) : SafeRun cfg h h' where
  halt hi := haltInv_of_eq hd hh hi
  clic hi := ⟨fun i => by rw [hp, hs]; exact hi.ipe_bit i, fun i hn => by rw [hs]; exact hi.valid i hn⟩
  noWfi hw := by rw [hd]; exact hw

end

/-! ### Halting and testing -/

variable (h : Hart)

theorem safe_restartProcessor (r : BitVec 32) : Safe cfg h (h.restartProcessor r) := by
  have hf := selFrame_restartProcessor h r
  have hd := disable_restartProcessor h r
  refine ⟨⟨halted_restartProcessor h r, clicInv_of_selFrame cfg hf, fun hw => ?_⟩, fun hw => ?_⟩
  · rw [hd]; exact and_and_eq_zero hw
  · refine .inr ⟨fun h0 => hw ?_, getPending_of_selFrame hf (sel_restartProcessor h r)⟩
    rw [hd]; exact and_and_eq_zero h0

theorem safe_haltProcessor (r : BitVec 32) (hr : r ≠ 0) (hw : r &&& cfg.reasons.WFI = 0) :
    Safe cfg h (h.haltProcessor r) := by
  have hf := selFrame_haltProcessor h r
  have hd := disable_haltProcessor h r
  refine ⟨⟨halted_haltProcessor h r hr, clicInv_of_selFrame cfg hf, fun h0 => ?_⟩, fun h1 => ?_⟩
  · rw [hd]; exact or_and_eq_zero h0 hw
  · refine .inr ⟨fun h0 => h1 ?_, getPending_of_selFrame hf (sel_haltProcessor h r)⟩
    rw [hd]; exact or_and_eq_zero h0 hw

theorem safeRun_refreshPendingAndEnabled : SafeRun cfg h (h.refreshPendingAndEnabled cfg cc) :=
  have hf := pickFrame_refreshPendingAndEnabled cfg cc h
  safeRun_of_frame hf.disable hf.halted hf.sel.intState hf.sel.ipe

theorem quiet_emit (e : Effect) : Quiet h (h.emit e) := ⟨⟨rfl, rfl, rfl, rfl, rfl⟩, rfl, rfl⟩

theorem quiet_handlePendingAndEnabled : Quiet h h.handlePendingAndEnabled := by
  unfold handlePendingAndEnabled; split
  · exact quiet_emit h _
  · exact .refl

theorem safe_riscvTestInterrupt : Safe cfg h (h.riscvTestInterrupt cfg cc) := by
  refine ⟨?_, wfiStep_of_inv (wfi_riscvTestInterrupt cfg cc h)⟩
  refine (safeRun_refreshPendingAndEnabled cfg cc h).trans ?_
  dsimp only [riscvTestInterrupt]
  split
  · exact (safe_restartProcessor cfg _ _).toSafeRun.trans (quiet_handlePendingAndEnabled _).safe.toSafeRun
  · exact (quiet_handlePendingAndEnabled _).safe.toSafeRun

/-- An interrupt test makes safe whatever came before it that keeps the halt and
CLIC invariants. -/
theorem SafeRun.then_test {h₁ : Hart} (hs : SafeRun cfg h h₁) :
    Safe cfg h (h₁.riscvTestInterrupt cfg cc) :=
  ⟨hs.trans (safe_riscvTestInterrupt cfg cc h₁).toSafeRun,
    wfiStep_of_inv (wfi_riscvTestInterrupt cfg cc h₁)⟩

theorem safeRun_setCsr (c : Csrs) : SafeRun cfg h (h.setCsr c) := safeRun_of_frame rfl rfl rfl rfl

/-! ### Debug mode -/

theorem safe_updateDMStall (b : Bool) : Safe cfg h (h.updateDMStall cfg b) := by
  have hq : Quiet h { h with DMStall := b } := ⟨⟨rfl, rfl, rfl, rfl, rfl⟩, rfl, rfl⟩
  dsimp only [updateDMStall]
  split
  · split
    · exact hq.safe.trans
        (safe_haltProcessor cfg _ _ cfg.reasons.debug_ne cfg.reasons.wfi_debug)
    · exact hq.safe.trans (safe_restartProcessor cfg _ _)
  · exact .refl

theorem safe_enterDM (c : DmCause) : Safe cfg h (h.enterDM cfg c) := by
  have hact : ∀ h₁ : Hart, ∀ b, Safe cfg h₁ (h₁.enterDMAction cfg b) := fun h₁ b => by
    unfold enterDMAction; split
    · exact (quiet_emit h₁ _).safe
    · exact Quiet.safe ⟨⟨rfl, rfl, rfl, rfl, rfl⟩, rfl, rfl⟩
    · exact safe_updateDMStall cfg h₁ true
  dsimp only [enterDM]; split
  · have hq : Quiet h (h.enterDMSave c) := ⟨⟨rfl, rfl, rfl, rfl, rfl⟩, rfl, rfl⟩
    exact hq.safe.trans (hact _ _)
  · exact hact _ _

theorem quiet_clearMPRV (m : Mode) : Quiet h (h.clearMPRV cfg m) := by
  unfold clearMPRV; split
  · exact ⟨⟨rfl, rfl, rfl, rfl, rfl⟩, rfl, rfl⟩
  · exact .refl

theorem safe_doERETCommon (retMode newMode : Mode) (epc : BitVec 64) :
    Safe cfg h (h.doERETCommon cfg cc retMode newMode epc) :=
  have hq : Quiet h (((h.setMode newMode).setPCxRET epc).emit (.eret retMode)) :=
    ⟨⟨rfl, rfl, rfl, rfl, rfl⟩, rfl, rfl⟩
  hq.safe.toSafeRun.then_test cfg cc _

theorem safe_leaveDM : Safe cfg h (h.leaveDM cfg cc) := by
  dsimp only [leaveDM]
  refine (Safe.trans ?_ (safe_doERETCommon cfg cc _ _ _ _)).trans (safe_updateDMStall cfg _ _)
  have hq : Quiet h (h.setDM false) := ⟨⟨rfl, rfl, rfl, rfl, rfl⟩, rfl, rfl⟩
  exact hq.safe.trans (quiet_clearMPRV cfg _ _).safe

theorem safe_riscvSetDM (DM : Bool) : Safe cfg h (h.riscvSetDM cfg cc DM) := by
  unfold riscvSetDM; split
  · exact .refl
  split
  · exact safe_enterDM cfg h _
  · exact safe_leaveDM cfg cc h

theorem safe_riscvStepExcept : Safe cfg h (h.riscvStepExcept cfg) := by
  unfold riscvStepExcept; split
  · exact safe_enterDM cfg h _
  · exact .refl

/-! ### The CLIC writers -/

theorem steady_updateCLICPendingEnable (i : Nat) (b : Bool) :
    Steady cfg h (h.updateCLICPendingEnable cfg cc i b) := by
  dsimp only [updateCLICPendingEnable]
  refine (Calm.steady ?_).trans (safe_riscvTestInterrupt cfg cc _).steady
  exact ⟨rfl, rfl, rfl, rfl, rfl⟩

theorem steady_writeCLICInterruptIPE (type other i : Nat) (v : BitVec 8) :
    Steady cfg h (h.writeCLICInterruptIPE cfg cc type other i v) := by
  dsimp only [writeCLICInterruptIPE]
  split
  · have hc : Calm h (h.setCLICInterruptField i type (if v.getLsbD 0 then 1 else 0)) :=
      ⟨rfl, rfl, rfl, rfl, rfl⟩
    exact hc.steady.trans (steady_updateCLICPendingEnable cfg cc _ _ _)
  · exact Calm.steady ⟨rfl, rfl, rfl, rfl, rfl⟩

theorem steady_updateCLICInterruptField (i type : Nat) (v : BitVec 8) :
    Steady cfg h (h.updateCLICInterruptField cfg cc i type v) := by
  unfold updateCLICInterruptField; split
  · have hc : Calm h (h.setCLICInterruptField i type v) := ⟨rfl, rfl, rfl, rfl, rfl⟩
    exact hc.steady.trans (safe_riscvTestInterrupt cfg cc _).steady
  · exact Calm.steady ⟨rfl, rfl, rfl, rfl, rfl⟩

section
variable {i : Nat} (hn : i < cfg.getIntNum) (v : BitVec 8)
include hn

theorem safe_writeCLICInterruptPending : Safe cfg h (h.writeCLICInterruptPending cfg cc i v) :=
  (steady_writeCLICInterruptIPE cfg cc h _ _ _ _).safe
    fun hi => clicInv_writeCLICInterruptPending cfg cc h hi hn v

theorem safe_writeCLICInterruptEnable : Safe cfg h (h.writeCLICInterruptEnable cfg cc i v) :=
  (steady_writeCLICInterruptIPE cfg cc h _ _ _ _).safe
    fun hi => clicInv_writeCLICInterruptEnable cfg cc h hi hn v

theorem safe_writeCLICInterruptAttr {pageMode : Mode} (hp : pageMode ≠ .hypervisor) :
    Safe cfg h (h.writeCLICInterruptAttr cfg cc i v pageMode) :=
  (steady_updateCLICInterruptField cfg cc h _ _ _).safe
    fun hi => clicInv_writeCLICInterruptAttr cfg cc h hi hn v hp

theorem safe_writeCLICInterruptCtl : Safe cfg h (h.writeCLICInterruptCtl cfg cc i v) :=
  (steady_updateCLICInterruptField cfg cc h _ _ _).safe
    fun hi => clicInv_writeCLICInterruptCtl cfg cc h hi hn v

theorem safe_updateCLICInput (b : Bool) : Safe cfg h (h.updateCLICInput cfg cc i b) := by
  dsimp only [updateCLICInput]; split
  · exact safe_writeCLICInterruptPending cfg cc h hn _
  · exact .refl

end

theorem safeRun_riscvAcknowledgeCLICInt (i : Nat) :
    SafeRun cfg h (h.riscvAcknowledgeCLICInt cfg cc i) := by
  dsimp only [riscvAcknowledgeCLICInt]; split
  · exact ((steady_writeCLICInterruptIPE cfg cc h _ _ _ _).safe
      fun hi => clicInv_writeCLICInterruptPending_zero cfg cc h hi i).toSafeRun
  · exact safeRun_refreshPendingAndEnabled cfg cc h

/-! ### Traps and returns -/

theorem quiet_finishTrap (X : Mode) (pc : BitVec 64) : Quiet h (h.finishTrap X pc) :=
  ⟨⟨rfl, rfl, rfl, rfl, rfl⟩, rfl, rfl⟩

theorem quiet_setInhv (X : Mode) (b : Bool) : Quiet h (h.setInhv X b) :=
  ⟨⟨rfl, rfl, rfl, rfl, rfl⟩, rfl, rfl⟩

theorem quiet_setPP (X Y : Mode) : Quiet h (h.setPP X Y) := by
  cases X <;> exact ⟨⟨rfl, rfl, rfl, rfl, rfl⟩, rfl, rfl⟩

theorem quiet_trapPrologue (e : Exception) : Quiet h (h.trapPrologue cfg e) := by
  rw [trapPrologue_eq]; exact ⟨⟨rfl, rfl, rfl, rfl, rfl⟩, rfl, rfl⟩

section
variable {nested : Hart → Nat → BitVec 64 → Hart} (hn : ∀ h c t, SafeRun cfg h (nested h c t))
include hn

theorem safeRun_trapVector (X : Mode) (isInt : Bool) (ecode ecodeMod : Nat) (shv : Bool)
    (base : BitVec 64) (mode : Nat) :
    SafeRun cfg h (h.trapVector cfg cc host nested X isInt ecode ecodeMod shv base mode) := by
  unfold trapVector
  split
  · exact (quiet_finishTrap h _ _).safe.toSafeRun
  split
  · exact (quiet_finishTrap h _ _).safe.toSafeRun
  split
  · exact (quiet_finishTrap h _ _).safe.toSafeRun
  refine (safeRun_riscvAcknowledgeCLICInt cfg cc h ecode).trans ?_
  refine (quiet_setInhv _ X true).safe.toSafeRun.trans ?_
  simp only [readCLICVectorTableEntry]
  generalize (host.read _ _ _).fault = fault
  have hr : ∀ h₁ : Hart, SafeRun cfg h₁ (match fault with
      | none => h₁
      | some (code, tval) => nested h₁ code tval) := fun h₁ => by
    cases fault with
    | none => exact .refl
    | some f => exact hn _ _ _
  split
  · exact (hr _).trans ((quiet_setInhv _ X false).safe.toSafeRun.trans
      (quiet_finishTrap _ _ _).safe.toSafeRun)
  · exact hr _

theorem safeRun_takeTrap (e : Exception) (tval : BitVec 64) :
    SafeRun cfg h (h.takeTrap cfg cc host nested e tval) := by
  dsimp only [takeTrap]
  refine SafeRun.trans ?_ (safeRun_trapVector cfg cc host _ hn _ _ _ _ _ _ _)
  refine (quiet_trapPrologue cfg h e).safe.toSafeRun.trans ?_
  refine (Quiet.safe ?_).toSafeRun
  have hq := quiet_setPP (((h.trapPrologue cfg e).targetModeX cfg ((h.trapPrologue cfg e).trapModeX e)
    e.isInterrupt (h.reportedCode e) h.getEPC (if cfg.tval_zero then 0 else tval)
    ((h.trapPrologue cfg e).trapLevel e ((h.trapPrologue cfg e).trapModeX e))))
    ((h.trapPrologue cfg e).trapModeX e) h.mode
  exact ⟨⟨hq.disable, hq.halted, hq.sel, hq.mie, hq.mip⟩, hq.intState, hq.ipe⟩

theorem safeRun_takeExceptionWith (e : Exception) (tval : BitVec 64) :
    SafeRun cfg h (h.takeExceptionWith cfg cc host nested e tval) := by
  unfold takeExceptionWith; split
  · exact ((quiet_emit h _).safe.trans (safe_enterDM cfg _ _)).toSafeRun
  · exact safeRun_takeTrap cfg cc host h hn e tval

end

theorem safeRun_memoryExceptionWith {take : Hart → Exception → BitVec 64 → Hart}
    (ht : ∀ h e t, SafeRun cfg h (take h e t)) (e : Exception) (tval : BitVec 64) :
    SafeRun cfg h (h.memoryExceptionWith cfg take e tval) := by
  dsimp only [memoryExceptionWith]
  have hq : Quiet h (h.setCsr { h.csr with vstart := h.csr.vstart &&& cfg.vstartMask }) :=
    ⟨⟨rfl, rfl, rfl, rfl, rfl⟩, rfl, rfl⟩
  refine hq.safe.toSafeRun.trans ?_
  generalize h.setCsr _ = h₁
  have hff : Quiet h₁ h₁.handleFF.2 := by
    unfold handleFF; split
    · dsimp only; split <;> exact ⟨⟨rfl, rfl, rfl, rfl, rfl⟩, rfl, rfl⟩
    · exact .refl
  generalize h₁.handleFF = p at hff ⊢
  obtain ⟨ff, h₂⟩ := p
  dsimp only at hff ⊢
  split
  · exact hff.safe.toSafeRun
  · exact hff.safe.toSafeRun.trans (ht _ _ _)

theorem safeRun_riscvTakeException (e : Exception) (tval : BitVec 64) :
    SafeRun cfg h (h.riscvTakeException cfg cc host e tval) :=
  safeRun_takeExceptionWith cfg cc host h (fun h₁ _ _ => safeRun_memoryExceptionWith cfg h₁
    (fun h₂ _ _ => safeRun_takeExceptionWith cfg cc host h₂ (fun _ _ _ => .refl) _ _) _ _) e tval

theorem safeRun_riscvTakeMemoryException (e : Exception) (tval : BitVec 64) :
    SafeRun cfg h (h.riscvTakeMemoryException cfg cc host e tval) :=
  safeRun_memoryExceptionWith cfg h (fun h₁ _ _ => safeRun_riscvTakeException cfg cc host h₁ _ _) e tval

theorem safeRun_riscvIllegalInstruction : SafeRun cfg h (h.riscvIllegalInstruction cfg cc host) := by
  unfold riscvIllegalInstruction; exact safeRun_riscvTakeException cfg cc host h _ _

theorem safeRun_riscvInstructionAddressMisaligned (tval : BitVec 64) :
    SafeRun cfg h (h.riscvInstructionAddressMisaligned cfg cc host tval) := by
  unfold riscvInstructionAddressMisaligned; exact safeRun_riscvTakeException cfg cc host h _ _

theorem safeRun_riscvECALL : SafeRun cfg h (h.riscvECALL cfg cc host) := by
  unfold riscvECALL; exact safeRun_riscvTakeException cfg cc host h _ _

theorem safeRun_riscvEBREAK : SafeRun cfg h (h.riscvEBREAK cfg cc host) := by
  dsimp only [riscvEBREAK]
  split
  · refine SafeRun.trans ?_ (safe_enterDM cfg _ _).toSafeRun
    split
    · exact Safe.toSafeRun (Quiet.safe ⟨⟨rfl, rfl, rfl, rfl, rfl⟩, rfl, rfl⟩)
    · exact .refl
  · exact safeRun_riscvTakeException cfg cc host h _ _

theorem safe_eretFromPP (X PP : Mode) (writePP : Mstatus → Mode → Mstatus) :
    Safe cfg h (h.eretFromPP cfg cc X PP writePP) := by
  unfold eretFromPP; split
  · exact .refl
  refine Safe.trans ?_ (safe_doERETCommon cfg cc _ _ _ _)
  refine Safe.trans ?_ (quiet_clearMPRV cfg _ _).safe
  have hq : Quiet h ((h.clearEAxRET cfg).eretRestore cfg X) := by
    unfold clearEAxRET; split <;> exact ⟨⟨rfl, rfl, rfl, rfl, rfl⟩, rfl, rfl⟩
  exact hq.safe.trans (Quiet.safe ⟨⟨rfl, rfl, rfl, rfl, rfl⟩, rfl, rfl⟩)

theorem safe_riscvMRET : Safe cfg h (h.riscvMRET cfg cc) := safe_eretFromPP cfg cc h _ _ _

theorem safe_riscvSRET : Safe cfg h (h.riscvSRET cfg cc) := safe_eretFromPP cfg cc h _ _ _

theorem safe_riscvURET : Safe cfg h (h.riscvURET cfg cc) := by
  unfold riscvURET; split
  · exact .refl
  have hq : Quiet h ((h.clearEAxRET cfg).eretRestore cfg .user) := by
    unfold clearEAxRET; split <;> exact ⟨⟨rfl, rfl, rfl, rfl, rfl⟩, rfl, rfl⟩
  exact hq.safe.trans (safe_doERETCommon cfg cc _ _ _ _)

theorem safeRun_riscvDRET : SafeRun cfg h (h.riscvDRET cfg cc host) := by
  unfold riscvDRET; split
  · exact safeRun_riscvTakeException cfg cc host h _ _
  · exact (safe_leaveDM cfg cc h).toSafeRun

theorem safeRun_validateFetchAddressInt (pc : BitVec 64) :
    SafeRun cfg h (h.validateFetchAddressInt cfg cc host pc).2 := by
  unfold validateFetchAddressInt; split
  · exact .refl
  · exact safeRun_riscvTakeException cfg cc host h _ _
  · split
    · exact .refl
    · exact safeRun_riscvTakeException cfg cc host h _ _

theorem safeRun_riscvIFetchExcept : SafeRun cfg h (h.riscvIFetchExcept cfg cc host).2 := by
  unfold riscvIFetchExcept
  split
  · have hq : Quiet h { h with netValue := { h.netValue with resethaltreqS := false } } :=
      ⟨⟨rfl, rfl, rfl, rfl, rfl⟩, rfl, rfl⟩
    exact (hq.safe.trans (safe_enterDM cfg _ _)).toSafeRun
  split
  · dsimp only
    exact (safe_enterDM cfg _ _).toSafeRun
  split
  · dsimp only [doInterrupt]
    have hq : Quiet h { h with pendEnab := { h.pendEnab with id := none } } :=
      ⟨⟨rfl, rfl, rfl, rfl, rfl⟩, rfl, rfl⟩
    refine hq.safe.toSafeRun.trans ?_
    split
    · exact (quiet_emit _ _).safe.toSafeRun
    · exact safeRun_riscvTakeException cfg cc host _ _ _
  · unfold validateFetchAddress
    have h1 := safeRun_validateFetchAddressInt cfg cc host h h.pc
    generalize h.validateFetchAddressInt cfg cc host h.pc = p at h1 ⊢
    obtain ⟨ok, h₁⟩ := p
    dsimp only at h1 ⊢
    split
    · exact h1
    split
    · exact h1
    · exact h1.trans (safeRun_validateFetchAddressInt cfg cc host _ _)

/-! ### Net callbacks -/

theorem safe_doNMI : Safe cfg h (h.doNMI cfg) := by
  have hs := safe_restartProcessor cfg h cfg.reasons.RESTART_NMI
  dsimp only [doNMI]
  generalize h.restartProcessor cfg.reasons.RESTART_NMI = h₁ at hs ⊢
  exact hs.trans (Quiet.safe ⟨⟨rfl, rfl, rfl, rfl, rfl⟩, rfl, rfl⟩)

theorem safe_nmiPortCB (v : Bool) : Safe cfg h (h.nmiPortCB cfg v) := by
  unfold nmiPortCB
  refine Safe.trans (?_ : Safe cfg h (if !h.DM && posedge h.netValue.nmi v then h.doNMI cfg else h))
    (Quiet.safe ⟨⟨rfl, rfl, rfl, rfl, rfl⟩, rfl, rfl⟩)
  split
  · exact safe_doNMI cfg h
  · exact .refl

theorem quiet_haltreqPortCB (v : Bool) : Quiet h (h.haltreqPortCB v) := by
  dsimp only [haltreqPortCB]; split <;> exact ⟨⟨rfl, rfl, rfl, rfl, rfl⟩, rfl, rfl⟩

theorem quiet_resethaltreqPortCB (v : Bool) : Quiet h (h.resethaltreqPortCB v) :=
  ⟨⟨rfl, rfl, rfl, rfl, rfl⟩, rfl, rfl⟩

theorem quiet_SCValidPortCB (v : Bool) : Quiet h (h.SCValidPortCB v) := by
  unfold SCValidPortCB; split <;> exact ⟨⟨rfl, rfl, rfl, rfl, rfl⟩, rfl, rfl⟩

theorem quiet_interruptIDPortCB (offset id : Nat) : Quiet h (h.interruptIDPortCB offset id) := by
  unfold interruptIDPortCB; split <;> exact ⟨⟨rfl, rfl, rfl, rfl, rfl⟩, rfl, rfl⟩

theorem quiet_deferintPortCB (v : Bool) : Quiet h (h.deferintPortCB v) := by
  dsimp only [deferintPortCB]
  have hq : Quiet h { h with netValue := { h.netValue with deferint := v } } :=
    ⟨⟨rfl, rfl, rfl, rfl, rfl⟩, rfl, rfl⟩
  split
  · have h2 := quiet_handlePendingAndEnabled ({ h with netValue := { h.netValue with deferint := v } } : Hart)
    exact ⟨⟨h2.disable, h2.halted, h2.sel, h2.mie, h2.mip⟩, h2.intState, h2.ipe⟩
  · exact hq

theorem safe_riscvUpdatePending : Safe cfg h (h.riscvUpdatePending cfg cc) := by
  dsimp only [riscvUpdatePending]; split
  · exact (safeRun_setCsr cfg h _).then_test cfg cc
  · exact .refl

theorem safe_interruptPortCB (index : Nat) (v : Bool) :
    Safe cfg h (h.interruptPortCB cfg cc index v) := by
  unfold interruptPortCB
  split
  · exact (quiet_emit h _).safe
  rename_i hn
  dsimp only
  generalize hw : Function.update h.ip (index / 64) _ = ip
  have hq : Quiet h { h with ip := ip } := ⟨⟨rfl, rfl, rfl, rfl, rfl⟩, rfl, rfl⟩
  have hc : Safe cfg h (if cfg.CLICPresent = true
      then ({ h with ip := ip } : Hart).updateCLICInput cfg cc index v else { h with ip := ip }) := by
    split
    · exact hq.safe.trans (safe_updateCLICInput cfg cc _ (Nat.lt_of_not_le hn) v)
    · exact hq.safe
  split
  · exact hc.trans (safe_riscvUpdatePending cfg cc _)
  · exact hc

/-! ### The hart invariant -/

/-- The three invariants of a hart. -/
structure HartInv (h : Hart) : Prop where
  halt : HaltInv h
  clic : ClicInv cfg h
  wfi : WfiInv cfg h

variable {cfg} in
theorem Safe.inv {h h' : Hart} (hs : Safe cfg h h') (hi : HartInv cfg h) : HartInv cfg h' :=
  ⟨hs.halt hi.halt, hs.clic hi.clic, hs.wfi.inv hi.wfi⟩

/-- A running hart has no halt reason, so what an instruction does needs only
`SafeRun`. -/
theorem SafeRun.inv_of_running {h h' : Hart} (hs : SafeRun cfg h h') (hi : HartInv cfg h)
    (hr : h.halted = false) : HartInv cfg h' := by
  have hd : h.disable = 0 := by
    by_contra hne
    simp [hi.halt.mpr hne] at hr
  exact (hs.safe (hs.noWfi (by rw [hd]; exact BitVec.zero_and))).inv hi

/-- `riscvWFI` sets its halt reason only when nothing is pending. -/
theorem hartInv_riscvWFI (hi : HartInv cfg h) : HartInv cfg (h.riscvWFI cfg) := by
  unfold riscvWFI; split
  · rename_i hp
    have hf := selFrame_haltProcessor h cfg.reasons.WFI
    refine ⟨halted_haltProcessor h _ cfg.reasons.wfi_ne hi.halt, clicInv_of_selFrame cfg hf hi.clic,
      fun _ => ?_⟩
    rw [getPending_of_selFrame hf (sel_haltProcessor h _)]
    exact (by simpa using hp : h.DM = false ∧ h.getPending = false).2
  · exact hi

/-- **One event on its hart.**  Every event that stays on one hart keeps the hart
invariant, an instruction provided the hart is running. -/
theorem hartInv_hartStep (ev : Event) (hi : HartInv cfg h)
    (hr : ev.isInstruction = true → h.halted = false) :
    HartInv cfg (Cluster.hartStep cfg host cc ev h) := by
  have run : ∀ {h'}, SafeRun cfg h h' → ev.isInstruction = true → HartInv cfg h' :=
    fun hs he => hs.inv_of_running cfg hi (hr he)
  cases ev with
  | takeException => exact run (safeRun_riscvTakeException cfg cc host h _ _) rfl
  | takeMemoryException => exact run (safeRun_riscvTakeMemoryException cfg cc host h _ _) rfl
  | illegalInstruction => exact run (safeRun_riscvIllegalInstruction cfg cc host h) rfl
  | instructionAddressMisaligned =>
    exact run (safeRun_riscvInstructionAddressMisaligned cfg cc host h _) rfl
  | ecall => exact run (safeRun_riscvECALL cfg cc host h) rfl
  | ebreak => exact run (safeRun_riscvEBREAK cfg cc host h) rfl
  | mret => exact (safe_riscvMRET cfg cc h).inv hi
  | sret => exact (safe_riscvSRET cfg cc h).inv hi
  | uret => exact (safe_riscvURET cfg cc h).inv hi
  | dret => exact run (safeRun_riscvDRET cfg cc host h) rfl
  | wfi => exact hartInv_riscvWFI cfg h hi
  | fetch => exact run (safeRun_riscvIFetchExcept cfg cc host h) rfl
  | stepTimer => exact (safe_riscvStepExcept cfg h).inv hi
  | setDM => exact (safe_riscvSetDM cfg cc h _).inv hi
  | setDMStall => exact (safe_updateDMStall cfg h _).inv hi
  | csrWrite => exact ((safeRun_setCsr cfg h _).then_test cfg cc).inv hi
  | nmi => exact (safe_nmiPortCB cfg h _).inv hi
  | haltreq => exact (quiet_haltreqPortCB h _).safe.inv hi
  | resethaltreq => exact (quiet_resethaltreqPortCB h _).safe.inv hi
  | SCValid => exact (quiet_SCValidPortCB h _).safe.inv hi
  | interrupt => exact (safe_interruptPortCB cfg cc h _ _).inv hi
  | interruptID => exact (quiet_interruptIDPortCB h _ _).safe.inv hi
  | deferint => exact (quiet_deferintPortCB h _).safe.inv hi
  | reset => exact hi
  | clicWrite => exact hi

end Hart

end RiscvTrap
