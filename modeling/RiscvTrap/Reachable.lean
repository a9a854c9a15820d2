import RiscvTrap.Invariants

/-!
# Every reachable cluster

The three hart invariants of `RiscvTrap.Invariants` hold of every hart of every
cluster that `Reachable` admits: out of reset, after any event an enabled hart can
see, and after a restore from a state saved in any other run.

* `inv_step`: one event keeps `Inv`, from the per-hart lemma for the events that
  stay on one hart, and from the reset, the window write and `cliccfgW` for those
  that reach the whole cluster.
* `reachable_inv`: induction over `Reachable`.
* `reachable_clicInv`: the CLIC invariant and what it gives the arbiter and the
  restore.
* `reachable_haltInv_wfiInv`: the halted flag and the WFI wake-up.
* `staleTimer`, `clicSession`: two runs from reset, on the basic interrupt
  controller and on the CLIC.
-/

namespace RiscvTrap

namespace Hart

variable (cfg : Config) (h : Hart)

theorem HartInv.quiet {h h' : Hart} (hi : HartInv cfg h) (hq : Quiet h h') : HartInv cfg h' :=
  hq.safe.inv hi

/-- The hart half of `riscvReset`: restart, leave Debug mode, Machine mode and the
CSR reset.  The restart clears the WFI reason and nothing after it sets it again. -/
theorem safe_resetHart (cc : Cliccfg) (c : Csrs) :
    Safe cfg h ((((h.restartProcessor cfg.reasons.RESTART_RESET).riscvSetDM cfg cc false).setMode
      .machine).setCsr c) := by
  have h0 : (h.restartProcessor cfg.reasons.RESTART_RESET).disable &&& cfg.reasons.WFI = 0 := by
    rw [disable_restartProcessor]; exact and_not_and_eq_zero cfg.reasons.restart_reset
  have hq : Quiet ((h.restartProcessor cfg.reasons.RESTART_RESET).riscvSetDM cfg cc false)
      (((h.restartProcessor cfg.reasons.RESTART_RESET).riscvSetDM cfg cc false).setMode .machine) :=
    ⟨⟨rfl, rfl, rfl, rfl, rfl⟩, rfl, rfl⟩
  have hs := (safe_riscvSetDM cfg cc _ false).toSafeRun.trans
    (hq.safe.toSafeRun.trans (safeRun_setCsr cfg _ c))
  exact ((safe_restartProcessor cfg h _).toSafeRun.trans hs).safe (hs.noWfi h0)

/-- The CLIC half of a restore: with a CLIC, the implemented interrupts from a
snapshot whose interrupts are valid, and `ipe` rebuilt. -/
theorem safe_restoreCLIC (st : Nat → ClicIntState) (hv : ∀ i < cfg.getIntNum, (st i).Valid cfg) :
    Safe cfg h (if cfg.CLICPresent then
      ({ h with intState := fun i => if i < cfg.getIntNum then st i else h.intState i } :
        Hart).refreshCLICIPE cfg else h) := by
  split
  · exact Calm.safe ⟨rfl, rfl, rfl, rfl, rfl⟩ fun hi =>
      clicInv_refreshCLICIPE cfg _ (fun _ hj => hi.ipe_high cfg h hj)
        fun i hn => by simpa only [if_pos hn] using hv i hn
  · exact .refl

end Hart

namespace Cluster

open Hart

variable (cfg : Config) (host : Host)

/-- Every hart of the cluster keeps the three invariants. -/
def Inv (cl : Cluster) : Prop := ∀ k, HartInv cfg (cl.harts k)

variable {cfg} {cl cl' : Cluster}

theorem inv_mapHart {k : Nat} {f : Hart → Hart} (hi : Inv cfg cl)
    (hf : HartInv cfg (cl.harts k) → HartInv cfg (f (cl.harts k))) : Inv cfg (cl.mapHart k f) := by
  intro j
  by_cases hj : j = k
  · subst hj; simpa [mapHart] using hf (hi j)
  · simpa [mapHart, Function.update_noteq hj] using hi j

theorem inv_refreshCCLICInterruptAll (hi : Inv cfg cl) : Inv cfg (refreshCCLICInterruptAll cfg cl) := by
  intro j; dsimp only [refreshCCLICInterruptAll]; split
  · exact (safe_riscvTestInterrupt cfg cl.cliccfg _).inv (hi j)
  · exact hi j

theorem inv_cliccfgW (hi : Inv cfg cl) (v : BitVec 8) : Inv cfg (cl.cliccfgW cfg v) := by
  unfold cliccfgW; dsimp only; split
  · exact inv_refreshCCLICInterruptAll hi
  · exact hi

theorem inv_resetCLIC (hi : Inv cfg cl) (k : Nat) : Inv cfg (cl.resetCLIC cfg k) := by
  unfold resetCLIC; split
  · exact hi
  split
  · dsimp only; split
    · exact inv_refreshCCLICInterruptAll
        (inv_mapHart hi fun hk => hk.quiet cfg ⟨⟨rfl, rfl, rfl, rfl, rfl⟩, rfl, rfl⟩)
    · exact hi
  · exact inv_cliccfgW hi 0

theorem inv_riscvReset (hi : Inv cfg cl) (k : Nat) : Inv cfg (cl.riscvReset cfg host k) := by
  unfold riscvReset; dsimp only
  refine inv_mapHart (inv_resetCLIC (inv_mapHart hi fun hk => (safe_resetHart cfg _ _ _).inv hk) k)
    fun hk => hk.quiet cfg ⟨⟨rfl, rfl, rfl, rfl, rfl⟩, rfl, rfl⟩

theorem inv_resetPortCB (hi : Inv cfg cl) (k : Nat) (v : Bool) :
    Inv cfg (cl.resetPortCB cfg host k v) := by
  unfold resetPortCB; dsimp only
  refine inv_mapHart ?_ fun hk => hk.quiet cfg ⟨⟨rfl, rfl, rfl, rfl, rfl⟩, rfl, rfl⟩
  split
  · exact inv_mapHart hi fun hk =>
      (safe_haltProcessor cfg _ _ cfg.reasons.reset_ne cfg.reasons.wfi_reset).inv hk
  split
  · exact inv_riscvReset host hi k
  · exact hi

theorem inv_writeCLICInterrupt (hi : Inv cfg cl) (offset : Nat) (v : BitVec 8) :
    Inv cfg (cl.writeCLICInterrupt cfg offset v) := by
  unfold writeCLICInterrupt; split
  · rename_i ha
    have hn := lt_of_accessCLICInterrupt cfg cl ha
    refine inv_mapHart hi fun hk => ?_
    dsimp only
    split
    · exact (safe_writeCLICInterruptPending cfg _ _ hn v).inv hk
    · exact (safe_writeCLICInterruptEnable cfg _ _ hn v).inv hk
    · exact (safe_writeCLICInterruptAttr cfg _ _ hn v (getCLICPageMode_ne_hypervisor cfg _)).inv hk
    · exact (safe_writeCLICInterruptCtl cfg _ _ hn v).inv hk
  · exact hi

theorem inv_writeCLICInt (hi : Inv cfg cl) (offset : Nat) (v : BitVec 8) :
    Inv cfg (cl.writeCLICInt cfg offset v) := by
  unfold writeCLICInt; split
  · exact inv_writeCLICInterrupt hi offset v
  split
  · exact inv_cliccfgW hi v
  · exact hi

/-- A restore from a snapshot of a cluster that keeps the invariants keeps them. -/
theorem inv_riscvNetRestore (hi : Inv cfg cl) (hi' : Inv cfg cl') (k : Nat) :
    Inv cfg (cl.riscvNetRestore cfg k (cl'.riscvNetSave k)) := by
  unfold riscvNetRestore
  have hc : Inv cfg (if cfg.CLICPresent then { cl with cliccfg := cl'.cliccfg } else cl) := by
    split <;> exact hi
  refine inv_mapHart hc fun hk => ?_
  dsimp only
  refine Safe.inv (SafeRun.then_test cfg _ _ ?_) hk
  refine SafeRun.trans ?_ (safe_restoreCLIC cfg _ _ fun i hn => (hi' k).clic.valid i hn).toSafeRun
  exact Safe.toSafeRun (Quiet.safe ⟨⟨rfl, rfl, rfl, rfl, rfl⟩, rfl, rfl⟩)

/-- **One event.**  Every enabled event keeps the invariants of every hart. -/
theorem inv_step {ev : Event} (hi : Inv cfg cl) (he : Enabled cfg cl ev) :
    Inv cfg (step cfg host ev cl) := by
  cases ev
  case reset k v => exact inv_resetPortCB host hi k v
  case clicWrite offset v => exact inv_writeCLICInt hi offset v
  all_goals exact inv_mapHart hi fun hk => hartInv_hartStep cfg _ host _ _ hk he.2

theorem inv_new (csr₀ : Csrs) : Inv cfg (new cfg host csr₀) := fun _ =>
  { halt := by simp [HaltInv, new, Hart.new]
    clic :=
      { ipe_bit := fun _ => by simp [new, Hart.new, ipeBitAt]
        valid := fun _ _ =>
          ⟨.inl rfl, .inl rfl, by simp [new, Hart.new], by simp [new, Hart.new, attrMode, attrMachine]⟩ }
    wfi := fun hw => by simp [new, Hart.new] at hw }

/-- **Every reachable cluster keeps the invariants.** -/
theorem reachable_inv (hr : Reachable cfg host cl) : Inv cfg cl := by
  induction hr with
  | new csr₀ => exact inv_new host csr₀
  | step _ he ih => exact inv_step host ih he
  | restore _ _ _ ih ih' => exact inv_riscvNetRestore ih ih' _

/-! ### Two runs from reset -/

/-- A run from reset of a hart with the basic interrupt controller: Machine
interrupts enabled and the timer interrupt unmasked, `deferint` raised, the timer
line raised, an `ECALL`, and `deferint` lowered.  The `ECALL` traps to Machine
mode and clears `mstatus.MIE` without testing for interrupts, so the timer
interrupt selected before it stays selected. -/
def staleTimer : Cluster :=
  let cfg := Config.rv64 false
  let c : Csrs := { (default : Csrs) with
    mstatus := { (default : Mstatus) with IE := ⟨false, false, true⟩ }, mie := 1 <<< 7 }
  [Event.csrWrite 0 c, .deferint 0 true, .interrupt 0 7 true, .ecall 0, .deferint 0 false].foldl
    (fun cl ev => step cfg Host.flat ev cl) (new cfg Host.flat default)

theorem reachable_staleTimer : Reachable (Config.rv64 false) Host.flat staleTimer := by
  dsimp only [staleTimer, List.foldl]
  refine .step (.step (.step (.step (.step (.new default) ?_) ?_) ?_) ?_) ?_ <;>
    exact ⟨by decide, by decide⟩

/-- A run from reset of a hart with the CLIC: two bytes written through the
Machine-mode page of interrupt `16`, its enable and its control byte, then its
wire raised. -/
def clicSession : Cluster :=
  [Event.clicWrite 4161 1, .clicWrite 4163 0xFF, .interrupt 0 16 true].foldl
    (fun cl ev => step (Config.rv64 true) Host.flat ev cl) (new (Config.rv64 true) Host.flat default)

theorem reachable_clicSession : Reachable (Config.rv64 true) Host.flat clicSession := by
  dsimp only [clicSession, List.foldl]
  refine .step (.step (.step (.new default) ?_) ?_) ?_ <;>
    exact ⟨by decide, fun h => by simp [Event.isInstruction] at h⟩

/-! ### What every reachable state satisfies -/

/-- **The CLIC state of every reachable hart.**  Each `ipe` bit of an implemented
interrupt is its `ip` and `ie`, both one bit; `clicintctl` has its always-one bits;
no mode is the reserved one; no `ipe` bit past the implemented interrupts is set.
So the arbiter scans only implemented interrupts and never aborts, and restoring a
hart from a state saved in any run rebuilds the `ipe` that state had. -/
theorem reachable_clicInv (hr : Reachable cfg host cl) (k : Nat) :
    let h := cl.harts k
    ClicInv cfg h ∧ (∀ j, cfg.getIntNum ≤ j → ipeBitAt h.ipe j = false) ∧
      (∀ i ∈ h.clicIndices cfg, i < cfg.getIntNum) ∧
      (∀ cc, (h.refreshPendingAndEnabledCLIC cfg cc).effects = h.effects) ∧
      (cfg.CLICPresent = true → ∀ cl', Reachable cfg host cl' →
        ((cl.riscvNetRestore cfg k (cl'.riscvNetSave k)).harts k).ipe = (cl'.harts k).ipe) := by
  have hi := (reachable_inv host hr k).clic
  refine ⟨hi, fun _ hj => hi.ipe_high cfg _ hj, fun _ hm => clicIndices_lt cfg _ hi hm,
    fun cc => effects_refreshPendingAndEnabledCLIC cfg cc _ hi, fun hc cl' hr' => ?_⟩
  simp only [riscvNetRestore, hc, if_true, mapHart, Function.update_same]
  rw [(selFrame_riscvTestInterrupt cfg _ _).ipe]
  exact ipe_refreshCLICIPE cfg _ (fun _ hj => hi.ipe_high cfg _ hj) (reachable_inv host hr' k).clic
    fun i hn => if_pos hn

theorem reachable_clicInv_clicSession : ClicInv (Config.rv64 true) (clicSession.harts 0) :=
  (reachable_clicInv Host.flat reachable_clicSession 0).1

/-- In the reachable state `staleTimer`, the fetch gate delivers the Machine timer
interrupt in Machine mode with `mstatus.MIE` clear. -/
theorem staleTimer_delivered :
    Reachable (Config.rv64 false) Host.flat staleTimer ∧
      (staleTimer.harts 0).deliveredInterrupt = some 7 ∧
      (staleTimer.harts 0).mode = .machine ∧
      (staleTimer.harts 0).csr.mstatus.IE.get .machine = false ∧
      ((staleTimer.harts 0).riscvIFetchExcept (Config.rv64 false) staleTimer.cliccfg
        Host.flat).2.exception = .int 7 :=
  ⟨reachable_staleTimer, by decide, by decide, by decide, by decide⟩

end Cluster

end RiscvTrap
