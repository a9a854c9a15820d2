import RiscvTrap.Fetch
import RiscvTrap.Targets

/-!
# No pending interrupt is lost by a test

An interrupt test (`riscvTestInterrupt`) recomputes the selection `pendEnab`, and
when it holds one outside Debug mode and with `deferint` low it asks the simulator
to call the fetch gate (`doSynchronousInterrupt`), which then takes the selected
interrupt.  With the basic controller:

* `pendEnab_riscvTestInterrupt`: the selection a test leaves is the arbiters'.
* `riscvTestInterrupt_delivers`: when some interrupt is pending and enabled, the
  test selects the last one of greatest key, asks for the fetch gate, and the gate
  takes that interrupt unless a halt request comes first.
* `presented_refreshPendingAndEnabled`: a CLIC interrupt the arbiters present is of
  a mode at least the hart's, and never of the reserved one.
* `riscvIFetchExcept_eretOf`: so an interrupt the fetch gate takes right after a
  test goes to a mode at least the current one, and the return of that mode's bank
  comes back to the interrupted mode, enables and `pc`.
-/

namespace RiscvTrap

namespace Hart

variable (cfg : Config) (cc : Cliccfg) (h : Hart)

theorem pendEnab_restartProcessor (r : BitVec 32) : (h.restartProcessor r).pendEnab = h.pendEnab := by
  dsimp only [restartProcessor]; split <;> rfl

theorem pendEnab_handlePendingAndEnabled : h.handlePendingAndEnabled.pendEnab = h.pendEnab := by
  unfold handlePendingAndEnabled; split <;> rfl

/-- A test leaves the selection the arbiters made. -/
theorem pendEnab_riscvTestInterrupt :
    (h.riscvTestInterrupt cfg cc).pendEnab = (h.refreshPendingAndEnabled cfg cc).pendEnab := by
  dsimp only [riscvTestInterrupt]; split <;>
    simp only [pendEnab_handlePendingAndEnabled, pendEnab_restartProcessor]

theorem doSynchronousInterrupt_handlePendingAndEnabled
    (hp : h.handlePendingAndEnabled.getPendingAndEnabled = true) :
    Effect.doSynchronousInterrupt ∈ h.handlePendingAndEnabled.effects := by
  unfold handlePendingAndEnabled at hp ⊢
  split
  · exact List.mem_cons_self _ _
  · rename_i hn; rw [if_neg hn] at hp; exact absurd hp hn

/-- A test that leaves a selection the fetch gate may take has asked for the gate. -/
theorem doSynchronousInterrupt_riscvTestInterrupt
    (hp : (h.riscvTestInterrupt cfg cc).getPendingAndEnabled = true) :
    Effect.doSynchronousInterrupt ∈ (h.riscvTestInterrupt cfg cc).effects :=
  doSynchronousInterrupt_handlePendingAndEnabled _ hp

/-- **No pending interrupt is lost.**  With the basic controller only, a test on a
hart outside Debug mode with `deferint` low and some interrupt pending and enabled
selects the last one of greatest key, asks the simulator for the fetch gate, and the
gate then takes that interrupt, unless a halt request holds it back. -/
theorem riscvTestInterrupt_delivers (hb : cfg.basicICPresent = true) (hc : cfg.CLICPresent = false) {j : Nat}
    (hj : (h.pendingEnabledBasic cfg).getLsbD j = true) (hd : h.DM = false) (hdi : h.netValue.deferint = false) :
    ∃ i, IsLastMax h.keyBasic (setBits 64 (h.pendingEnabledBasic cfg) 0) (some i) ∧
      (h.riscvTestInterrupt cfg cc).pendEnab.id = some i ∧
      Effect.doSynchronousInterrupt ∈ (h.riscvTestInterrupt cfg cc).effects ∧
      (h.netValue.resethaltreqS = false → h.netValue.haltreq = false →
        (h.riscvTestInterrupt cfg cc).deliveredInterrupt = some i) := by
  obtain ⟨r, hpe, hlm⟩ := refreshPendingAndEnabledBasic_spec cfg h
  have hsel : (h.riscvTestInterrupt cfg cc).pendEnab = h.tryOf r := by
    rw [pendEnab_riscvTestInterrupt, ← hpe]; simp [refreshPendingAndEnabled, hb, hc]
  cases r with
  | none => exact absurd (setBits_64_complete hj) (by rw [show setBits 64 _ 0 = [] from hlm]; simp)
  | some i =>
    have hf := selFrame_riscvTestInterrupt cfg cc h
    have hp : (h.riscvTestInterrupt cfg cc).getPendingAndEnabled = true := by
      simp [getPendingAndEnabled, hsel, tryOf, hf.DM, hf.netValue, hd, hdi]
    refine ⟨i, hlm, by rw [hsel]; rfl, doSynchronousInterrupt_riscvTestInterrupt cfg cc h hp, fun hr hq => ?_⟩
    simp [deliveredInterrupt, hf.netValue, hr, hq, hp, hsel, tryOf]

theorem riscvTestInterrupt_delivers_timer :
    let h : Hart := { Hart.new (Config.rv64 false) Host.flat default with
      mode := .user, csr := { (default : Csrs) with mip := 1 <<< 7, mie := 1 <<< 7 } }
    ∃ i, (h.riscvTestInterrupt (Config.rv64 false) (Cliccfg.initial false)).deliveredInterrupt = some i := by
  intro h
  obtain ⟨i, -, -, -, hd⟩ := riscvTestInterrupt_delivers (Config.rv64 false) (Cliccfg.initial false) h rfl rfl
    (show (h.pendingEnabledBasic (Config.rv64 false)).getLsbD 7 = true by decide) rfl rfl
  exact ⟨i, hd rfl rfl⟩

/-! ### Where a delivered interrupt goes -/

theorem isCLIC_refreshPendingAndEnabledBasic :
    (({ h with pendEnab := PendEnab.none } : Hart).refreshPendingAndEnabledBasic cfg).pendEnab.isCLIC = false := by
  obtain ⟨r, hr, -⟩ := refreshPendingAndEnabledBasic_spec cfg h
  rw [hr]; cases r <;> rfl

/-- The CLIC arbiter keeps the selection it is given, or presents an interrupt of a
mode at least the hart's and not the reserved one. -/
theorem presentCLIC_pendEnab_cases (id : Option Nat) :
    (h.presentCLIC cfg cc id).pendEnab = h.pendEnab ∨
      h.mode ≤ (h.presentCLIC cfg cc id).pendEnab.priv ∧
        (h.presentCLIC cfg cc id).pendEnab.priv ≠ .hypervisor := by
  cases id with
  | none => exact .inl rfl
  | some m =>
    rw [presentCLIC_pendEnab]; split
    · rename_i hc
      refine .inr ⟨hc.2.1, fun hH => ?_⟩
      simp [show h.getCLICInterruptMode cfg cc m = .hypervisor from hH, presentIntClic] at hc
    · exact .inl rfl

/-- The arbiters present a CLIC interrupt only of a mode at least the hart's, and
never of the reserved one. -/
theorem presented_refreshPendingAndEnabled (hc : (h.refreshPendingAndEnabled cfg cc).pendEnab.isCLIC = true) :
    h.mode ≤ (h.refreshPendingAndEnabled cfg cc).pendEnab.priv ∧
      (h.refreshPendingAndEnabled cfg cc).pendEnab.priv ≠ .hypervisor := by
  have hb : (if cfg.basicICPresent then ({ h with pendEnab := PendEnab.none } : Hart).refreshPendingAndEnabledBasic cfg
      else { h with pendEnab := PendEnab.none }).pendEnab.isCLIC = false := by
    split
    · exact isCLIC_refreshPendingAndEnabledBasic cfg h
    · rfl
  have hm : (if cfg.basicICPresent then ({ h with pendEnab := PendEnab.none } : Hart).refreshPendingAndEnabledBasic cfg
      else { h with pendEnab := PendEnab.none }).mode = h.mode := by
    split <;> rfl
  dsimp only [refreshPendingAndEnabled] at hc ⊢
  generalize (if cfg.basicICPresent then _ else _) = h₀ at hb hm hc ⊢
  by_cases hC : cfg.CLICPresent = true
  · rw [if_pos hC] at hc ⊢
    rcases presentCLIC_pendEnab_cases cfg cc h₀ _ with he | hp
    · exact absurd (he ▸ hc) (by simp [hb])
    · exact hm ▸ hp
  · rw [if_neg hC] at hc
    exact absurd hc (by simp [hb])

/-- After a test, every interrupt the fetch gate can take goes to a mode at least
the hart's and not the reserved one. -/
theorem le_trapModeX_riscvTestInterrupt (hH : h.mode ≠ .hypervisor) (i : Nat) :
    h.mode ≤ (h.riscvTestInterrupt cfg cc).trapModeX (.int i) ∧
      (h.riscvTestInterrupt cfg cc).trapModeX (.int i) ≠ .hypervisor := by
  have hm := (selFrame_riscvTestInterrupt cfg cc h).mode
  simp only [trapModeX, pendEnab_riscvTestInterrupt]
  split
  · exact presented_refreshPendingAndEnabled cfg cc h ‹_›
  · rw [← hm]
    exact ⟨mode_le_getModeX _ _ _ _, getModeX_ne_hypervisor _ (hm ▸ hH) _ _ _⟩

variable (host : Host)

/-- The return from an interrupt the fetch gate takes to a mode at least the current
one. -/
theorem riscvIFetchExcept_int_eretOf {T : Hart} {i : Nat} (hd : T.DM = false) (hY : cfg.riscvHasMode T.mode = true)
    (hXY : T.mode ≤ T.trapModeX (.int i)) (hXH : T.trapModeX (.int i) ≠ .hypervisor)
    (hi : T.deliveredInterrupt = some i) (hnf : T.shvReadFaults cfg host (.int i) = false) :
    let h₂ := (T.riscvIFetchExcept cfg cc host).2.eretOf cfg cc (T.trapModeX (.int i))
    h₂.mode = T.mode ∧ h₂.DM = false ∧ h₂.csr.mstatus.IE = T.csr.mstatus.IE ∧
      (T.getEPC &&& cfg.epcMask.get (T.trapModeX (.int i)) = T.getEPC →
        (T.compressed = true ∨ T.getEPC &&& 3 = 0) → h₂.pc = T.getEPC) := by
  rw [riscvIFetchExcept_of_delivered cfg cc host T hi]
  dsimp only
  obtain ⟨-, hdm, hc, -, _, hcsr⟩ := riscvTakeException_spec cfg cc host
    { T with pendEnab := { T.pendEnab with id := none } } (.int i) 0 hd hnf
  have hm := eretOf_mode_of_trapCsr cfg cc hcsr hXH hdm hXY hY
  exact ⟨hm, (eretOf_spec cfg cc _ _ hXH hdm).1, congrArg (·.mstatus.IE) (eretOf_csr_of_trapCsr cfg cc hcsr hXH hdm rfl hm),
    fun hmask hal => eretOf_pc_of_trapCsr cfg cc hcsr hXH hdm hmask (by rwa [hc])⟩

/-- **An interrupt taken after a test returns to where it struck.**  From an
implemented mode outside Debug mode, when the fetch gate takes interrupt `i` right
after a test (and not on the faulting SHV path), the interrupt goes to a mode `X`
at least the current one, and the return of the bank of `X` comes back to the
mode, outside Debug mode, with the interrupt enables as they were, and to the
interrupted `pc` when the mask and alignment of `xepc` keep it. -/
theorem riscvIFetchExcept_eretOf (hd : h.DM = false) (hY : cfg.riscvHasMode h.mode = true) {i : Nat}
    (hi : (h.riscvTestInterrupt cfg cc).deliveredInterrupt = some i)
    (hnf : (h.riscvTestInterrupt cfg cc).shvReadFaults cfg host (.int i) = false) :
    let X := (h.riscvTestInterrupt cfg cc).trapModeX (.int i)
    let h₂ := ((h.riscvTestInterrupt cfg cc).riscvIFetchExcept cfg cc host).2.eretOf cfg cc X
    h.mode ≤ X ∧ h₂.mode = h.mode ∧ h₂.DM = false ∧ h₂.csr.mstatus.IE = h.csr.mstatus.IE ∧
      (h.getEPC &&& cfg.epcMask.get X = h.getEPC → (h.compressed = true ∨ h.getEPC &&& 3 = 0) →
        h₂.pc = h.getEPC) := by
  have hH : h.mode ≠ .hypervisor := by rintro hm; simp [hm, Config.riscvHasMode] at hY
  obtain ⟨hXY, hXH⟩ := le_trapModeX_riscvTestInterrupt cfg cc h hH i
  have hf := selFrame_riscvTestInterrupt cfg cc h
  have hE : (h.riscvTestInterrupt cfg cc).getEPC = h.getEPC := by rw [hf]; rfl
  obtain ⟨hm, hdm, hIE, hpc⟩ := riscvIFetchExcept_int_eretOf cfg cc host (hf.DM.trans hd)
    (hf.mode.symm ▸ hY) (hf.mode.symm ▸ hXY) hXH hi hnf
  exact ⟨hXY, hm.trans hf.mode, hdm, hIE.trans (by rw [hf.csr]),
    fun hmask hal => (hpc (hE.symm ▸ hmask) (hE.symm ▸ hf.compressed.symm ▸ hal)).trans hE⟩

theorem riscvIFetchExcept_eretOf_timer :
    let h : Hart := { Hart.new (Config.rv64 false) Host.flat default with
      mode := .user, csr := { (default : Csrs) with mip := 1 <<< 7, mie := 1 <<< 7 } }
    (((h.riscvTestInterrupt (Config.rv64 false) (Cliccfg.initial false)).riscvIFetchExcept (Config.rv64 false)
      (Cliccfg.initial false) Host.flat).2.eretOf (Config.rv64 false) (Cliccfg.initial false)
      ((h.riscvTestInterrupt (Config.rv64 false) (Cliccfg.initial false)).trapModeX (.int 7))).mode = .user :=
  (@riscvIFetchExcept_eretOf (Config.rv64 false) (Cliccfg.initial false)
    { Hart.new (Config.rv64 false) Host.flat default with
      mode := .user, csr := { (default : Csrs) with mip := 1 <<< 7, mie := 1 <<< 7 } } Host.flat rfl rfl 7
    (by decide) rfl).2.1

end Hart

end RiscvTrap
