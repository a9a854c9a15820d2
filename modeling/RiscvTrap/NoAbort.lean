import RiscvTrap.Ports

/-!
# The simulation never stops on an assertion

`riscvExceptions.c` stops the simulation at a `VMI_ABORT` or a failed
`VMI_ASSERT`.  The model records four of them as `Effect.abort`: the abort of
`refreshPendingAndEnabledCLIC` for an interrupt of the reserved mode, the
assertion of `doInterrupt` that an interrupt is selected, and the range checks of
`interruptPortCB` and `interruptIDPortCB` on the code their port was created
with.  (The others decode a window offset, and hold of every offset inside the
window `riscvMapCLICDomain` maps; the decoding of `RiscvTrap.Cluster` is written
for those.)  None of the four is reached in any run whose net events come from
the ports `riscvNewNetPorts` created.

* `AttrInv`: no interrupt's `clicintattr`, implemented or not, holds the reserved
  mode.  The only write of the field clamps the mode with `clampAttrMode`.
* `AbortFree h h'`: `h'` keeps `AttrInv`, and while it holds records no abort.  One
  lemma per operation, built from those of what it calls, as for the hart
  invariants of `RiscvTrap.Invariants`.
* `Event.FromPorts`: the net events the created ports can make.
* `portReachable_noAbort`: over every such run, no hart ever records an abort.
-/

namespace RiscvTrap

namespace Hart

/-- No interrupt's `clicintattr`, implemented or not, holds the reserved mode. -/
def AttrInv (h : Hart) : Prop := ∀ i, attrMode (h.intState i).attr ≠ 2

/-- `h'` keeps `AttrInv`, and while it holds records no abort that `h` had not. -/
structure AbortFree (h h' : Hart) : Prop where
  attr : AttrInv h → AttrInv h'
  abort : AttrInv h → Effect.abort ∈ h'.effects → Effect.abort ∈ h.effects

section
variable {h h₁ h₂ h' : Hart}

theorem AbortFree.refl : AbortFree h h := ⟨id, fun _ => id⟩

theorem AbortFree.trans (h12 : AbortFree h h₁) (h23 : AbortFree h₁ h₂) : AbortFree h h₂ :=
  ⟨h23.attr ∘ h12.attr, fun ha he => h12.abort ha (h23.abort (h12.attr ha) he)⟩

/-- A change that keeps the interrupt state and records only calls other than an
abort. -/
theorem AbortFree.of_record (hs : h'.intState = h.intState) (l : List Effect) (hl : Effect.abort ∉ l)
    (he : h'.effects = l ++ h.effects) : AbortFree h h' :=
  ⟨fun ha i => by rw [hs]; exact ha i,
    fun _ hm => by rw [he, List.mem_append] at hm; exact hm.resolve_left hl⟩

theorem AbortFree.of_eq (hs : h'.intState = h.intState) (he : h'.effects = h.effects) :
    AbortFree h h' :=
  .of_record hs [] (List.not_mem_nil _) he

/-- A change that touches neither the interrupt state nor the calls, before an
abort-free one. -/
theorem AbortFree.after (h12 : AbortFree h₁ h₂) (hs : h₁.intState = h.intState)
    (he : h₁.effects = h.effects) : AbortFree h h₂ :=
  (of_eq hs he).trans h12

end

variable (cfg : Config) (cc : Cliccfg) (host : Host) (h : Hart)

theorem abortFree_emit {e : Effect} (he : e ≠ .abort) : AbortFree h (h.emit e) :=
  .of_record rfl [e] (fun hm => he (List.mem_singleton.mp hm).symm) rfl

theorem abortFree_setCsr (c : Csrs) : AbortFree h (h.setCsr c) := .of_eq rfl rfl

/-! ### Halting and testing -/

theorem abortFree_restartProcessor (r : BitVec 32) : AbortFree h (h.restartProcessor r) := by
  dsimp only [restartProcessor]; split
  · exact .of_record rfl [.haltRestart, .restartNext] (by decide) rfl
  · exact .of_eq rfl rfl

theorem abortFree_haltProcessor (r : BitVec 32) : AbortFree h (h.haltProcessor r) := by
  dsimp only [haltProcessor]; split
  · exact .of_record rfl [.haltRestart, .halt] (by decide) rfl
  · exact .of_eq rfl rfl

/-- Under `AttrInv` the presented interrupt is never of the reserved mode. -/
theorem effects_presentCLIC (ha : AttrInv h) (id : Option Nat) :
    (h.presentCLIC cfg cc id).effects = h.effects := by
  cases id with
  | none => rfl
  | some m =>
    have hm := getCLICInterruptMode_ne_hypervisor cfg cc h (ha m)
    dsimp only [presentCLIC]
    split_ifs <;> rfl

theorem abortFree_refreshPendingAndEnabledCLIC :
    AbortFree h (h.refreshPendingAndEnabledCLIC cfg cc) where
  attr ha i := by rw [(pickFrame_refreshPendingAndEnabledCLIC cfg cc h).sel.intState]; exact ha i
  abort ha hm := by rwa [refreshPendingAndEnabledCLIC, effects_presentCLIC cfg cc h ha] at hm

theorem abortFree_refreshPendingAndEnabled : AbortFree h (h.refreshPendingAndEnabled cfg cc) := by
  have hb : AbortFree h (if cfg.basicICPresent then
      ({ h with pendEnab := PendEnab.none } : Hart).refreshPendingAndEnabledBasic cfg
      else { h with pendEnab := PendEnab.none }) := by
    split <;> exact .of_eq rfl rfl
  dsimp only [refreshPendingAndEnabled]; split
  · exact hb.trans (abortFree_refreshPendingAndEnabledCLIC cfg cc _)
  · exact hb

theorem abortFree_handlePendingAndEnabled : AbortFree h h.handlePendingAndEnabled := by
  unfold handlePendingAndEnabled; split
  · exact abortFree_emit h (by decide)
  · exact .refl

theorem abortFree_riscvTestInterrupt : AbortFree h (h.riscvTestInterrupt cfg cc) := by
  refine (abortFree_refreshPendingAndEnabled cfg cc h).trans ?_
  dsimp only [riscvTestInterrupt]; split
  · exact (abortFree_restartProcessor _ _).trans (abortFree_handlePendingAndEnabled _)
  · exact abortFree_handlePendingAndEnabled _

/-! ### Debug mode -/

theorem abortFree_updateDMStall (b : Bool) : AbortFree h (h.updateDMStall cfg b) := by
  dsimp only [updateDMStall]; split
  · split
    · exact (abortFree_haltProcessor _ _).after rfl rfl
    · exact (abortFree_restartProcessor _ _).after rfl rfl
  · exact .refl

theorem abortFree_enterDM (c : DmCause) : AbortFree h (h.enterDM cfg c) := by
  have hact : ∀ (h₁ : Hart) (b : Bool), AbortFree h₁ (h₁.enterDMAction cfg b) := fun h₁ b => by
    unfold enterDMAction; split
    · exact abortFree_emit h₁ (by decide)
    · exact .of_eq rfl rfl
    · exact abortFree_updateDMStall cfg h₁ true
  dsimp only [enterDM]; split
  · exact (AbortFree.of_eq rfl rfl : AbortFree h (h.enterDMSave c)).trans (hact _ _)
  · exact hact _ _

theorem abortFree_clearMPRV (m : Mode) : AbortFree h (h.clearMPRV cfg m) := by
  unfold clearMPRV; split <;> exact .of_eq rfl rfl

theorem abortFree_doERETCommon (retMode newMode : Mode) (epc : BitVec 64) :
    AbortFree h (h.doERETCommon cfg cc retMode newMode epc) := by
  dsimp only [doERETCommon]
  refine AbortFree.trans ?_ (abortFree_riscvTestInterrupt cfg cc _)
  exact .of_record rfl [.eret retMode] (by simp) rfl

theorem abortFree_leaveDM : AbortFree h (h.leaveDM cfg cc) := by
  dsimp only [leaveDM]
  refine (AbortFree.trans ?_ (abortFree_doERETCommon cfg cc _ _ _ _)).trans (abortFree_updateDMStall cfg _ _)
  exact (AbortFree.of_eq rfl rfl : AbortFree h (h.setDM false)).trans (abortFree_clearMPRV cfg _ _)

theorem abortFree_riscvSetDM (DM : Bool) : AbortFree h (h.riscvSetDM cfg cc DM) := by
  unfold riscvSetDM; split
  · exact .refl
  split
  · exact abortFree_enterDM cfg h _
  · exact abortFree_leaveDM cfg cc h

theorem abortFree_riscvStepExcept : AbortFree h (h.riscvStepExcept cfg) := by
  unfold riscvStepExcept; split
  · exact abortFree_enterDM cfg h _
  · exact .refl

/-! ### The CLIC writers -/

theorem attr_setField (st : ClicIntState) (type : Nat) (v : BitVec 8) :
    (st.setField type v).attr = if type = 2 then v else st.attr := by
  unfold ClicIntState.setField; split <;> simp_all

/-- A field write keeps `AttrInv` unless it writes the reserved mode into `clicintattr`. -/
theorem abortFree_setCLICInterruptField (i type : Nat) (v : BitVec 8) (hv : type = 2 → attrMode v ≠ 2) :
    AbortFree h (h.setCLICInterruptField i type v) where
  attr ha j := by
    by_cases hj : j = i
    · subst hj
      simp only [setCLICInterruptField, Function.update_same, attr_setField]
      split
      · exact hv ‹_›
      · exact ha j
    · simp only [setCLICInterruptField, Function.update_noteq hj]; exact ha j
  abort _ := id

theorem abortFree_updateCLICPendingEnable (i : Nat) (b : Bool) :
    AbortFree h (h.updateCLICPendingEnable cfg cc i b) := by
  dsimp only [updateCLICPendingEnable]
  exact (abortFree_riscvTestInterrupt cfg cc _).after rfl rfl

theorem abortFree_writeCLICInterruptIPE {type : Nat} (ht : type ≠ 2) (other i : Nat) (v : BitVec 8) :
    AbortFree h (h.writeCLICInterruptIPE cfg cc type other i v) := by
  have h1 := abortFree_setCLICInterruptField h i type (if v.getLsbD 0 then 1 else 0) (absurd · ht)
  dsimp only [writeCLICInterruptIPE]; split
  · exact h1.trans (abortFree_updateCLICPendingEnable cfg cc _ _ _)
  · exact h1

theorem abortFree_updateCLICInterruptField (i type : Nat) (v : BitVec 8)
    (hv : type = 2 → attrMode v ≠ 2) : AbortFree h (h.updateCLICInterruptField cfg cc i type v) := by
  unfold updateCLICInterruptField; split
  · exact (abortFree_setCLICInterruptField h i type v hv).trans (abortFree_riscvTestInterrupt cfg cc _)
  · exact .refl

theorem abortFree_writeCLICInterruptPending (i : Nat) (v : BitVec 8) :
    AbortFree h (h.writeCLICInterruptPending cfg cc i v) :=
  abortFree_writeCLICInterruptIPE cfg cc h (by decide) _ _ _

theorem abortFree_writeCLICInterruptEnable (i : Nat) (v : BitVec 8) :
    AbortFree h (h.writeCLICInterruptEnable cfg cc i v) :=
  abortFree_writeCLICInterruptIPE cfg cc h (by decide) _ _ _

/-- The mode written into `clicintattr` is clamped to a mode other than the reserved
one. -/
theorem abortFree_writeCLICInterruptAttr {pageMode : Mode} (hp : pageMode ≠ .hypervisor) (i : Nat)
    (v : BitVec 8) : AbortFree h (h.writeCLICInterruptAttr cfg cc i v pageMode) :=
  abortFree_updateCLICInterruptField cfg cc h _ _ _ fun _ => by
    rw [attrMode_attrWithMode]
    exact fun h2 => clampAttrMode_ne_hypervisor cfg hp _ (Mode.toNat_inj.mp h2)

theorem abortFree_writeCLICInterruptCtl (i : Nat) (v : BitVec 8) :
    AbortFree h (h.writeCLICInterruptCtl cfg cc i v) :=
  abortFree_updateCLICInterruptField cfg cc h _ _ _ (absurd · (by decide))

theorem abortFree_updateCLICInput (i : Nat) (b : Bool) : AbortFree h (h.updateCLICInput cfg cc i b) := by
  dsimp only [updateCLICInput]; split
  · exact abortFree_writeCLICInterruptPending cfg cc h _ _
  · exact .refl

theorem abortFree_riscvAcknowledgeCLICInt (i : Nat) :
    AbortFree h (h.riscvAcknowledgeCLICInt cfg cc i) := by
  dsimp only [riscvAcknowledgeCLICInt]; split
  · exact abortFree_writeCLICInterruptPending cfg cc h _ _
  · exact abortFree_refreshPendingAndEnabled cfg cc h

/-! ### Traps and returns -/

theorem abortFree_setPP (X Y : Mode) : AbortFree h (h.setPP X Y) := by
  cases X <;> exact .of_eq rfl rfl

theorem abortFree_setInhv (X : Mode) (b : Bool) : AbortFree h (h.setInhv X b) := .of_eq rfl rfl

theorem abortFree_finishTrap (X : Mode) (pc : BitVec 64) : AbortFree h (h.finishTrap X pc) :=
  .of_eq rfl rfl

section
variable {nested : Hart → Nat → BitVec 64 → Hart} (hn : ∀ h c t, AbortFree h (nested h c t))
include hn

theorem abortFree_trapVector (X : Mode) (isInt : Bool) (ecode ecodeMod : Nat) (shv : Bool)
    (base : BitVec 64) (mode : Nat) :
    AbortFree h (h.trapVector cfg cc host nested X isInt ecode ecodeMod shv base mode) := by
  unfold trapVector
  split
  · exact .of_eq rfl rfl
  split
  · exact .of_eq rfl rfl
  split
  · exact .of_eq rfl rfl
  refine (abortFree_riscvAcknowledgeCLICInt cfg cc h ecode).trans ((abortFree_setInhv _ X true).trans ?_)
  simp only [readCLICVectorTableEntry]
  generalize (host.read _ _ _).fault = fault
  have hr : ∀ h₁ : Hart, AbortFree h₁ (match fault with
      | none => h₁
      | some (code, tval) => nested h₁ code tval) := fun h₁ => by
    cases fault with
    | none => exact .refl
    | some f => exact hn _ _ _
  split
  · exact (hr _).trans ((abortFree_setInhv _ X false).trans (abortFree_finishTrap _ _ _))
  · exact hr _

theorem abortFree_takeTrap (e : Exception) (tval : BitVec 64) :
    AbortFree h (h.takeTrap cfg cc host nested e tval) := by
  dsimp only [takeTrap]
  refine AbortFree.trans ?_ (abortFree_trapVector cfg cc host _ hn _ _ _ _ _ _ _)
  have hs : ∀ (h₁ : Hart) (X Y : Mode), AbortFree h₁ { (h₁.setPP X Y).setMode X with exception := e } :=
    fun h₁ X Y => (abortFree_setPP h₁ X Y).trans (.of_eq rfl rfl)
  rw [trapPrologue_eq]
  exact (hs _ _ _).after rfl rfl

theorem abortFree_takeExceptionWith (e : Exception) (tval : BitVec 64) :
    AbortFree h (h.takeExceptionWith cfg cc host nested e tval) := by
  unfold takeExceptionWith; split
  · exact (abortFree_emit h (by decide)).trans (abortFree_enterDM cfg _ _)
  · exact abortFree_takeTrap cfg cc host h hn e tval

end

theorem abortFree_memoryExceptionWith {take : Hart → Exception → BitVec 64 → Hart}
    (ht : ∀ h e t, AbortFree h (take h e t)) (e : Exception) (tval : BitVec 64) :
    AbortFree h (h.memoryExceptionWith cfg take e tval) := by
  dsimp only [memoryExceptionWith]
  refine (abortFree_setCsr h { h.csr with vstart := h.csr.vstart &&& cfg.vstartMask }).trans ?_
  generalize h.setCsr _ = h₁
  have hff : AbortFree h₁ h₁.handleFF.2 := by
    unfold handleFF; split
    · dsimp only; split <;> exact .of_eq rfl rfl
    · exact .refl
  generalize h₁.handleFF = p at hff ⊢
  obtain ⟨ff, h₂⟩ := p
  dsimp only at hff ⊢
  split
  · exact hff
  · exact hff.trans (ht _ _ _)

theorem abortFree_riscvTakeException (e : Exception) (tval : BitVec 64) :
    AbortFree h (h.riscvTakeException cfg cc host e tval) :=
  abortFree_takeExceptionWith cfg cc host h (fun h₁ _ _ => abortFree_memoryExceptionWith cfg h₁
    (fun h₂ _ _ => abortFree_takeExceptionWith cfg cc host h₂ (fun _ _ _ => .refl) _ _) _ _) e tval

theorem abortFree_riscvTakeMemoryException (e : Exception) (tval : BitVec 64) :
    AbortFree h (h.riscvTakeMemoryException cfg cc host e tval) :=
  abortFree_memoryExceptionWith cfg h (fun h₁ _ _ => abortFree_riscvTakeException cfg cc host h₁ _ _) e tval

theorem abortFree_riscvEBREAK : AbortFree h (h.riscvEBREAK cfg cc host) := by
  dsimp only [riscvEBREAK]
  split
  · refine AbortFree.trans ?_ (abortFree_enterDM cfg _ _)
    split
    · exact .of_eq rfl rfl
    · exact .refl
  · exact abortFree_riscvTakeException cfg cc host h _ _

theorem abortFree_eretFromPP (X PP : Mode) (writePP : Mstatus → Mode → Mstatus) :
    AbortFree h (h.eretFromPP cfg cc X PP writePP) := by
  unfold eretFromPP; split
  · exact .refl
  refine AbortFree.trans ?_ (abortFree_doERETCommon cfg cc _ _ _ _)
  refine AbortFree.trans ?_ (abortFree_clearMPRV cfg _ _)
  have hq : AbortFree h ((h.clearEAxRET cfg).eretRestore cfg X) := by
    unfold clearEAxRET; split <;> exact .of_eq rfl rfl
  exact hq.trans (.of_eq rfl rfl)

theorem abortFree_riscvMRET : AbortFree h (h.riscvMRET cfg cc) := abortFree_eretFromPP cfg cc h _ _ _

theorem abortFree_riscvSRET : AbortFree h (h.riscvSRET cfg cc) := abortFree_eretFromPP cfg cc h _ _ _

theorem abortFree_riscvURET : AbortFree h (h.riscvURET cfg cc) := by
  unfold riscvURET; split
  · exact .refl
  have hq : AbortFree h ((h.clearEAxRET cfg).eretRestore cfg .user) := by
    unfold clearEAxRET; split <;> exact .of_eq rfl rfl
  exact hq.trans (abortFree_doERETCommon cfg cc _ _ _ _)

theorem abortFree_riscvDRET : AbortFree h (h.riscvDRET cfg cc host) := by
  unfold riscvDRET; split
  · exact abortFree_riscvTakeException cfg cc host h _ _
  · exact abortFree_leaveDM cfg cc h

/-! ### The fetch gate and the nets -/

theorem abortFree_riscvWFI : AbortFree h (h.riscvWFI cfg) := by
  unfold riscvWFI; split
  · exact abortFree_haltProcessor h _
  · exact .refl

theorem abortFree_riscvUpdatePending : AbortFree h (h.riscvUpdatePending cfg cc) := by
  dsimp only [riscvUpdatePending]; split
  · exact (abortFree_riscvTestInterrupt cfg cc _).after rfl rfl
  · exact .refl

theorem abortFree_validateFetchAddressInt (pc : BitVec 64) :
    AbortFree h (h.validateFetchAddressInt cfg cc host pc).2 := by
  unfold validateFetchAddressInt; split
  · exact .refl
  · exact abortFree_riscvTakeException cfg cc host h _ _
  · split
    · exact .refl
    · exact abortFree_riscvTakeException cfg cc host h _ _

/-- The fetch gate takes an interrupt only when one is selected, so the assertion
of `doInterrupt` never fails. -/
theorem abortFree_riscvIFetchExcept : AbortFree h (h.riscvIFetchExcept cfg cc host).2 := by
  unfold riscvIFetchExcept
  split
  · exact (abortFree_enterDM cfg _ _).after rfl rfl
  split
  · exact abortFree_enterDM cfg _ _
  split
  · rename_i hp
    dsimp only [doInterrupt]
    split
    · rename_i hid; simp [getPendingAndEnabled, hid] at hp
    · exact (abortFree_riscvTakeException cfg cc host _ _ _).after rfl rfl
  · unfold validateFetchAddress
    have h1 := abortFree_validateFetchAddressInt cfg cc host h h.pc
    generalize h.validateFetchAddressInt cfg cc host h.pc = p at h1 ⊢
    obtain ⟨ok, h₁⟩ := p
    dsimp only at h1 ⊢
    split
    · exact h1
    split
    · exact h1
    · exact h1.trans (abortFree_validateFetchAddressInt cfg cc host _ _)

theorem abortFree_nmiPortCB (v : Bool) : AbortFree h (h.nmiPortCB cfg v) := by
  unfold nmiPortCB
  refine AbortFree.trans (?_ : AbortFree h (if !h.DM && posedge h.netValue.nmi v then h.doNMI cfg else h))
    (.of_eq rfl rfl)
  split
  · exact (abortFree_restartProcessor h cfg.reasons.RESTART_NMI).trans (.of_eq rfl rfl)
  · exact .refl

theorem abortFree_haltreqPortCB (v : Bool) : AbortFree h (h.haltreqPortCB v) := by
  dsimp only [haltreqPortCB]; split
  · exact (abortFree_emit h (by decide)).trans (.of_eq rfl rfl)
  · exact .of_eq rfl rfl

theorem abortFree_SCValidPortCB (v : Bool) : AbortFree h (h.SCValidPortCB v) := by
  unfold SCValidPortCB; split <;> exact .of_eq rfl rfl

theorem abortFree_deferintPortCB (v : Bool) : AbortFree h (h.deferintPortCB v) := by
  dsimp only [deferintPortCB]; split
  · exact (abortFree_handlePendingAndEnabled _).after rfl rfl
  · exact .of_eq rfl rfl

/-- An interrupt port of an implemented interrupt passes its range check. -/
theorem abortFree_interruptPortCB {index : Nat} (hn : index < cfg.getIntNum) (v : Bool) :
    AbortFree h (h.interruptPortCB cfg cc index v) := by
  unfold interruptPortCB
  rw [if_neg (Nat.not_le.mpr hn)]
  dsimp only
  generalize Function.update h.ip (index / 64) _ = ip
  have hc : AbortFree h (if cfg.CLICPresent = true
      then ({ h with ip := ip } : Hart).updateCLICInput cfg cc index v else { h with ip := ip }) := by
    split
    · exact (abortFree_updateCLICInput cfg cc _ _ _).after rfl rfl
    · exact .of_eq rfl rfl
  split
  · exact hc.trans (abortFree_riscvUpdatePending cfg cc _)
  · exact hc

/-- An interrupt-ID port of a mode passes its range check. -/
theorem abortFree_interruptIDPortCB {offset : Nat} (ho : offset < 4) (id : Nat) :
    AbortFree h (h.interruptIDPortCB offset id) := by
  unfold interruptIDPortCB
  rw [if_neg (Nat.not_le.mpr ho)]
  exact .of_eq rfl rfl

end Hart

/-- The net events the input ports `riscvNewNetPorts` creates can make: the callback
of an input port the hart has, with the code the port was created with.
Instructions, Debug requests, CSR writes and window writes are not net events. -/
def Event.FromPorts (cfg : Config) : Event → Prop
  | .reset .. => ⟨.input, .reset, 0⟩ ∈ cfg.riscvNewNetPorts
  | .nmi .. => ⟨.input, .nmi, 0⟩ ∈ cfg.riscvNewNetPorts
  | .haltreq .. => ⟨.input, .haltreq, 0⟩ ∈ cfg.riscvNewNetPorts
  | .resethaltreq .. => ⟨.input, .resethaltreq, 0⟩ ∈ cfg.riscvNewNetPorts
  | .SCValid .. => ⟨.input, .SCValid, 0⟩ ∈ cfg.riscvNewNetPorts
  | .interrupt _ index _ => ⟨.input, .interrupt, index⟩ ∈ cfg.riscvNewNetPorts
  | .interruptID _ offset _ => ⟨.input, .interruptID, offset⟩ ∈ cfg.riscvNewNetPorts
  | .deferint .. => ⟨.input, .deferint, 0⟩ ∈ cfg.riscvNewNetPorts
  | _ => True

instance (cfg : Config) (ev : Event) : Decidable (ev.FromPorts cfg) := by
  cases ev <;> dsimp only [Event.FromPorts] <;> infer_instance

namespace Hart

variable (cfg : Config) (cc : Cliccfg) (host : Host) (h : Hart)

/-- **One event on its hart** from the created ports records no abort. -/
theorem abortFree_hartStep (ev : Event) (hp : ev.FromPorts cfg) :
    AbortFree h (Cluster.hartStep cfg host cc ev h) := by
  cases ev with
  | takeException => exact abortFree_riscvTakeException cfg cc host h _ _
  | takeMemoryException => exact abortFree_riscvTakeMemoryException cfg cc host h _ _
  | illegalInstruction => exact abortFree_riscvTakeException cfg cc host h _ _
  | instructionAddressMisaligned => exact abortFree_riscvTakeException cfg cc host h _ _
  | ecall => exact abortFree_riscvTakeException cfg cc host h _ _
  | ebreak => exact abortFree_riscvEBREAK cfg cc host h
  | mret => exact abortFree_riscvMRET cfg cc h
  | sret => exact abortFree_riscvSRET cfg cc h
  | uret => exact abortFree_riscvURET cfg cc h
  | dret => exact abortFree_riscvDRET cfg cc host h
  | wfi => exact abortFree_riscvWFI cfg h
  | fetch => exact abortFree_riscvIFetchExcept cfg cc host h
  | stepTimer => exact abortFree_riscvStepExcept cfg h
  | setDM => exact abortFree_riscvSetDM cfg cc h _
  | setDMStall => exact abortFree_updateDMStall cfg h _
  | csrWrite => exact (abortFree_riscvTestInterrupt cfg cc _).after rfl rfl
  | nmi => exact abortFree_nmiPortCB cfg h _
  | haltreq => exact abortFree_haltreqPortCB h _
  | resethaltreq => exact .of_eq rfl rfl
  | SCValid => exact abortFree_SCValidPortCB h _
  | interrupt => exact abortFree_interruptPortCB cfg cc h (cfg.lt_getIntNum_of_port hp) _
  | interruptID => exact abortFree_interruptIDPortCB h (cfg.lt_four_of_port hp) _
  | deferint => exact abortFree_deferintPortCB h _
  | reset => exact .refl
  | clicWrite => exact .refl

end Hart

namespace Cluster

open Hart

variable {cfg : Config} (host : Host) {cl cl' : Cluster}

/-- Every hart keeps `AttrInv` and has recorded no abort. -/
def NoAbort (cl : Cluster) : Prop := ∀ k, AttrInv (cl.harts k) ∧ Effect.abort ∉ (cl.harts k).effects

theorem noAbort_mapHart {k : Nat} {f : Hart → Hart} (hi : NoAbort cl) (hf : AbortFree (cl.harts k) (f (cl.harts k))) :
    NoAbort (cl.mapHart k f) := by
  intro j
  rw [harts_mapHart]; split
  · subst j
    exact ⟨hf.attr (hi _).1, fun hm => (hi _).2 (hf.abort (hi _).1 hm)⟩
  · exact hi j

theorem noAbort_refreshCCLICInterruptAll (hi : NoAbort cl) : NoAbort (refreshCCLICInterruptAll cfg cl) := by
  intro j; dsimp only [refreshCCLICInterruptAll]; split
  · have hf := abortFree_riscvTestInterrupt cfg cl.cliccfg (cl.harts j)
    exact ⟨hf.attr (hi j).1, fun hm => (hi j).2 (hf.abort (hi j).1 hm)⟩
  · exact hi j

theorem noAbort_cliccfgW (hi : NoAbort cl) (v : BitVec 8) : NoAbort (cl.cliccfgW cfg v) := by
  unfold cliccfgW; dsimp only; split
  · exact @noAbort_refreshCCLICInterruptAll cfg { cl with cliccfg := _ } hi
  · exact hi

theorem noAbort_resetCLIC (hi : NoAbort cl) (k : Nat) : NoAbort (cl.resetCLIC cfg k) := by
  unfold resetCLIC; split
  · exact hi
  split
  · dsimp only; split
    · exact noAbort_refreshCCLICInterruptAll (noAbort_mapHart hi (.of_eq rfl rfl))
    · exact hi
  · exact noAbort_cliccfgW hi 0

theorem noAbort_riscvReset (hi : NoAbort cl) (k : Nat) : NoAbort (cl.riscvReset cfg host k) := by
  unfold riscvReset
  refine noAbort_mapHart (noAbort_resetCLIC (noAbort_mapHart hi ?_) k)
    ((abortFree_emit _ (by decide)).trans (.of_eq rfl rfl))
  exact ((abortFree_restartProcessor _ cfg.reasons.RESTART_RESET).trans
    (abortFree_riscvSetDM cfg cl.cliccfg _ false)).trans (.of_eq rfl rfl)

theorem noAbort_resetPortCB (hi : NoAbort cl) (k : Nat) (v : Bool) :
    NoAbort (cl.resetPortCB cfg host k v) := by
  unfold resetPortCB; dsimp only
  refine noAbort_mapHart ?_ (.of_eq rfl rfl)
  split
  · exact noAbort_mapHart hi (abortFree_haltProcessor _ _)
  split
  · exact noAbort_riscvReset host hi k
  · exact hi

theorem noAbort_writeCLICInt (hi : NoAbort cl) (offset : Nat) (v : BitVec 8) :
    NoAbort (cl.writeCLICInt cfg offset v) := by
  unfold writeCLICInt; split
  · unfold writeCLICInterrupt; split
    · refine noAbort_mapHart hi ?_
      dsimp only
      split
      · exact abortFree_writeCLICInterruptPending cfg _ _ _ _
      · exact abortFree_writeCLICInterruptEnable cfg _ _ _ _
      · exact abortFree_writeCLICInterruptAttr cfg _ _ (getCLICPageMode_ne_hypervisor cfg _) _ _
      · exact abortFree_writeCLICInterruptCtl cfg _ _ _ _
    · exact hi
  split
  · exact noAbort_cliccfgW hi v
  · exact hi

/-- A restore copies the interrupt state of a snapshot that keeps `AttrInv`. -/
theorem noAbort_riscvNetRestore (hi : NoAbort cl) (hi' : NoAbort cl') (k : Nat) :
    NoAbort (cl.riscvNetRestore cfg k (cl'.riscvNetSave k)) := by
  unfold riscvNetRestore
  have hc : NoAbort (if cfg.CLICPresent then { cl with cliccfg := (cl'.riscvNetSave k).cliccfg } else cl) := by
    split <;> exact hi
  generalize (if cfg.CLICPresent then { cl with cliccfg := (cl'.riscvNetSave k).cliccfg } else cl) = cl₁ at hc ⊢
  refine noAbort_mapHart hc ?_
  refine AbortFree.trans ?_ (abortFree_riscvTestInterrupt cfg _ _)
  split
  · refine ⟨fun ha i => ?_, fun _ => id⟩
    simp only [refreshCLICIPE]
    split
    · exact (hi' k).1 i
    · exact ha i
  · exact .of_eq rfl rfl

/-- **One event** from the created ports keeps `NoAbort`. -/
theorem noAbort_step {ev : Event} (hi : NoAbort cl) (hp : ev.FromPorts cfg) :
    NoAbort (step cfg host ev cl) := by
  cases ev
  case reset k v => exact noAbort_resetPortCB host hi k v
  case clicWrite offset v => exact noAbort_writeCLICInt hi offset v
  all_goals exact noAbort_mapHart hi (abortFree_hartStep cfg _ host _ _ hp)

variable (cfg)

/-- The clusters a run reaches when its net events come from the ports the harts were
created with: out of reset, by enabled events, and by a restore from a state saved
in such a run. -/
inductive PortReachable : Cluster → Prop
  | new (csr₀ : Csrs) : PortReachable (new cfg host csr₀)
  | step {cl : Cluster} {ev : Event} : PortReachable cl → Enabled cfg cl ev → ev.FromPorts cfg →
      PortReachable (step cfg host ev cl)
  | restore {cl cl' : Cluster} {k : Nat} : PortReachable cl → PortReachable cl' → k < cfg.getNumHarts →
      PortReachable (cl.riscvNetRestore cfg k (cl'.riscvNetSave k))

variable {cfg host}

/-- Such a run is a run of `Reachable`, so every invariant of those holds on it. -/
theorem PortReachable.reachable (hr : PortReachable cfg host cl) : Reachable cfg host cl := by
  induction hr with
  | new csr₀ => exact .new csr₀
  | step _ he _ ih => exact ih.step he
  | restore _ _ hk ih ih' => exact ih.restore ih' hk

theorem noAbort_new (csr₀ : Csrs) : NoAbort (new cfg host csr₀) := fun _ =>
  ⟨fun _ => by simp [new, Hart.new, attrMode, attrMachine], by simp [new, Hart.new]⟩

/-- **The simulation never stops on an assertion.**  In every cluster a run reaches
when its net events come from the ports `riscvNewNetPorts` created, no hart has
recorded an abort: the CLIC arbiter never meets an interrupt of the reserved mode,
the fetch gate never takes an interrupt with none selected, and every interrupt and
interrupt-ID callback passes its range check.  No interrupt's `clicintattr`, in
range or not, ever holds the reserved mode. -/
theorem portReachable_noAbort (hr : PortReachable cfg host cl) (k : Nat) :
    Effect.abort ∉ (cl.harts k).effects ∧ ∀ i, attrMode ((cl.harts k).intState i).attr ≠ 2 := by
  have hn : NoAbort cl := by
    induction hr with
    | new csr₀ => exact noAbort_new csr₀
    | step _ _ hp ih => exact noAbort_step host ih hp
    | restore _ _ _ ih ih' => exact noAbort_riscvNetRestore ih ih' _
  exact ⟨(hn k).2, (hn k).1⟩

theorem portReachable_noAbort_interrupt11 :
    let cl := step (Config.rv64 true) Host.flat (.interrupt 0 11 true) (new (Config.rv64 true) Host.flat default)
    Effect.abort ∉ (cl.harts 0).effects ∧ ∀ i, attrMode ((cl.harts 0).intState i).attr ≠ 2 :=
  portReachable_noAbort (.step (.new default) ⟨by decide, fun h => by simp [Event.isInstruction] at h⟩
    (by decide)) 0

end Cluster

end RiscvTrap
