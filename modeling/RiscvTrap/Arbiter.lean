import RiscvTrap.Scan

/-!
# The basic interrupt arbiter

`refreshPendingAndEnabledBasic` and what it reads: the delegation helpers
`getModeX`, `getInterruptModeX`, `getExceptionModeX`, the effective enables
`getIE`, the fixed priorities `getIntPri`, and the pending masks behind WFI.

* `getLsbD_pendingEnabledBasic`: after masking, bit `i` is set exactly when
  interrupt `i` is pending, enabled in `mie`, and enabled for its delegated mode
  `delegMode` (read from bit `i` of the 64-bit `mideleg` and `sideleg`).
* `refreshPendingAndEnabledBasic_spec`: the selection loop keeps the last interrupt
  of greatest `(getInterruptModeX i, getIntPri i)`.

`getModeX` takes its masks as `Uns32`, so for interrupts `32` to `63` the mode it
gives is not the one `delegMode` reads from the 64-bit registers.
-/

namespace RiscvTrap

namespace Hart

variable (cfg : Config) (h : Hart)

/-- `getModeX`.  The masks are `Uns32` parameters; `1<<ecode` is a 32-bit `int`
shift, whose count the model takes modulo `32` as x86 hosts do (a count of `32` or
more is undefined in C). -/
def getModeX (mMask sMask : BitVec 32) (ecode : Nat) : Mode :=
  let bit := 1#32 <<< (ecode % 32)
  let modeX :=
    if mMask &&& bit = 0 then Mode.machine
    else if sMask &&& bit = 0 then Mode.supervisor
    else Mode.user
  Mode.raise modeX h.mode

/-- `getInterruptModeX`: `mideleg` and `sideleg` truncated to the `Uns32` masks. -/
def getInterruptModeX (ecode : Nat) : Mode :=
  h.getModeX (h.csr.mideleg.setWidth 32) (h.csr.sideleg.setWidth 32) ecode

/-- `getExceptionModeX`. -/
def getExceptionModeX (ecode : Nat) : Mode :=
  h.getModeX (h.csr.medeleg.setWidth 32) (h.csr.sedeleg.setWidth 32) ecode

/-- `getIE`: an enable is forced on below its mode and off above it. -/
def getIE (IE : Bool) (modeIE : Mode) (useCLIC : Bool) : Bool :=
  if useCLIC then false
  else if h.mode < modeIE then true
  else if modeIE < h.mode then false
  else IE

/-- `getPendingBasic`. -/
def getPendingBasic : BitVec 64 := h.csr.mie &&& h.csr.mip

/-- `getPendingCLIC`. -/
def getPendingCLIC : Bool := h.sel.id.isSome

/-- `getPending`: what resumes a hart from WFI. -/
def getPending : Bool := h.getPendingBasic != 0 || h.getPendingCLIC

/-- The enable of mode `x` as `refreshPendingAndEnabledBasic` computes it. -/
def effIE (x : Mode) : Bool := h.getIE (h.csr.mstatus.IE.get x) x (h.useCLIC cfg x)

/-- The masking half of `refreshPendingAndEnabledBasic`. -/
def pendingEnabledBasic : BitVec 64 :=
  let pendingEnabled := h.getPendingBasic
  if pendingEnabled = 0 then pendingEnabled
  else
    let MIE := h.effIE cfg .machine
    let SIE := h.effIE cfg .supervisor
    let UIE := h.effIE cfg .user
    let mideleg := h.csr.mideleg
    let sideleg := h.csr.sideleg &&& mideleg
    let mMask := ~~~mideleg
    let sMask := mideleg &&& ~~~sideleg
    let uMask := sideleg
    let pe := if !MIE then pendingEnabled &&& ~~~mMask else pendingEnabled
    let pe := if !SIE then pe &&& ~~~sMask else pe
    if !UIE then pe &&& ~~~uMask else pe

end Hart

/-- `getIntPri`: `MEI 9`, `MSI 8`, `MTI 7`, `SEI 6`, `SSI 5`, `STI 4`, `UEI 3`,
`USI 2`, `UTI 1`, every other interrupt `0`. -/
def getIntPri : Nat → Nat
  | 11 => 9
  | 3 => 8
  | 7 => 7
  | 9 => 6
  | 1 => 5
  | 5 => 4
  | 8 => 3
  | 0 => 2
  | 4 => 1
  | _ => 0

theorem getIntPri_lt (n : Nat) : getIntPri n < 16 := by
  unfold getIntPri; split <;> omega

namespace Hart

variable (cfg : Config) (h : Hart)

/-- One step of the selection loop: the candidate (`try` in the source) replaces
`*selected`. -/
def selectBasic (sel : PendEnab) (id : Nat) : PendEnab :=
  let cand : PendEnab := ⟨some id, h.getInterruptModeX id, 0, false⟩
  match sel.id with
  | none => cand
  | some sid =>
    if sel.priv < cand.priv then cand
    else if cand.priv < sel.priv then sel
    else if getIntPri sid ≤ getIntPri id then cand
    else sel

/-- `refreshPendingAndEnabledBasic` (its trace message is not modelled). -/
def refreshPendingAndEnabledBasic : Hart :=
  { h with pendEnab := scanBits h.selectBasic 64 (h.pendingEnabledBasic cfg) 0 h.pendEnab }

/-! ### What the arbiter computes -/

/-- The mode an interrupt is delegated to, from bit `i` of the 64-bit `mideleg`
and `sideleg`. -/
def delegMode (i : Nat) : Mode :=
  if !h.csr.mideleg.getLsbD i then .machine
  else if !h.csr.sideleg.getLsbD i then .supervisor
  else .user

theorem getLsbD_pendingEnabledBasic (i : Nat) :
    (h.pendingEnabledBasic cfg).getLsbD i =
      (h.csr.mip.getLsbD i && h.csr.mie.getLsbD i && h.effIE cfg (h.delegMode i)) := by
  unfold pendingEnabledBasic delegMode
  by_cases hp : h.getPendingBasic = 0
  · rw [if_pos hp]
    have h0 : (h.csr.mie.getLsbD i && h.csr.mip.getLsbD i) = false := by
      simpa [getPendingBasic] using congrArg (·.getLsbD i) hp
    revert h0
    simp only [getPendingBasic, BitVec.getLsbD_and]
    cases h.csr.mip.getLsbD i <;> cases h.csr.mie.getLsbD i <;> simp
  rw [if_neg hp]
  rcases Nat.lt_or_ge i 64 with hi | hi
  · simp only [apply_ite (BitVec.getLsbD · i), getPendingBasic, BitVec.getLsbD_and,
      BitVec.getLsbD_not, decide_eq_true hi, Bool.true_and]
    cases h.csr.mideleg.getLsbD i <;> cases h.csr.sideleg.getLsbD i <;>
      cases hM : h.effIE cfg .machine <;> cases hS : h.effIE cfg .supervisor <;>
      cases hU : h.effIE cfg .user <;> simp [hM, hS, hU, Bool.and_comm]
  · simp [BitVec.getLsbD_ge _ _ hi, getPendingBasic]

/-- The key the selection loop maximises: destination mode, then fixed priority. -/
def keyBasic (i : Nat) : Nat := (h.getInterruptModeX i).toNat * 16 + getIntPri i

/-- The selection record of a kept candidate. -/
def tryOf : Option Nat → PendEnab
  | none => PendEnab.none
  | some i => ⟨some i, h.getInterruptModeX i, 0, false⟩

@[simp] theorem pendingEnabledBasic_pendEnab (p : PendEnab) :
    ({ h with pendEnab := p } : Hart).pendingEnabledBasic cfg = h.pendingEnabledBasic cfg := rfl

@[simp] theorem selectBasic_pendEnab (p : PendEnab) :
    ({ h with pendEnab := p } : Hart).selectBasic = h.selectBasic := rfl

theorem selectBasic_tryOf (m : Option Nat) (k : Nat) :
    h.selectBasic (h.tryOf m) k = h.tryOf (lastMax h.keyBasic m k) := by
  cases m with
  | none => rfl
  | some j =>
    have hj := getIntPri_lt j
    have hk := getIntPri_lt k
    simp only [selectBasic, tryOf, lastMax, keyBasic, Mode.lt_def]
    split_ifs <;> first | rfl | omega

theorem foldl_selectBasic (l : List Nat) (m : Option Nat) :
    l.foldl h.selectBasic (h.tryOf m) = h.tryOf (l.foldl (lastMax h.keyBasic) m) := by
  induction l generalizing m with
  | nil => rfl
  | cons k l ih => simp only [List.foldl_cons, selectBasic_tryOf, ih]

/-- **The basic arbiter keeps the last interrupt of greatest key** among the set
bits of the masked pending word. -/
theorem refreshPendingAndEnabledBasic_spec :
    ∃ r, (refreshPendingAndEnabledBasic cfg { h with pendEnab := PendEnab.none }).pendEnab =
        h.tryOf r ∧ IsLastMax h.keyBasic (setBits 64 (h.pendingEnabledBasic cfg) 0) r := by
  have hs := setBits_sorted 64 (h.pendingEnabledBasic cfg) 0
  simp only [refreshPendingAndEnabledBasic, pendingEnabledBasic_pendEnab, selectBasic_pendEnab,
    scanBits_eq_foldl]
  generalize setBits 64 (h.pendingEnabledBasic cfg) 0 = l at hs ⊢
  exact ⟨_, foldl_selectBasic h l none, isLastMax_foldl h.keyBasic hs⟩

end Hart

/-- `Config.rv64 false` with `n` local interrupts: `Config.rv64Local 25` implements
interrupts `0` to `40`. -/
def Config.rv64Local (n : Nat) : Config := { Config.rv64 false with local_int_num := n }

namespace Hart

/-- A User-mode hart with interrupt `40` implemented, pending and enabled, and
delegated to Supervisor mode by bit `40` of `mideleg`. -/
def delegated40 : Hart :=
  { Hart.new (Config.rv64Local 25) Host.flat default with
    mode := .user
    csr := { (default : Csrs) with mideleg := 1 <<< 40, mip := 1 <<< 40, mie := 1 <<< 40 } }

/-- The arbiter selects interrupt `40`, implemented and delegated to Supervisor
mode, with the Machine-mode destination that bit `8` of the truncated `mideleg`
gives. -/
theorem refreshPendingAndEnabledBasic_delegated40 :
    40 < (Config.rv64Local 25).getIntNum ∧ delegated40.delegMode 40 = .supervisor ∧
      (delegated40.refreshPendingAndEnabledBasic (Config.rv64Local 25)).pendEnab.id = some 40 ∧
      (delegated40.refreshPendingAndEnabledBasic (Config.rv64Local 25)).pendEnab.priv = .machine := by
  decide

end Hart

end RiscvTrap
