import RiscvTrap.State

/-!
# Utilities

The small helpers at the top of `riscvExceptions.c` (`getEPC`, `setPCxRET`,
`clearEA`, `handleFF`, `haltProcessor`, `restartProcessor`) and the simulator
calls they make, each with the lemmas that later proofs use in its place.

`haltProcessor` and `restartProcessor` keep the simulator's halted state equal to
`disable ≠ 0` (`halted_restartProcessor`, `halted_haltProcessor`): a restart for
one reason leaves a hart halted for another.
-/

namespace RiscvTrap

variable (cfg : Config)

/-- `riscv_int_Direct`, `riscv_int_Vectored`, `riscv_int_CLIC`: the `xtvec.MODE`
encodings, the last from the CLIC specification. -/
def riscv_int_Direct : Nat := 0
def riscv_int_Vectored : Nat := 1
def riscv_int_CLIC : Nat := 3

/-- `getIMode`: the `xtvec.MODE` field, or the custom mode where it reads zero. -/
def getIMode (customMode tvecMode : Nat) : Nat := if tvecMode ≠ 0 then tvecMode else customMode

theorem or_eq_zero {w : Nat} {x y : BitVec w} : x ||| y = 0 ↔ x = 0 ∧ y = 0 := by
  refine ⟨fun h => ?_, fun ⟨hx, hy⟩ => by simp [hx, hy]⟩
  have hb (i : Nat) : x.getLsbD i = false ∧ y.getLsbD i = false := by
    simpa using congrArg (·.getLsbD i) h
  exact ⟨BitVec.eq_of_getLsbD_eq fun i => by simp [(hb i).1],
    BitVec.eq_of_getLsbD_eq fun i => by simp [(hb i).2]⟩

/-- Clearing the bits of `r` clears every bit of a mask `w` that `r` covers. -/
theorem and_not_and_eq_zero {w : Nat} {d r m : BitVec w} (h : m &&& ~~~r = 0) :
    d &&& ~~~r &&& m = 0 := by
  apply BitVec.eq_of_getLsbD_eq; intro i
  have hi := congrArg (·.getLsbD i) h
  simp only [BitVec.getLsbD_and, BitVec.getLsbD_not, BitVec.getLsbD_zero] at hi ⊢
  revert hi
  cases d.getLsbD i <;> cases r.getLsbD i <;> cases m.getLsbD i <;> simp

namespace Hart

variable (h : Hart)

/-- `riscvSetMode`. -/
def setMode (m : Mode) : Hart := { h with mode := m }

/-- `vmirtSetPCException` and `vmirtSetPC`. -/
def setPC (pc : BitVec 64) : Hart := { h with pc := pc, dsOffset := false }

/-- Record an outside call. -/
def emit (e : Effect) : Hart := { h with effects := e :: h.effects }

/-- Replace the CSR file. -/
def setCsr (c : Csrs) : Hart := { h with csr := c }

/-- `useCLICM`, `useCLICS`, `useCLICU`: the CLIC is present and `xtvec.MODE` selects
CLIC mode. -/
def useCLIC (x : Mode) : Bool :=
  cfg.CLICPresent && (h.csr.tvec.get x).MODE.toNat == riscv_int_CLIC

/-- `getEPC`: the return address of a trap, or `jumpBase` inside an
instruction-table detour. -/
def getEPC : BitVec 64 := if h.dsOffset then h.jumpBase else h.pc

/-- `setPCxRET`: the low two bits are cleared when compressed instructions are off. -/
def setPCxRET (newPC : BitVec 64) : Hart :=
  h.setPC (if h.compressed then newPC else newPC &&& ~~~3)

/-- `clearEA`. -/
def clearEA : Hart := { h with exclusiveTag := none }

/-- `clearEAxRET`. -/
def clearEAxRET : Hart := if cfg.xret_preserves_lr then h else h.clearEA

/-- `handleFF`: whether a fault-only-first vector access suppresses the exception;
`riscvSetVL` clamps `vl` to `vstart`. -/
def handleFF : Bool × Hart :=
  if h.vFirstFault then
    let h := { h with vFirstFault := false }
    if h.csr.vstart ≠ 0 then (true, { h with vl := h.csr.vstart }) else (false, h)
  else (false, h)

/-- `haltProcessor`. -/
def haltProcessor (reason : BitVec 32) : Hart :=
  let disabled := h.disable
  let h := { h with disable := h.disable ||| reason }
  if disabled = 0 then ({ h with halted := true }.emit .halt).emit .haltRestart else h

/-- `restartProcessor`. -/
def restartProcessor (reason : BitVec 32) : Hart :=
  let h := { h with disable := h.disable &&& ~~~reason }
  if h.disable = 0 then ({ h with halted := false }.emit .restartNext).emit .haltRestart else h

/-! ### Frame lemmas -/

@[simp] theorem setMode_mode (m : Mode) : (h.setMode m).mode = m := rfl
@[simp] theorem setMode_csr (m : Mode) : (h.setMode m).csr = h.csr := rfl
@[simp] theorem setMode_DM (m : Mode) : (h.setMode m).DM = h.DM := rfl
@[simp] theorem setPC_pc (pc : BitVec 64) : (h.setPC pc).pc = pc := rfl
@[simp] theorem setPC_csr (pc : BitVec 64) : (h.setPC pc).csr = h.csr := rfl
@[simp] theorem setPC_mode (pc : BitVec 64) : (h.setPC pc).mode = h.mode := rfl
@[simp] theorem setPC_DM (pc : BitVec 64) : (h.setPC pc).DM = h.DM := rfl
@[simp] theorem emit_csr (e : Effect) : (h.emit e).csr = h.csr := rfl
@[simp] theorem emit_mode (e : Effect) : (h.emit e).mode = h.mode := rfl
@[simp] theorem emit_DM (e : Effect) : (h.emit e).DM = h.DM := rfl
@[simp] theorem emit_pc (e : Effect) : (h.emit e).pc = h.pc := rfl
@[simp] theorem emit_traps (e : Effect) : (h.emit e).traps = h.traps := rfl
@[simp] theorem clearEA_csr : h.clearEA.csr = h.csr := rfl
@[simp] theorem setCsr_csr (c : Csrs) : (h.setCsr c).csr = c := rfl
@[simp] theorem setCsr_mode (c : Csrs) : (h.setCsr c).mode = h.mode := rfl
@[simp] theorem setCsr_DM (c : Csrs) : (h.setCsr c).DM = h.DM := rfl
@[simp] theorem setCsr_pc (c : Csrs) : (h.setCsr c).pc = h.pc := rfl
@[simp] theorem setCsr_traps (c : Csrs) : (h.setCsr c).traps = h.traps := rfl
@[simp] theorem setCsr_compressed (c : Csrs) : (h.setCsr c).compressed = h.compressed := rfl
@[simp] theorem setMode_pc (m : Mode) : (h.setMode m).pc = h.pc := rfl
@[simp] theorem setMode_traps (m : Mode) : (h.setMode m).traps = h.traps := rfl
@[simp] theorem setMode_compressed (m : Mode) : (h.setMode m).compressed = h.compressed := rfl
@[simp] theorem setPC_traps (pc : BitVec 64) : (h.setPC pc).traps = h.traps := rfl
@[simp] theorem setPC_compressed (pc : BitVec 64) : (h.setPC pc).compressed = h.compressed := rfl
@[simp] theorem emit_compressed (e : Effect) : (h.emit e).compressed = h.compressed := rfl
@[simp] theorem clearEA_mode : h.clearEA.mode = h.mode := rfl

theorem halted_haltProcessor (r : BitVec 32) (hr : r ≠ 0)
    (hi : h.halted = true ↔ h.disable ≠ 0) :
    (h.haltProcessor r).halted = true ↔ (h.haltProcessor r).disable ≠ 0 := by
  unfold haltProcessor
  by_cases hd : h.disable = 0
  · simpa [hd, emit] using hr
  · simp only [hd, if_false, ne_eq, or_eq_zero, hi]
    tauto

theorem halted_restartProcessor (r : BitVec 32) (hi : h.halted = true ↔ h.disable ≠ 0) :
    (h.restartProcessor r).halted = true ↔ (h.restartProcessor r).disable ≠ 0 := by
  unfold restartProcessor
  by_cases hd : h.disable &&& ~~~r = 0
  · simp [hd, emit]
  · simp only [hd, if_false, ne_eq, not_false_eq_true, iff_true]
    exact hi.mpr fun h0 => hd (by simp [h0])

end Hart

end RiscvTrap
