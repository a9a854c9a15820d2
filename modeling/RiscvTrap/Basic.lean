import Mathlib.Data.BitVec

/-!
# Modes, exception codes and the configuration

`riscvExceptions.c` works over three small vocabularies that live in headers not
among the sources: the privilege modes `riscvMode`, the exception codes
`riscvException`, and the configuration `configInfo`.  This file fixes them.

* `Mode`: `U = 0`, `S = 1`, the reserved `H = 2`, `M = 3`, ordered by number, so
  that `modeX > modeY` in the source is `Mode.lt`.
* `PerMode`: one value per trap bank `U`, `S`, `M`.  The source writes every
  `u`/`s`/`m` register access three times through `TARGET_MODE_X`; the model
  keeps one body and indexes the bank.  The reserved mode selects the machine
  bank, as the final `else` of the trap engine does.
* `Exception`: a synchronous code or an interrupt number, with the standard
  RISC-V cause numbers.
* `Config`: the options the trap core reads.
-/

namespace RiscvTrap

/-! ## Privilege modes -/

/-- `riscvMode`. -/
inductive Mode where
  | user
  | supervisor
  | hypervisor
  | machine
  deriving DecidableEq, Repr, Inhabited

namespace Mode

/-- The encoding of a mode (`RISCV_MODE_USER = 0`, ..., `RISCV_MODE_MACHINE = 3`). -/
def toNat : Mode → Nat
  | user => 0
  | supervisor => 1
  | hypervisor => 2
  | machine => 3

/-- The mode held in a two-bit field. -/
def ofField (n : Nat) : Mode :=
  if n % 4 = 0 then user
  else if n % 4 = 1 then supervisor
  else if n % 4 = 2 then hypervisor
  else machine

instance : LE Mode := ⟨fun a b => a.toNat ≤ b.toNat⟩
instance : LT Mode := ⟨fun a b => a.toNat < b.toNat⟩

instance (a b : Mode) : Decidable (a ≤ b) := inferInstanceAs (Decidable (a.toNat ≤ b.toNat))
instance (a b : Mode) : Decidable (a < b) := inferInstanceAs (Decidable (a.toNat < b.toNat))

theorem le_def {a b : Mode} : a ≤ b ↔ a.toNat ≤ b.toNat := Iff.rfl
theorem lt_def {a b : Mode} : a < b ↔ a.toNat < b.toNat := Iff.rfl

theorem not_le {a b : Mode} : ¬ a ≤ b ↔ b < a := Nat.not_le

theorem not_lt {a b : Mode} : ¬ a < b ↔ b ≤ a := Nat.not_lt

@[simp] theorem toNat_lt_four (m : Mode) : m.toNat < 4 := by cases m <;> decide

theorem toNat_inj {a b : Mode} : a.toNat = b.toNat ↔ a = b := by
  cases a <;> cases b <;> decide

@[simp] theorem ofField_toNat (m : Mode) : ofField m.toNat = m := by cases m <;> rfl

@[simp] theorem toNat_ofField (n : Nat) : (ofField n).toNat = n % 4 := by
  unfold ofField
  have := Nat.mod_lt n (by decide : 0 < 4)
  split_ifs <;> simp [toNat] <;> omega

/-- `(modeX>modeY) ? modeX : modeY`: a trap never lowers privilege. -/
def raise (x y : Mode) : Mode := if y < x then x else y

theorem le_raise_left (x y : Mode) : x ≤ raise x y := by
  unfold raise; split <;> simp_all [lt_def, le_def]

theorem le_raise_right (x y : Mode) : y ≤ raise x y := by
  unfold raise; split <;> simp_all [lt_def, le_def]; omega

theorem raise_of_le {x y : Mode} (h : y ≤ x) : raise x y = x := by
  unfold raise
  split
  · rfl
  · exact toNat_inj.mp (by simp_all [lt_def, le_def]; omega)

/-- The one-bit `SPP` field written with a mode keeps the mode's low bit. -/
def toSPP (m : Mode) : Bool := m.toNat % 2 = 1

/-- The mode an `SPP` bit names. -/
def ofSPP (b : Bool) : Mode := if b then supervisor else user

theorem ofSPP_toSPP {m : Mode} (h : m ≤ supervisor) : ofSPP m.toSPP = m := by
  cases m <;> first | rfl | exact absurd h (by decide)

end Mode

/-! ## Banked registers -/

/-- One value per trap bank: the `u`, `s` and `m` copies of a register. -/
structure PerMode (α : Type) where
  u : α
  s : α
  m : α
  deriving DecidableEq, Repr, Inhabited

namespace PerMode

variable {α : Type}

/-- The bank of a mode; the reserved mode selects the machine bank. -/
def get (p : PerMode α) : Mode → α
  | .user => p.u
  | .supervisor => p.s
  | _ => p.m

/-- Replace the bank of a mode. -/
def set (p : PerMode α) (x : Mode) (a : α) : PerMode α :=
  match x with
  | .user => { p with u := a }
  | .supervisor => { p with s := a }
  | _ => { p with m := a }

/-- Update the bank of a mode. -/
def modify (p : PerMode α) (x : Mode) (f : α → α) : PerMode α := p.set x (f (p.get x))

/-- Two modes share a bank when they are equal or both select the machine bank. -/
def Bank (x y : Mode) : Prop := x = y ∨ (x.toNat ≥ 2 ∧ y.toNat ≥ 2)

instance (x y : Mode) : Decidable (Bank x y) := inferInstanceAs (Decidable (_ ∨ _))

@[simp] theorem get_set (p : PerMode α) (x : Mode) (a : α) : (p.set x a).get x = a := by
  cases x <;> rfl

theorem get_set_of_not_bank (p : PerMode α) {x y : Mode} (a : α) (h : ¬ Bank x y) :
    (p.set x a).get y = p.get y := by
  cases x <;> cases y <;> simp_all [Bank, set, get, Mode.toNat]

@[simp] theorem set_get (p : PerMode α) (x : Mode) : p.set x (p.get x) = p := by
  cases x <;> rfl

@[simp] theorem set_set (p : PerMode α) (x : Mode) (a b : α) :
    (p.set x a).set x b = p.set x b := by
  cases x <;> rfl

@[simp] theorem get_modify (p : PerMode α) (x : Mode) (f : α → α) :
    (p.modify x f).get x = f (p.get x) := get_set _ _ _

end PerMode

/-! ## Exception codes -/

/-- `riscvException`: a synchronous exception or an interrupt, by its cause number. -/
inductive Exception where
  | sync (code : Nat)
  | int (id : Nat)
  deriving DecidableEq, Repr

namespace Exception

/-- `isInterrupt`. -/
def isInterrupt : Exception → Bool
  | sync _ => false
  | int _ => true

/-- `getExceptionCode`: the number reported in `xcause.ExceptionCode`. -/
def getExceptionCode : Exception → Nat
  | sync c => c
  | int i => i

/-- `intToException`. -/
def intToException (id : Nat) : Exception := int id

/-! The standard cause numbers of the RISC-V privileged architecture. -/

def InstructionAddressMisaligned : Exception := sync 0
def InstructionAccessFault : Exception := sync 1
def IllegalInstruction : Exception := sync 2
def Breakpoint : Exception := sync 3
def LoadAddressMisaligned : Exception := sync 4
def LoadAccessFault : Exception := sync 5
def StoreAMOAddressMisaligned : Exception := sync 6
def StoreAMOAccessFault : Exception := sync 7
/-- `riscv_E_EnvironmentCallFromUMode + mode`. -/
def EnvironmentCall (m : Mode) : Exception := sync (8 + m.toNat)

def USWInterrupt : Nat := 0
def SSWInterrupt : Nat := 1
def MSWInterrupt : Nat := 3
def UTimerInterrupt : Nat := 4
def STimerInterrupt : Nat := 5
def MTimerInterrupt : Nat := 7
def UExternalInterrupt : Nat := 8
def SExternalInterrupt : Nat := 9
def MExternalInterrupt : Nat := 11
/-- `riscv_E_Local`: local interrupts are numbered from here. -/
def Local : Nat := 16

/-- `riscv_E_CSIP`, the CLIC software interrupt, numbered `12` by the CLIC
specification. -/
def CSIP : Nat := 12


/-- `retiredCode`: ECALL and EBREAK count as retired before privileged version 1.12. -/
def retiredCode (privBefore112 : Bool) : Exception → Bool
  | sync c => (c == 3 || c == 8 || c == 9 || c == 10 || c == 11) && privBefore112
  | int _ => false

/-- `accessFaultCode`. -/
def accessFaultCode : Exception → Bool
  | sync c => c == 1 || c == 5 || c == 7
  | int _ => false

/-- `isExternalInterrupt`: interrupts `8` to `11`. -/
def isExternalInterrupt : Exception → Bool
  | sync _ => false
  | int i => 8 ≤ i && i ≤ 11

end Exception

/-! ## Configuration -/

/-- `debug_mode`. -/
inductive DebugMode where
  | none
  | interrupt
  | vector
  | halt
  deriving DecidableEq, Repr

/-- The halt reasons of `riscvDisableReason`, OR-ed into `riscv->disable`.  The
header that numbers them is not among the sources: each halting reason is a
non-zero mask, the WFI bit is none of the other halting reasons', and the two
restarts that can follow a WFI clear it. -/
structure Reasons where
  WFI : BitVec 32
  RESET : BitVec 32
  DEBUG : BitVec 32
  RESTART_WFI : BitVec 32
  RESTART_NMI : BitVec 32
  RESTART_RESET : BitVec 32
  wfi_ne : WFI ≠ 0
  reset_ne : RESET ≠ 0
  debug_ne : DEBUG ≠ 0
  restart_wfi : WFI &&& ~~~RESTART_WFI = 0
  restart_reset : WFI &&& ~~~RESTART_RESET = 0
  wfi_reset : RESET &&& WFI = 0
  wfi_debug : DEBUG &&& WFI = 0

/-- The `misa` letter bits the trap core tests. -/
def ISA_A : Nat := 2 ^ 0
def ISA_C : Nat := 2 ^ 2
def ISA_N : Nat := 2 ^ 13
def ISA_S : Nat := 2 ^ 18
def ISA_U : Nat := 2 ^ 20

/-- The `exceptions` table: every exception and interrupt the model can name, with
the architecture bits it needs. -/
def Exception.exceptions : List (Exception × Nat) :=
  [(.sync 0, 0), (.sync 1, 0), (.sync 2, 0), (.sync 3, 0), (.sync 4, 0), (.sync 5, 0),
    (.sync 6, 0), (.sync 7, 0), (.sync 8, ISA_U), (.sync 9, ISA_S), (.sync 11, 0),
    (.sync 12, 0), (.sync 13, 0), (.sync 15, 0),
    (.int 0, ISA_N), (.int 1, ISA_S), (.int 3, 0), (.int 4, ISA_N), (.int 5, ISA_S), (.int 7, 0),
    (.int 8, ISA_N), (.int 9, ISA_S), (.int 11, 0),
    (.int Exception.CSIP, 0)]

/-- `riscv->configInfo` and the configuration-derived state the trap core reads.
`CLICINTCTLBITS` is at most `8`, as the `8-CLICINTCTLBITS` shift needs. -/
structure Config where
  arch : Nat
  xret_preserves_lr : Bool
  tval_zero : Bool
  tval_ii_code : Bool
  ecode_nmi : BitVec 64
  reset_address : BitVec 64
  nmi_address : BitVec 64
  debug_address : BitVec 64
  dexc_address : BitVec 64
  debug_mode : DebugMode
  local_int_num : Nat
  external_int_id : Bool
  unimp_int_mask : BitVec 64
  CLICCFGMBITS : Nat
  CLICSELHVEC : Bool
  CLICINTCTLBITS : Nat
  CLICVERSION : Nat
  clicintctlbits_le : CLICINTCTLBITS ≤ 8
  /-- `CLICPresent` and `basicICPresent`. -/
  CLICPresent : Bool
  basicICPresent : Bool
  /-- `riscvGetXlenArch == 64`. -/
  xlen64 : Bool
  /-- `RISCV_PRIV_VERSION<RVPV_1_12` and `RISCV_PRIV_VERSION>RVPV_20190405`. -/
  privBefore112 : Bool
  privAfter20190405 : Bool
  /-- `riscv->MIMode`, `SIMode`, `UIMode`: custom interrupt modes. -/
  IMode : PerMode Nat
  /-- `RD_CSR_MASK` of `uepc`, `sepc`, `mepc`. -/
  epcMask : PerMode (BitVec 64)
  /-- The `MASK_CSR` mask of `vstart`. -/
  vstartMask : Nat
  reasons : Reasons
  /-- `root->numHarts` (`0` outside a cluster). -/
  numHarts : Nat
  /-- The hart is a leaf of a cluster whose root is a separate container. -/
  smp : Bool

namespace Config

variable (cfg : Config)

/-- `riscvHasMode`. -/
def riscvHasMode : Mode → Bool
  | .machine => true
  | .supervisor => cfg.arch &&& ISA_S != 0
  | .user => cfg.arch &&& ISA_U != 0
  | .hypervisor => false

/-- Modelled from the spec: `riscvGetMinMode`, the lowest implemented mode. -/
def riscvGetMinMode : Mode :=
  if cfg.arch &&& ISA_U != 0 then .user
  else if cfg.arch &&& ISA_S != 0 then .supervisor
  else .machine

/-- `getIntNum`: the number of interrupts, standard ones included. -/
def getIntNum : Nat := cfg.local_int_num + Exception.Local

/-- `ipDWords`: 64-bit words holding one bit per interrupt. -/
def ipDWords : Nat := (cfg.getIntNum + 63) / 64

/-- `getNumHarts`. -/
def getNumHarts : Nat := if cfg.numHarts = 0 then 1 else cfg.numHarts

/-- `getCLICIntCtl1Bits`: the always-one low bits of `clicintctl`. -/
def getCLICIntCtl1Bits : BitVec 8 := BitVec.ofNat 8 (2 ^ (8 - cfg.CLICINTCTLBITS) - 1)

/-- `getLocalIntNum` of a leaf hart, the only kind the model has: its
`local_int_num` (a container has none). -/
def getLocalIntNum : Nat := cfg.local_int_num

/-- `riscvGetLocalIntMask`: one bit per local interrupt, at most `48`, from bit `16`. -/
def riscvGetLocalIntMask : BitVec 64 :=
  let localIntNum := cfg.getLocalIntNum
  let localShift := if localIntNum < 48 then localIntNum else 48
  BitVec.ofNat 64 (2 ^ localShift - 1) <<< Exception.Local

/-- The loop of `riscvSetExceptionMask`: the exceptions and the standard interrupts
of the table that the architecture implements (`CSIP` never). -/
def exceptionMasks : BitVec 64 × BitVec 64 :=
  Exception.exceptions.foldl (fun (em, im) (code, arch) =>
    if code = .int Exception.CSIP then (em, im)
    else if cfg.arch &&& arch ≠ arch then (em, im)
    else match code with
      | .sync c => (em ||| 1#64 <<< c, im)
      | .int i => (em, im ||| 1#64 <<< i)) (0, 0)

/-- `riscv->exceptionMask`. -/
def exceptionMask : BitVec 64 := cfg.exceptionMasks.1

/-- `riscv->interruptMask`: the local interrupts added, the absent ones removed. -/
def interruptMask : BitVec 64 :=
  (cfg.exceptionMasks.2 ||| cfg.riscvGetLocalIntMask) &&& ~~~cfg.unimp_int_mask

/-- `hasException`: `CSIP` exactly when the CLIC is present.  The source returns the
masked bit as a `Bool`, whose typedef is not among the sources; the model reads it
as C's `_Bool`, any non-zero value true.  A narrower integer type would keep only
the low byte of the mask and lose every code from `8` on. -/
def hasException : Exception → Bool
  | .sync c => cfg.exceptionMask.getLsbD c
  | .int i => if i = Exception.CSIP then cfg.CLICPresent else cfg.interruptMask.getLsbD i

/-- `getERETMode`: an unimplemented return mode becomes the minimum mode. -/
def getERETMode (newMode : Mode) : Mode :=
  if cfg.riscvHasMode newMode then newMode else cfg.riscvGetMinMode

theorem riscvHasMode_minMode : cfg.riscvHasMode cfg.riscvGetMinMode = true := by
  unfold riscvGetMinMode
  split
  · simp_all [riscvHasMode]
  · split <;> simp_all [riscvHasMode]

theorem getERETMode_of_has {m : Mode} (h : cfg.riscvHasMode m = true) :
    cfg.getERETMode m = m := by
  simp [getERETMode, h]

theorem riscvGetMinMode_ne_hypervisor : cfg.riscvGetMinMode ≠ .hypervisor := by
  unfold riscvGetMinMode; split <;> [skip; split] <;> simp

end Config

/-! ## A configuration to run the model on -/

/-- One bit per halt reason; a WFI or NMI restart clears the WFI reason, a reset
restart the WFI and reset reasons. -/
def Reasons.oneHot : Reasons where
  WFI := 1
  RESET := 2
  DEBUG := 4
  RESTART_WFI := 1
  RESTART_NMI := 1
  RESTART_RESET := 3
  wfi_ne := by decide
  reset_ne := by decide
  debug_ne := by decide
  restart_wfi := by decide
  restart_reset := by decide
  wfi_reset := by decide
  wfi_debug := by decide

/-- A single RV64 hart with User and Supervisor modes and compressed
instructions, at priv 1.12, with a CLIC (eight `clicintctl` bits, sixteen local
interrupts) when `clic` holds and the basic interrupt controller otherwise. -/
def Config.rv64 (clic : Bool) : Config where
  arch := ISA_C ||| ISA_S ||| ISA_U
  xret_preserves_lr := false
  tval_zero := false
  tval_ii_code := true
  ecode_nmi := 0
  reset_address := 0x1000
  nmi_address := 0x2000
  debug_address := 0x800
  dexc_address := 0x808
  debug_mode := .halt
  local_int_num := if clic then 16 else 0
  external_int_id := false
  unimp_int_mask := 0
  CLICCFGMBITS := 2
  CLICSELHVEC := true
  CLICINTCTLBITS := 8
  CLICVERSION := 0
  clicintctlbits_le := le_refl 8
  CLICPresent := clic
  basicICPresent := !clic
  xlen64 := true
  privBefore112 := false
  privAfter20190405 := true
  IMode := ⟨0, 0, 0⟩
  epcMask := ⟨~~~1, ~~~1, ~~~1⟩
  vstartMask := 0
  reasons := Reasons.oneHot
  numHarts := 0
  smp := false

end RiscvTrap
