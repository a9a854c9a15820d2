import RiscvTrap.Basic

/-!
# Hart state

The architectural and simulator state `riscvExceptions.c` reads and writes for one
hart, and the shared CLIC configuration of its cluster.

* `Csrs`: the CSR fields the trap core touches, with the field widths of the
  RISC-V privileged and CLIC specifications (`ExceptionCode` twelve bits, `pil`,
  `xil` and `th` eight bits).  Only the fields a modelled function uses are kept.
* `ClicIntState`: the four bytes `{ip, ie, attr, ctl}` of one CLIC interrupt.
* `Cliccfg`: the one-byte `cliccfg`, whose `nlbits` never exceeds `8` (the only
  writer, `cliccfgW`, clamps it).
* `Hart`: everything else the file keeps on `riscv`, and the effects it has on the
  simulator (halting, the trap observers).
* `Host`: the collaborators outside the file (CSR reset, fetch validation,
  instruction decode, the data-domain read of the CLIC vector table).
-/

namespace RiscvTrap

/-! ## CSR fields -/

/-- `mstatus`: the interrupt-enable stack, `SPP`, `MPP` and `MPRV`. -/
structure Mstatus where
  /-- `UIE`, `SIE`, `MIE`. -/
  IE : PerMode Bool
  /-- `UPIE`, `SPIE`, `MPIE`. -/
  PIE : PerMode Bool
  /-- `SPP`, one bit. -/
  SPP : Bool
  /-- `MPP`, two bits. -/
  MPP : Mode
  MPRV : Bool
  deriving DecidableEq, Repr, Inhabited

/-- `ucause`, `scause`, `mcause`. -/
structure Cause where
  ExceptionCode : BitVec 12
  Interrupt : Bool
  pil : BitVec 8
  inhv : Bool
  deriving DecidableEq, Repr, Inhabited

/-- Modelled from the spec: the field layout of a whole `xcause` value, for the two
full-register writes the file makes (`WR_CSR(xcause, v)`).  The exception code is
the low twelve bits, `pil` bits `16` to `23`, `inhv` bit `30`, and `Interrupt` the
top bit. -/
def Cause.ofRaw (xlen64 : Bool) (v : BitVec 64) : Cause where
  ExceptionCode := v.setWidth 12
  Interrupt := v.getLsbD (if xlen64 then 63 else 31)
  pil := (v >>> 16).setWidth 8
  inhv := v.getLsbD 30

/-- `utvec`, `stvec`, `mtvec`. -/
structure Tvec where
  BASE : BitVec 64
  MODE : BitVec 2
  deriving DecidableEq, Repr, Inhabited

/-- `dmCause`. -/
inductive DmCause where
  | none
  | ebreak
  | haltreq
  | step
  | resethaltreq
  deriving DecidableEq, Repr, Inhabited

/-- `dcsr`. -/
structure Dcsr where
  prv : Mode
  cause : DmCause
  step : Bool
  ebreaku : Bool
  ebreaks : Bool
  ebreakm : Bool
  stopcount : Bool
  nmip : Bool
  deriving DecidableEq, Repr, Inhabited

/-- The CSR fields the trap core reads or writes. -/
structure Csrs where
  mstatus : Mstatus
  cause : PerMode Cause
  epc : PerMode (BitVec 64)
  tval : PerMode (BitVec 64)
  tvec : PerMode Tvec
  tvt : PerMode (BitVec 64)
  /-- `xintthresh.th`. -/
  intthresh : PerMode (BitVec 8)
  /-- `mintstatus.uil`, `sil`, `mil`. -/
  mintstatus : PerMode (BitVec 8)
  mideleg : BitVec 64
  sideleg : BitVec 64
  medeleg : BitVec 64
  sedeleg : BitVec 64
  mip : BitVec 64
  mie : BitVec 64
  dcsr : Dcsr
  dpc : BitVec 64
  vstart : Nat
  /-- `mcountinhibit.IR` and `mcountinhibit.CY`. -/
  inhibitIR : Bool
  inhibitCY : Bool
  deriving DecidableEq, Repr, Inhabited

/-! ## CLIC state -/

/-- `riscvCLICIntState`: the four bytes of one interrupt, in field order. -/
structure ClicIntState where
  ip : BitVec 8
  ie : BitVec 8
  attr : BitVec 8
  ctl : BitVec 8
  deriving DecidableEq, Repr

namespace ClicIntState

/-- `fields[type]`. -/
def field (st : ClicIntState) : Nat → BitVec 8
  | 0 => st.ip
  | 1 => st.ie
  | 2 => st.attr
  | _ => st.ctl

/-- Replace `fields[type]`. -/
def setField (st : ClicIntState) (type : Nat) (v : BitVec 8) : ClicIntState :=
  match type with
  | 0 => { st with ip := v }
  | 1 => { st with ie := v }
  | 2 => { st with attr := v }
  | _ => { st with ctl := v }

@[simp] theorem field_setField (st : ClicIntState) (type : Nat) (v : BitVec 8) :
    (st.setField type v).field type = v := by
  unfold setField field; split <;> simp_all

/-- `value32`: the little-endian word the union overlays on the four bytes. -/
def value32 (st : ClicIntState) : BitVec 32 :=
  st.ip.setWidth 32 ||| (st.ie.setWidth 32 <<< 8) ||| (st.attr.setWidth 32 <<< 16) |||
    (st.ctl.setWidth 32 <<< 24)

end ClicIntState

/-- `clicintattr.fields.shv`, bit `0`. -/
def attrShv (attr : BitVec 8) : Bool := attr.getLsbD 0

/-- `clicintattr.fields.trig`, bits `1` and `2`. -/
def attrTrig (attr : BitVec 8) : Nat := (attr.toNat >>> 1) % 4

/-- `clicintattr.fields.mode`, bits `6` and `7`. -/
def attrMode (attr : BitVec 8) : Nat := attr.toNat >>> 6

/-- `cliccfg`: `nvbits` bit `0`, `nlbits` bits `1` to `4`, `nmbits` bits `5` and `6`. -/
structure Cliccfg where
  nvbits : Bool
  nlbits : Nat
  nmbits : Nat
  nlbits_le : nlbits ≤ 8
  nmbits_lt : nmbits < 4

namespace Cliccfg

/-- `cliccfg.bits`. -/
def bits (c : Cliccfg) : BitVec 8 :=
  BitVec.ofNat 8 ((if c.nvbits then 1 else 0) + c.nlbits * 2 + c.nmbits * 32)

/-- The reset value: only the read-only `nvbits` is set (`riscvNewCLIC`). -/
def initial (nvbits : Bool) : Cliccfg := ⟨nvbits, 0, 0, Nat.zero_le _, by decide⟩

end Cliccfg

/-- `riscv->clic.sel`: the CLIC's selected interrupt. -/
structure ClicSel where
  /-- `none` is `RV_NO_INT`. -/
  id : Option Nat
  priv : Mode
  level : BitVec 8
  shv : Bool
  deriving DecidableEq, Repr

/-- `riscv->pendEnab`: the interrupt the fetch gate will take. -/
structure PendEnab where
  /-- `none` is `RV_NO_INT`. -/
  id : Option Nat
  priv : Mode
  level : BitVec 8
  isCLIC : Bool
  deriving DecidableEq, Repr

/-- `riscvPendEnab` as `refreshPendingAndEnabled` resets it. -/
def PendEnab.none : PendEnab := ⟨Option.none, .user, 0, false⟩

/-- `riscv->netValue`: latched net inputs. -/
structure NetValue where
  reset : Bool
  nmi : Bool
  haltreq : Bool
  resethaltreq : Bool
  resethaltreqS : Bool
  deferint : Bool
  deriving DecidableEq, Repr

/-- `riscvAccessFault`. -/
inductive AFault where
  | none
  | device
  deriving DecidableEq, Repr

/-- Calls the file makes into the simulator and to derived-model observers, other
than trap entry, in the order made. -/
inductive Effect where
  | halt
  | restartNext
  | haltRestart
  | eret (m : Mode)
  | reset
  | doSynchronousInterrupt
  | abortRepeat
  | interrupt
  | setModelTimer
  /-- `VMI_ABORT`: the simulation stops with an error. -/
  | abort
  deriving DecidableEq, Repr

/-! ## The hart -/

/-- One hart, as `riscvExceptions.c` sees it. -/
structure Hart where
  mode : Mode
  DM : Bool
  pc : BitVec 64
  /-- `vmirtGetPCDS` reports a non-zero offset (an instruction-table detour). -/
  dsOffset : Bool
  jumpBase : BitVec 64
  csr : Csrs
  /-- `riscv->currentArch & ISA_C`. -/
  compressed : Bool
  /-- `riscv->exclusiveTag`; `none` is `RISCV_NO_TAG`. -/
  exclusiveTag : Option Nat
  AFErrorIn : AFault
  AFErrorOut : AFault
  baseInstructions : Nat
  baseCycles : Nat
  vFirstFault : Bool
  vl : Nat
  /-- `riscv->extInt[offset]`, offsets `0` to `3` by mode. -/
  extInt : Mode → Nat
  pendEnab : PendEnab
  netValue : NetValue
  disable : BitVec 32
  /-- The simulator's halted state (`vmirtHalt`, `vmirtRestartNext`). -/
  halted : Bool
  DMStall : Bool
  exception : Exception
  /-- `riscv->ip[]`, indexed by word. -/
  ip : Nat → BitVec 64
  swip : BitVec 64
  /-- `riscv->clic.intState[]`. -/
  intState : Nat → ClicIntState
  /-- `riscv->clic.ipe[]`, indexed by word. -/
  ipe : Nat → BitVec 64
  sel : ClicSel
  /-- `riscv->clic.cliccfg` of the hart's own structure; in a cluster only
  `resetCLIC` writes it, everyone reads the root's. -/
  ownCliccfg : Cliccfg
  inSaveRestore : Bool
  /-- The modes the trap observers were called with, latest first. -/
  traps : List Mode
  /-- Every other outside call, latest first. -/
  effects : List Effect

/-! ## Collaborators -/

/-- What instruction-fetch validation finds at an address: executable, a
translation miss the VM module handles by raising `exc`, a miss that maps the page
(after which it may or may not be executable). -/
inductive FetchProbe where
  | executable
  | vmFault (exc : Exception) (tval : BitVec 64)
  | mapped (executable : Bool)
  deriving DecidableEq, Repr

/-- The outcome of a data-domain read: the value returned, and the synchronous load
exception (code and trap value) the memory system raises through
`riscvTakeMemoryException`, if any. -/
structure ReadResult where
  value : BitVec 64
  fault : Option (Nat × BitVec 64)
  deriving DecidableEq, Repr

/-- The collaborators of the trap core that live outside `riscvExceptions.c`. -/
structure Host where
  /-- `riscvCSRReset`. -/
  csrReset : Csrs → Csrs
  /-- `vmirtIsExecutable` and `riscvVMMiss` at a fetch address. -/
  fetchProbe : BitVec 64 → FetchProbe
  /-- `riscvGetInstructionSize`. -/
  instrSize : BitVec 64 → Nat
  /-- `riscvGetInstruction`. -/
  instrAt : BitVec 64 → BitVec 64
  /-- `vmirtRead4ByteDomain`/`vmirtRead8ByteDomain` in the data domain of a mode,
  of `ptrBytes` bytes at an address. -/
  read : Mode → BitVec 64 → Nat → ReadResult

/-- Collaborators that reset no CSR, fetch from flat executable memory of
four-byte instructions, and read zeros. -/
def Host.flat : Host where
  csrReset := id
  fetchProbe := fun _ => .executable
  instrSize := fun _ => 4
  instrAt := fun _ => 0
  read := fun _ _ _ => ⟨0, none⟩

/-- `clicintattr = {mode: RISCV_MODE_MACHINE}`, the attribute `riscvNewCLIC` gives
every interrupt. -/
def attrMachine : BitVec 8 := 0xC0#8

/-- A hart as it is created and reset, with the CSRs `riscvCSRReset` makes of
`csr₀`: in Machine mode at the reset address, nothing pending, halted or
selected, and every CLIC interrupt in Machine mode with the always-one bits of
`clicintctl` set (`riscvNewCLIC`).  `riscvNewCLIC` sets `nvbits` in the root's
`cliccfg` only, so the hart's own copy starts at zero; only an SMP leaf reads it
(`resetCLIC`), a single hart's own structure being the root's. -/
def Hart.new (cfg : Config) (host : Host) (csr₀ : Csrs) : Hart where
  mode := .machine
  DM := false
  pc := cfg.reset_address
  dsOffset := false
  jumpBase := 0
  csr := host.csrReset csr₀
  compressed := cfg.arch &&& ISA_C ≠ 0
  exclusiveTag := none
  AFErrorIn := .none
  AFErrorOut := .none
  baseInstructions := 0
  baseCycles := 0
  vFirstFault := false
  vl := 0
  extInt := fun _ => 0
  pendEnab := PendEnab.none
  netValue := ⟨false, false, false, false, false, false⟩
  disable := 0
  halted := false
  DMStall := false
  exception := .sync 0
  ip := fun _ => 0
  swip := 0
  intState := fun _ => ⟨0, 0, attrMachine, cfg.getCLICIntCtl1Bits⟩
  ipe := fun _ => 0
  sel := ⟨none, .user, 0, false⟩
  ownCliccfg := Cliccfg.initial false
  inSaveRestore := false
  traps := []
  effects := []

end RiscvTrap
