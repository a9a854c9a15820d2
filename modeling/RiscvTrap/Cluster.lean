import RiscvTrap.Fetch

/-!
# The cluster

Harts that share one CLIC: the root's `cliccfg` and the harts by index.  This is
where the file reaches across harts: the CLIC memory window (`readCLICInt`,
`writeCLICInt`, which decode an offset to a hart, an interrupt and a field),
`cliccfgW` and the reset (both refresh every hart), and the state restore.

The system is `step`: one event at a time, an instruction of a running hart, a
debugger call, an input net or a window access, from a freshly reset cluster
(`Reachable`).
-/

namespace RiscvTrap

/-- A cluster: the root's `cliccfg` and its harts, indexed from `0`. -/
structure Cluster where
  cliccfg : Cliccfg
  harts : Nat → Hart

/-- What `riscvNetSave` saves of a hart: the wires, the latched nets, the root's
`cliccfg` and the CLIC interrupt state. -/
structure NetSnapshot where
  ip : Nat → BitVec 64
  netValue : NetValue
  cliccfg : Cliccfg
  intState : Nat → ClicIntState

/-! ### Decoding a window offset -/

/-- `getCLICPage`. -/
def getCLICPage (offset : Nat) : Nat := offset / 4096

/-- `getCLICPageWord`. -/
def getCLICPageWord (offset : Nat) : Nat := (offset % 4096) / 4

/-- `getCLICIntIndex`. -/
def getCLICIntIndex (offset : Nat) : Nat := ((offset - 4096) / 4) % 4096

/-- `getCLICWordByte`, also `getCLICIntFieldType`. -/
def getCLICWordByte (offset : Nat) : Nat := offset % 4

/-- `get4kIntPage`: the interrupt page (four 4 KiB pages) of a page. -/
def get4kIntPage (page : Nat) : Nat := (page - 1) / 4

namespace Config

variable (cfg : Config)

/-- `getCLICPageType`: `0` (`CPT_C`) for the control page, then `1`, `2`, `3`
(`CPT_M`, `CPT_S`, `CPT_U`), each a block of one interrupt page per hart. -/
def getCLICPageType (offset : Nat) : Nat :=
  let page := getCLICPage offset
  if page ≠ 0 then 1 + get4kIntPage page / cfg.getNumHarts else 0

/-- `getCLICPageMode`.  A type past `CPT_U` is excluded by the assertion in
`getCLICPageType`, and the control page by the one here. -/
def getCLICPageMode (offset : Nat) : Mode :=
  match cfg.getCLICPageType offset with
  | 2 => .supervisor
  | 3 => .user
  | _ => .machine

/-- `getCLICHartIndex` of an interrupt page. -/
def getCLICHartIndex (offset : Nat) : Nat := get4kIntPage (getCLICPage offset) % cfg.getNumHarts

/-- `riscvMapCLICDomain`: the bytes mapped from `mclicbase`, the control page and
four 4 KiB pages for each page type of each hart, counted in `Uns32`. -/
def riscvMapCLICDomain : Nat :=
  let numPages := (1 + (cfg.getNumHarts * 3) * 4) % 2 ^ 32
  numPages * 4096 % 2 ^ 32

/-- The value `cliccfgW` keeps: the reserved bit clear, `nmbits` and `nlbits`
clamped, `nvbits` read-only. -/
def cliccfgValue (newValue : BitVec 8) : Cliccfg where
  nvbits := cfg.CLICSELHVEC
  nlbits := min ((newValue.toNat >>> 1) % 16) 8
  nmbits := min ((newValue.toNat >>> 5) % 4) cfg.CLICCFGMBITS
  nlbits_le := Nat.min_le_right _ _
  nmbits_lt := lt_of_le_of_lt (Nat.min_le_left _ _) (Nat.mod_lt _ (by decide))

end Config

namespace Cluster

variable (cfg : Config) (host : Host) (cl : Cluster)

/-- A cluster out of reset. -/
def new (csr₀ : Csrs) : Cluster :=
  ⟨Cliccfg.initial cfg.CLICSELHVEC, fun _ => Hart.new cfg host csr₀⟩

/-- Apply `f` to hart `k`. -/
def mapHart (k : Nat) (f : Hart → Hart) : Cluster :=
  { cl with harts := Function.update cl.harts k (f (cl.harts k)) }

theorem harts_mapHart {k : Nat} (j : Nat) (f : Hart → Hart) :
    (cl.mapHart j f).harts k = if k = j then f (cl.harts k) else cl.harts k := by
  by_cases hk : k = j
  · subst hk; simp [mapHart]
  · simp [mapHart, Function.update_noteq hk, hk]

/-- `refreshCCLICInterruptAll`: every hart tests for interrupts. -/
def refreshCCLICInterruptAll : Cluster :=
  { cl with harts := fun j =>
      if j < cfg.getNumHarts then (cl.harts j).riscvTestInterrupt cfg cl.cliccfg else cl.harts j }

/-- `cliccfgW` at the root. -/
def cliccfgW (newValue : BitVec 8) : Cluster :=
  let c := cfg.cliccfgValue newValue
  if cl.cliccfg.bits ≠ c.bits then refreshCCLICInterruptAll cfg { cl with cliccfg := c } else cl

/-- `resetCLIC` of hart `k`: `cliccfgW` of the hart's own structure, which is the
root unless the hart is a leaf of a cluster; either way every hart is refreshed
on a change. -/
def resetCLIC (k : Nat) : Cluster :=
  if !cfg.CLICPresent then cl
  else if cfg.smp then
    let c := cfg.cliccfgValue 0
    if (cl.harts k).ownCliccfg.bits ≠ c.bits then
      refreshCCLICInterruptAll cfg (cl.mapHart k fun h => { h with ownCliccfg := c })
    else cl
  else cl.cliccfgW cfg 0

/-- `riscvReset` of hart `k`: restart, leave Debug mode, Machine mode, the CSRs and
the CLIC configuration reset, the derived model told, and a jump to the reset
address. -/
def riscvReset (k : Nat) : Cluster :=
  let cc := cl.cliccfg
  let cl := cl.mapHart k fun h =>
    let h := h.restartProcessor cfg.reasons.RESTART_RESET
    let h := h.riscvSetDM cfg cc false
    let h := h.setMode .machine
    h.setCsr (host.csrReset h.csr)
  let cl := cl.resetCLIC cfg k
  cl.mapHart k fun h =>
    let h := h.emit .reset
    let h := { h with exception := .sync 0 }
    let h := h.setPC cfg.reset_address
    { h with netValue := { h.netValue with resethaltreqS := h.netValue.resethaltreq } }

/-- `resetPortCB`: halt while the net is high, reset when it falls. -/
def resetPortCB (k : Nat) (newValue : Bool) : Cluster :=
  let old := (cl.harts k).netValue.reset
  let cl :=
    if posedge old newValue then cl.mapHart k (·.haltProcessor cfg.reasons.RESET)
    else if negedge old newValue then cl.riscvReset cfg host k
    else cl
  cl.mapHart k fun h => { h with netValue := { h.netValue with reset := newValue } }

/-! ### The memory window -/

/-- `accessCLICInterrupt`: the interrupt is implemented on the page's hart, and its
mode is at most the page's. -/
def accessCLICInterrupt (offset : Nat) : Bool :=
  let hart := cl.harts (cfg.getCLICHartIndex offset)
  let intIndex := getCLICIntIndex offset
  if intIndex < Exception.Local && !cfg.hasException (.int intIndex) then false
  else if intIndex < cfg.getIntNum then
    hart.getCLICInterruptMode cfg cl.cliccfg intIndex ≤ cfg.getCLICPageMode offset
  else false

/-- `readCLICInterrupt`: the interrupt's word, or zero where it is not visible. -/
def readCLICInterrupt (offset : Nat) : BitVec 32 :=
  if cl.accessCLICInterrupt cfg offset then
    (cl.harts (cfg.getCLICHartIndex offset)).intState (getCLICIntIndex offset) |>.value32
  else 0

/-- `writeCLICInterrupt`: the field write of a visible interrupt. -/
def writeCLICInterrupt (offset : Nat) (newValue : BitVec 8) : Cluster :=
  if cl.accessCLICInterrupt cfg offset then
    let intIndex := getCLICIntIndex offset
    let pageMode := cfg.getCLICPageMode offset
    cl.mapHart (cfg.getCLICHartIndex offset) fun h =>
      match getCLICWordByte offset with
      | 0 => h.writeCLICInterruptPending cfg cl.cliccfg intIndex newValue
      | 1 => h.writeCLICInterruptEnable cfg cl.cliccfg intIndex newValue
      | 2 => h.writeCLICInterruptAttr cfg cl.cliccfg intIndex newValue pageMode
      | _ => h.writeCLICInterruptCtl cfg cl.cliccfg intIndex newValue
  else cl

theorem getCLICPageMode_ne_hypervisor (offset : Nat) : cfg.getCLICPageMode offset ≠ .hypervisor := by
  unfold Config.getCLICPageMode; split <;> simp

/-- An interrupt the window admits is implemented. -/
theorem lt_of_accessCLICInterrupt {offset : Nat} (ha : cl.accessCLICInterrupt cfg offset = true) :
    getCLICIntIndex offset < cfg.getIntNum := by
  dsimp only [accessCLICInterrupt] at ha
  split_ifs at ha with h1 h2
  exact h2

/-- Modelled from the spec: `clicinfo`, `num_interrupt` in bits `0` to `12`,
`version` from bit `13`, `CLICINTCTLBITS` from bit `21`. -/
def clicinfo : BitVec 32 :=
  BitVec.ofNat 32 (cfg.getIntNum + cfg.CLICVERSION * 2 ^ 13 + cfg.CLICINTCTLBITS * 2 ^ 21)

/-- `readCLICInt`: one byte of an interrupt word, of `cliccfg` or of `clicinfo`. -/
def readCLICInt (offset : Nat) : BitVec 8 :=
  let word := getCLICPageWord offset
  let byte := getCLICWordByte offset
  let result : BitVec 32 :=
    if getCLICPage offset ≠ 0 then cl.readCLICInterrupt cfg offset
    else if word = 0 then cl.cliccfg.bits.setWidth 32
    else if word = 1 then clicinfo cfg
    else 0
  (result >>> (byte * 8)).setWidth 8

/-- `writeCLICInt`: an interrupt field, or `cliccfg` at offset `0`. -/
def writeCLICInt (offset : Nat) (newValue : BitVec 8) : Cluster :=
  if getCLICPage offset ≠ 0 then cl.writeCLICInterrupt cfg offset newValue
  else if offset = 0 then cl.cliccfgW cfg newValue
  else cl

/-! ### Save and restore -/

/-- `riscvNetSave` of hart `k`. -/
def riscvNetSave (k : Nat) : NetSnapshot :=
  ⟨(cl.harts k).ip, (cl.harts k).netValue, cl.cliccfg, (cl.harts k).intState⟩

/-- `riscvNetRestore` of hart `k`: the saved wires and nets, and with a CLIC the
root's `cliccfg` and the interrupt state, after which `ipe` is rebuilt and the
hart tests for interrupts. -/
def riscvNetRestore (k : Nat) (s : NetSnapshot) : Cluster :=
  let cl := if cfg.CLICPresent then { cl with cliccfg := s.cliccfg } else cl
  let cc := cl.cliccfg
  cl.mapHart k fun h =>
    let h := { h with
      ip := fun w => if w < cfg.ipDWords then s.ip w else h.ip w
      netValue := s.netValue }
    let h := if cfg.CLICPresent then
        ({ h with intState := fun i => if i < cfg.getIntNum then s.intState i else h.intState i }
          : Hart).refreshCLICIPE cfg
      else h
    h.riscvTestInterrupt cfg cc

end Cluster

/-! ### Events -/

/-- One thing that can happen to a cluster: an instruction or a timer of hart `k`,
a debugger call on it, an edge on one of its input nets, a CSR write followed by an
interrupt test, a byte written to the CLIC window, or a restore of hart `k`. -/
inductive Event where
  | takeException (k : Nat) (e : Exception) (tval : BitVec 64)
  | takeMemoryException (k : Nat) (e : Exception) (tval : BitVec 64)
  | illegalInstruction (k : Nat)
  | instructionAddressMisaligned (k : Nat) (tval : BitVec 64)
  | ecall (k : Nat)
  | ebreak (k : Nat)
  | mret (k : Nat)
  | sret (k : Nat)
  | uret (k : Nat)
  | dret (k : Nat)
  | wfi (k : Nat)
  | fetch (k : Nat)
  | stepTimer (k : Nat)
  | setDM (k : Nat) (DM : Bool)
  | setDMStall (k : Nat) (DMStall : Bool)
  | csrWrite (k : Nat) (c : Csrs)
  | reset (k : Nat) (v : Bool)
  | nmi (k : Nat) (v : Bool)
  | haltreq (k : Nat) (v : Bool)
  | resethaltreq (k : Nat) (v : Bool)
  | SCValid (k : Nat) (v : Bool)
  | interrupt (k index : Nat) (v : Bool)
  | interruptID (k offset id : Nat)
  | deferint (k : Nat) (v : Bool)
  | clicWrite (offset : Nat) (v : BitVec 8)

namespace Event

/-- Whether an event is an instruction or an instruction-count timer, which only
a running hart sees. -/
def isInstruction : Event → Bool
  | takeException .. | takeMemoryException .. | illegalInstruction _
  | instructionAddressMisaligned .. | ecall _ | ebreak _ | mret _ | sret _ | uret _ | dret _
  | wfi _ | fetch _ | stepTimer _ => true
  | _ => false

/-- The hart an event is about (the window's decoded hart for a window write). -/
def hart (cfg : Config) : Event → Nat
  | takeException k .. | takeMemoryException k .. | illegalInstruction k
  | instructionAddressMisaligned k .. | ecall k | ebreak k | mret k | sret k | uret k | dret k
  | wfi k | fetch k | stepTimer k | setDM k _ | setDMStall k _ | csrWrite k _ | reset k _
  | nmi k _ | haltreq k _ | resethaltreq k _ | SCValid k _ | interrupt k .. | interruptID k ..
  | deferint k _ => k
  | clicWrite offset _ => cfg.getCLICHartIndex offset

end Event

namespace Cluster

variable (cfg : Config) (host : Host)

/-- What an event does to the hart it names, for the events that stay on one hart. -/
def hartStep (cc : Cliccfg) : Event → Hart → Hart
  | .takeException _ e tval, h => h.riscvTakeException cfg cc host e tval
  | .takeMemoryException _ e tval, h => h.riscvTakeMemoryException cfg cc host e tval
  | .illegalInstruction _, h => h.riscvIllegalInstruction cfg cc host
  | .instructionAddressMisaligned _ tval, h => h.riscvInstructionAddressMisaligned cfg cc host tval
  | .ecall _, h => h.riscvECALL cfg cc host
  | .ebreak _, h => h.riscvEBREAK cfg cc host
  | .mret _, h => h.riscvMRET cfg cc
  | .sret _, h => h.riscvSRET cfg cc
  | .uret _, h => h.riscvURET cfg cc
  | .dret _, h => h.riscvDRET cfg cc host
  | .wfi _, h => h.riscvWFI cfg
  | .fetch _, h => (h.riscvIFetchExcept cfg cc host).2
  | .stepTimer _, h => h.riscvStepExcept cfg
  | .setDM _ DM, h => h.riscvSetDM cfg cc DM
  | .setDMStall _ DMStall, h => h.riscvSetDMStall cfg DMStall
  | .csrWrite _ c, h => (h.setCsr c).riscvTestInterrupt cfg cc
  | .nmi _ v, h => h.nmiPortCB cfg v
  | .haltreq _ v, h => h.haltreqPortCB v
  | .resethaltreq _ v, h => h.resethaltreqPortCB v
  | .SCValid _ v, h => h.SCValidPortCB v
  | .interrupt _ index v, h => h.interruptPortCB cfg cc index v
  | .interruptID _ offset id, h => h.interruptIDPortCB offset id
  | .deferint _ v, h => h.deferintPortCB v
  | .reset .., h => h
  | .clicWrite .., h => h

/-- One event. -/
def step : Event → Cluster → Cluster
  | .reset k v, cl => cl.resetPortCB cfg host k v
  | .clicWrite offset v, cl => cl.writeCLICInt cfg offset v
  | ev, cl => cl.mapHart (ev.hart cfg) (hartStep cfg host cl.cliccfg ev)

/-- An event can happen: its hart exists, and an instruction needs it running. -/
def Enabled (cl : Cluster) (ev : Event) : Prop :=
  ev.hart cfg < cfg.getNumHarts ∧ (ev.isInstruction → (cl.harts (ev.hart cfg)).halted = false)

/-- The states a cluster reaches from reset, by events and by restoring a hart
from a state saved in another run. -/
inductive Reachable : Cluster → Prop
  | new (csr₀ : Csrs) : Reachable (new cfg host csr₀)
  | step {cl : Cluster} {ev : Event} : Reachable cl → Enabled cfg cl ev →
      Reachable (step cfg host ev cl)
  | restore {cl cl' : Cluster} {k : Nat} : Reachable cl → Reachable cl' → k < cfg.getNumHarts →
      Reachable (cl.riscvNetRestore cfg k (cl'.riscvNetSave k))

end Cluster

end RiscvTrap
