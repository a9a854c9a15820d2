import RiscvTrap.Window
import RiscvTrap.Layout

/-!
# The CLIC's bus callbacks

The simulator reaches the CLIC only through the two callbacks that
`riscvMapCLICDomain` installs over the window, `readCLIC` and `writeCLIC`.  An
access of any width is a loop over its bytes: byte `i` goes to `readCLICInt` or
`writeCLICInt` at the offset `address+i-lowAddr`, where `lowAddr` is `getCLICLow`,
the configured `mclicbase`.  That is a CSR setting the model's configuration does
not hold, so the callbacks take it as an argument and every result holds for every
base.

* `writeCLIC_isolated`: an access whose bytes all fall in interrupt pages of mode
  `P` of one hart changes only what a byte write through such a page may change
  (`Confined`), and reads only what the interrupts at most `P` hold.
-/

namespace RiscvTrap

namespace Config

theorem getCLICHartIndex_lt (cfg : Config) (offset : Nat) : cfg.getCLICHartIndex offset < cfg.getNumHarts :=
  Nat.mod_lt _ cfg.one_le_getNumHarts

end Config

namespace Cluster

open Hart

variable (cfg : Config)

/-- The window offset of byte `i` of an access at `address`: `address+i-lowAddr`,
computed in `Uns64` and passed on as the `Uns32` offset. -/
def clicOffset (lowAddr address : BitVec 64) (i : Nat) : Nat :=
  ((address + BitVec.ofNat 64 i - lowAddr).setWidth 32).toNat

/-- The loop of `writeCLIC`, from byte `i` of the access on. -/
def writeCLICFrom (lowAddr address : BitVec 64) : Nat → List (BitVec 8) → Cluster → Cluster
  | _, [], cl => cl
  | i, v :: vs, cl =>
    writeCLICFrom lowAddr address (i + 1) vs (cl.writeCLICInt cfg (clicOffset lowAddr address i) v)

variable (cl : Cluster)

/-- `readCLIC`: byte `i` of the value read is `readCLICInt` at byte `i`'s offset. -/
def readCLIC (lowAddr address : BitVec 64) (bytes : Nat) : List (BitVec 8) :=
  (List.range bytes).map fun i => cl.readCLICInt cfg (clicOffset lowAddr address i)

/-- `writeCLIC`: `writeCLICInt` of each byte of the value, from the first. -/
def writeCLIC (lowAddr address : BitVec 64) (value : List (BitVec 8)) : Cluster :=
  writeCLICFrom cfg lowAddr address 0 value cl

/-! ### Isolation over a whole access -/

/-- What a write through the interrupt pages of mode `P` of hart `k` may change: no
other hart, not `cliccfg`, no interrupt above `P`; and what it changed is at most
`P`. -/
structure Confined (k : Nat) (P : Mode) (cl cl' : Cluster) : Prop where
  harts : ∀ k', k' ≠ k → cl'.harts k' = cl.harts k'
  cliccfg : cl'.cliccfg = cl.cliccfg
  above : ∀ j, P < (cl.harts k).getCLICInterruptMode cfg cl.cliccfg j →
    (cl'.harts k).intState j = (cl.harts k).intState j ∧
      ipeBitAt (cl'.harts k).ipe j = ipeBitAt (cl.harts k).ipe j
  changed : ∀ j, (cl'.harts k).intState j ≠ (cl.harts k).intState j ∨
      ipeBitAt (cl'.harts k).ipe j ≠ ipeBitAt (cl.harts k).ipe j →
    (cl'.harts k).getCLICInterruptMode cfg cl'.cliccfg j ≤ P

/-- Byte `i`'s offset lies in an interrupt page of mode `P` of hart `k`. -/
def InPages (k : Nat) (P : Mode) (lowAddr address : BitVec 64) (i : Nat) : Prop :=
  getCLICPage (clicOffset lowAddr address i) ≠ 0 ∧
    cfg.getCLICHartIndex (clicOffset lowAddr address i) = k ∧
    cfg.getCLICPageMode (clicOffset lowAddr address i) = P

instance (k : Nat) (P : Mode) (lowAddr address : BitVec 64) (i : Nat) :
    Decidable (InPages cfg k P lowAddr address i) :=
  inferInstanceAs (Decidable (_ ∧ _ ∧ _))

variable {cfg}

theorem Confined.refl (k : Nat) (P : Mode) : Confined cfg k P cl cl :=
  ⟨fun _ _ => rfl, rfl, fun _ _ => ⟨rfl, rfl⟩, fun _ hj => by simp at hj⟩

/-- An interrupt whose state a confined write left alone keeps its mode. -/
theorem Confined.mode_eq {k : Nat} {P : Mode} {cl cl' : Cluster} (hc : Confined cfg k P cl cl') {j : Nat}
    (hj : (cl'.harts k).intState j = (cl.harts k).intState j) :
    (cl'.harts k).getCLICInterruptMode cfg cl'.cliccfg j =
      (cl.harts k).getCLICInterruptMode cfg cl.cliccfg j := by
  rw [hc.cliccfg]; exact getCLICInterruptMode_of_attr cfg _ (by rw [hj])

theorem Confined.trans {k : Nat} {P : Mode} {cl₁ cl₂ cl₃ : Cluster} (h12 : Confined cfg k P cl₁ cl₂)
    (h23 : Confined cfg k P cl₂ cl₃) : Confined cfg k P cl₁ cl₃ := by
  refine ⟨fun k' hk => (h23.harts k' hk).trans (h12.harts k' hk), h23.cliccfg.trans h12.cliccfg,
    fun j hj => ?_, fun j hj => ?_⟩
  · obtain ⟨s1, b1⟩ := h12.above j hj
    obtain ⟨s2, b2⟩ := h23.above j (by rwa [h12.mode_eq s1])
    exact ⟨s2.trans s1, b2.trans b1⟩
  · by_cases hu : (cl₃.harts k).intState j = (cl₂.harts k).intState j ∧
        ipeBitAt (cl₃.harts k).ipe j = ipeBitAt (cl₂.harts k).ipe j
    · -- untouched by the second write: changed by the first, and its mode kept since
      rw [h23.mode_eq hu.1]
      exact h12.changed j (by rwa [← hu.1, ← hu.2])
    · exact h23.changed j (not_and_or.mp hu)

/-- A byte written through an interrupt page. -/
theorem confined_writeCLICInt {offset : Nat} (hp : getCLICPage offset ≠ 0) (v : BitVec 8) :
    Confined cfg (cfg.getCLICHartIndex offset) (cfg.getCLICPageMode offset) cl
      (cl.writeCLICInt cfg offset v) := by
  rw [show cl.writeCLICInt cfg offset v = cl.writeCLICInterrupt cfg offset v from if_pos hp]
  obtain ⟨w1, w2, w3, w4⟩ := writeCLICInterrupt_confined cfg cl offset v
  exact ⟨w1, w2, w3, w4⟩

theorem confined_writeCLICFrom {k : Nat} {P : Mode} {lowAddr address : BitVec 64} :
    ∀ (i : Nat) (value : List (BitVec 8)) (cl : Cluster),
      (∀ j, i ≤ j → j < i + value.length → InPages cfg k P lowAddr address j) →
      Confined cfg k P cl (writeCLICFrom cfg lowAddr address i value cl)
  | _, [], cl, _ => .refl cl k P
  | i, v :: vs, cl, hw => by
    obtain ⟨hp, hk, hP⟩ := hw i (Nat.le_refl i) (by simp)
    have h1 := @confined_writeCLICInt cfg cl _ hp v
    rw [hk, hP] at h1
    exact h1.trans (confined_writeCLICFrom (i + 1) vs _
      fun j hj hj' => hw j (by omega) (by simp only [List.length_cons] at hj' ⊢; omega))

/-- **Privilege isolation over a whole bus access.**  Take an access at `address`
whose every byte falls in an interrupt page of mode `P` of hart `k`.  Written, it
changes no other hart and not `cliccfg`, no interrupt above `P`, and leaves every
interrupt it changed at most `P`, however its bytes rewrite the modes on the way.
Read, it returns the same bytes in every cluster with the same `cliccfg` whose hart
`k` agrees on the interrupts at most `P`. -/
theorem writeCLIC_isolated (lowAddr address : BitVec 64) (value : List (BitVec 8)) {k : Nat} {P : Mode}
    (hw : ∀ i < value.length, InPages cfg k P lowAddr address i) :
    Confined cfg k P cl (cl.writeCLIC cfg lowAddr address value) ∧
      ∀ cl₂ : Cluster, cl₂.cliccfg = cl.cliccfg →
        (∀ j, (cl.harts k).getCLICInterruptMode cfg cl.cliccfg j ≤ P ∨
            (cl₂.harts k).getCLICInterruptMode cfg cl₂.cliccfg j ≤ P →
          (cl₂.harts k).intState j = (cl.harts k).intState j) →
        cl₂.readCLIC cfg lowAddr address value.length = cl.readCLIC cfg lowAddr address value.length := by
  refine ⟨confined_writeCLICFrom 0 value cl fun j _ hj => hw j (by omega), fun cl₂ hc hs => ?_⟩
  refine List.map_congr_left fun i hi => ?_
  obtain ⟨hp, hk, hP⟩ := hw i (List.mem_range.mp hi)
  have hread : ∀ cl : Cluster, cl.readCLICInt cfg (clicOffset lowAddr address i) =
      ((cl.readCLICInterrupt cfg (clicOffset lowAddr address i)) >>>
        (getCLICWordByte (clicOffset lowAddr address i) * 8)).setWidth 8 :=
    fun _ => by simp only [readCLICInt, if_pos hp]
  rw [hread, hread, readCLICInterrupt_congr cfg cl hc (by rw [hk, hP]; exact hs _)]

theorem writeCLIC_isolated_hart0 :
    ((new (Config.rv64 true) Host.flat default).writeCLIC (Config.rv64 true) 0 4096
      [1, 1, 0xC0, 0xFF]).cliccfg = (new (Config.rv64 true) Host.flat default).cliccfg :=
  (@writeCLIC_isolated (Config.rv64 true) (new (Config.rv64 true) Host.flat default) 0 4096
    [1, 1, 0xC0, 0xFF] 0 .machine (by decide)).1.cliccfg

end Cluster

end RiscvTrap
