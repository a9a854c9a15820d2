import RiscvTrap.Reachable

/-!
# The `ipe` words are a cache

`refreshPendingAndEnabledCLIC` never reads the interrupts' pending and enable
bytes: it scans the `ipe` words, one bit per interrupt, which every CLIC write
keeps equal to `clicintip && clicintie`.  `refreshPendingAndEnabledCLICPlain` is
the arbiter those words stand for: the same selection and presentation, run over
the implemented interrupts whose two bytes are set, read from the bytes.

* `clicIndices_eq_plain`: under `ClicInv` the set `ipe` bits, in the scan's order,
  are the pending and enabled interrupts in index order.
* `reachable_clicArbiter_plain`: in every reachable state, for every `cliccfg`,
  the arbiter over the cache gives the hart the arbiter over the bytes gives.
* `reachable_restore_own`: `refreshCLICIPE`, which a restore runs to rebuild the
  cache from the bytes, gives a coherent hart's words back, so a hart restored
  from its own snapshot has only been tested for interrupts.
* `riscvNetSave_riscvNetRestore`: the other way round, a save right after any
  restore gives the snapshot back on all that is saved.
-/

namespace RiscvTrap

namespace Hart

variable (cfg : Config) (cc : Cliccfg) (h : Hart)

/-- The implemented interrupts whose `clicintip` and `clicintie` are set, in index
order. -/
def clicPlainIndices : List Nat :=
  (List.range cfg.getIntNum).filter fun i => (h.intState i).ip ≠ 0 && (h.intState i).ie ≠ 0

/-- The arbiter without the cache: the last interrupt of greatest rank among
`clicPlainIndices`, presented as `refreshPendingAndEnabledCLIC` presents its own. -/
def refreshPendingAndEnabledCLICPlain : Hart :=
  h.presentCLIC cfg cc ((h.clicPlainIndices cfg).foldl (lastMax (h.clicRank cfg cc)) none)

variable {cfg h}

theorem mem_clicIndices_iff_plain (hi : ClicInv cfg h) {i : Nat} :
    i ∈ h.clicIndices cfg ↔ i ∈ h.clicPlainIndices cfg := by
  have hb := hi.ipe_bit i
  unfold ipeBitAt at hb
  rw [mem_clicIndices, clicPlainIndices, List.mem_filter, List.mem_range, ipeBit, hb]
  rcases ipDWords_spec cfg i with hw | hn
  · simp [hw, and_assoc]
  · simp [Nat.not_lt.mpr hn]

/-- Both lists are sorted and have the same members, so they are equal. -/
theorem clicIndices_eq_plain (hi : ClicInv cfg h) : h.clicIndices cfg = h.clicPlainIndices cfg := by
  have hs := clicIndices_sorted cfg h
  have hp : (h.clicPlainIndices cfg).Pairwise (· < ·) := (List.pairwise_lt_range _).filter _
  exact List.eq_of_perm_of_sorted
    ((List.perm_ext_iff_of_nodup hs.nodup hp.nodup).mpr fun _ => mem_clicIndices_iff_plain hi) hs hp

theorem refreshPendingAndEnabledCLIC_eq_plain (hi : ClicInv cfg h) :
    h.refreshPendingAndEnabledCLIC cfg cc = h.refreshPendingAndEnabledCLICPlain cfg cc := by
  rw [refreshPendingAndEnabledCLIC, clicScan_eq, clicIndices_eq_plain hi, refreshPendingAndEnabledCLICPlain]

/-- Rebuilding the cache of a coherent hart changes nothing. -/
theorem refreshCLICIPE_eq_self (hi : ClicInv cfg h) : h.refreshCLICIPE cfg = h := by
  have he := ipe_refreshCLICIPE cfg h (fun _ hj => hi.ipe_high cfg h hj) hi fun _ _ => rfl
  rw [show h.refreshCLICIPE cfg = { h with ipe := (h.refreshCLICIPE cfg).ipe } from rfl, he]

end Hart

namespace Cluster

open Hart

variable {cfg : Config} (host : Host) {cl : Cluster}

/-- **The cache is coherent over every run.**  In every reachable cluster, the CLIC
arbiter of every hart, scanning the `ipe` words, gives the same hart as the arbiter
run over the pending and enable bytes of the implemented interrupts, whatever
`cliccfg` it is run with. -/
theorem reachable_clicArbiter_plain (hr : Reachable cfg host cl) (k : Nat) (cc : Cliccfg) :
    (cl.harts k).refreshPendingAndEnabledCLIC cfg cc =
      (cl.harts k).refreshPendingAndEnabledCLICPlain cfg cc :=
  refreshPendingAndEnabledCLIC_eq_plain cc (reachable_inv host hr k).clic

theorem reachable_clicArbiter_plain_clicSession :
    (clicSession.harts 0).refreshPendingAndEnabledCLIC (Config.rv64 true) clicSession.cliccfg =
      (clicSession.harts 0).refreshPendingAndEnabledCLICPlain (Config.rv64 true) clicSession.cliccfg :=
  reachable_clicArbiter_plain Host.flat reachable_clicSession 0 _

/-- **A hart restored from its own snapshot only tests for interrupts.**  In every
reachable cluster, `riscvNetRestore` of hart `k` from what `riscvNetSave` took of
it at that point gives back the wires, the nets, `cliccfg` and the interrupt
state, rebuilds the `ipe` words the run kept, and leaves the cluster as one
`riscvTestInterrupt` of hart `k` leaves it. -/
theorem reachable_restore_own (hr : Reachable cfg host cl) (k : Nat) :
    cl.riscvNetRestore cfg k (cl.riscvNetSave k) = cl.mapHart k (·.riscvTestInterrupt cfg cl.cliccfg) := by
  have hi := (reachable_inv host hr k).clic
  have hc : (if cfg.CLICPresent then { cl with cliccfg := (cl.riscvNetSave k).cliccfg } else cl) = cl := by
    split <;> rfl
  simp only [riscvNetRestore, hc, mapHart, riscvNetSave, ite_self]
  split
  · rw [refreshCLICIPE_eq_self hi]
  · rfl

theorem reachable_restore_own_clicSession :
    clicSession.riscvNetRestore (Config.rv64 true) 0 (clicSession.riscvNetSave 0) =
      clicSession.mapHart 0 (·.riscvTestInterrupt (Config.rv64 true) clicSession.cliccfg) :=
  reachable_restore_own Host.flat reachable_clicSession 0

variable (cl)

/-- **A restore puts back what was saved.**  From any cluster and any snapshot,
saving hart `k` right after restoring it gives the snapshot back on all that the
simulator saves: the `ipDWords` words of `ip`, the latched nets, and with a CLIC
the root's `cliccfg` and the implemented interrupts.  Neither `refreshCLICIPE` nor
the interrupt test that end the restore changes them. -/
theorem riscvNetSave_riscvNetRestore (k : Nat) (s : NetSnapshot) :
    (∀ w < cfg.ipDWords, ((cl.riscvNetRestore cfg k s).riscvNetSave k).ip w = s.ip w) ∧
      ((cl.riscvNetRestore cfg k s).riscvNetSave k).netValue = s.netValue ∧
      (cfg.CLICPresent = true → ((cl.riscvNetRestore cfg k s).riscvNetSave k).cliccfg = s.cliccfg ∧
        ∀ i < cfg.getIntNum, ((cl.riscvNetRestore cfg k s).riscvNetSave k).intState i = s.intState i) := by
  simp only [riscvNetSave, riscvNetRestore, harts_mapHart, if_true]
  generalize hc : (if cfg.CLICPresent = true then { cl with cliccfg := s.cliccfg } else cl) = cl₁
  generalize hh : (if cfg.CLICPresent = true then _ else _ : Hart) = h₁
  have hf := selFrame_riscvTestInterrupt cfg cl₁.cliccfg h₁
  have hip : (h₁.riscvTestInterrupt cfg cl₁.cliccfg).ip = h₁.ip := by rw [hf]
  refine ⟨fun w hw => ?_, ?_, fun hp => ⟨?_, fun i hi => ?_⟩⟩
  · rw [hip, ← hh]; split <;> simp [refreshCLICIPE, hw]
  · rw [hf.netValue, ← hh]; split <;> rfl
  · show cl₁.cliccfg = s.cliccfg
    rw [← hc, if_pos hp]
  · rw [hf.intState, ← hh, if_pos hp]; simp [refreshCLICIPE, hi]

end Cluster

end RiscvTrap
