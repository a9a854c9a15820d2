import RiscvTrap.Arbiter

/-!
# The CLIC arbiter

`refreshPendingAndEnabledCLIC` and what it reads: the effective mode of an
interrupt `getCLICInterruptMode`, and the presentation test `PRESENT_INT_CLIC`.

The scan walks the `ipDWords` words of `ipe` and, inside each, the set bits from
the least significant up, keeping the last interrupt of greatest rank
`(mode<<8) | clicintctl`.  `refreshPendingAndEnabledCLIC_spec` says what that
computes: the selected interrupt is the last index of greatest
`(mode, clicintctl)` among the set `ipe` bits, its level is `clicintctl` with the
low `8 - nlbits` bits set, and it replaces the basic candidate in `pendEnab`
exactly when it outranks it and `PRESENT_INT_CLIC` holds.
-/

namespace RiscvTrap

namespace Hart

variable (cfg : Config) (cc : Cliccfg) (h : Hart)

/-- `getCLICInterruptMode`: the mode of an interrupt, from its `clicintattr.mode`
and `cliccfg.nmbits`. -/
def getCLICInterruptMode (intIndex : Nat) : Mode :=
  let attr_mode := attrMode (h.intState intIndex).attr
  if cc.nmbits = 0 then .machine
  else if cfg.CLICCFGMBITS = 1 then (if attr_mode &&& 2 ≠ 0 then .machine else .user)
  else Mode.ofField (attr_mode ||| (if cc.nmbits = 1 then 1 else 0))

/-- `PRESENT_INT_CLIC` for the bank of `x`.  The macro has no instance for the
reserved mode, where the source aborts and presents nothing. -/
def presentIntClic (x : Mode) (level : BitVec 8) : Bool :=
  x ≠ .hypervisor && h.useCLIC cfg x && h.csr.mstatus.IE.get x &&
    (h.mode < x || (h.csr.mintstatus.get x < level && h.csr.intthresh.get x < level))

/-- The rank `(mode<<8) | clicintctl` of an interrupt. -/
def clicRank (intIndex : Nat) : Nat :=
  ((h.getCLICInterruptMode cfg cc intIndex).toNat <<< 8) ||| (h.intState intIndex).ctl.toNat

/-- One step of the scan over `(maxRank, id)`: a rank at least `maxRank` wins. -/
def clicSelect (acc : Nat × Option Nat) (intIndex : Nat) : Nat × Option Nat :=
  let rank := h.clicRank cfg cc intIndex
  if acc.1 ≤ rank then (rank, some intIndex) else acc

/-- `nlbitsMask`: the bits of `clicintctl` that hold the level. -/
def nlbitsMask : BitVec 8 := ~~~(BitVec.ofNat 8 (2 ^ (8 - cc.nlbits) - 1))

/-- The second half of `refreshPendingAndEnabledCLIC`: present the scan's winner.
The final `VMI_ABORT`, for an interrupt of the reserved mode, is recorded as
`Effect.abort`. -/
def presentCLIC (id : Option Nat) : Hart :=
  match id with
  | none => { h with sel := ⟨none, .user, 0, false⟩ }
  | some id =>
    let attr := (h.intState id).attr
    let clicintctl := (h.intState id).ctl
    let priv := h.getCLICInterruptMode cfg cc id
    let level := (clicintctl &&& nlbitsMask cc) ||| ~~~(nlbitsMask cc)
    let h' := { h with sel := ⟨some id, priv, level, attrShv attr⟩ }
    if priv < h.pendEnab.priv then h'
    else if priv < h.mode then h'
    else if priv = .hypervisor then h'.emit .abort
    else if h.presentIntClic cfg priv level then
      { h' with pendEnab := ⟨some id, priv, level, true⟩ }
    else h'

/-- `refreshPendingAndEnabledCLIC` (its trace message is not modelled): scan the
`ipDWords` words of `ipe` for the interrupt of greatest rank, then present it. -/
def refreshPendingAndEnabledCLIC : Hart :=
  h.presentCLIC cfg cc ((List.range cfg.ipDWords).foldl
    (fun acc wordIndex =>
      scanBits (h.clicSelect cfg cc) 64 (h.ipe wordIndex) (wordIndex * 64) acc)
    (0, none)).2

/-! ### What the scan computes -/

/-- The indices of the set bits of the first `ipDWords` words of `ipe`, in order. -/
def clicIndices : List Nat :=
  (List.range cfg.ipDWords).flatMap fun w => setBits 64 (h.ipe w) (w * 64)

/-- Bit `i` of `ipe`, within the `ipDWords` words the scan reads. -/
def ipeBit (i : Nat) : Bool := decide (i / 64 < cfg.ipDWords) && (h.ipe (i / 64)).getLsbD (i % 64)

theorem mem_clicIndices {i : Nat} : i ∈ h.clicIndices cfg ↔ h.ipeBit cfg i = true := by
  simp only [clicIndices, List.mem_flatMap, List.mem_range, mem_setBits, ipeBit,
    Bool.and_eq_true, decide_eq_true_eq]
  constructor
  · rintro ⟨w, hw, h1, h2, h3⟩
    have hq : i / 64 = w := by omega
    have hr : i - w * 64 = i % 64 := by omega
    exact ⟨hq ▸ hw, by rw [hq, ← hr]; exact h3⟩
  · rintro ⟨hw, hb⟩
    exact ⟨i / 64, hw, by omega, by omega, by rwa [show i - i / 64 * 64 = i % 64 by omega]⟩

theorem clicIndices_sorted : (h.clicIndices cfg).Pairwise (· < ·) := by
  refine List.pairwise_flatMap.mpr ⟨fun w _ => setBits_sorted _ _ _, ?_⟩
  refine (List.pairwise_lt_range _).imp fun {a b} hab x hx y hy => ?_
  have := (mem_setBits.mp hx).2.1
  have := (mem_setBits.mp hy).1
  have : a * 64 + 64 ≤ b * 64 := by omega
  omega

theorem clicRank_eq (i : Nat) :
    h.clicRank cfg cc i = (h.getCLICInterruptMode cfg cc i).toNat * 256 + (h.intState i).ctl.toNat := by
  rw [clicRank, Nat.shiftLeft_eq, Nat.mul_comm, ← Nat.mul_add_lt_is_or (h.intState i).ctl.isLt]

/-- The rank kept with a candidate (`0` before the first). -/
def rankOf : Option Nat → Nat
  | none => 0
  | some m => h.clicRank cfg cc m

theorem clicSelect_rankOf (r : Option Nat) (k : Nat) :
    h.clicSelect cfg cc (h.rankOf cfg cc r, r) k =
      (h.rankOf cfg cc (lastMax (h.clicRank cfg cc) r k), lastMax (h.clicRank cfg cc) r k) := by
  cases r with
  | none => simp [clicSelect, rankOf, lastMax]
  | some m => by_cases hm : h.clicRank cfg cc m ≤ h.clicRank cfg cc k <;> simp [clicSelect, rankOf, lastMax, hm]

theorem foldl_clicSelect (l : List Nat) (r : Option Nat) :
    l.foldl (h.clicSelect cfg cc) (h.rankOf cfg cc r, r) =
      (h.rankOf cfg cc (l.foldl (lastMax (h.clicRank cfg cc)) r),
        l.foldl (lastMax (h.clicRank cfg cc)) r) := by
  induction l generalizing r with
  | nil => rfl
  | cons k l ih => simp only [List.foldl_cons, clicSelect_rankOf, ih]

/-- The two-level scan is the fold of `lastMax` over `clicIndices`. -/
theorem clicScan_eq :
    ((List.range cfg.ipDWords).foldl
      (fun acc wordIndex =>
        scanBits (h.clicSelect cfg cc) 64 (h.ipe wordIndex) (wordIndex * 64) acc)
      (0, none)).2 = (h.clicIndices cfg).foldl (lastMax (h.clicRank cfg cc)) none := by
  simp only [scanBits_eq_foldl]
  rw [clicIndices, ← foldl_flatMap]
  exact congrArg Prod.snd (foldl_clicSelect cfg cc h _ none)

theorem level_eq (ctl : BitVec 8) :
    (ctl &&& nlbitsMask cc) ||| ~~~(nlbitsMask cc) =
      ctl ||| BitVec.ofNat 8 (2 ^ (8 - cc.nlbits) - 1) := by
  ext i
  simp only [nlbitsMask, BitVec.getLsbD_or, BitVec.getLsbD_and, BitVec.getLsbD_not]
  cases ctl.getLsbD i <;> cases (BitVec.ofNat 8 (2 ^ (8 - cc.nlbits) - 1)).getLsbD i <;> simp

theorem presentCLIC_sel (m : Nat) :
    (h.presentCLIC cfg cc (some m)).sel =
      ⟨some m, h.getCLICInterruptMode cfg cc m,
        ((h.intState m).ctl &&& nlbitsMask cc) ||| ~~~(nlbitsMask cc), attrShv (h.intState m).attr⟩ := by
  simp only [presentCLIC]; split_ifs <;> rfl

theorem presentCLIC_pendEnab (m : Nat) :
    let priv := h.getCLICInterruptMode cfg cc m
    let level := ((h.intState m).ctl &&& nlbitsMask cc) ||| ~~~(nlbitsMask cc)
    (h.presentCLIC cfg cc (some m)).pendEnab =
      if h.pendEnab.priv ≤ priv ∧ h.mode ≤ priv ∧ h.presentIntClic cfg priv level = true
      then ⟨some m, priv, level, true⟩ else h.pendEnab := by
  have hH : ∀ level, h.presentIntClic cfg .hypervisor level = false := by simp [presentIntClic]
  simp only [presentCLIC, ← Mode.not_le]
  split_ifs <;> simp_all [emit]

/-- **The CLIC arbiter.**  The selection is `none` exactly when no `ipe` bit is
set.  Otherwise it is the last interrupt of greatest `(mode, clicintctl)`, with
that mode, `clicintctl` with its low `8 - nlbits` bits set as level, and its
`shv` bit; and it replaces the basic candidate in `pendEnab` exactly when its
mode is at least the candidate's and the current mode, and `PRESENT_INT_CLIC`
holds. -/
theorem refreshPendingAndEnabledCLIC_spec :
    let h' : Hart := h.refreshPendingAndEnabledCLIC cfg cc
    (h'.sel.id = none ↔ ∀ i, h.ipeBit cfg i = false) ∧
    (h'.sel.id = none → h'.pendEnab = h.pendEnab) ∧
    ∀ i, h'.sel.id = some i →
      LexLastMax (fun j => (h.getCLICInterruptMode cfg cc j).toNat)
        (fun j => (h.intState j).ctl.toNat) (h.clicIndices cfg) i ∧
      h'.sel.priv = h.getCLICInterruptMode cfg cc i ∧
      h'.sel.level = (h.intState i).ctl ||| BitVec.ofNat 8 (2 ^ (8 - cc.nlbits) - 1) ∧
      h'.sel.shv = attrShv (h.intState i).attr ∧
      h'.pendEnab = if h.pendEnab.priv ≤ h'.sel.priv ∧ h.mode ≤ h'.sel.priv ∧
          h.presentIntClic cfg h'.sel.priv h'.sel.level = true
        then ⟨some i, h'.sel.priv, h'.sel.level, true⟩ else h.pendEnab := by
  have hmax := isLastMax_foldl (h.clicRank cfg cc) (clicIndices_sorted cfg h)
  have hnone := isLastMax_none_iff hmax
  have hbits : (h.clicIndices cfg = []) ↔ ∀ i, h.ipeBit cfg i = false := by
    rw [List.eq_nil_iff_forall_not_mem]
    simp only [mem_clicIndices, Bool.not_eq_true]
  simp only [refreshPendingAndEnabledCLIC, clicScan_eq]
  generalize (h.clicIndices cfg).foldl (lastMax (h.clicRank cfg cc)) none = r at hmax hnone
  cases r with
  | none =>
    refine ⟨by simpa [presentCLIC] using hbits.mp (by simpa using hnone), fun _ => rfl, by simp [presentCLIC]⟩
  | some m =>
    refine ⟨by simp [presentCLIC_sel, ← hbits, ← hnone], by simp [presentCLIC_sel], ?_⟩
    rintro i hi
    simp only [presentCLIC_sel, Option.some.injEq] at hi
    subst hi
    have hlex : LexLastMax (fun j => (h.getCLICInterruptMode cfg cc j).toNat)
        (fun j => (h.intState j).ctl.toNat) (h.clicIndices cfg) m := by
      refine lexLastMax_of_isLastMax (fun j => show (h.intState j).ctl.toNat < 256 from (h.intState j).ctl.isLt) ?_
      rwa [show h.clicRank cfg cc = _ from funext (clicRank_eq cfg cc h)] at hmax
    refine ⟨hlex, ?_⟩
    simp [presentCLIC_sel, presentCLIC_pendEnab, level_eq]

end Hart

end RiscvTrap
