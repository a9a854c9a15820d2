import RiscvTrap.Cluster

/-!
# The layout of the CLIC window

`riscvMapCLICDomain` maps a control page and then, type after type (`CPT_M`,
`CPT_S`, `CPT_U`) and hart after hart, one 16 KiB interrupt page each.
`clicIntOffset` writes that layout down: the byte of field `f` of interrupt `i`
in the page of type `T` of hart `h`.  The decode functions of the window invert it.

* `decode_clicIntOffset`: the layout's offset decodes back to `T`, `h`, `i`, `f`.
* `clicIntOffset_decode`: every offset past the control page and inside the
  layout decodes to a tuple in range, whose layout offset it is.
* `clicWindow_layout`: the two together, on the window `riscvMapCLICDomain` maps.

The page type of an interrupt page is then `CPT_M` to `CPT_U` and its hart index
is a hart of the cluster, which is what the assertions of `getCLICPageType` and
`getCLICHart` check.  `riscvMapCLICDomain` counts the window's bytes in `Uns32`:
past `87381` harts the count wraps and the window mapped is shorter than the
layout (`riscvMapCLICDomain_manyHarts`).
-/

namespace RiscvTrap

namespace Config

variable (cfg : Config)

theorem one_le_getNumHarts : 1 ≤ cfg.getNumHarts := by
  unfold getNumHarts; split <;> omega

theorem riscvMapCLICDomain_le : cfg.riscvMapCLICDomain ≤ 4096 * (1 + 12 * cfg.getNumHarts) := by
  simp only [riscvMapCLICDomain, Nat.reducePow]
  omega

theorem riscvMapCLICDomain_eq (hn : cfg.getNumHarts ≤ 87381) :
    cfg.riscvMapCLICDomain = 4096 * (1 + 12 * cfg.getNumHarts) := by
  simp only [riscvMapCLICDomain, Nat.reducePow]
  omega

/-- The offset of field `f` of interrupt `i` in the interrupt page of type `T`
(`1` to `3`, `CPT_M` to `CPT_U`) of hart `h`. -/
def clicIntOffset (T h i f : Nat) : Nat :=
  4096 + 16384 * ((T - 1) * cfg.getNumHarts + h) + 4 * i + f

/-! ### Decoding past the control page -/

section
variable {offset : Nat} (hp : 4096 ≤ offset)
include hp

theorem getCLICPage_ne_zero : getCLICPage offset ≠ 0 := by
  unfold getCLICPage; omega

theorem get4kIntPage_getCLICPage : get4kIntPage (getCLICPage offset) = (offset - 4096) / 16384 := by
  unfold get4kIntPage getCLICPage; omega

theorem getCLICPageType_eq :
    cfg.getCLICPageType offset = 1 + (offset - 4096) / 16384 / cfg.getNumHarts := by
  rw [getCLICPageType, if_pos (getCLICPage_ne_zero hp), get4kIntPage_getCLICPage hp]

theorem getCLICHartIndex_eq :
    cfg.getCLICHartIndex offset = (offset - 4096) / 16384 % cfg.getNumHarts := by
  rw [getCLICHartIndex, get4kIntPage_getCLICPage hp]

end

/-- **Decoding the layout.**  The offset of a field of an interrupt in range lies
past the control page and inside the layout, and decodes back to its type, hart,
interrupt and field. -/
theorem decode_clicIntOffset {T h i f : Nat} (hT : 1 ≤ T ∧ T ≤ 3) (hh : h < cfg.getNumHarts)
    (hi : i < 4096) (hf : f < 4) :
    let offset := cfg.clicIntOffset T h i f
    4096 ≤ offset ∧ offset < 4096 * (1 + 12 * cfg.getNumHarts) ∧ cfg.getCLICPageType offset = T ∧
      cfg.getCLICHartIndex offset = h ∧ getCLICIntIndex offset = i ∧ getCLICWordByte offset = f := by
  have hn := cfg.one_le_getNumHarts
  have hq3 : (T - 1) * cfg.getNumHarts ≤ 2 * cfg.getNumHarts := Nat.mul_le_mul_right _ (by omega)
  have hdm : ((T - 1) * cfg.getNumHarts + h) / cfg.getNumHarts = T - 1 ∧
      ((T - 1) * cfg.getNumHarts + h) % cfg.getNumHarts = h :=
    (Nat.div_mod_unique hn).mpr ⟨by rw [Nat.mul_comm]; omega, hh⟩
  intro offset
  have hp : 4096 ≤ offset := by unfold offset clicIntOffset; omega
  have hq : (offset - 4096) / 16384 = (T - 1) * cfg.getNumHarts + h := by
    unfold offset clicIntOffset; omega
  rw [getCLICPageType_eq cfg hp, getCLICHartIndex_eq cfg hp, hq, hdm.1, hdm.2]
  unfold offset clicIntOffset getCLICIntIndex getCLICWordByte
  omega

/-- **Every offset past the control page is a layout offset** of a type, a hart,
an interrupt and a field in range. -/
theorem clicIntOffset_decode {offset : Nat} (hp : 4096 ≤ offset)
    (hw : offset < 4096 * (1 + 12 * cfg.getNumHarts)) :
    let T := cfg.getCLICPageType offset
    let h := cfg.getCLICHartIndex offset
    (1 ≤ T ∧ T ≤ 3) ∧ h < cfg.getNumHarts ∧ getCLICIntIndex offset < 4096 ∧
      getCLICWordByte offset < 4 ∧ offset = cfg.clicIntOffset T h (getCLICIntIndex offset)
        (getCLICWordByte offset) := by
  have hn := cfg.one_le_getNumHarts
  have hq : (offset - 4096) / 16384 < 3 * cfg.getNumHarts := by omega
  have hd := Nat.div_add_mod ((offset - 4096) / 16384) cfg.getNumHarts
  intro T h
  rw [show T = _ from getCLICPageType_eq cfg hp, show h = _ from getCLICHartIndex_eq cfg hp]
  refine ⟨⟨Nat.le_add_right _ _, by have := (Nat.div_lt_iff_lt_mul hn).mpr hq; omega⟩, Nat.mod_lt _ hn,
    by unfold getCLICIntIndex; omega, by unfold getCLICWordByte; omega, ?_⟩
  unfold clicIntOffset getCLICIntIndex getCLICWordByte
  rw [Nat.add_sub_cancel_left, Nat.mul_comm _ cfg.getNumHarts]
  omega

/-- **The CLIC window.**  For every number `n` of harts, an offset of the
control page decodes as such, and every other offset of the window
`riscvMapCLICDomain` maps decodes to a page type `CPT_M` to `CPT_U`, a hart of
the cluster, an interrupt below `4096` and a field below `4`, of whose layout
offset it is.  While the layout fits the `Uns32` count, up to `87381` harts, the
window is exactly the control page and `3 * n` interrupt pages of 16 KiB, and
each tuple in range has its layout offset in the window, decoding back to it. -/
theorem clicWindow_layout :
    1 ≤ cfg.getNumHarts ∧ cfg.riscvMapCLICDomain ≤ 4096 * (1 + 12 * cfg.getNumHarts) ∧
    (∀ offset < 4096, getCLICPage offset = 0 ∧ cfg.getCLICPageType offset = 0) ∧
    (∀ offset, 4096 ≤ offset → offset < cfg.riscvMapCLICDomain →
      let T := cfg.getCLICPageType offset
      let h := cfg.getCLICHartIndex offset
      getCLICPage offset ≠ 0 ∧ (1 ≤ T ∧ T ≤ 3) ∧ h < cfg.getNumHarts ∧
        getCLICIntIndex offset < 4096 ∧ getCLICWordByte offset < 4 ∧
        offset = cfg.clicIntOffset T h (getCLICIntIndex offset) (getCLICWordByte offset)) ∧
    (cfg.getNumHarts ≤ 87381 →
      cfg.riscvMapCLICDomain = 4096 * (1 + 12 * cfg.getNumHarts) ∧
      ∀ T h i f, (1 ≤ T ∧ T ≤ 3) → h < cfg.getNumHarts → i < 4096 → f < 4 →
        let offset := cfg.clicIntOffset T h i f
        4096 ≤ offset ∧ offset < cfg.riscvMapCLICDomain ∧ cfg.getCLICPageType offset = T ∧
          cfg.getCLICHartIndex offset = h ∧ getCLICIntIndex offset = i ∧
          getCLICWordByte offset = f) := by
  refine ⟨cfg.one_le_getNumHarts, cfg.riscvMapCLICDomain_le, fun offset ho => ?_,
    fun offset hp hw => ⟨getCLICPage_ne_zero hp,
      cfg.clicIntOffset_decode hp (lt_of_lt_of_le hw cfg.riscvMapCLICDomain_le)⟩,
    fun hn => ⟨cfg.riscvMapCLICDomain_eq hn, fun T h i f hT hh hi hf => ?_⟩⟩
  · have hp : getCLICPage offset = 0 := by unfold getCLICPage; omega
    exact ⟨hp, by simp [getCLICPageType, hp]⟩
  · rw [cfg.riscvMapCLICDomain_eq hn]
    exact cfg.decode_clicIntOffset hT hh hi hf

theorem clicWindow_layout_hart0 :
    (Config.rv64 true).getCLICPageType ((Config.rv64 true).clicIntOffset 3 0 4095 3) = 3 ∧
      (Config.rv64 true).clicIntOffset 3 0 4095 3 + 1 = (Config.rv64 true).riscvMapCLICDomain :=
  ⟨(((clicWindow_layout (Config.rv64 true)).2.2.2.2 (by decide)).2 3 0 4095 3 (by decide)
    (by decide) (by decide) (by decide)).2.2.1, by decide⟩

/-- A cluster of `87382` harts, one more than the `Uns32` count of
`riscvMapCLICDomain` holds. -/
def manyHarts : Config := { Config.rv64 true with numHarts := 87382 }

/-- Its window is nine pages, far short of the layout: no offset of it reaches a
hart past the second. -/
theorem riscvMapCLICDomain_manyHarts :
    manyHarts.riscvMapCLICDomain = 36864 ∧
      ∀ offset < manyHarts.riscvMapCLICDomain, manyHarts.getCLICHartIndex offset < 2 := by
  have hw : manyHarts.riscvMapCLICDomain = 36864 := by decide
  refine ⟨hw, fun offset ho => ?_⟩
  rw [hw] at ho
  unfold getCLICHartIndex get4kIntPage getCLICPage
  exact lt_of_le_of_lt (Nat.mod_le _ _) (by omega)

end Config

end RiscvTrap
