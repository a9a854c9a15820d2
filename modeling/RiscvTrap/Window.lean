import RiscvTrap.Cluster

/-!
# Privilege isolation of the CLIC window

The interrupt pages of mode `P` give access to the interrupts whose current mode is
at most `P` (`accessCLICInterrupt`).  A write through them changes at most the one
interrupt it addresses, of one hart; a write to `clicintattr` clamps the new mode
(`clampAttrMode`), and that clamp and the mode table of `getCLICInterruptMode`
keep the interrupt at most `P` for every `nmbits` and `CLICCFGMBITS`.  A read
returns zero for an interrupt above `P`, so what a mode-`P` page shows depends
only on the interrupts at most `P`.

* `OnlyAt i h h'`: `h'` differs from `h` in the CLIC state at most at interrupt `i`.
* `getCLICInterruptMode_clamp`: the clamped mode is at most the page's.
* `writeCLICInt_confined`: the window write and read, together.
-/

namespace RiscvTrap

namespace Hart

variable (cfg : Config) (cc : Cliccfg) (h : Hart)

/-- `h'` differs from `h` in the CLIC interrupt state at most at interrupt `i`. -/
structure OnlyAt (i : Nat) (h h' : Hart) : Prop where
  intState : ∀ j ≠ i, h'.intState j = h.intState j
  ipe : ∀ j ≠ i, ipeBitAt h'.ipe j = ipeBitAt h.ipe j

theorem OnlyAt.refl (i : Nat) : OnlyAt i h h := ⟨fun _ _ => rfl, fun _ _ => rfl⟩

theorem OnlyAt.trans {i : Nat} {h₁ h₂ h₃ : Hart} (h12 : OnlyAt i h₁ h₂) (h23 : OnlyAt i h₂ h₃) :
    OnlyAt i h₁ h₃ :=
  ⟨fun j hj => (h23.intState j hj).trans (h12.intState j hj),
    fun j hj => (h23.ipe j hj).trans (h12.ipe j hj)⟩

theorem SelFrame.onlyAt {h h' : Hart} (hf : SelFrame h h') (i : Nat) : OnlyAt i h h' :=
  ⟨fun _ _ => by rw [hf.intState], fun _ _ => by rw [hf.ipe]⟩

theorem onlyAt_setCLICInterruptField (i type : Nat) (v : BitVec 8) :
    OnlyAt i h (h.setCLICInterruptField i type v) :=
  ⟨fun j hj => by simp [Function.update_noteq hj], fun _ _ => rfl⟩

theorem onlyAt_updateCLICPendingEnable (i : Nat) (b : Bool) :
    OnlyAt i h (h.updateCLICPendingEnable cfg cc i b) :=
  ⟨fun _ _ => by rw [updateCLICPendingEnable_intState],
    fun j hj => by rw [ipeBitAt_updateCLICPendingEnable, if_neg hj]⟩

theorem onlyAt_writeCLICInterruptIPE (type other i : Nat) (v : BitVec 8) :
    OnlyAt i h (h.writeCLICInterruptIPE cfg cc type other i v) := by
  have h1 := onlyAt_setCLICInterruptField h i type (if v.getLsbD 0 then 1 else 0)
  dsimp only [writeCLICInterruptIPE]
  split
  · exact h1.trans (onlyAt_updateCLICPendingEnable cfg cc _ i _)
  · exact h1

theorem onlyAt_updateCLICInterruptField (i type : Nat) (v : BitVec 8) :
    OnlyAt i h (h.updateCLICInterruptField cfg cc i type v) := by
  unfold updateCLICInterruptField; split
  · exact (onlyAt_setCLICInterruptField h i type v).trans
      (SelFrame.onlyAt (selFrame_riscvTestInterrupt cfg cc _) i)
  · exact .refl h i

/-! ### The mode of the written interrupt -/

theorem getCLICInterruptMode_of_attr {h h' : Hart} {i : Nat}
    (ha : (h'.intState i).attr = (h.intState i).attr) :
    h'.getCLICInterruptMode cfg cc i = h.getCLICInterruptMode cfg cc i := by
  unfold getCLICInterruptMode; rw [ha]

theorem clampAttrMode_le (m P : Mode) : clampAttrMode cfg m P ≤ P := by
  unfold clampAttrMode; split
  · exact Mode.le_def.mpr (Nat.le_refl _)
  · rename_i hc; exact Mode.not_lt.mp fun h => hc (.inl h)

/-- **The clamp and the mode table agree.**  An interrupt at most `P` whose mode
field is rewritten through the clamp of a mode-`P` page stays at most `P`, for
every `nmbits` and `CLICCFGMBITS`. -/
theorem getCLICInterruptMode_clamp {h h' : Hart} {i : Nat} {m P : Mode} (hP : P ≠ .hypervisor)
    (hold : h.getCLICInterruptMode cfg cc i ≤ P)
    (hattr : attrMode (h'.intState i).attr = (clampAttrMode cfg m P).toNat) :
    h'.getCLICInterruptMode cfg cc i ≤ P := by
  have hle := clampAttrMode_le cfg m P
  have hne := clampAttrMode_ne_hypervisor cfg hP m
  have ha : attrMode (h.intState i).attr < 4 := by
    unfold attrMode; have := (h.intState i).attr.isLt; omega
  unfold getCLICInterruptMode at hold ⊢
  rw [hattr]
  generalize clampAttrMode cfg m P = c at hle hne
  generalize attrMode (h.intState i).attr = a at hold ha
  by_cases h0 : cc.nmbits = 0
  · simp only [h0, if_true] at hold ⊢; exact hold
  by_cases h1 : cfg.CLICCFGMBITS = 1
  · simp only [h0, h1, if_true, if_false]
    revert hle hne; cases c <;> cases P <;> decide
  simp only [h0, h1, if_false] at hold ⊢
  by_cases h2 : cc.nmbits = 1
  · simp only [h2, if_true] at hold ⊢
    -- with one mode bit every interrupt is at least Supervisor, so `P` is too
    have hS : Mode.supervisor ≤ Mode.ofField (a ||| 1) := by
      obtain rfl | rfl | rfl | rfl : a = 0 ∨ a = 1 ∨ a = 2 ∨ a = 3 := by omega
      all_goals decide
    have hSP : Mode.supervisor ≤ P := Mode.le_def.mpr (Nat.le_trans hS hold)
    revert hle hne hSP; cases c <;> cases P <;> decide
  · simp only [h2, if_false, Nat.or_zero]
    revert hle hne; cases c <;> cases P <;> decide

theorem getCLICInterruptMode_updateAttr {i : Nat} {P : Mode} (hP : P ≠ .hypervisor)
    (hold : h.getCLICInterruptMode cfg cc i ≤ P) (m : Mode) (a : BitVec 8) :
    (h.updateCLICInterruptField cfg cc i 2 (attrWithMode a (clampAttrMode cfg m P))).getCLICInterruptMode
      cfg cc i ≤ P := by
  unfold updateCLICInterruptField; split
  · refine @getCLICInterruptMode_clamp cfg cc h _ i m P hP hold ?_
    rw [(selFrame_riscvTestInterrupt cfg cc _).intState]
    simp [ClicIntState.setField, attrMode_attrWithMode]
  · exact hold

theorem getCLICInterruptMode_writeCLICInterruptAttr {i : Nat} {P : Mode} (hP : P ≠ .hypervisor)
    (hold : h.getCLICInterruptMode cfg cc i ≤ P) (v : BitVec 8) :
    (h.writeCLICInterruptAttr cfg cc i v P).getCLICInterruptMode cfg cc i ≤ P := by
  unfold writeCLICInterruptAttr
  exact getCLICInterruptMode_updateAttr cfg cc h hP hold _ _

theorem attr_writeCLICInterruptIPE {type : Nat} (ht : type = 0 ∨ type = 1) (other i : Nat)
    (v : BitVec 8) : ((h.writeCLICInterruptIPE cfg cc type other i v).intState i).attr =
      (h.intState i).attr := by
  dsimp only [writeCLICInterruptIPE]
  split
  · rw [updateCLICPendingEnable_intState]
    rcases ht with rfl | rfl <;> simp [ClicIntState.setField]
  · rcases ht with rfl | rfl <;> simp [ClicIntState.setField]

theorem attr_writeCLICInterruptPending (i : Nat) (v : BitVec 8) :
    ((h.writeCLICInterruptPending cfg cc i v).intState i).attr = (h.intState i).attr :=
  attr_writeCLICInterruptIPE cfg cc h (.inl rfl) _ _ _

theorem attr_writeCLICInterruptEnable (i : Nat) (v : BitVec 8) :
    ((h.writeCLICInterruptEnable cfg cc i v).intState i).attr = (h.intState i).attr :=
  attr_writeCLICInterruptIPE cfg cc h (.inr rfl) _ _ _

theorem attr_writeCLICInterruptCtl (i : Nat) (v : BitVec 8) :
    ((h.writeCLICInterruptCtl cfg cc i v).intState i).attr = (h.intState i).attr := by
  dsimp only [writeCLICInterruptCtl, updateCLICInterruptField]
  split
  · rw [(selFrame_riscvTestInterrupt cfg cc _).intState]; simp [ClicIntState.setField]
  · rfl

end Hart

namespace Cluster

open Hart

variable (cfg : Config) (cl : Cluster)

theorem access_spec {offset : Nat} (ha : cl.accessCLICInterrupt cfg offset = true) :
    getCLICIntIndex offset < cfg.getIntNum ∧
      (cl.harts (cfg.getCLICHartIndex offset)).getCLICInterruptMode cfg cl.cliccfg
        (getCLICIntIndex offset) ≤ cfg.getCLICPageMode offset := by
  dsimp only [accessCLICInterrupt] at ha
  split_ifs at ha with h1 h2
  exact ⟨h2, of_decide_eq_true ha⟩

/-- The access check of a mode-`P` page fails for an interrupt above `P`. -/
theorem access_eq_false {offset : Nat}
    (hm : cfg.getCLICPageMode offset < (cl.harts (cfg.getCLICHartIndex offset)).getCLICInterruptMode
      cfg cl.cliccfg (getCLICIntIndex offset)) :
    cl.accessCLICInterrupt cfg offset = false := by
  cases ha : cl.accessCLICInterrupt cfg offset
  · rfl
  · exact absurd (access_spec cfg cl ha).2 (Mode.not_le.mpr hm)

/-- Two clusters with the same configuration whose hart agrees on the addressed
interrupt, as soon as either of them has it at most at the page's mode, answer a
read the same. -/
theorem readCLICInterrupt_congr {cl₂ : Cluster} {offset : Nat} (hc : cl₂.cliccfg = cl.cliccfg)
    (hs : let k := cfg.getCLICHartIndex offset; let i := getCLICIntIndex offset
      (cl.harts k).getCLICInterruptMode cfg cl.cliccfg i ≤ cfg.getCLICPageMode offset ∨
        (cl₂.harts k).getCLICInterruptMode cfg cl₂.cliccfg i ≤ cfg.getCLICPageMode offset →
      (cl₂.harts k).intState i = (cl.harts k).intState i) :
    cl₂.readCLICInterrupt cfg offset = cl.readCLICInterrupt cfg offset := by
  by_cases hm : (cl.harts (cfg.getCLICHartIndex offset)).getCLICInterruptMode cfg cl.cliccfg
      (getCLICIntIndex offset) ≤ cfg.getCLICPageMode offset
  · have he := hs (.inl hm)
    have hmode : (cl₂.harts (cfg.getCLICHartIndex offset)).getCLICInterruptMode cfg cl₂.cliccfg
        (getCLICIntIndex offset) = (cl.harts (cfg.getCLICHartIndex offset)).getCLICInterruptMode
          cfg cl.cliccfg (getCLICIntIndex offset) := by
      rw [hc]; exact getCLICInterruptMode_of_attr cfg _ (by rw [he])
    simp only [readCLICInterrupt, accessCLICInterrupt, hmode, he]
  · have hm₂ : ¬ (cl₂.harts (cfg.getCLICHartIndex offset)).getCLICInterruptMode cfg cl₂.cliccfg
        (getCLICIntIndex offset) ≤ cfg.getCLICPageMode offset := fun h₂ => by
      have he := hs (.inr h₂)
      rw [hc, @getCLICInterruptMode_of_attr cfg cl.cliccfg (cl.harts (cfg.getCLICHartIndex offset))
        _ _ (by rw [he])] at h₂
      exact hm h₂
    rw [readCLICInterrupt, readCLICInterrupt, access_eq_false cfg cl (Mode.not_le.mp hm),
      access_eq_false cfg cl₂ (Mode.not_le.mp hm₂)]
    rfl

theorem onlyAt_writeField (h : Hart) (offset : Nat) (v : BitVec 8) :
    OnlyAt (getCLICIntIndex offset) h
      (match getCLICWordByte offset with
        | 0 => h.writeCLICInterruptPending cfg cl.cliccfg (getCLICIntIndex offset) v
        | 1 => h.writeCLICInterruptEnable cfg cl.cliccfg (getCLICIntIndex offset) v
        | 2 => h.writeCLICInterruptAttr cfg cl.cliccfg (getCLICIntIndex offset) v
            (cfg.getCLICPageMode offset)
        | _ => h.writeCLICInterruptCtl cfg cl.cliccfg (getCLICIntIndex offset) v) := by
  split
  · exact onlyAt_writeCLICInterruptIPE cfg _ h _ _ _ _
  · exact onlyAt_writeCLICInterruptIPE cfg _ h _ _ _ _
  · exact onlyAt_updateCLICInterruptField cfg _ h _ _ _
  · exact onlyAt_updateCLICInterruptField cfg _ h _ _ _

/-- The field write a visible interrupt gets leaves it at most at the page's mode. -/
theorem getCLICInterruptMode_writeField (h : Hart) (offset : Nat) (v : BitVec 8)
    (hold : h.getCLICInterruptMode cfg cl.cliccfg (getCLICIntIndex offset) ≤ cfg.getCLICPageMode offset) :
    (match getCLICWordByte offset with
      | 0 => h.writeCLICInterruptPending cfg cl.cliccfg (getCLICIntIndex offset) v
      | 1 => h.writeCLICInterruptEnable cfg cl.cliccfg (getCLICIntIndex offset) v
      | 2 => h.writeCLICInterruptAttr cfg cl.cliccfg (getCLICIntIndex offset) v
          (cfg.getCLICPageMode offset)
      | _ => h.writeCLICInterruptCtl cfg cl.cliccfg (getCLICIntIndex offset) v).getCLICInterruptMode
        cfg cl.cliccfg (getCLICIntIndex offset) ≤ cfg.getCLICPageMode offset := by
  split
  · rw [getCLICInterruptMode_of_attr cfg _ (attr_writeCLICInterruptPending cfg _ h _ _)]
    exact hold
  · rw [getCLICInterruptMode_of_attr cfg _ (attr_writeCLICInterruptEnable cfg _ h _ _)]
    exact hold
  · exact getCLICInterruptMode_writeCLICInterruptAttr cfg _ h (getCLICPageMode_ne_hypervisor cfg _) hold v
  · rw [getCLICInterruptMode_of_attr cfg _ (attr_writeCLICInterruptCtl cfg _ h _ _)]
    exact hold

/-- A window write changes no other hart and not the configuration, no interrupt
above the page's mode, and leaves every interrupt it changed at most that mode. -/
theorem writeCLICInterrupt_confined (offset : Nat) (v : BitVec 8) :
    let k := cfg.getCLICHartIndex offset
    let P := cfg.getCLICPageMode offset
    let cl' := cl.writeCLICInterrupt cfg offset v
    let h := cl.harts k
    let h' := cl'.harts k
    (∀ k', k' ≠ k → cl'.harts k' = cl.harts k') ∧ cl'.cliccfg = cl.cliccfg ∧
      (∀ j, P < h.getCLICInterruptMode cfg cl.cliccfg j →
        h'.intState j = h.intState j ∧ ipeBitAt h'.ipe j = ipeBitAt h.ipe j) ∧
      (∀ j, h'.intState j ≠ h.intState j ∨ ipeBitAt h'.ipe j ≠ ipeBitAt h.ipe j →
        h'.getCLICInterruptMode cfg cl'.cliccfg j ≤ P) := by
  dsimp only
  unfold writeCLICInterrupt
  by_cases ha : cl.accessCLICInterrupt cfg offset = true
  · obtain ⟨-, hle⟩ := access_spec cfg cl ha
    have hfr := onlyAt_writeField cfg cl (cl.harts (cfg.getCLICHartIndex offset)) offset v
    have hmode := getCLICInterruptMode_writeField cfg cl _ offset v hle
    simp only [ha, if_true, harts_mapHart]
    refine ⟨fun k' hk => if_neg hk, rfl, fun j hj => ?_, fun j hj => ?_⟩
    · have hji : j ≠ getCLICIntIndex offset := fun e => Mode.not_le.mpr hj (e ▸ hle)
      exact ⟨hfr.intState j hji, hfr.ipe j hji⟩
    · by_cases hji : j = getCLICIntIndex offset
      · subst hji; exact hmode
      · exact (hj.elim (· (hfr.intState j hji)) (· (hfr.ipe j hji))).elim
  · simp [ha]

/-- **Privilege isolation of the CLIC window.**  A byte written through an
interrupt page of mode `P` of hart `k` changes no other hart and not the
configuration, changes no interrupt above `P`, and leaves every interrupt it
changed at most `P`, for every `nmbits` and `CLICCFGMBITS`.  A read through the
page returns zero for an interrupt above `P`, and is the same in every cluster
with the same configuration whose hart `k` agrees on the interrupts at most `P`. -/
theorem writeCLICInt_confined (offset : Nat) (v : BitVec 8) (hp : getCLICPage offset ≠ 0) :
    let k := cfg.getCLICHartIndex offset
    let P := cfg.getCLICPageMode offset
    let cl' := cl.writeCLICInt cfg offset v
    let h := cl.harts k
    let h' := cl'.harts k
    (∀ k', k' ≠ k → cl'.harts k' = cl.harts k') ∧ cl'.cliccfg = cl.cliccfg ∧
      (∀ j, P < h.getCLICInterruptMode cfg cl.cliccfg j →
        h'.intState j = h.intState j ∧ ipeBitAt h'.ipe j = ipeBitAt h.ipe j) ∧
      (∀ j, h'.intState j ≠ h.intState j ∨ ipeBitAt h'.ipe j ≠ ipeBitAt h.ipe j →
        h'.getCLICInterruptMode cfg cl'.cliccfg j ≤ P) ∧
      (P < h.getCLICInterruptMode cfg cl.cliccfg (getCLICIntIndex offset) →
        cl.readCLICInt cfg offset = 0) ∧
      ∀ cl₂ : Cluster, cl₂.cliccfg = cl.cliccfg →
        (∀ j, h.getCLICInterruptMode cfg cl.cliccfg j ≤ P ∨
            (cl₂.harts k).getCLICInterruptMode cfg cl₂.cliccfg j ≤ P →
          (cl₂.harts k).intState j = h.intState j) →
        cl₂.readCLICInt cfg offset = cl.readCLICInt cfg offset := by
  have hread : ∀ cl₂ : Cluster, cl₂.readCLICInt cfg offset =
      ((cl₂.readCLICInterrupt cfg offset) >>> (getCLICWordByte offset * 8)).setWidth 8 :=
    fun _ => by simp only [readCLICInt, if_pos hp]
  dsimp only
  rw [show cl.writeCLICInt cfg offset v = cl.writeCLICInterrupt cfg offset v from if_pos hp]
  obtain ⟨w1, w2, w3, w4⟩ := writeCLICInterrupt_confined cfg cl offset v
  refine ⟨w1, w2, w3, w4, fun hm => ?_, fun cl₂ hc hs => ?_⟩
  · rw [hread, readCLICInterrupt, access_eq_false cfg cl hm]; simp
  · rw [hread, hread, readCLICInterrupt_congr cfg cl hc (hs _)]

theorem writeCLICInt_confined_page1 :
    ((new (Config.rv64 true) Host.flat default).writeCLICInt (Config.rv64 true) 4096 1).cliccfg =
      (new (Config.rv64 true) Host.flat default).cliccfg :=
  (writeCLICInt_confined (Config.rv64 true) (new (Config.rv64 true) Host.flat default) 4096 1
    (by decide)).2.1

end Cluster

end RiscvTrap
