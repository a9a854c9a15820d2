import RiscvTrap.Window

/-!
# The CLIC window as WARL registers

Every byte of the CLIC window is a register whose writes are legalised: any value
may be written, and a legal one is kept.  A write of `v` to an interrupt's word
keeps `warlValue v`: bit `0` for `clicintip` and `clicintie`, `clicintctl` with
its always-one bits set, and `clicintattr` without its reserved bits, without
`shv` when selective hardware vectoring is off, and with a mode the page may set
(`clampAttrMode`).  A write of `cliccfg` keeps the clamped `cliccfgValue`.

* `warlValue_idem`, `cliccfgValue_bits`: a legal value is its own legal value.
* `writeCLICInterruptByte_of_field`: a write whose legal value is already stored
  changes nothing, not the `ipe` bits and not the interrupt test either.
* `readCLICInt_writeCLICInt`: reading back a byte just written through an
  interrupt page gives its legal value, while the interrupt stays visible.
* `writeCLICInt_readBack`: so writing back the byte just read, after a write at the
  same offset, changes nothing, for every cluster, offset and value.

The write-back needs the same page: `clampAttrMode` depends on the page, so a
mode one page may set can be one another page replaces.
-/

namespace RiscvTrap

namespace ClicIntState

@[simp] theorem setField_field (st : ClicIntState) (type : Nat) : st.setField type (st.field type) = st := by
  match type with
  | 0 | 1 | 2 => rfl
  | _ + 3 => rfl

/-- Byte `b` of the word `value32` is field `b`. -/
theorem value32_byte (st : ClicIntState) {b : Nat} (hb : b < 4) :
    (st.value32 >>> (b * 8)).setWidth 8 = st.field b := by
  apply BitVec.eq_of_getLsbD_eq
  intro ⟨i, hi⟩
  rcases (by omega : b = 0 ∨ b = 1 ∨ b = 2 ∨ b = 3) with rfl | rfl | rfl | rfl <;>
    simp (disch := omega) only [value32, field, BitVec.getLsbD_setWidth, BitVec.getLsbD_ushiftRight,
      BitVec.getLsbD_or, BitVec.getLsbD_shiftLeft, BitVec.getLsbD_ge, decide_eq_true, decide_eq_false,
      Bool.and_false, Bool.false_and, Bool.true_and, Bool.and_true, Bool.or_false, Bool.false_or,
      Bool.not_true, Bool.not_false] <;> congr 1 <;> omega

end ClicIntState

/-! ## The legal values -/

namespace Config

variable (cfg : Config)

/-- **A legal `cliccfg` is its own legal value**: with the read-only `nvbits` and
`nmbits` at most `CLICCFGMBITS`, `cliccfgW` keeps it as it is. -/
theorem cliccfgValue_bits (c : Cliccfg) (hv : c.nvbits = cfg.CLICSELHVEC) (hm : c.nmbits ≤ cfg.CLICCFGMBITS) :
    cfg.cliccfgValue c.bits = c := by
  obtain ⟨nv, nl, nm, hl, hn⟩ := c
  dsimp only at hv hm
  have hb : (Cliccfg.bits ⟨nv, nl, nm, hl, hn⟩).toNat = (if nv then 1 else 0) + nl * 2 + nm * 32 := by
    show (BitVec.ofNat 8 ((if nv then 1 else 0) + nl * 2 + nm * 32)).toNat = _
    rw [BitVec.toNat_ofNat]; split <;> omega
  have hl' : ((Cliccfg.bits ⟨nv, nl, nm, hl, hn⟩).toNat >>> 1) % 16 = nl := by
    rw [hb, Nat.shiftRight_eq_div_pow]; split <;> omega
  have hm' : ((Cliccfg.bits ⟨nv, nl, nm, hl, hn⟩).toNat >>> 5) % 4 = nm := by
    rw [hb, Nat.shiftRight_eq_div_pow]; split <;> omega
  simp only [cliccfgValue, Cliccfg.mk.injEq]
  exact ⟨hv.symm, by rw [hl', Nat.min_eq_left hl], by rw [hm', Nat.min_eq_left hm]⟩

theorem cliccfgValue_idem (v : BitVec 8) : cfg.cliccfgValue (cfg.cliccfgValue v).bits = cfg.cliccfgValue v :=
  cfg.cliccfgValue_bits _ rfl (Nat.min_le_right _ _)

end Config

namespace Hart

variable (cfg : Config) (cc : Cliccfg) (h : Hart)

/-- The `clicintattr` value `writeCLICInterruptAttr` keeps. -/
def attrValue (newValue : BitVec 8) (pageMode : Mode) : BitVec 8 :=
  let intMode := Mode.ofField (attrMode newValue)
  let attr := newValue &&& ~~~0x38#8
  let attr := if !cc.nvbits then attr &&& ~~~1#8 else attr
  attrWithMode attr (clampAttrMode cfg intMode pageMode)

/-- The value a write of `newValue` to byte `byte` of an interrupt's word keeps,
through a page of mode `pageMode`. -/
def warlValue (byte : Nat) (newValue : BitVec 8) (pageMode : Mode) : BitVec 8 :=
  match byte with
  | 0 | 1 => if newValue.getLsbD 0 then 1 else 0
  | 2 => attrValue cfg cc newValue pageMode
  | _ => newValue ||| cfg.getCLICIntCtl1Bits

/-- The field write `writeCLICInterrupt` makes, by the byte of the word. -/
def writeCLICInterruptByte (intIndex byte : Nat) (newValue : BitVec 8) (pageMode : Mode) : Hart :=
  match byte with
  | 0 => h.writeCLICInterruptPending cfg cc intIndex newValue
  | 1 => h.writeCLICInterruptEnable cfg cc intIndex newValue
  | 2 => h.writeCLICInterruptAttr cfg cc intIndex newValue pageMode
  | _ => h.writeCLICInterruptCtl cfg cc intIndex newValue

theorem clampAttrMode_idem (m P : Mode) :
    clampAttrMode cfg (clampAttrMode cfg m P) P = clampAttrMode cfg m P := by
  unfold clampAttrMode
  split_ifs <;> simp_all

/-- Masking the low bits again, under the same mode, changes nothing. -/
theorem attrWithMode_and_idem (a m : BitVec 8) (c : Mode) :
    attrWithMode (attrWithMode (a &&& m) c &&& m) c = attrWithMode (a &&& m) c := by
  simp only [attrWithMode]
  generalize BitVec.ofNat 8 c.toNat <<< 6 = s
  generalize 0x3F#8 = k
  apply BitVec.eq_of_getLsbD_eq; intro i
  simp only [BitVec.getLsbD_and, BitVec.getLsbD_or]
  cases a.getLsbD i <;> cases m.getLsbD i <;> cases k.getLsbD i <;> cases s.getLsbD i <;> rfl

theorem attrValue_eq (v : BitVec 8) (P : Mode) :
    attrValue cfg cc v P = attrWithMode (v &&& (if !cc.nvbits then ~~~0x38#8 &&& ~~~1#8 else ~~~0x38#8))
      (clampAttrMode cfg (Mode.ofField (attrMode v)) P) := by
  simp only [attrValue]; split <;> simp only [BitVec.and_assoc]

theorem attrValue_idem (v : BitVec 8) (P : Mode) :
    attrValue cfg cc (attrValue cfg cc v P) P = attrValue cfg cc v P := by
  have hm : Mode.ofField (attrMode (attrValue cfg cc v P)) = clampAttrMode cfg (Mode.ofField (attrMode v)) P := by
    rw [attrValue, attrMode_attrWithMode, Mode.ofField_toNat]
  conv_lhs => rw [attrValue_eq, hm, clampAttrMode_idem, attrValue_eq]
  rw [attrValue_eq, attrWithMode_and_idem]

/-- **A legal value is its own legal value**, for every byte and page. -/
theorem warlValue_idem (byte : Nat) (v : BitVec 8) (P : Mode) :
    warlValue cfg cc byte (warlValue cfg cc byte v P) P = warlValue cfg cc byte v P := by
  match byte with
  | 0 | 1 => by_cases hv : v.getLsbD 0 = true <;> simp [warlValue, hv]
  | 2 => exact attrValue_idem cfg cc v P
  | _ + 3 => simp only [warlValue, BitVec.or_assoc, BitVec.or_self]

/-! ## One interrupt's field writes -/

theorem field_updateCLICInterruptField (i type : Nat) (v : BitVec 8) :
    ((h.updateCLICInterruptField cfg cc i type v).intState i).field type = v := by
  unfold updateCLICInterruptField; split
  · rw [(selFrame_riscvTestInterrupt cfg cc _).intState]; simp
  · rename_i he; exact not_not.mp he

theorem updateCLICInterruptField_of_field {i type : Nat} {v : BitVec 8} (he : (h.intState i).field type = v) :
    h.updateCLICInterruptField cfg cc i type v = h :=
  if_neg (not_not.mpr he)

theorem field_writeCLICInterruptIPE (type other i : Nat) (v : BitVec 8) :
    ((h.writeCLICInterruptIPE cfg cc type other i v).intState i).field type = if v.getLsbD 0 then 1 else 0 := by
  dsimp only [writeCLICInterruptIPE]; split
  · rw [updateCLICPendingEnable_intState]; simp
  · simp

/-- A pending or enable write of the bit already stored changes nothing: the field
is rewritten with its value and the pending+enabled state stays as it was. -/
theorem writeCLICInterruptIPE_of_field {type other i : Nat} {v : BitVec 8}
    (he : (h.intState i).field type = if v.getLsbD 0 then 1 else 0) :
    h.writeCLICInterruptIPE cfg cc type other i v = h := by
  have hs : h.setCLICInterruptField i type (if v.getLsbD 0 then 1 else 0) = h := by
    rw [← he, setCLICInterruptField, ClicIntState.setField_field, Function.update_eq_self]
  dsimp only [writeCLICInterruptIPE]
  rw [hs, if_neg]
  rw [he]; cases v.getLsbD 0 <;> simp

theorem field_writeCLICInterruptByte {b : Nat} (hb : b < 4) (i : Nat) (v : BitVec 8) (P : Mode) :
    ((h.writeCLICInterruptByte cfg cc i b v P).intState i).field b = warlValue cfg cc b v P := by
  match b, hb with
  | 0, _ => exact field_writeCLICInterruptIPE cfg cc h 0 1 i v
  | 1, _ => exact field_writeCLICInterruptIPE cfg cc h 1 0 i v
  | 2, _ => exact field_updateCLICInterruptField cfg cc h i 2 _
  | 3, _ => exact field_updateCLICInterruptField cfg cc h i 3 _

/-- **A write whose legal value is already stored changes nothing.** -/
theorem writeCLICInterruptByte_of_field {b : Nat} (hb : b < 4) {i : Nat} {v : BitVec 8} {P : Mode}
    (he : (h.intState i).field b = warlValue cfg cc b v P) : h.writeCLICInterruptByte cfg cc i b v P = h := by
  match b, hb with
  | 0, _ => exact writeCLICInterruptIPE_of_field cfg cc h he
  | 1, _ => exact writeCLICInterruptIPE_of_field cfg cc h he
  | 2, _ => exact updateCLICInterruptField_of_field cfg cc h he
  | 3, _ => exact updateCLICInterruptField_of_field cfg cc h he

end Hart

/-! ## The window -/

namespace Cluster

open Hart

variable (cfg : Config) (cl : Cluster)

theorem mapHart_of_eq {k : Nat} {f : Hart → Hart} (hf : f (cl.harts k) = cl.harts k) : cl.mapHart k f = cl := by
  rw [mapHart, hf, Function.update_eq_self]

theorem writeCLICInterrupt_eq (offset : Nat) (v : BitVec 8) :
    cl.writeCLICInterrupt cfg offset v =
      if cl.accessCLICInterrupt cfg offset then
        cl.mapHart (cfg.getCLICHartIndex offset) (·.writeCLICInterruptByte cfg cl.cliccfg
          (getCLICIntIndex offset) (getCLICWordByte offset) v (cfg.getCLICPageMode offset))
      else cl := rfl

/-- A byte of an interrupt page reads the field of that byte, of a visible
interrupt, and zero otherwise. -/
theorem readCLICInt_page {offset : Nat} (hp : getCLICPage offset ≠ 0) :
    cl.readCLICInt cfg offset =
      if cl.accessCLICInterrupt cfg offset then
        ((cl.harts (cfg.getCLICHartIndex offset)).intState (getCLICIntIndex offset)).field (getCLICWordByte offset)
      else 0 := by
  simp only [readCLICInt, if_pos hp, readCLICInterrupt]
  split
  · exact ClicIntState.value32_byte _ (Nat.mod_lt _ (by decide))
  · simp

theorem readCLICInt_zero : cl.readCLICInt cfg 0 = cl.cliccfg.bits := by
  simp [readCLICInt, getCLICPage, getCLICPageWord, getCLICWordByte]

theorem bits_cliccfgW (v : BitVec 8) : (cl.cliccfgW cfg v).cliccfg.bits = (cfg.cliccfgValue v).bits := by
  dsimp only [cliccfgW]; split
  · rfl
  · rename_i he; exact not_not.mp he

/-- **Reading back a byte just written** through an interrupt page gives its legal
value, while the interrupt stays visible through the page. -/
theorem readCLICInt_writeCLICInt {offset : Nat} (hp : getCLICPage offset ≠ 0) (v : BitVec 8)
    (ha : cl.accessCLICInterrupt cfg offset = true)
    (ha' : (cl.writeCLICInt cfg offset v).accessCLICInterrupt cfg offset = true) :
    (cl.writeCLICInt cfg offset v).readCLICInt cfg offset =
      warlValue cfg cl.cliccfg (getCLICWordByte offset) v (cfg.getCLICPageMode offset) := by
  rw [readCLICInt_page cfg _ hp, if_pos ha']
  simp only [writeCLICInt, if_pos hp, writeCLICInterrupt_eq, if_pos ha, mapHart, Function.update_same]
  exact field_writeCLICInterruptByte cfg _ _ (Nat.mod_lt _ (by decide)) _ _ _

theorem readCLICInt_writeCLICInt_int16 :
    ((new (Config.rv64 true) Host.flat default).writeCLICInt (Config.rv64 true) 4160 3).readCLICInt
      (Config.rv64 true) 4160 = 1 :=
  (readCLICInt_writeCLICInt _ _ (by decide) 3 (by decide) (by decide)).trans (by decide)

/-- The write-back on an interrupt page. -/
theorem writeCLICInterrupt_readBack (offset : Nat) (v : BitVec 8) :
    let cl₁ := cl.writeCLICInterrupt cfg offset v
    cl₁.writeCLICInterrupt cfg offset (if cl₁.accessCLICInterrupt cfg offset then
      ((cl₁.harts (cfg.getCLICHartIndex offset)).intState (getCLICIntIndex offset)).field (getCLICWordByte offset)
      else 0) = cl₁ := by
  intro cl₁
  have hb : getCLICWordByte offset < 4 := Nat.mod_lt _ (by decide)
  by_cases ha₁ : cl₁.accessCLICInterrupt cfg offset = true
  · rw [if_pos ha₁, writeCLICInterrupt_eq, if_pos ha₁]
    refine mapHart_of_eq _ (writeCLICInterruptByte_of_field cfg _ _ hb ?_)
    by_cases ha : cl.accessCLICInterrupt cfg offset = true
    · have hk : cl₁.harts (cfg.getCLICHartIndex offset) = (cl.harts (cfg.getCLICHartIndex offset)).writeCLICInterruptByte
          cfg cl.cliccfg (getCLICIntIndex offset) (getCLICWordByte offset) v (cfg.getCLICPageMode offset) := by
        simp only [cl₁, writeCLICInterrupt_eq, if_pos ha, mapHart, Function.update_same]
      have hcc : cl₁.cliccfg = cl.cliccfg := by
        simp only [cl₁, writeCLICInterrupt_eq]; split <;> rfl
      rw [hk, hcc, field_writeCLICInterruptByte cfg _ _ hb, warlValue_idem]
    · have hc : cl₁ = cl := if_neg ha
      exact absurd (hc ▸ ha₁) ha
  · rw [if_neg ha₁, writeCLICInterrupt_eq, if_neg ha₁]

/-- **Writing back what was just read changes nothing.**  After any write at an
offset, a write of the byte then read at that offset leaves the cluster as it is:
the interrupts, their `ipe` bits, every hart's state and `cliccfg`. -/
theorem writeCLICInt_readBack (offset : Nat) (v : BitVec 8) :
    (cl.writeCLICInt cfg offset v).writeCLICInt cfg offset ((cl.writeCLICInt cfg offset v).readCLICInt cfg offset) =
      cl.writeCLICInt cfg offset v := by
  generalize hc : cl.writeCLICInt cfg offset v = cl₁
  by_cases hp : getCLICPage offset = 0
  · by_cases h0 : offset = 0
    · subst h0
      have hc' : cl₁ = cl.cliccfgW cfg v := hc.symm
      have hb := bits_cliccfgW cfg cl v
      rw [readCLICInt_zero, writeCLICInt, if_neg (not_not.mpr hp), if_pos rfl, hc', hb, cliccfgW,
        cfg.cliccfgValue_idem, ← hb]
      exact if_neg (not_not.mpr rfl)
    · have hc' : cl₁ = cl := by
        rw [← hc]; simp only [writeCLICInt, hp, h0, if_false, ne_eq, not_true]
      rw [hc']
      simp only [writeCLICInt, hp, h0, if_false, ne_eq, not_true]
  · have hc' : cl₁ = cl.writeCLICInterrupt cfg offset v := by rw [← hc]; exact if_pos hp
    rw [writeCLICInt, if_pos hp, readCLICInt_page cfg _ hp, hc']
    exact writeCLICInterrupt_readBack cfg cl offset v

end Cluster

end RiscvTrap
