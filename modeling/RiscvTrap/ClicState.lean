import RiscvTrap.Interrupt

/-!
# CLIC interrupt state of one hart

The writers of a hart's CLIC state: the field writes behind the memory-mapped
window (`writeCLICInterruptPending`, `...Enable`, `...Attr`, `...Ctl`), the
pending+enabled mask `ipe` they keep (`updateCLICPendingEnable`, rebuilt by
`refreshCLICIPE` after a restore), the acknowledgement of an SHV interrupt and
the input wires (`updateCLICInput`).

`ClicInv` is what these writers keep: for every implemented interrupt, its `ipe`
bit is `clicintip && clicintie`, both of which are `0` or `1`, its `clicintctl`
has the always-one bits set and its `clicintattr.mode` is not the reserved `2`;
every `ipe` bit past the last interrupt is clear.  `clicInv_new` starts it;
each writer keeps it (`clicInv_writeCLICInterruptPending`, ...).  The pending and
enable writers recompute the old `ipe` bit from the fields and touch `ipe` only
when it changes, which is right only because `ClicInv` held before.
-/

namespace RiscvTrap

/-- The mode field of `clicintattr` set to `m`, its other bits kept. -/
def attrWithMode (attr : BitVec 8) (m : Mode) : BitVec 8 :=
  (attr &&& 0x3F#8) ||| (BitVec.ofNat 8 m.toNat <<< 6)

theorem attrMode_attrWithMode (attr : BitVec 8) (m : Mode) :
    attrMode (attrWithMode attr m) = m.toNat := by
  have hm := m.toNat_lt_four
  have hand : (attr &&& 0x3F#8).toNat = attr.toNat % 2 ^ 6 := by
    rw [BitVec.toNat_and]; exact Nat.and_pow_two_sub_one_eq_mod _ 6
  have hsh : (BitVec.ofNat 8 m.toNat <<< 6).toNat = 2 ^ 6 * m.toNat := by
    rw [BitVec.toNat_shiftLeft, BitVec.toNat_ofNat, Nat.shiftLeft_eq,
      Nat.mod_eq_of_lt (by omega : m.toNat < 2 ^ 8)]
    omega
  have hlt : attr.toNat % 2 ^ 6 < 2 ^ 6 := Nat.mod_lt _ (by decide)
  rw [attrMode, attrWithMode, BitVec.toNat_or, hand, hsh, Nat.or_comm,
    ← Nat.mul_add_lt_is_or hlt, Nat.shiftRight_eq_div_pow]
  omega

theorem getLsbD_one_shiftLeft {i j : Nat} (hi : i < 64) : (1#64 <<< j).getLsbD i = decide (i = j) := by
  simp only [BitVec.getLsbD_shiftLeft, BitVec.getLsbD_one]
  by_cases h : i = j <;> simp [h, hi] <;> omega

namespace ClicIntState

/-- What `ClicInv` asks of one implemented interrupt. -/
structure Valid (cfg : Config) (st : ClicIntState) : Prop where
  ip_bool : st.ip = 0 ∨ st.ip = 1
  ie_bool : st.ie = 0 ∨ st.ie = 1
  ctl_ones : st.ctl ||| cfg.getCLICIntCtl1Bits = st.ctl
  attr_mode : attrMode st.attr ≠ 2

end ClicIntState

namespace Hart

variable (cfg : Config) (cc : Cliccfg) (h : Hart)

/-- `setCLICInterruptField`. -/
def setCLICInterruptField (intIndex type : Nat) (newValue : BitVec 8) : Hart :=
  let st := (h.intState intIndex).setField type newValue
  { h with intState := Function.update h.intState intIndex st }

/-- `updateCLICInterruptField`: write a field, and test for interrupts if it
changed. -/
def updateCLICInterruptField (intIndex type : Nat) (newValue : BitVec 8) : Hart :=
  if (h.intState intIndex).field type ≠ newValue then
    (h.setCLICInterruptField intIndex type newValue).riscvTestInterrupt cfg cc
  else h

/-- `updateCLICPendingEnable`: set or clear the interrupt's `ipe` bit. -/
def updateCLICPendingEnable (intIndex : Nat) (newIPE : Bool) : Hart :=
  let wordIndex := intIndex / 64
  let bitIndex := intIndex % 64
  let mask : BitVec 64 := 1#64 <<< bitIndex
  let word := h.ipe wordIndex
  let word := if newIPE then word ||| mask else word &&& ~~~mask
  let h := { h with ipe := Function.update h.ipe wordIndex word }
  h.riscvTestInterrupt cfg cc

/-- `writeCLICInterruptPending` and `writeCLICInterruptEnable`: write bit `0` of
the value to field `type` (`clicintip` or `clicintie`), and update `ipe` if the
pending+enabled state, recomputed from the fields with the other one `other`,
changes. -/
def writeCLICInterruptIPE (type other intIndex : Nat) (newValue : BitVec 8) : Hart :=
  let st := h.intState intIndex
  let oldOther := st.field other ≠ 0
  let newBit := newValue.getLsbD 0
  let oldIPE := oldOther && st.field type ≠ 0
  let h := h.setCLICInterruptField intIndex type (if newBit then 1 else 0)
  let newIPE := oldOther && newBit
  if oldIPE ≠ newIPE then h.updateCLICPendingEnable cfg cc intIndex newIPE else h

/-- `writeCLICInterruptPending`. -/
def writeCLICInterruptPending (intIndex : Nat) (newValue : BitVec 8) : Hart :=
  h.writeCLICInterruptIPE cfg cc 0 1 intIndex newValue

/-- `writeCLICInterruptEnable`. -/
def writeCLICInterruptEnable (intIndex : Nat) (newValue : BitVec 8) : Hart :=
  h.writeCLICInterruptIPE cfg cc 1 0 intIndex newValue

/-- The mode `writeCLICInterruptAttr` keeps: the requested one, or the page's
where the request is not allowed. -/
def clampAttrMode (intMode pageMode : Mode) : Mode :=
  if pageMode < intMode ∨ cfg.CLICCFGMBITS = 0 ∨ intMode = .hypervisor ∨
      (cfg.CLICCFGMBITS < 2 ∧ intMode = .supervisor) ∨
      (intMode = .user ∧ cfg.arch &&& ISA_N = 0) then pageMode
  else intMode

/-- `writeCLICInterruptAttr`: clear the reserved bits, and `shv` without selective
hardware vectoring, and clamp the mode. -/
def writeCLICInterruptAttr (intIndex : Nat) (newValue : BitVec 8) (pageMode : Mode) : Hart :=
  let intMode := Mode.ofField (attrMode newValue)
  let attr := newValue &&& ~~~0x38#8
  let attr := if !cc.nvbits then attr &&& ~~~1#8 else attr
  let attr := attrWithMode attr (clampAttrMode cfg intMode pageMode)
  h.updateCLICInterruptField cfg cc intIndex 2 attr

/-- `writeCLICInterruptCtl`: the always-one bits are set. -/
def writeCLICInterruptCtl (intIndex : Nat) (newValue : BitVec 8) : Hart :=
  h.updateCLICInterruptField cfg cc intIndex 3 (newValue ||| cfg.getCLICIntCtl1Bits)

/-- One step of the second loop of `refreshCLICIPE`. -/
def setIPEBit (ipe : Nat → BitVec 64) (i : Nat) : Nat → BitVec 64 :=
  Function.update ipe (i / 64) (ipe (i / 64) ||| 1#64 <<< (i % 64))

/-- `refreshCLICIPE`: clear the `ipDWords` words of `ipe`, then set the bit of every
implemented interrupt that is pending and enabled. -/
def refreshCLICIPE : Hart :=
  let ipe := fun w => if w < cfg.ipDWords then 0 else h.ipe w
  let ipe := (List.range cfg.getIntNum).foldl
    (fun ipe i => if (h.intState i).ip ≠ 0 && (h.intState i).ie ≠ 0 then setIPEBit ipe i else ipe)
    ipe
  { h with ipe := ipe }

/-- `riscvAcknowledgeCLICInt`: an edge-triggered interrupt is cleared, a level one
refreshed. -/
def riscvAcknowledgeCLICInt (intIndex : Nat) : Hart :=
  let isEdge := attrTrig (h.intState intIndex).attr &&& 1 ≠ 0
  if isEdge then h.writeCLICInterruptPending cfg cc intIndex 0
  else h.refreshPendingAndEnabled cfg cc

/-- `updateCLICInput`: the wire of a CLIC interrupt changes.  The source keeps
`trig&1` and `trig&2` in `Bool` variables, whose typedef is not among the
sources; the model reads them as C's `_Bool` (non-zero is true), so an active-low
input is inverted by the exclusive or. -/
def updateCLICInput (intIndex : Nat) (newValue : Bool) : Hart :=
  let attr := (h.intState intIndex).attr
  let isEdge := attrTrig attr &&& 1 ≠ 0
  let activeLow := attrTrig attr &&& 2 ≠ 0
  let newValue := xor newValue activeLow
  if !isEdge || newValue then
    h.writeCLICInterruptPending cfg cc intIndex (if newValue then 1 else 0)
  else h

/-! ### The `ipe` bits -/

/-- Bit `i % 64` of word `i / 64` of `ipe`: the `ipe` bit of interrupt `i`. -/
def ipeBitAt (ipe : Nat → BitVec 64) (i : Nat) : Bool := (ipe (i / 64)).getLsbD (i % 64)

theorem ipeBitAt_update (ipe : Nat → BitVec 64) (i : Nat) (v : Bool) (j : Nat) :
    ipeBitAt (Function.update ipe (i / 64)
      (if v then ipe (i / 64) ||| 1#64 <<< (i % 64) else ipe (i / 64) &&& ~~~(1#64 <<< (i % 64)))) j =
      if j = i then v else ipeBitAt ipe j := by
  unfold ipeBitAt
  by_cases hw : j / 64 = i / 64
  · rw [hw, Function.update_same]
    have hi : i % 64 < 64 := Nat.mod_lt _ (by decide)
    have hj : j % 64 < 64 := Nat.mod_lt _ (by decide)
    have hb : j % 64 = i % 64 ↔ j = i := ⟨fun h => by omega, fun h => h ▸ rfl⟩
    cases v <;> by_cases hji : j = i <;> simp [getLsbD_one_shiftLeft hj, hb, hji, hi, hj]
  · have hji : j ≠ i := fun h => hw (h ▸ rfl)
    rw [Function.update_noteq hw]; simp [hji]

theorem ipeBitAt_setIPEBit (ipe : Nat → BitVec 64) (i j : Nat) :
    ipeBitAt (setIPEBit ipe i) j = (ipeBitAt ipe j || j = i) := by
  have := ipeBitAt_update ipe i true j
  simp only [if_true] at this
  unfold setIPEBit; rw [this]; split <;> simp_all

/-! ### The invariant -/

/-- What the CLIC writers keep, for every implemented interrupt. -/
structure ClicInv (h : Hart) : Prop where
  ipe_bit : ∀ i, ipeBitAt h.ipe i =
    (decide (i < cfg.getIntNum) && (h.intState i).ip ≠ 0 && (h.intState i).ie ≠ 0)
  valid : ∀ i < cfg.getIntNum, (h.intState i).Valid cfg

theorem clicInv_of_selFrame {h h' : Hart} (hf : SelFrame h h') (hi : ClicInv cfg h) :
    ClicInv cfg h' :=
  ⟨fun i => by rw [hf.ipe, hf.intState]; exact hi.ipe_bit i,
    fun i hn => by rw [hf.intState]; exact hi.valid i hn⟩

/-- A write to interrupt `i` keeps the invariant when it leaves the other
interrupts and their `ipe` bits alone, leaves `i` valid, and sets its `ipe` bit to
`clicintip && clicintie`. -/
theorem clicInv_update {h h' : Hart} (hi : ClicInv cfg h) {i : Nat} (hn : i < cfg.getIntNum)
    (hs : ∀ j ≠ i, h'.intState j = h.intState j)
    (hb : ∀ j ≠ i, ipeBitAt h'.ipe j = ipeBitAt h.ipe j)
    (hbi : ipeBitAt h'.ipe i = ((h'.intState i).ip ≠ 0 && (h'.intState i).ie ≠ 0))
    (hv : (h'.intState i).Valid cfg) : ClicInv cfg h' := by
  constructor
  · intro j
    by_cases hj : j = i
    · subst hj; simp [hbi, hn]
    · rw [hb j hj, hi.ipe_bit j, hs j hj]
  · intro j hj
    by_cases hji : j = i
    · subst hji; exact hv
    · rw [hs j hji]; exact hi.valid j hj

@[simp] theorem setCLICInterruptField_intState (i type : Nat) (v : BitVec 8) :
    (h.setCLICInterruptField i type v).intState =
      Function.update h.intState i ((h.intState i).setField type v) := rfl

@[simp] theorem setCLICInterruptField_ipe (i type : Nat) (v : BitVec 8) :
    (h.setCLICInterruptField i type v).ipe = h.ipe := rfl

theorem updateCLICPendingEnable_intState (i : Nat) (v : Bool) :
    (h.updateCLICPendingEnable cfg cc i v).intState = h.intState :=
  (selFrame_riscvTestInterrupt cfg cc _).intState

theorem ipeBitAt_updateCLICPendingEnable (i : Nat) (v : Bool) (j : Nat) :
    ipeBitAt (h.updateCLICPendingEnable cfg cc i v).ipe j = if j = i then v else ipeBitAt h.ipe j := by
  rw [updateCLICPendingEnable, (selFrame_riscvTestInterrupt cfg cc _).ipe]
  exact ipeBitAt_update h.ipe i v j

/-- The pending+enabled bit of an interrupt, from either field order. -/
theorem ipe_fields {type other : Nat} (ht : (type = 0 ∧ other = 1) ∨ (type = 1 ∧ other = 0))
    (st : ClicIntState) :
    (st.ip ≠ 0 && st.ie ≠ 0) = (st.field other ≠ 0 && st.field type ≠ 0) := by
  rcases ht with ⟨rfl, rfl⟩ | ⟨rfl, rfl⟩ <;> simp [ClicIntState.field, Bool.and_comm]

theorem valid_setField_bool {type : Nat} (ht : type = 0 ∨ type = 1) {st : ClicIntState}
    (hv : st.Valid cfg) (b : Bool) : (st.setField type (if b then 1 else 0)).Valid cfg := by
  have hb : (if b then (1 : BitVec 8) else 0) = 0 ∨ (if b then (1 : BitVec 8) else 0) = 1 := by
    cases b <;> simp
  rcases ht with rfl | rfl
  · exact ⟨hb, hv.ie_bool, hv.ctl_ones, hv.attr_mode⟩
  · exact ⟨hv.ip_bool, hb, hv.ctl_ones, hv.attr_mode⟩

/-- **The pending and enable writers keep the invariant.** -/
theorem clicInv_writeCLICInterruptIPE (hi : ClicInv cfg h) {type other : Nat}
    (ht : (type = 0 ∧ other = 1) ∨ (type = 1 ∧ other = 0)) {i : Nat} (hn : i < cfg.getIntNum)
    (v : BitVec 8) : ClicInv cfg (h.writeCLICInterruptIPE cfg cc type other i v) := by
  have hv := hi.valid i hn
  have hold : ipeBitAt h.ipe i =
      ((h.intState i).field other ≠ 0 && (h.intState i).field type ≠ 0) := by
    rw [← ipe_fields ht]; simpa [hn] using hi.ipe_bit i
  have htype : type = 0 ∨ type = 1 := by omega
  have hother : other = 0 ∨ other = 1 := by omega
  have hto : type ≠ other := by omega
  let st := (h.intState i).setField type (if v.getLsbD 0 then 1 else 0)
  have hv' : st.Valid cfg := valid_setField_bool cfg htype hv _
  have hst : ∀ j, (h.setCLICInterruptField i type (if v.getLsbD 0 then 1 else 0)).intState j =
      Function.update h.intState i st j := fun j => rfl
  have hnew : (st.ip ≠ 0 && st.ie ≠ 0) =
      ((h.intState i).field other ≠ 0 && v.getLsbD 0) := by
    rw [ipe_fields ht]
    have : st.field other = (h.intState i).field other := by
      rcases ht with ⟨rfl, rfl⟩ | ⟨rfl, rfl⟩ <;> rfl
    rw [this, ClicIntState.field_setField]
    cases v.getLsbD 0 <;> simp
  dsimp only [writeCLICInterruptIPE]
  split
  · refine clicInv_update cfg hi hn (fun j hj => ?_) (fun j hj => ?_) ?_ ?_
    · rw [updateCLICPendingEnable_intState, hst, Function.update_noteq hj]
    · rw [ipeBitAt_updateCLICPendingEnable, if_neg hj]; rfl
    · rw [ipeBitAt_updateCLICPendingEnable, if_pos rfl, updateCLICPendingEnable_intState, hst,
        Function.update_same, hnew]
    · rw [updateCLICPendingEnable_intState, hst, Function.update_same]; exact hv'
  · rename_i heq
    refine clicInv_update cfg hi hn (fun j hj => ?_) (fun j _ => rfl) ?_ ?_
    · rw [hst, Function.update_noteq hj]
    · rw [hst, Function.update_same, hnew, setCLICInterruptField_ipe, hold]
      simpa using heq
    · rw [hst, Function.update_same]; exact hv'

theorem clicInv_updateCLICInterruptField (hi : ClicInv cfg h) {type : Nat} (ht : 2 ≤ type)
    {i : Nat} (hn : i < cfg.getIntNum) {v : BitVec 8}
    (hv : ((h.intState i).setField type v).Valid cfg) :
    ClicInv cfg (h.updateCLICInterruptField cfg cc i type v) := by
  have hs : ∀ st : ClicIntState, (st.setField type v).ip = st.ip ∧ (st.setField type v).ie = st.ie := by
    intro st; unfold ClicIntState.setField; split <;> first | omega | exact ⟨rfl, rfl⟩
  unfold updateCLICInterruptField
  split
  · refine clicInv_of_selFrame cfg (selFrame_riscvTestInterrupt cfg cc _) ?_
    refine clicInv_update cfg hi hn (fun j hj => Function.update_noteq hj _ _) (fun j _ => rfl) ?_ ?_
    · simp only [setCLICInterruptField_intState, setCLICInterruptField_ipe, Function.update_same,
        (hs _).1, (hs _).2]
      simpa [hn] using hi.ipe_bit i
    · simpa using hv
  · exact hi

theorem clampAttrMode_ne_hypervisor {pageMode : Mode} (hp : pageMode ≠ .hypervisor) (m : Mode) :
    clampAttrMode cfg m pageMode ≠ .hypervisor := by
  unfold clampAttrMode; split
  · exact hp
  · rename_i hc; exact fun h => hc (.inr (.inr (.inl h)))

theorem clicInv_writeCLICInterruptAttr (hi : ClicInv cfg h) {i : Nat} (hn : i < cfg.getIntNum)
    (v : BitVec 8) {pageMode : Mode} (hp : pageMode ≠ .hypervisor) :
    ClicInv cfg (h.writeCLICInterruptAttr cfg cc i v pageMode) := by
  have hv := hi.valid i hn
  refine clicInv_updateCLICInterruptField cfg cc h hi (le_refl 2) hn
    ⟨hv.ip_bool, hv.ie_bool, hv.ctl_ones, ?_⟩
  show attrMode (attrWithMode _ _) ≠ 2
  rw [attrMode_attrWithMode]
  intro h2
  exact clampAttrMode_ne_hypervisor cfg hp _ (Mode.toNat_inj.mp (h2.trans rfl))

theorem clicInv_writeCLICInterruptCtl (hi : ClicInv cfg h) {i : Nat} (hn : i < cfg.getIntNum)
    (v : BitVec 8) : ClicInv cfg (h.writeCLICInterruptCtl cfg cc i v) := by
  have hv := hi.valid i hn
  refine clicInv_updateCLICInterruptField cfg cc h hi (by decide) hn
    ⟨hv.ip_bool, hv.ie_bool, ?_, hv.attr_mode⟩
  show v ||| cfg.getCLICIntCtl1Bits ||| cfg.getCLICIntCtl1Bits = v ||| cfg.getCLICIntCtl1Bits
  rw [BitVec.or_assoc, BitVec.or_self]

theorem clicInv_writeCLICInterruptPending (hi : ClicInv cfg h) {i : Nat} (hn : i < cfg.getIntNum)
    (v : BitVec 8) : ClicInv cfg (h.writeCLICInterruptPending cfg cc i v) :=
  clicInv_writeCLICInterruptIPE cfg cc h hi (.inl ⟨rfl, rfl⟩) hn v

theorem clicInv_writeCLICInterruptEnable (hi : ClicInv cfg h) {i : Nat} (hn : i < cfg.getIntNum)
    (v : BitVec 8) : ClicInv cfg (h.writeCLICInterruptEnable cfg cc i v) :=
  clicInv_writeCLICInterruptIPE cfg cc h hi (.inr ⟨rfl, rfl⟩) hn v

/-- Clearing the pending bit keeps the invariant for every index, implemented or
not: past the last interrupt the `ipe` bit stays clear. -/
theorem clicInv_writeCLICInterruptPending_zero (hi : ClicInv cfg h) (i : Nat) :
    ClicInv cfg (h.writeCLICInterruptPending cfg cc i 0) := by
  by_cases hn : i < cfg.getIntNum
  · exact clicInv_writeCLICInterruptPending cfg cc h hi hn 0
  have hst : ∀ v, ∀ j ≠ i, (h.setCLICInterruptField i 0 v).intState j = h.intState j :=
    fun _ j hj => Function.update_noteq hj _ _
  have hvalid : ∀ h' : Hart, (∀ j ≠ i, h'.intState j = h.intState j) →
      ∀ j < cfg.getIntNum, (h'.intState j).Valid cfg := fun h' hs j hj => by
    rw [hs j (by omega)]; exact hi.valid j hj
  simp only [writeCLICInterruptPending, writeCLICInterruptIPE]
  split
  · constructor
    · intro j
      rw [ipeBitAt_updateCLICPendingEnable, updateCLICPendingEnable_intState]
      split
      · subst j; simp [hn]
      · rw [setCLICInterruptField_ipe, hi.ipe_bit, hst _ j ‹_›]
    · exact hvalid _ fun j hj => by rw [updateCLICPendingEnable_intState, hst _ j hj]
  · constructor
    · intro j
      rw [setCLICInterruptField_ipe, hi.ipe_bit]
      by_cases hj : j = i
      · subst j; simp [hn]
      · rw [hst _ j hj]
    · exact hvalid _ (hst _)

/-! ### Rebuilding `ipe` -/

theorem ipeBitAt_foldl_setIPEBit (pe : Nat → Bool) (j : Nat) :
    ∀ (n : Nat) (ipe : Nat → BitVec 64),
      ipeBitAt ((List.range n).foldl (fun ipe i => if pe i then setIPEBit ipe i else ipe) ipe) j =
        (ipeBitAt ipe j || (decide (j < n) && pe j)) := by
  intro n
  induction n with
  | zero => intro ipe; simp
  | succ n ih =>
    intro ipe
    rw [List.range_succ, List.foldl_append, List.foldl_cons, List.foldl_nil]
    -- interrupt `n` is the only one the last step may add
    have hlt : (decide (j < n + 1) && pe j) = ((decide (j < n) && pe j) || (decide (j = n) && pe n)) := by
      by_cases hj : j = n
      · subst hj; simp
      · have hjn : j < n + 1 ↔ j < n := by omega
        simp [hj, hjn]
    rw [hlt, ← Bool.or_assoc, ← ih]
    split <;> rename_i hp <;> simp [ipeBitAt_setIPEBit, hp]

theorem ipDWords_spec (j : Nat) : j / 64 < cfg.ipDWords ∨ cfg.getIntNum ≤ j := by
  unfold Config.ipDWords; omega

/-- `refreshCLICIPE` sets the `ipe` bit of every implemented interrupt from its
fields, and leaves the words past `ipDWords` alone. -/
theorem ipeBitAt_refreshCLICIPE (j : Nat) :
    ipeBitAt (h.refreshCLICIPE cfg).ipe j =
      if j / 64 < cfg.ipDWords then
        (decide (j < cfg.getIntNum) && (h.intState j).ip ≠ 0 && (h.intState j).ie ≠ 0)
      else ipeBitAt h.ipe j := by
  simp only [refreshCLICIPE]
  rw [ipeBitAt_foldl_setIPEBit (fun i => (h.intState i).ip ≠ 0 && (h.intState i).ie ≠ 0) j]
  have hbits := ipDWords_spec cfg j
  by_cases hw : j / 64 < cfg.ipDWords
  · simp [ipeBitAt, hw, Bool.and_assoc]
  · have : ¬ j < cfg.getIntNum := by omega
    simp [ipeBitAt, hw, this]

/-- `refreshCLICIPE` makes the CLIC invariant hold as soon as the implemented
interrupts are valid and no `ipe` bit past them is set. -/
theorem clicInv_refreshCLICIPE (hz : ∀ j, cfg.getIntNum ≤ j → ipeBitAt h.ipe j = false)
    (hv : ∀ i < cfg.getIntNum, (h.intState i).Valid cfg) : ClicInv cfg (h.refreshCLICIPE cfg) where
  ipe_bit j := by
    rw [ipeBitAt_refreshCLICIPE]
    split
    · rfl
    · have hn : cfg.getIntNum ≤ j := by have := ipDWords_spec cfg j; omega
      simp [hz j hn, Nat.not_lt.mpr hn]
  valid := hv

/-- After a restore, `refreshCLICIPE` reproduces the `ipe` of the state whose
interrupts were restored. -/
theorem ipe_refreshCLICIPE {h' : Hart} (hz : ∀ j, cfg.getIntNum ≤ j → ipeBitAt h.ipe j = false)
    (hi' : ClicInv cfg h') (hs : ∀ i < cfg.getIntNum, h.intState i = h'.intState i) :
    (h.refreshCLICIPE cfg).ipe = h'.ipe := by
  funext w
  apply BitVec.eq_of_getLsbD_eq
  intro b
  have hb := b.isLt
  have hw : (w * 64 + b) / 64 = w := by omega
  have hm : (w * 64 + b) % 64 = b := by omega
  have := ipeBitAt_refreshCLICIPE cfg h (w * 64 + b)
  rw [ipeBitAt, hw, hm] at this
  rw [this, show (h'.ipe w).getLsbD b = ipeBitAt h'.ipe (w * 64 + b) by rw [ipeBitAt, hw, hm],
    hi'.ipe_bit]
  split
  · by_cases hn : w * 64 + b < cfg.getIntNum
    · simp [hn, hs _ hn]
    · simp [hn]
  · have hn : ¬ w * 64 + b < cfg.getIntNum := by have := ipDWords_spec cfg (w * 64 + b); omega
    rw [hz _ (Nat.le_of_not_lt hn)]
    simp [hn]

/-- No `ipe` bit past the implemented interrupts is set. -/
theorem ClicInv.ipe_high (hi : ClicInv cfg h) {j : Nat} (hj : cfg.getIntNum ≤ j) :
    ipeBitAt h.ipe j = false := by
  rw [hi.ipe_bit]; simp [Nat.not_lt.mpr hj]

/-! ### What the invariant gives the arbiter -/

/-- A valid interrupt never has the reserved mode, whatever `nmbits`. -/
theorem getCLICInterruptMode_ne_hypervisor {i : Nat} (ha : attrMode (h.intState i).attr ≠ 2) :
    h.getCLICInterruptMode cfg cc i ≠ .hypervisor := by
  have hlt : attrMode (h.intState i).attr < 4 := by
    unfold attrMode; have := (h.intState i).attr.isLt; omega
  dsimp only [getCLICInterruptMode]
  generalize attrMode (h.intState i).attr = a at ha hlt ⊢
  split_ifs <;> try decide
  all_goals obtain rfl | rfl | rfl : a = 0 ∨ a = 1 ∨ a = 3 := by omega
  all_goals decide

/-- The CLIC scan reads only implemented interrupts. -/
theorem clicIndices_lt (hi : ClicInv cfg h) {i : Nat} (hm : i ∈ h.clicIndices cfg) :
    i < cfg.getIntNum := by
  have hb := (mem_clicIndices cfg h).mp hm
  simp only [ipeBit, Bool.and_eq_true, decide_eq_true_eq] at hb
  have := hi.ipe_bit i
  rw [ipeBitAt, hb.2, eq_comm] at this
  simp only [Bool.and_eq_true, decide_eq_true_eq] at this
  exact this.1.1

/-- Under the invariant the arbiter never reaches its `VMI_ABORT`. -/
theorem effects_refreshPendingAndEnabledCLIC (hi : ClicInv cfg h) :
    (h.refreshPendingAndEnabledCLIC cfg cc).effects = h.effects := by
  have hmax := isLastMax_foldl (h.clicRank cfg cc) (clicIndices_sorted cfg h)
  simp only [refreshPendingAndEnabledCLIC, clicScan_eq]
  generalize (h.clicIndices cfg).foldl (lastMax (h.clicRank cfg cc)) none = r at hmax
  cases r with
  | none => rfl
  | some m =>
    have hm := getCLICInterruptMode_ne_hypervisor cfg cc h
      (hi.valid m (clicIndices_lt cfg h hi hmax.1)).attr_mode
    dsimp only [presentCLIC]
    split_ifs <;> simp_all [emit]

/-! ### What the CLIC writers leave alone -/

/-- `h'` agrees with `h` on the architectural core: the mode, Debug mode, the PC
and its detour, the CSRs, the last exception, the trap observers and the
save/restore flag. -/
structure CoreFrame (h h' : Hart) : Prop where
  mode : h'.mode = h.mode
  DM : h'.DM = h.DM
  pc : h'.pc = h.pc
  dsOffset : h'.dsOffset = h.dsOffset
  jumpBase : h'.jumpBase = h.jumpBase
  csr : h'.csr = h.csr
  compressed : h'.compressed = h.compressed
  exception : h'.exception = h.exception
  traps : h'.traps = h.traps
  inSaveRestore : h'.inSaveRestore = h.inSaveRestore

theorem CoreFrame.refl : CoreFrame h h := ⟨rfl, rfl, rfl, rfl, rfl, rfl, rfl, rfl, rfl, rfl⟩

theorem CoreFrame.trans {h₁ h₂ h₃ : Hart} (h12 : CoreFrame h₁ h₂) (h23 : CoreFrame h₂ h₃) :
    CoreFrame h₁ h₃ :=
  ⟨h23.mode.trans h12.mode, h23.DM.trans h12.DM, h23.pc.trans h12.pc,
    h23.dsOffset.trans h12.dsOffset, h23.jumpBase.trans h12.jumpBase, h23.csr.trans h12.csr,
    h23.compressed.trans h12.compressed, h23.exception.trans h12.exception,
    h23.traps.trans h12.traps, h23.inSaveRestore.trans h12.inSaveRestore⟩

theorem SelFrame.core {h h' : Hart} (hf : SelFrame h h') : CoreFrame h h' := by
  constructor <;> rw [hf]

theorem coreFrame_setCLICInterruptField (i type : Nat) (v : BitVec 8) :
    CoreFrame h (h.setCLICInterruptField i type v) := ⟨rfl, rfl, rfl, rfl, rfl, rfl, rfl, rfl, rfl, rfl⟩

theorem coreFrame_updateCLICPendingEnable (i : Nat) (v : Bool) :
    CoreFrame h (h.updateCLICPendingEnable cfg cc i v) :=
  (⟨rfl, rfl, rfl, rfl, rfl, rfl, rfl, rfl, rfl, rfl⟩ :
    CoreFrame h { h with ipe := Function.update h.ipe (i / 64) _ }).trans
    (selFrame_riscvTestInterrupt cfg cc _).core

theorem coreFrame_writeCLICInterruptIPE (type other i : Nat) (v : BitVec 8) :
    CoreFrame h (h.writeCLICInterruptIPE cfg cc type other i v) := by
  have h1 := coreFrame_setCLICInterruptField h i type (if v.getLsbD 0 then 1 else 0)
  dsimp only [writeCLICInterruptIPE]
  split
  · exact h1.trans (coreFrame_updateCLICPendingEnable cfg cc
      (h.setCLICInterruptField i type (if v.getLsbD 0 then 1 else 0)) i _)
  · exact h1

theorem coreFrame_updateCLICInterruptField (i type : Nat) (v : BitVec 8) :
    CoreFrame h (h.updateCLICInterruptField cfg cc i type v) := by
  unfold updateCLICInterruptField
  split
  · exact (coreFrame_setCLICInterruptField h i type v).trans
      (selFrame_riscvTestInterrupt cfg cc _).core
  · exact CoreFrame.refl h

theorem coreFrame_riscvAcknowledgeCLICInt (i : Nat) :
    CoreFrame h (h.riscvAcknowledgeCLICInt cfg cc i) := by
  dsimp only [riscvAcknowledgeCLICInt]
  split
  · exact coreFrame_writeCLICInterruptIPE cfg cc h _ _ _ _
  · exact (pickFrame_refreshPendingAndEnabled cfg cc h).sel.core

theorem coreFrame_updateCLICInput (i : Nat) (v : Bool) :
    CoreFrame h (h.updateCLICInput cfg cc i v) := by
  dsimp only [updateCLICInput]
  split
  · exact coreFrame_writeCLICInterruptIPE cfg cc h _ _ _ _
  · exact CoreFrame.refl h

end Hart

end RiscvTrap
