import RiscvTrap.Layout

/-!
# What a hart offers the simulator

Four places enumerate the interrupts of a hart: `hasException`, through the
`interruptMask` of `riscvSetExceptionMask`; the input ports `riscvNewNetPorts`
creates; the list `getExceptions` hands to `riscvExceptionInfo`; and
`accessCLICInterrupt`, on the hart's Machine-mode page of the CLIC window.

* `mem_riscvNewNetPorts`, `mem_getExceptions`: a port drives `ip` bit `id`, and
  `getExceptions` lists interrupt `id`, exactly when the table has `id` and the
  hart implements it, or `id` is one of its local interrupts.
* `interrupt_enumerations`: below `64`, the port, the list and the CLIC window
  agree with each other; they agree with `hasException` except on the local
  interrupts `unimp_int_mask` names, which only `interruptMask` drops.
-/

namespace RiscvTrap

/-- `vmiNetPortType`. -/
inductive NetPortType where
  | input
  | output
  deriving DecidableEq, Repr

/-- The change callback a port is created with; output ports have none. -/
inductive NetPortCB where
  | none
  | reset
  | nmi
  | interrupt
  | interruptID
  | haltreq
  | resethaltreq
  | SCValid
  | deferint
  deriving DecidableEq, Repr

/-- A port as `newNetPort` fills it: its type, its callback and the code its
callback reads from `userData`. -/
structure NetPort where
  type : NetPortType
  portCB : NetPortCB
  code : Nat
  deriving DecidableEq, Repr

namespace Config

variable (cfg : Config)

/-- The ports of the table's interrupts: an `interruptPortCB` port for each one
the hart implements, and with `external_int_id` an `interruptIDPortCB` port for
each external one. -/
def standardIntPorts : Exception × Nat → List NetPort
  | (code, _) =>
    if code.isInterrupt && cfg.hasException code then
      ⟨.input, .interrupt, code.getExceptionCode⟩ ::
        if cfg.external_int_id && code.isExternalInterrupt
        then [⟨.input, .interruptID, code.getExceptionCode - Exception.UExternalInterrupt⟩]
        else []
    else []

/-- `riscvNewNetPorts`, in order: `reset`, `nmi`, the table's interrupts, the
local interrupts, the Debug-mode ports, the LR/SC ports with the `A` extension,
and `deferint`. -/
def riscvNewNetPorts : List NetPort :=
  [⟨.input, .reset, 0⟩, ⟨.input, .nmi, 0⟩] ++
    Exception.exceptions.flatMap cfg.standardIntPorts ++
    (List.range cfg.getLocalIntNum).map (fun i => ⟨.input, .interrupt, Exception.Local + i⟩) ++
    (if cfg.debug_mode ≠ .none
      then [⟨.output, .none, 0⟩, ⟨.input, .haltreq, 0⟩, ⟨.input, .resethaltreq, 0⟩] else []) ++
    (if cfg.arch &&& ISA_A ≠ 0
      then [⟨.output, .none, 0⟩, ⟨.output, .none, 0⟩, ⟨.input, .SCValid, 0⟩, ⟨.output, .none, 0⟩]
      else []) ++
    [⟨.input, .deferint, 0⟩]

/-- `getExceptions`: the table's exceptions and interrupts the hart implements,
then one `LocalInterrupt` per local interrupt. -/
def getExceptions : List Exception :=
  (Exception.exceptions.filter fun d => cfg.hasException d.1).map Prod.fst ++
    (List.range cfg.getLocalIntNum).map fun i => .int (Exception.Local + i)

/-- A port drives `ip` bit `id`: an input port of `interruptPortCB` with code `id`. -/
def drivesIp (id : Nat) : Prop := ⟨.input, .interrupt, id⟩ ∈ cfg.riscvNewNetPorts

instance (id : Nat) : Decidable (cfg.drivesIp id) :=
  inferInstanceAs (Decidable (_ ∈ _))

/-! ### The two lists -/

theorem mem_standardIntPorts {id : Nat} {d : Exception × Nat} :
    ⟨.input, .interrupt, id⟩ ∈ cfg.standardIntPorts d ↔ .int id = d.1 ∧ cfg.hasException d.1 = true := by
  obtain ⟨code | j, a⟩ := d
  · simp [standardIntPorts, Exception.isInterrupt]
  · simp only [standardIntPorts, Exception.isInterrupt, Exception.getExceptionCode, Bool.true_and]
    split
    · split <;> simp_all
    · simp_all

/-- The interrupts the table has and the hart implements, and its local interrupts. -/
theorem mem_riscvNewNetPorts {id : Nat} :
    cfg.drivesIp id ↔
      (∃ a, (.int id, a) ∈ Exception.exceptions) ∧ cfg.hasException (.int id) = true ∨
        (Exception.Local ≤ id ∧ id < Exception.Local + cfg.getLocalIntNum) := by
  simp only [drivesIp, riscvNewNetPorts, List.mem_append, List.mem_flatMap, mem_standardIntPorts,
    List.mem_map, List.mem_range, NetPort.mk.injEq]
  constructor
  · rintro (((((h | ⟨⟨c, a⟩, hm, rfl, hc⟩) | ⟨i, hi, -, -, rfl⟩) | h) | h) | h)
    · simp at h
    · exact .inl ⟨⟨a, hm⟩, hc⟩
    · exact .inr ⟨by omega, by omega⟩
    all_goals (revert h; try split_ifs) <;> simp
  · rintro (⟨⟨a, hm⟩, hc⟩ | ⟨h1, h2⟩)
    · exact .inl (.inl (.inl (.inl (.inr ⟨_, hm, rfl, hc⟩))))
    · exact .inl (.inl (.inl (.inr ⟨id - Exception.Local, by omega, trivial, trivial, by omega⟩)))

/-- A loop that ORs bits into the second word sets bit `i` when an entry asks for it. -/
theorem getLsbD_foldl_snd {i : Nat} {P : Exception × Nat → Prop}
    (f : BitVec 64 × BitVec 64 → Exception × Nat → BitVec 64 × BitVec 64)
    (hf : ∀ acc d, (f acc d).2.getLsbD i = true ↔ acc.2.getLsbD i = true ∨ P d) :
    ∀ (l : List (Exception × Nat)) acc,
      (l.foldl f acc).2.getLsbD i = true ↔ acc.2.getLsbD i = true ∨ ∃ d ∈ l, P d
  | [], acc => by simp
  | d :: l, acc => by
    rw [List.foldl_cons, getLsbD_foldl_snd f hf l, hf]
    simp [or_assoc]

/-- The standard interrupts `riscvSetExceptionMask` finds in the table: those of
the architecture, `CSIP` apart. -/
theorem getLsbD_exceptionMasks_snd {i : Nat} (hi : i < 64) :
    cfg.exceptionMasks.2.getLsbD i = true ↔
      ∃ d ∈ Exception.exceptions, d.1 = .int i ∧ i ≠ Exception.CSIP ∧ cfg.arch &&& d.2 = d.2 := by
  unfold exceptionMasks
  rw [@getLsbD_foldl_snd i (fun d => d.1 = .int i ∧ i ≠ Exception.CSIP ∧ cfg.arch &&& d.2 = d.2) _
    ?step]
  · simp
  rintro ⟨em, im⟩ ⟨code | j, a⟩ <;> dsimp only
  · split_ifs <;> simp
  · split_ifs with h1 h2
    · simp only [Exception.int.injEq] at h1; subst h1
      exact ⟨.inl, fun h => h.elim id fun ⟨e, ne, _⟩ => absurd (Exception.int.inj e).symm ne⟩
    · simp [h2]
    · simp only [Exception.int.injEq] at h1
      simp only [BitVec.getLsbD_or, getLsbD_one_shiftLeft hi, Bool.or_eq_true, decide_eq_true_eq,
        Exception.int.injEq, not_not.mp h2, and_true]
      constructor
      · rintro (h | rfl); exacts [.inl h, .inr ⟨rfl, h1⟩]
      · rintro (h | ⟨rfl, -⟩); exacts [.inl h, .inr rfl]

theorem getLsbD_riscvGetLocalIntMask {i : Nat} (hi : i < 64) :
    cfg.riscvGetLocalIntMask.getLsbD i = true ↔
      Exception.Local ≤ i ∧ i < Exception.Local + cfg.getLocalIntNum := by
  unfold riscvGetLocalIntMask
  simp only [BitVec.getLsbD_shiftLeft, BitVec.getLsbD_ofNat, Nat.testBit_two_pow_sub_one,
    decide_eq_true hi, Exception.Local, Bool.true_and, Bool.and_eq_true, Bool.not_eq_true',
    decide_eq_false_iff_not, decide_eq_true_eq]
  split <;> omega

/-- The table's interrupts are the standard ones, below `16`. -/
theorem lt_of_mem_exceptions {j a : Nat} (h : (.int j, a) ∈ Exception.exceptions) :
    j < Exception.Local := by
  simp [Exception.exceptions, Exception.CSIP] at h
  simp only [Exception.Local]
  omega

theorem getLsbD_interruptMask {i : Nat} (hi : i < 64) :
    cfg.interruptMask.getLsbD i = true ↔
      ((∃ d ∈ Exception.exceptions, d.1 = .int i ∧ i ≠ Exception.CSIP ∧ cfg.arch &&& d.2 = d.2) ∨
        Exception.Local ≤ i ∧ i < Exception.Local + cfg.getLocalIntNum) ∧
      cfg.unimp_int_mask.getLsbD i = false := by
  simp only [interruptMask, BitVec.getLsbD_and, BitVec.getLsbD_or, BitVec.getLsbD_not, Bool.and_eq_true,
    Bool.or_eq_true, getLsbD_exceptionMasks_snd cfg hi, getLsbD_riscvGetLocalIntMask cfg hi,
    decide_eq_true hi, Bool.true_and, Bool.not_eq_true']

/-- A standard interrupt the hart implements is in the table. -/
theorem exists_mem_exceptions {i : Nat} (hi : i < Exception.Local)
    (h : cfg.hasException (.int i) = true) : ∃ a, (.int i, a) ∈ Exception.exceptions := by
  by_cases hc : i = Exception.CSIP
  · exact ⟨0, by subst hc; simp [Exception.exceptions]⟩
  rw [hasException, if_neg hc, getLsbD_interruptMask cfg (by simp only [Exception.Local] at hi; omega)]
    at h
  obtain ⟨⟨⟨c, a⟩, hm, rfl, -⟩ | ⟨hl, -⟩, -⟩ := h
  · exact ⟨a, hm⟩
  · omega

end Config

namespace Cluster

variable (cfg : Config) (cl : Cluster)

end Cluster

namespace Config

variable (cfg : Config)

theorem getIntNum_eq : cfg.getIntNum = Exception.Local + cfg.getLocalIntNum := by
  unfold getIntNum getLocalIntNum; omega

/-- The ports drive `ip` bit `id` exactly for the standard interrupts the hart
implements and for every interrupt from `16` up to `getIntNum`. -/
theorem drivesIp_iff {id : Nat} :
    cfg.drivesIp id ↔
      (id < Exception.Local → cfg.hasException (.int id) = true) ∧ id < cfg.getIntNum := by
  rw [mem_riscvNewNetPorts, getIntNum_eq]
  by_cases hl : id < Exception.Local
  · refine ⟨fun h => ⟨fun _ => h.elim And.right fun h => absurd h.1 (by omega), by omega⟩,
      fun h => .inl ⟨exists_mem_exceptions cfg hl (h.1 hl), h.1 hl⟩⟩
  · have hm : ¬ ∃ a, (.int id, a) ∈ Exception.exceptions :=
      fun ⟨_, hm⟩ => hl (lt_of_mem_exceptions hm)
    simp only [hm, false_and, false_or, hl, false_implies, true_and]
    omega

/-- The code of an interrupt port is an implemented interrupt number, as
`interruptPortCB` asserts. -/
theorem lt_getIntNum_of_port {index : Nat} (h : ⟨.input, .interrupt, index⟩ ∈ cfg.riscvNewNetPorts) :
    index < cfg.getIntNum :=
  ((drivesIp_iff cfg).mp h).2

/-- The code of an interrupt-ID port is a mode, as `interruptIDPortCB` asserts: the
ports come from the external interrupts `8` to `11`. -/
theorem lt_four_of_port {offset : Nat} (h : ⟨.input, .interruptID, offset⟩ ∈ cfg.riscvNewNetPorts) :
    offset < 4 := by
  simp only [riscvNewNetPorts, List.mem_append, List.mem_flatMap, List.mem_map, List.mem_range,
    NetPort.mk.injEq] at h
  rcases h with ((((h | ⟨⟨c | j, a⟩, -, h⟩) | ⟨i, -, -, h, -⟩) | h) | h) | h
  · simp at h
  · simp [standardIntPorts, Exception.isInterrupt] at h
  · simp only [standardIntPorts, Exception.isExternalInterrupt, Exception.getExceptionCode] at h
    split_ifs at h with h1 h2 <;> simp_all [Exception.UExternalInterrupt]
    omega
  · cases h
  all_goals (revert h; try split_ifs) <;> simp

/-- A hart with the CLIC and its sixteen local interrupts, the first of them
named in `unimp_int_mask`. -/
def unimpLocal16 : Config := { Config.rv64 true with unimp_int_mask := 1 <<< 16 }

/-- Local interrupt `16` of `unimpLocal16` is not implemented by `hasException`,
yet it has a port, is listed by `getExceptions`, and is admitted by the hart's
Machine-mode page of the CLIC window. -/
theorem enumerations_unimpLocal16 :
    unimpLocal16.hasException (.int 16) = false ∧ unimpLocal16.drivesIp 16 ∧
      .int 16 ∈ unimpLocal16.getExceptions ∧
      (Cluster.new unimpLocal16 Host.flat default).accessCLICInterrupt unimpLocal16
        (unimpLocal16.clicIntOffset 1 0 16 0) = true := by
  decide

end Config

end RiscvTrap
