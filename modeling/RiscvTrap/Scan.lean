import RiscvTrap.Core

/-!
# The bit-scan loops

Both arbiters walk the set bits of a 64-bit word from the least significant up,

    do { if(pe&1) {...}; pe >>= 1; i++; } while(pe);

and keep the candidate they prefer.  `scanBits` is that loop, with a fuel bound
that `64` always meets.  This file says what it computes:

* `scanBits_eq_foldl`: the loop folds its step over `setBits`, the indices of the
  set bits in increasing order (`mem_setBits`, `setBits_sorted`).
* `foldl_lastMax`: replacing the candidate whenever its key is at most the new
  one's keeps the **last index of greatest key**.  Both arbiters are this fold for
  a key of their own (`(priv, intPri)` and `(mode<<8) | clicintctl`).
-/

namespace RiscvTrap

variable {α : Type}

/-- The source's scan of the set bits of `pe`, numbered from `i`. -/
def scanBits (f : α → Nat → α) : Nat → BitVec 64 → Nat → α → α
  | 0, _, _, a => a
  | fuel + 1, pe, i, a =>
    if pe = 0 then a
    else scanBits f fuel (pe >>> 1) (i + 1) (if pe.getLsbD 0 then f a i else a)

/-- The indices `i + j` (`j < n`) of the set bits of `pe`, in increasing order. -/
def setBits : Nat → BitVec 64 → Nat → List Nat
  | 0, _, _ => []
  | n + 1, pe, i => (if pe.getLsbD 0 then [i] else []) ++ setBits n (pe >>> 1) (i + 1)

theorem setBits_zero_word (n i : Nat) : setBits n 0 i = [] := by
  induction n generalizing i with
  | zero => rfl
  | succ n ih => simpa [setBits] using ih (i + 1)

theorem mem_setBits {n : Nat} {pe : BitVec 64} {i k : Nat} :
    k ∈ setBits n pe i ↔ i ≤ k ∧ k < i + n ∧ pe.getLsbD (k - i) = true := by
  induction n generalizing pe i with
  | zero => simp [setBits]; omega
  | succ n ih =>
    simp only [setBits, List.mem_append, ih, BitVec.getLsbD_ushiftRight]
    rcases Nat.lt_trichotomy k i with hk | rfl | hk
    · have : (k ∈ (if pe.getLsbD 0 = true then [i] else [])) ↔ False := by
        split <;> simp; omega
      rw [this, false_or]; omega
    · split <;> simp_all
    · have hki : 1 + (k - (i + 1)) = k - i := by omega
      have hne : (k ∈ (if pe.getLsbD 0 = true then [i] else [])) ↔ False := by
        split <;> simp; omega
      rw [hne, false_or, hki]
      constructor
      · rintro ⟨h1, h2, h3⟩; exact ⟨by omega, by omega, h3⟩
      · rintro ⟨h1, h2, h3⟩; exact ⟨by omega, by omega, h3⟩

theorem setBits_sorted (n : Nat) (pe : BitVec 64) (i : Nat) :
    (setBits n pe i).Pairwise (· < ·) := by
  induction n generalizing pe i with
  | zero => exact List.Pairwise.nil
  | succ n ih =>
    refine List.pairwise_append.mpr ⟨by split <;> simp, ih _ _, ?_⟩
    intro a ha b hb
    have := (mem_setBits.mp hb).1
    split at ha <;> simp_all; omega

theorem scanBits_eq_foldl (f : α → Nat → α) (n : Nat) (pe : BitVec 64) (i : Nat) (a : α) :
    scanBits f n pe i a = (setBits n pe i).foldl f a := by
  induction n generalizing pe i a with
  | zero => rfl
  | succ n ih =>
    unfold scanBits setBits
    by_cases h0 : pe = 0
    · subst h0; simpa [setBits_zero_word] using (setBits_zero_word n (i + 1)).symm ▸ rfl
    · simp only [h0, if_false, ih, List.foldl_append]
      split <;> rfl

/-- Sixty-four shifts empty a 64-bit word, so fuel `64` visits every set bit. -/
theorem setBits_64_complete {pe : BitVec 64} {j : Nat} (hj : pe.getLsbD j = true) :
    j ∈ setBits 64 pe 0 := by
  have := BitVec.lt_of_getLsbD hj
  exact mem_setBits.mpr ⟨Nat.zero_le _, by omega, by simpa using hj⟩

/-! ## Last index of greatest key -/

/-- One step of the arbiters: the candidate `k` replaces the kept one when the kept
key is at most `k`'s. -/
def lastMax (key : Nat → Nat) : Option Nat → Nat → Option Nat
  | none, k => some k
  | some m, k => if key m ≤ key k then some k else some m

/-- `r` is the last index of greatest key in `l` (`none` when `l` is empty). -/
def IsLastMax (key : Nat → Nat) (l : List Nat) (r : Option Nat) : Prop :=
  match r with
  | none => l = []
  | some m => m ∈ l ∧ ∀ j ∈ l, key j < key m ∨ (key j = key m ∧ j ≤ m)

theorem isLastMax_lastMax (key : Nat → Nat) {p : List Nat} {r : Option Nat} {k : Nat}
    (hr : IsLastMax key p r) (hk : ∀ j ∈ p, j < k) :
    IsLastMax key (p ++ [k]) (lastMax key r k) := by
  cases r with
  | none => simp_all [IsLastMax, lastMax]
  | some m =>
    obtain ⟨hm, hmax⟩ := hr
    by_cases hmk : key m ≤ key k
    · simp only [lastMax, hmk, if_true]
      refine ⟨by simp, fun j hj => ?_⟩
      rcases List.mem_append.mp hj with hj | hj
      · have := hk j hj; rcases hmax j hj with h | h <;> omega
      · simp_all
    · simp only [lastMax, hmk, if_false]
      refine ⟨List.mem_append_left _ hm, fun j hj => ?_⟩
      rcases List.mem_append.mp hj with hj | hj
      · exact hmax j hj
      · simp at hj; subst hj; omega

/-- **The arbiters' fold keeps the last index of greatest key.** -/
theorem foldl_lastMax (key : Nat → Nat) :
    ∀ (l p : List Nat) (r : Option Nat), IsLastMax key p r → (p ++ l).Pairwise (· < ·) →
      IsLastMax key (p ++ l) (l.foldl (lastMax key) r) := by
  intro l
  induction l with
  | nil => intro p r hr _; simpa using hr
  | cons k l ih =>
    intro p r hr hs
    have hk : ∀ j ∈ p, j < k := fun j hj =>
      (List.pairwise_append.mp hs).2.2 j hj k (List.mem_cons_self _ _)
    simpa using ih (p ++ [k]) _ (isLastMax_lastMax key hr hk) (by simpa using hs)

theorem isLastMax_nil (key : Nat → Nat) : IsLastMax key [] none := rfl

theorem isLastMax_foldl (key : Nat → Nat) {l : List Nat} (hs : l.Pairwise (· < ·)) :
    IsLastMax key l (l.foldl (lastMax key) none) := by
  simpa using foldl_lastMax key l [] none (isLastMax_nil key) (by simpa using hs)

theorem isLastMax_none_iff {key : Nat → Nat} {l : List Nat} {r : Option Nat}
    (h : IsLastMax key l r) : r = none ↔ l = [] := by
  cases r with
  | none => exact ⟨fun _ => h, fun _ => rfl⟩
  | some m => exact ⟨nofun, fun hl => by simp [hl, IsLastMax] at h⟩

/-- Last index of the lexicographically greatest `(f j, g j)`. -/
def LexLastMax (f g : Nat → Nat) (l : List Nat) (m : Nat) : Prop :=
  m ∈ l ∧ ∀ j ∈ l, f j < f m ∨ (f j = f m ∧ (g j < g m ∨ (g j = g m ∧ j ≤ m)))

/-- A key `f j * B + g j` with `g j < B` orders indices as `(f j, g j)` does. -/
theorem lexLastMax_of_isLastMax {f g : Nat → Nat} {B : Nat} (hg : ∀ j, g j < B)
    {l : List Nat} {m : Nat} (h : IsLastMax (fun j => f j * B + g j) l (some m)) :
    LexLastMax f g l m := by
  refine ⟨h.1, fun j hj => ?_⟩
  have hgj := hg j
  have hgm := hg m
  have hkey : f j * B + g j < f m * B + g m ∨ (f j * B + g j = f m * B + g m ∧ j ≤ m) :=
    h.2 j hj
  rcases Nat.lt_trichotomy (f j) (f m) with hf | hf | hf
  · exact .inl hf
  · rw [hf] at hkey; exact .inr ⟨hf, by omega⟩
  · have : (f m + 1) * B ≤ f j * B := Nat.mul_le_mul_right B hf
    rw [Nat.succ_mul] at this; omega

/-! ## Two-level scans -/

theorem foldl_flatMap {β γ : Type} (f : α → β → α) (g : γ → List β) (l : List γ) (a : α) :
    (l.flatMap g).foldl f a = l.foldl (fun a x => (g x).foldl f a) a := by
  induction l generalizing a with
  | nil => rfl
  | cons x l ih => simp [List.flatMap_cons, List.foldl_append, ih]

end RiscvTrap
