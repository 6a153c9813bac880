import TrapDispatch.Interrupt.Registers
import TrapDispatch.Proofs.Lanes

/-!
# Bytes through words

A block of plain memory that is reached in words only is as good as one with byte accesses of its
own. Each byte of a word has its place there, the one that is written is the only one to change,
and so every sequence of accesses of either width gives the same and leaves the same bytes.
-/

namespace TrapDispatch

inductive RegisterAccess where
  | read32 (offset : UInt64)
  | write32 (offset : UInt64) (word : UInt32)
  | read8 (offset : UInt64)
  | write8 (offset : UInt64) (byte : UInt8)
  deriving DecidableEq

inductive RegisterReply where
  | word (word : UInt32)
  | byte (byte : UInt8)
  | done
  deriving DecidableEq

def RegisterBlock.perform {m : Type → Type u} [Monad m] (block : RegisterBlock m) :
    RegisterAccess → m RegisterReply
  | .read32 offset => return .word (← block.read32 offset)
  | .write32 offset word => do
    block.write32 offset word
    return .done
  | .read8 offset => return .byte (← block.read8 offset)
  | .write8 offset byte => do
    block.write8 offset byte
    return .done

/-! ### Computations alike -/

/-- Whether two computations give the same and leave the same, wherever what they start from is
the same as far as a relation says. -/
def Alike {σ α : Type} (same : σ → σ → Prop) (one other : StateM σ α) : Prop :=
  ∀ state later, same state later →
    (one state).1 = (other later).1 ∧ same (one state).2 (other later).2

namespace Alike

variable {σ α β : Type} {same : σ → σ → Prop} {one other : StateM σ α}

theorem pure (value : α) : Alike same (pure value : StateM σ α) (pure value) :=
  fun _ _ hsame => ⟨rfl, hsame⟩

theorem bind {next later : α → StateM σ β} (h : Alike same one other)
    (hnext : ∀ value, Alike same (next value) (later value)) :
    Alike same (one >>= next) (other >>= later) := by
  intro state state' hsame
  obtain ⟨hvalue, hafter⟩ := h state state' hsame
  have hother : (other >>= later) state' = later (one state).1 (other state').2 := by
    rw [hvalue]
    rfl
  rw [hother]
  exact hnext (one state).1 _ _ hafter

theorem ite {c : Prop} {_ : Decidable c} {first second : StateM σ α} (h : Alike same one other)
    (hsecond : Alike same first second) :
    Alike same (if c then one else first) (if c then other else second) := by
  split
  · exact h
  · exact hsecond

theorem mapM {step step' : β → StateM σ α} (h : ∀ item, Alike same (step item) (step' item))
    (items : List β) : Alike same (items.mapM step) (items.mapM step') := by
  induction items with
  | nil => exact pure []
  | cons item rest ih =>
    rw [List.mapM_cons, List.mapM_cons]
    exact (h item).bind fun reply => ih.bind fun replies => pure (reply :: replies)

end Alike

structure RegisterBlock.Alike {σ : Type} (same : σ → σ → Prop)
    (one other : RegisterBlock (StateM σ)) : Prop where
  read32 : ∀ offset, TrapDispatch.Alike same (one.read32 offset) (other.read32 offset)
  write32 : ∀ offset word,
    TrapDispatch.Alike same (one.write32 offset word) (other.write32 offset word)
  read8 : ∀ offset, TrapDispatch.Alike same (one.read8 offset) (other.read8 offset)
  write8 : ∀ offset byte,
    TrapDispatch.Alike same (one.write8 offset byte) (other.write8 offset byte)

theorem RegisterBlock.Alike.perform {σ : Type} {same : σ → σ → Prop}
    {one other : RegisterBlock (StateM σ)} (h : one.Alike same other) (access : RegisterAccess) :
    TrapDispatch.Alike same (one.perform access) (other.perform access) := by
  cases access with
  | read32 offset => exact (h.read32 offset).bind fun _ => .pure _
  | write32 offset word => exact (h.write32 offset word).bind fun _ => .pure _
  | read8 offset => exact (h.read8 offset).bind fun _ => .pure _
  | write8 offset byte => exact (h.write8 offset byte).bind fun _ => .pure _

/-! ### Lanes -/

theorem lane_cases {lane : UInt64} (h : lane < 4) :
    lane = 0 ∨ lane = 1 ∨ lane = 2 ∨ lane = 3 := by
  have hlt : lane.toNat < 4 := UInt64.lt_iff_toNat_lt.mp h
  simp only [← UInt64.toNat_inj, UInt64.reduceToNat]
  omega

theorem and_three_lt (offset : UInt64) : offset &&& 3 < 4 := by
  rw [UInt64.lt_iff_toNat_lt, toNat_and_three]
  exact Nat.mod_lt _ (by decide)

/-- An offset is that of its word and a lane in there. -/
theorem wordOffset_add_lane (offset : UInt64) : wordOffset offset + (offset &&& 3) = offset := by
  have hlt := offset.toNat_lt
  apply UInt64.toNat_inj.mp
  rw [UInt64.toNat_add, toNat_wordOffset, toNat_and_three]
  omega

section

variable {shift other : UInt32}

theorem laneByte_or (h : shift.toNat < 32) (word more : UInt32) :
    laneByte (word ||| more) shift = laneByte word shift ||| laneByte more shift := by
  apply UInt8.eq_of_toBitVec_eq
  apply BitVec.eq_of_getLsbD_eq
  intro index hindex
  rw [UInt8.toBitVec_or, BitVec.getLsbD_or, getLsbD_laneByte h _ hindex,
    getLsbD_laneByte h _ hindex, getLsbD_laneByte h _ hindex, UInt32.toBitVec_or,
    BitVec.getLsbD_or]

/-- A byte that is alone in its word. -/
theorem laneByte_shiftLeft (h : shift.toNat + 8 ≤ 32) (hother : other.toNat + 8 ≤ 32)
    (hapart : shift = other ∨ shift.toNat + 8 ≤ other.toNat ∨ other.toNat + 8 ≤ shift.toNat)
    (byte : UInt8) :
    laneByte (byte.toUInt32 <<< shift) other = if shift = other then byte else 0 := by
  have hword : byte.toUInt32 <<< shift = withLaneByte 0 shift byte := by
    rw [withLaneByte, UInt32.zero_and, UInt32.zero_or]
  rw [hword]
  split
  next hsame => rw [← hsame, laneByte_withLaneByte h]
  next hne =>
    rw [laneByte_withLaneByte_apart (by omega) hother (hapart.resolve_left hne)]
    simp [laneByte]

theorem laneByte_wordOfBytes (b0 b1 b2 b3 : UInt8) :
    laneByte (wordOfBytes b0 b1 b2 b3) 0 = b0 ∧ laneByte (wordOfBytes b0 b1 b2 b3) 8 = b1 ∧
      laneByte (wordOfBytes b0 b1 b2 b3) 16 = b2 ∧ laneByte (wordOfBytes b0 b1 b2 b3) 24 = b3 := by
  have hword : wordOfBytes b0 b1 b2 b3 = b0.toUInt32 <<< 0 ||| b1.toUInt32 <<< 8 |||
      b2.toUInt32 <<< 16 ||| b3.toUInt32 <<< 24 := by
    simp [wordOfBytes]
  rw [hword]
  refine ⟨?_, ?_, ?_, ?_⟩ <;>
    rw [laneByte_or (by decide), laneByte_or (by decide), laneByte_or (by decide),
      laneByte_shiftLeft (by decide) (by decide) (by decide),
      laneByte_shiftLeft (by decide) (by decide) (by decide),
      laneByte_shiftLeft (by decide) (by decide) (by decide),
      laneByte_shiftLeft (by decide) (by decide) (by decide)] <;>
    simp

end

def laneStart (lane : UInt64) : UInt32 :=
  (lane * 8).toUInt32

theorem toNat_laneStart {lane : UInt64} (h : lane < 4) :
    (laneStart lane).toNat = lane.toNat * 8 := by
  rcases lane_cases h with rfl | rfl | rfl | rfl <;> decide

namespace ByteMemory

variable (memory : ByteMemory) {offset address lane : UInt64} {word : UInt32}

theorem laneByte_read32 (h : lane < 4) :
    laneByte (memory.read32 offset) (laneStart lane) = memory.get (offset + lane) := by
  obtain ⟨hfirst, hsecond, hthird, hfourth⟩ := laneByte_wordOfBytes (memory.get offset)
    (memory.get (offset + 1)) (memory.get (offset + 2)) (memory.get (offset + 3))
  rcases lane_cases h with rfl | rfl | rfl | rfl
  · rw [UInt64.add_zero]
    exact hfirst
  · exact hsecond
  · exact hthird
  · exact hfourth

/-- A word that is written, wherever it lies, replaces four bytes by its lanes. -/
theorem get_write32_lane (h : lane < 4) :
    (memory.write32 offset word).get (offset + lane) = laneByte word (laneStart lane) := by
  rcases lane_cases h with rfl | rfl | rfl | rfl <;> simp [write32, laneByte, laneStart]

theorem get_write32_apart (h : ¬ address - offset < 4) :
    (memory.write32 offset word).get address = memory.get address := by
  have hapart : ∀ lane : UInt64, lane < 4 → address ≠ offset + lane := by
    intro lane hlane hsame
    rw [hsame, UInt64.add_comm, UInt64.add_sub_cancel] at h
    exact h hlane
  have hfirst := hapart 0 (by decide)
  rw [UInt64.add_zero] at hfirst
  simp only [write32, get_set, hfirst, hapart 1 (by decide), hapart 2 (by decide),
    hapart 3 (by decide), if_false]

/-! ### The same bytes -/

/-- Whether two memories hold the same bytes. -/
def Same (one other : ByteMemory) : Prop :=
  ∀ address, one.get address = other.get address

variable {one other : ByteMemory}

theorem Same.refl : memory.Same memory :=
  fun _ => rfl

theorem Same.read32 (h : one.Same other) (offset : UInt64) :
    one.read32 offset = other.read32 offset := by
  unfold ByteMemory.read32
  rw [h, h, h, h]

theorem Same.set (h : one.Same other) (offset : UInt64) (byte : UInt8) :
    (one.set offset byte).Same (other.set offset byte) := by
  intro address
  rw [get_set, get_set, h]

theorem Same.write32 (h : one.Same other) (offset : UInt64) (word : UInt32) :
    (one.write32 offset word).Same (other.write32 offset word) :=
  (((h.set _ _).set _ _).set _ _).set _ _

/-! ### Byte accesses through words -/

/-- A word that is written back with one lane changed changes one byte. -/
theorem get_write32_replaced (h : lane < 4) (offset : UInt64) (byte : UInt8) (address : UInt64) :
    (memory.write32 offset (withLaneByte (memory.read32 offset) (laneStart lane) byte)).get
      address = if address = offset + lane then byte else memory.get address := by
  have hstart := toNat_laneStart h
  have hlt := UInt64.lt_iff_toNat_lt.mp h
  simp only [UInt64.reduceToNat] at hlt
  by_cases hword : address - offset < 4
  · obtain ⟨other, hother, rfl⟩ : ∃ other, other < 4 ∧ address = offset + other :=
      ⟨address - offset, hword, by rw [UInt64.add_comm, UInt64.sub_add_cancel]⟩
    have hotherStart := toNat_laneStart hother
    have hotherLt := UInt64.lt_iff_toNat_lt.mp hother
    simp only [UInt64.reduceToNat] at hotherLt
    rw [get_write32_lane memory hother]
    by_cases hsame : other = lane
    · rw [hsame, laneByte_withLaneByte (by omega), if_pos rfl]
    · have hapart := mt UInt64.toNat_inj.mp hsame
      rw [laneByte_withLaneByte_apart (by omega) (by omega) (by omega),
        laneByte_read32 memory hother, if_neg (mt (UInt64.add_right_inj offset).mp hsame)]
  · rw [get_write32_apart memory hword, if_neg]
    rintro rfl
    rw [UInt64.add_comm, UInt64.add_sub_cancel] at hword
    exact hword h

theorem read8_wordsOnly (offset : UInt64) :
    block.wordsOnly.read8 offset memory = (memory.get offset, memory) := by
  have hlane := @laneByte_read32 memory (wordOffset offset) _ (and_three_lt offset)
  rw [wordOffset_add_lane] at hlane
  exact congrArg (·, memory) hlane

theorem get_write8_wordsOnly (offset : UInt64) (byte : UInt8) (address : UInt64) :
    (block.wordsOnly.write8 offset byte memory).2.get address =
      if address = offset then byte else memory.get address := by
  have hreplaced := memory.get_write32_replaced (and_three_lt offset) (wordOffset offset) byte
    address
  rw [wordOffset_add_lane] at hreplaced
  exact hreplaced

/-- Plain memory is as good in words only. -/
theorem alike_wordsOnly : block.Alike Same block.wordsOnly where
  read32 offset one other h := ⟨h.read32 offset, h⟩
  write32 offset word one other h := ⟨rfl, h.write32 offset word⟩
  read8 offset one other h := by
    rw [read8_wordsOnly]
    exact ⟨h offset, h⟩
  write8 offset byte one other h := by
    refine ⟨rfl, fun address => ?_⟩
    rw [get_write8_wordsOnly, ← h]
    exact get_set one offset address byte

end ByteMemory
end TrapDispatch
