import TrapDispatch.Interrupt.Apic
import TrapDispatch.Proofs.PicLines
import TrapDispatch.Vector.Table

/-!
# Lines behind vectors

The lines of the 8259 pair and of the I/O APIC arrive on the vectors from a first one on, one for
each. What lies between the first vector and another is narrowed to the 32 bits of a line number,
so the lines come round again after so many vectors. Within the first round, where all vectors of
the vector tables are, each vector names the line that arrives on it, or none.
-/

namespace TrapDispatch

/-- Whether a vector is that of a line, in this or a later round of vectors. -/
def Irq.ArrivesOn (irq : Irq) (base vector : UInt64) : Prop :=
  ∃ rounds, vector.toNat = base.toNat + rounds * UInt32.size + irq.number.toNat

def WithinRound (base vector : UInt64) : Prop :=
  vector.toNat < base.toNat + UInt32.size

section

variable {irq : Irq} {base vector : UInt64}

theorem Irq.arrivesOn_iff :
    irq.ArrivesOn base vector ↔ base ≤ vector ∧ (vector - base).toUInt32 = irq.number := by
  have hirq := irq.number.toNat_lt
  have hvector := vector.toNat_lt
  unfold ArrivesOn
  rw [UInt64.le_iff_toNat_le, ← UInt32.toNat_inj, UInt64.toNat_toUInt32]
  constructor
  · rintro ⟨rounds, hrounds⟩
    have hle : base ≤ vector := UInt64.le_iff_toNat_le.mpr (by omega)
    rw [UInt64.toNat_sub_of_le _ _ hle]
    simp only [UInt32.size] at hrounds
    omega
  · rintro ⟨hle, hnumber⟩
    rw [UInt64.toNat_sub_of_le _ _ (UInt64.le_iff_toNat_le.mpr hle)] at hnumber
    refine ⟨(vector.toNat - base.toNat) / UInt32.size, ?_⟩
    simp only [UInt32.size]
    omega

theorem Irq.ArrivesOn.toNat_eq (h : irq.ArrivesOn base vector) (hwithin : WithinRound base vector) :
    vector.toNat = base.toNat + irq.number.toNat := by
  obtain ⟨rounds, hrounds⟩ := h
  simp only [WithinRound, UInt32.size] at *
  omega

/-- The vector tables end long before the second round, whatever the first vector is. -/
theorem withinRound_of_lookup {table : VectorTable} {entry : VectorEntry}
    (h : table.lookup vector = some entry) (base : UInt64) : WithinRound base vector := by
  have hsize : vector.toNat < table.size := by
    by_contra hnot
    rw [(table.lookup_eq_none_iff vector).mpr (by omega)] at h
    cases h
  have hle : table.size ≤ 256 := table.arch.vectorCount_le
  simp only [WithinRound, UInt32.size]
  omega

end

/-- How a controller tells lines by their vectors: which lines it serves, in which states it
confirms them, and which vectors are spurious in any case. -/
structure Controller.NamesLines {σ : Type} (controller : Controller (StateM σ)) (base : UInt64)
    (serves : Irq → Prop) (confirms : σ → Irq → Prop) (spurious : UInt64 → Prop) : Prop where
  /-- A line is named on its vectors, and on no others. -/
  named : ∀ vector state irq, (controller.pending vector state).1 = some irq ↔
    serves irq ∧ confirms state irq ∧ ¬ spurious vector ∧ irq.ArrivesOn base vector
  /-- In the first round, a vector is as far from the first as its line is. -/
  exact : ∀ vector state irq, WithinRound base vector →
    (controller.pending vector state).1 = some irq → vector.toNat = base.toNat + irq.number.toNat
  /-- There two vectors never name the same line, in whatever states they are asked for. -/
  apart : ∀ one other state later irq, WithinRound base one → WithinRound base other →
    (controller.pending one state).1 = some irq → (controller.pending other later).1 = some irq →
      one = other
  /-- There a vector on which no line arrives is spurious, and nothing is done about it. -/
  beyond : ∀ vector state, WithinRound base vector →
    (spurious vector ∨ ∀ irq, serves irq → vector.toNat ≠ base.toNat + irq.number.toNat) →
      controller.pending vector state = (none, state)

section

variable {σ : Type} {controller : Controller (StateM σ)} {base : UInt64} {serves : Irq → Prop}
  {confirms : σ → Irq → Prop} {spurious : UInt64 → Prop}

/-- All that is to be known is on which vectors lines are named, and what is done on the others. -/
theorem Controller.namesLines_of_named
    (hnamed : ∀ vector state irq, (controller.pending vector state).1 = some irq ↔
      serves irq ∧ confirms state irq ∧ ¬ spurious vector ∧ irq.ArrivesOn base vector)
    (hbeyond : ∀ vector state, spurious vector ∨ vector < base ∨
      (∀ irq, serves irq → ¬ irq.ArrivesOn base vector) →
        controller.pending vector state = (none, state)) :
    controller.NamesLines base serves confirms spurious where
  named := hnamed
  exact vector state irq hwithin h := ((hnamed vector state irq).mp h).2.2.2.toNat_eq hwithin
  apart one other state later irq hone hother h h' := by
    have hdistance := ((hnamed one state irq).mp h).2.2.2.toNat_eq hone
    have hdistance' := ((hnamed other later irq).mp h').2.2.2.toNat_eq hother
    exact UInt64.toNat_inj.mp (hdistance.trans hdistance'.symm)
  beyond vector state hwithin h := by
    refine hbeyond vector state (h.imp_right fun hnone => .inr fun irq hserves harrives => ?_)
    exact hnone irq hserves (harrives.toNat_eq hwithin)

end

namespace Pic

theorem line?_eq_some_iff {offset vector : UInt64} {irq : Irq} :
    line? offset vector = some irq.number ↔
      irq.number < lineCount ∧ irq.ArrivesOn offset vector := by
  rw [Irq.arrivesOn_iff]
  unfold line?
  by_cases hbefore : vector < offset
  · have hnot : ¬ offset ≤ vector := UInt64.not_le.mpr hbefore
    simp [hbefore, hnot]
  · have hle : offset ≤ vector := UInt64.not_lt.mp hbefore
    rw [if_neg hbefore]
    constructor
    · intro h
      split at h
      next => cases h
      next hbeyond =>
        have hline := Option.some.inj h
        exact ⟨hline ▸ UInt32.not_le.mp hbeyond, hle, hline⟩
    · rintro ⟨hlt, -, hline⟩
      rw [hline, if_neg (UInt32.not_le.mpr hlt)]

theorem fst_confirmed {σ : Type} {asked : StateM σ Bool} {denied : StateM σ (Option Irq)}
    {state : σ} {irq other : Irq} (hdenied : ∀ state, (denied state).1 = none) :
    ((do if ← asked then return some irq
         denied) state).1 = some other ↔ irq = other ∧ (asked state).1 = true := by
  rw [Controller.bind_apply]
  cases (asked state).1 with
  | false => simp [hdenied]
  | true =>
    simp only [if_true, and_true]
    exact Option.some_inj

section

variable {σ : Type} [MonadRecord (StateM σ)] (io : RegisterBlock (StateM σ))

/-- Whether a chip confirms a line when it is asked: its last one has to be in service. -/
def Confirms (state : σ) (irq : Irq) : Prop :=
  (irq.number = 7 → (lastInService io masterCommand state).1 = true) ∧
    (irq.number = 15 → (lastInService io slaveCommand state).1 = true)

variable {io} {offset vector : UInt64} {state : σ} {irq : Irq}

theorem pending_of_arrives (hlt : irq.number < lineCount) (h : irq.ArrivesOn offset vector) :
    pending io offset vector = (do
      if irq.number = 7 then
        if ← lastInService io masterCommand then return some irq
        recordAt .warn LogTarget.pic "8259: spurious IRQ7"
        return none
      if irq.number = 15 then
        if ← lastInService io slaveCommand then return some irq
        recordAt .warn LogTarget.pic "8259: spurious IRQ15"
        io.write8 masterCommand endCommand
        return none
      return some irq) := by
  obtain ⟨hle, hnumber⟩ := Irq.arrivesOn_iff.mp h
  unfold pending
  rw [if_neg (UInt64.not_lt.mpr hle), hnumber]
  exact if_neg (UInt32.not_le.mpr hlt)

/-- A line of the pair is told if its chip confirms it, and no other is. -/
theorem pending_eq_some_iff (hlt : irq.number < lineCount) (h : irq.ArrivesOn offset vector)
    (other : Irq) :
    (pending io offset vector state).1 = some other ↔ irq = other ∧ Confirms io state irq := by
  rw [pending_of_arrives hlt h]
  unfold Confirms
  by_cases hmaster : irq.number = 7
  · rw [if_pos hmaster, fst_confirmed fun _ => rfl]
    simp [hmaster]
  · rw [if_neg hmaster]
    by_cases hslave : irq.number = 15
    · rw [if_pos hslave, fst_confirmed fun _ => rfl]
      simp [hslave]
    · rw [if_neg hslave]
      simp only [hmaster, hslave, false_implies, and_self, and_true]
      exact Option.some_inj

/-- Nothing else is told, and no chip is asked, where no line of the pair arrives. -/
theorem pending_beyond (h : ∀ irq : Irq, irq.number < lineCount → ¬ irq.ArrivesOn offset vector) :
    pending io offset vector state = (none, state) := by
  have hnone : line? offset vector = none := by
    refine Option.eq_none_iff_forall_not_mem.mpr fun line hline => ?_
    obtain ⟨hlt, harrives⟩ := (@line?_eq_some_iff offset vector ⟨line⟩).mp hline
    exact h ⟨line⟩ hlt harrives
  rw [pending_of_none io hnone]
  rfl

theorem namesLines (io : RegisterBlock (StateM σ)) (offset : UInt64) :
    (controller io offset).NamesLines offset (·.number < lineCount) (Confirms io)
      fun _ => False := by
  refine Controller.namesLines_of_named (fun vector state irq => ?_) fun vector state h => ?_
  · change (pending io offset vector state).1 = some irq ↔ _
    constructor
    · intro h
      by_cases hserved : ∃ line : Irq, line.number < lineCount ∧ line.ArrivesOn offset vector
      · obtain ⟨line, hlt, harrives⟩ := hserved
        obtain ⟨rfl, hconfirms⟩ := (pending_eq_some_iff hlt harrives irq).mp h
        exact ⟨hlt, hconfirms, not_false, harrives⟩
      · rw [pending_beyond fun line hlt harrives => hserved ⟨line, hlt, harrives⟩] at h
        cases h
    · rintro ⟨hlt, hconfirms, -, harrives⟩
      exact (pending_eq_some_iff hlt harrives irq).mpr ⟨rfl, hconfirms⟩
  · refine pending_beyond fun irq hlt harrives => ?_
    rcases h with h | h | h
    · exact h
    · exact UInt64.not_le.mpr h (Irq.arrivesOn_iff.mp harrives).1
    · exact h irq hlt harrives

end

end Pic

namespace Apic

theorem pending_eq_some_iff {vector : UInt64} {irq : Irq} :
    pending vector = some irq ↔ vector ≠ spuriousVector ∧ irq.ArrivesOn vectorBase vector := by
  rw [Irq.arrivesOn_iff]
  unfold pending
  by_cases hspurious : vector = spuriousVector
  · simp [hspurious]
  · by_cases hbefore : vector < vectorBase
    · simp [hspurious, hbefore, UInt64.not_le.mpr hbefore]
    · cases irq
      simp [hspurious, hbefore, UInt64.not_lt.mp hbefore]

theorem namesLines {σ : Type} (localApic ioApic : RegisterBlock (StateM σ)) :
    (controller localApic ioApic).NamesLines vectorBase (fun _ => True) (fun _ _ => True)
      (· = spuriousVector) := by
  refine Controller.namesLines_of_named (fun vector state irq => ?_) fun vector state h => ?_
  · change pending vector = some irq ↔ _
    simp [pending_eq_some_iff]
  · change (pending vector, state) = (none, state)
    have hnone : pending vector = none := by
      refine Option.eq_none_iff_forall_not_mem.mpr fun irq hirq => ?_
      obtain ⟨hspurious, harrives⟩ := pending_eq_some_iff.mp hirq
      rcases h with h | h | h
      · exact hspurious h
      · exact UInt64.not_le.mpr h (Irq.arrivesOn_iff.mp harrives).1
      · exact h irq trivial harrives
    rw [hnone]

end Apic

/-- A vector names the line that arrives on it: on the pair one of its sixteen, of which the last
of each chip has to be in service, on the I/O APIC any, unless it is the spurious vector. Within
the first round of vectors, where those of every vector table are, the distance to the first
vector is the number of the line, two vectors never name the same line, and a vector on which no
line arrives is spurious. Beyond it the lines come round again. -/
theorem vectors_name_lines_in_rounds {σ : Type} [MonadRecord (StateM σ)]
    (io localApic ioApic : RegisterBlock (StateM σ)) (offset : UInt64) :
    (Pic.controller io offset).NamesLines offset (·.number < Pic.lineCount) (Pic.Confirms io)
        (fun _ => False) ∧
      (Apic.controller localApic ioApic).NamesLines Apic.vectorBase (fun _ => True)
        (fun _ _ => True) (· = Apic.spuriousVector) ∧
      ∀ (table : VectorTable) vector entry, table.lookup vector = some entry →
        ∀ base, WithinRound base vector :=
  ⟨Pic.namesLines io offset, Apic.namesLines localApic ioApic,
    fun _ _ _ h base => withinRound_of_lookup h base⟩

/-- A pair that answers nothing when it is asked. -/
def PicBoard.mute : PicBoard where
  masks _ := 0
  answers _ _ := 0
  accesses := []

/-- Where the lines arrive from vector 32 on, vector 33 names line 1, and no other of the table
does, but a vector of the second round does so too, on either controller. -/
theorem line_1_comes_round :
    ((Pic.controller PicBoard.io 32).pending 33 .mute).1 = some ⟨1⟩ ∧
      (∀ vector entry, (VectorTable.mk .x86_64 0).lookup vector = some entry →
        ((Pic.controller PicBoard.io 32).pending vector .mute).1 = some ⟨1⟩ → vector = 33) ∧
      ((Pic.controller PicBoard.io 32).pending 0x100000021 .mute).1 = some ⟨1⟩ ∧
      ((Apic.controller PicBoard.io PicBoard.io).pending 0x100000021 .mute).1 = some ⟨1⟩ := by
  obtain ⟨hpic, hapic, htable⟩ :=
    vectors_name_lines_in_rounds PicBoard.io PicBoard.io PicBoard.io 32
  have hconfirms : Pic.Confirms PicBoard.io .mute ⟨1⟩ := by
    constructor <;> intro h <;> cases h
  have hfirst := (hpic.named 33 .mute ⟨1⟩).mpr ⟨by decide, hconfirms, not_false, 0, by decide⟩
  refine ⟨hfirst, fun vector entry hlookup hnamed => ?_, ?_, ?_⟩
  · exact hpic.apart vector 33 _ _ _ (htable _ _ _ hlookup 32) (by unfold WithinRound; decide)
      hnamed hfirst
  · exact (hpic.named _ _ _).mpr ⟨by decide, hconfirms, not_false, 1, by decide⟩
  · exact (hapic.named _ _ _).mpr ⟨trivial, trivial, by decide, 1, by decide⟩

end TrapDispatch
