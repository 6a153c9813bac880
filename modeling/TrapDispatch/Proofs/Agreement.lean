import TrapDispatch.Proofs.Hardware
import TrapDispatch.Proofs.Routes

/-!
# Agreement of flags and slots

What the interrupt flag of a CPU says of its slot: where the flag is set in the course
of a trap, the slot accepts traps, and all through a masked call of the dispatcher the
flag is cleared and the slot refuses them.
-/

namespace TrapDispatch

namespace Stage

/-- Whether an event is a masked call that the dispatcher itself makes for a CPU, where
nothing has failed. -/
def Masks (cpu : Fin maxCpus) (event : Event) (outer : List Stage) : Prop :=
  ∃ c result, event = .service c result ∧ c.isMasked = true ∧ dispatching outer = some cpu ∧
    calm outer = true

def Withheld (cpu : Fin maxCpus) : List Stage → Prop
  | [] => False
  | stage :: outer => Masks cpu stage.activity.event outer ∨ Withheld cpu outer

theorem withheld_mark (cpu : Fin maxCpus) (failed : Bool) (stages : List Stage) :
    Withheld cpu (mark failed stages) ↔ Withheld cpu stages := by
  cases stages <;> rfl

theorem withheld_of_tail {cpu : Fin maxCpus} {stages : List Stage}
    (h : Withheld cpu stages.tail) : Withheld cpu stages := by
  cases stages with
  | nil => exact h
  | cons stage outer => exact .inr h

theorem withheld_begins {cpu : Fin maxCpus} {hardware : Hardware} {x : Activity}
    (hx : x.event.call? = none) :
    Withheld cpu (hardware.begins x).stages ↔ Withheld cpu hardware.stages := by
  constructor
  · rintro (⟨c, result, hc, -⟩ | houter)
    · change x.event = .service c result at hc
      rw [hc] at hx
      cases hx
    · exact houter
  · exact .inr

end Stage

/-- Whether every CPU with a trap in progress accepts traps while its flag is set. -/
def Receptive (hardware : Hardware) (slots : CpuSlots) : Prop :=
  ∀ cpu, (∃ stage ∈ hardware.stages, stage.cpu? = some cpu) → hardware.flags cpu = true →
    (slots.get cpu).state = .handlerRunning ∧ (slots.get cpu).masked = false

/-- Whether a CPU holds interrupts off and refuses traps. -/
def Shut (hardware : Hardware) (slots : CpuSlots) (cpu : Fin maxCpus) : Prop :=
  hardware.flags cpu = false ∧ (slots.get cpu).masked = true ∧
    Kernel.accepts (slots.get cpu) = false

def Served (hardware : Hardware) : Prop :=
  ∀ cpu, Stage.serving hardware.stages = some cpu → Stage.calm hardware.stages = true →
    hardware.flags cpu = true

/-- Whether every CPU is shut all through the masked calls of the dispatcher. -/
def Secluded (hardware : Hardware) (slots : CpuSlots) : Prop :=
  ∀ cpu, Stage.Withheld cpu hardware.stages → Shut hardware slots cpu

/-- Whether flags and slots agree, outside of masked calls and in them. -/
structure Agree (hardware : Hardware) (slots : CpuSlots) : Prop where
  receptive : Receptive hardware slots
  secluded : Secluded hardware slots

/-- The history at a moment, with what begins or ends there still under way. -/
def Moment.during (past : List Moment) : Moment → List Moment
  | .begins x => .begins x :: past
  | .ends _ => past

structure Seen (start : Fin maxCpus → Bool) (past : List Moment) (moment : Moment) : Prop where
  receptive : Receptive (.after start (moment.upTo past)) moment.slots
  served : Served (.after start (moment.during past))
  secluded : Secluded (.after start (moment.during past)) moment.slots

/-- Whether two assignments of slots agree on the states and masks of all CPUs but one. -/
def SameBut (except : Option (Fin maxCpus)) (before after : CpuSlots) : Prop :=
  ∀ cpu, except ≠ some cpu → (after.get cpu).state = (before.get cpu).state ∧
    (after.get cpu).masked = (before.get cpu).masked

theorem SameBut.refl (own : Option (Fin maxCpus)) (slots : CpuSlots) : SameBut own slots slots :=
  fun _ _ => ⟨rfl, rfl⟩

theorem SameBut.trans {own : Option (Fin maxCpus)} {a b c : CpuSlots} (hfirst : SameBut own a b)
    (hsecond : SameBut own b c) : SameBut own a c :=
  fun cpu hcpu => ⟨(hsecond cpu hcpu).1.trans (hfirst cpu hcpu).1,
    (hsecond cpu hcpu).2.trans (hfirst cpu hcpu).2⟩

variable {start : Fin maxCpus → Bool} {cpu : Fin maxCpus} {hardware now : Hardware}
  {slots after : CpuSlots} {x : Activity} {past : List Moment}

theorem SameBut.weaken {before : CpuSlots} (h : SameBut none before after)
    (own : Option (Fin maxCpus)) : SameBut own before after :=
  fun cpu _ => h cpu (by simp)

theorem Shut.later (h : Shut hardware slots cpu) (hflag : now.flags cpu = hardware.flags cpu)
    (hsame : SameBut none slots after) : Shut now after cpu := by
  obtain ⟨hstate, hmasked⟩ := hsame cpu (by simp)
  have haccepts : Kernel.accepts (after.get cpu) = Kernel.accepts (slots.get cpu) := by
    unfold Kernel.accepts
    rw [hstate, hmasked]
  exact ⟨hflag.trans h.1, hmasked.trans h.2.1, haccepts.trans h.2.2⟩

theorem Agree.mono (h : Agree hardware slots)
    (hstages : ∀ cpu, (∃ stage ∈ now.stages, stage.cpu? = some cpu) →
      ∃ stage ∈ hardware.stages, stage.cpu? = some cpu)
    (hwithheld : ∀ cpu, Stage.Withheld cpu now.stages → Stage.Withheld cpu hardware.stages)
    (hflags : ∀ cpu, now.flags cpu = true → hardware.flags cpu = true) : Agree now slots where
  receptive cpu hmem hflag := h.receptive cpu (hstages cpu hmem) (hflags cpu hflag)
  secluded cpu hcpu := by
    have hshut := h.secluded cpu (hwithheld cpu hcpu)
    refine ⟨?_, hshut.2⟩
    cases hflag : now.flags cpu with
    | false => rfl
    | true => exact (hflags cpu hflag).symm.trans hshut.1

theorem Agree.sameBut (h : Agree hardware slots) (hsame : SameBut none slots after) :
    Agree hardware after where
  receptive cpu hmem hflag := by
    obtain ⟨hstate, hmasked⟩ := hsame cpu (by simp)
    rw [hstate, hmasked]
    exact h.receptive cpu hmem hflag
  secluded cpu hcpu := (h.secluded cpu hcpu).later rfl hsame

theorem Agree.ends (h : Agree hardware slots) (hx : x.event.cpu? = none) :
    Agree (hardware.ends x) slots := by
  refine h.mono (fun cpu hmem => ?_) (fun cpu hcpu => ?_)
    fun cpu hflag => Hardware.flags_of_ends hx hflag
  · rw [Hardware.ends, Stage.exists_mem_mark] at hmem
    obtain ⟨stage, hstage, hcpu⟩ := hmem
    exact ⟨stage, List.mem_of_mem_tail hstage, hcpu⟩
  · rw [Hardware.ends, Stage.withheld_mark] at hcpu
    exact Stage.withheld_of_tail hcpu

/-- A CPU with its flag cleared may change its slot, except in the course of a masked call. -/
theorem Agree.put (h : Agree hardware slots) (hflag : hardware.flags cpu = false)
    (hunheld : ¬ Stage.Withheld cpu hardware.stages) (slot : CpuSlot) :
    Agree hardware (slots.put cpu slot) where
  receptive other hmem hother := by
    have hne : other ≠ cpu := by
      rintro rfl
      rw [hflag] at hother
      cases hother
    rw [CpuSlots.get_put_ne _ _ hne]
    exact h.receptive other hmem hother
  secluded other hother := by
    have hne : other ≠ cpu := by
      rintro rfl
      exact hunheld hother
    unfold Shut
    rw [CpuSlots.get_put_ne _ _ hne]
    exact h.secluded other hother

theorem exists_mem_begins (hx : x.event.cpu? ≠ some cpu)
    (h : ∃ stage ∈ (hardware.begins x).stages, stage.cpu? = some cpu) :
    ∃ stage ∈ hardware.stages, stage.cpu? = some cpu := by
  obtain ⟨stage, hmem, hcpu⟩ := h
  rcases List.mem_cons.mp hmem with rfl | hmem
  · exact absurd hcpu hx
  · exact ⟨stage, hmem, hcpu⟩

theorem Agree.begins (h : Agree hardware slots) (hx : x.event.cpu? = none)
    (hflags : (hardware.begins x).flags = hardware.flags)
    (hmasks : ∀ cpu, Stage.Masks cpu x.event hardware.stages → Shut hardware slots cpu) :
    Agree (hardware.begins x) slots where
  receptive cpu hmem hflag := by
    rw [hflags] at hflag
    exact h.receptive cpu (exists_mem_begins (by simp [hx]) hmem) hflag
  secluded cpu hcpu := by
    unfold Shut
    rw [hflags]
    rcases hcpu with hcall | houter
    · exact hmasks cpu hcall
    · exact h.secluded cpu houter

theorem Agree.begins_of_noCall (h : Agree hardware slots) (hx : x.event.cpu? = none)
    (hflags : (hardware.begins x).flags = hardware.flags) (hcall : x.event.call? = none) :
    Agree (hardware.begins x) slots := by
  apply h.begins hx hflags
  rintro cpu ⟨c, result, hc, -⟩
  rw [hc] at hcall
  cases hcall

theorem Agree.begins_trap {frame : Frame} {result : Except Stop Outcome} (h : Agree hardware slots)
    (hx : x.event = .trap cpu frame result) (hunheld : ¬ Stage.Withheld cpu hardware.stages) :
    Agree (hardware.begins x) slots := by
  have hflags : (hardware.begins x).flags = Function.update hardware.flags cpu false := by
    simp only [Hardware.begins, hx]
  constructor
  · intro other hmem hflag
    rw [hflags] at hflag
    by_cases hother : other = cpu
    · rw [hother, Function.update_self] at hflag
      cases hflag
    · rw [Function.update_of_ne hother] at hflag
      have hne : x.event.cpu? ≠ some other := by
        rw [hx]
        exact fun heq => hother (Option.some.inj heq).symm
      exact h.receptive other (exists_mem_begins hne hmem) hflag
  · intro other hheld
    rw [Stage.withheld_begins (by rw [hx]; rfl)] at hheld
    have hother : other ≠ cpu := fun heq => hunheld (heq ▸ hheld)
    unfold Shut
    rw [hflags, Function.update_of_ne hother]
    exact h.secluded other hheld

theorem Agree.begins_enable {result : Except Stop Unit} (h : Agree hardware slots)
    (hx : x.event = .service .enableInterrupts result)
    (hdispatching : Stage.dispatching hardware.stages = some cpu)
    (hunheld : ¬ Stage.Withheld cpu hardware.stages)
    (hrunning : (slots.get cpu).state = .handlerRunning ∧ (slots.get cpu).masked = false) :
    Agree (hardware.begins x) slots := by
  have hflags : (hardware.begins x).flags = Function.update hardware.flags cpu true := by
    rw [← Hardware.setFlag_of_dispatching hdispatching]
    simp only [Hardware.begins, hx]
  constructor
  · intro other hmem hflag
    by_cases hother : other = cpu
    · rw [hother]
      exact hrunning
    · rw [hflags, Function.update_of_ne hother] at hflag
      exact h.receptive other (exists_mem_begins (by simp [hx, Event.cpu?]) hmem) hflag
  · rintro other (⟨c, _, hc, hmasked, -⟩ | houter)
    · rw [hx] at hc
      cases hc
      cases hmasked
    · have hother : other ≠ cpu := fun heq => hunheld (heq ▸ houter)
      unfold Shut
      rw [hflags, Function.update_of_ne hother]
      exact h.secluded other houter

/-- A CPU that accepts a trap makes no masked call. -/
theorem Agree.unheld_of_accepts (h : Agree hardware slots)
    (haccepts : Kernel.accepts (slots.get cpu) = true) : ¬ Stage.Withheld cpu hardware.stages := by
  intro hcpu
  have hrefuses := (h.secluded cpu hcpu).2.2
  rw [haccepts] at hrefuses
  cases hrefuses

theorem Served.of_dispatching (h : Stage.dispatching hardware.stages = some cpu) :
    Served hardware := by
  intro other hserving
  rw [Stage.serving_of_dispatching h] at hserving
  cases hserving

/-- Where something failed, nothing more is asked of a handler's flag. -/
theorem Served.failed (h : now.stages = Stage.mark true hardware.stages) : Served now := by
  intro cpu hserving hcalm
  rw [h] at hserving hcalm
  cases hstages : hardware.stages with
  | nil =>
    rw [hstages] at hserving
    cases hserving
  | cons stage outer =>
    rw [Stage.calm_mark_true (by simp [hstages])] at hcalm
    cases hcalm

theorem Seen.begins_noted (hplain : x.event.isPlain = true) (hcall : x.event.call? = none)
    (hagree : Agree (.after start past) x.before)
    (hserved : Served (.after start (.begins x :: past))) : Seen start past (.begins x) := by
  have hbegins : Agree ((Hardware.after start past).begins x) x.before :=
    hagree.begins_of_noCall (Hardware.cpu?_of_isPlain hplain)
      (Hardware.flags_begins_of_isPlain hplain) hcall
  exact ⟨hagree.receptive, hserved, hbegins.secluded⟩

theorem Seen.ends_noted (hplain : x.event.isPlain = true) (hcall : x.event.call? = none)
    (hfails : x.event.fails = false) (hagree : Agree (.after start past) x.after)
    (hserved : Served (.after start (.begins x :: past))) :
    Seen start (.begins x :: past) (.ends x) := by
  have hbegins : Agree ((Hardware.after start past).begins x) x.after :=
    hagree.begins_of_noCall (Hardware.cpu?_of_isPlain hplain)
      (Hardware.flags_begins_of_isPlain hplain) hcall
  refine ⟨?_, hserved, hbegins.secluded⟩
  rw [Moment.upTo, Hardware.after_noted hplain hfails]
  exact hagree.receptive

end TrapDispatch
