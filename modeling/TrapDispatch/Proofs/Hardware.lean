import Mathlib.Logic.Function.Basic
import TrapDispatch.Proofs.History

/-!
# Interrupt flags

What the CPUs do with their interrupt flags in the course of a run. A trap clears
the flag of its CPU, and gives it back the value it had when it returns; otherwise
only the calls that turn interrupts on and off change it. A flag counts as set from
the beginning of the call that sets it to the end of the call that clears it.
-/

namespace TrapDispatch

structure Stage where
  activity : Activity
  /-- The flag of a trap's CPU before the trap. -/
  entryFlag : Bool
  /-- Whether something in the course of the activity ended without a result. -/
  unwinding : Bool

def Stage.cpu? (stage : Stage) : Option (Fin maxCpus) :=
  stage.activity.event.cpu?

/-- Interrupt flags, and what is under way, innermost first. -/
@[ext] structure Hardware where
  flags : Fin maxCpus → Bool
  stages : List Stage

/-- Notes that something in the course of the innermost activity failed. -/
def Stage.mark (failed : Bool) : List Stage → List Stage
  | [] => []
  | stage :: outer => { stage with unwinding := stage.unwinding || failed } :: outer

namespace Hardware

/-- The flags once the innermost trap's CPU has set its own. -/
def setFlag (hardware : Hardware) (flag : Bool) : Fin maxCpus → Bool :=
  match hardware.stages.findSome? Stage.cpu? with
  | some cpu => Function.update hardware.flags cpu flag
  | none => hardware.flags

def begins (hardware : Hardware) (x : Activity) : Hardware where
  flags := match x.event with
    | .trap cpu _ _ => Function.update hardware.flags cpu false
    | .service .enableInterrupts _ => hardware.setFlag true
    | _ => hardware.flags
  stages := ⟨x, x.event.cpu?.any hardware.flags, false⟩ :: hardware.stages

def ends (hardware : Hardware) (x : Activity) : Hardware where
  flags := match x.event with
    | .trap cpu _ (.ok _) =>
      Function.update hardware.flags cpu (hardware.stages.head?.any Stage.entryFlag)
    | .service .disableInterrupts (.ok _) => hardware.setFlag false
    | _ => hardware.flags
  stages := Stage.mark x.event.fails hardware.stages.tail

/-- The hardware after a history that began with flags `start`. -/
def after (start : Fin maxCpus → Bool) : List Moment → Hardware
  | [] => ⟨start, []⟩
  | .begins x :: past => (after start past).begins x
  | .ends x :: past => (after start past).ends x

theorem after_begins (start : Fin maxCpus → Bool) (x : Activity) (past : List Moment) :
    after start (.begins x :: past) = (after start past).begins x := rfl

theorem after_ends (start : Fin maxCpus → Bool) (x : Activity) (past : List Moment) :
    after start (.ends x :: past) = (after start past).ends x := rfl

end Hardware

namespace Stage

@[simp] theorem mark_false (stages : List Stage) : mark false stages = stages := by
  cases stages <;> simp [mark]

theorem mark_mark (first second : Bool) (stages : List Stage) :
    mark second (mark first stages) = mark (first || second) stages := by
  cases stages <;> simp [mark, Bool.or_assoc]

theorem findSome?_mark (failed : Bool) (stages : List Stage) :
    (mark failed stages).findSome? cpu? = stages.findSome? cpu? := by
  cases stages <;> rfl

theorem map_activity_mark (failed : Bool) (stages : List Stage) :
    (mark failed stages).map activity = stages.map activity := by
  cases stages <;> rfl

theorem exists_mem_mark {failed : Bool} {stages : List Stage} {cpu : Fin maxCpus} :
    (∃ stage ∈ mark failed stages, stage.cpu? = some cpu) ↔
      ∃ stage ∈ stages, stage.cpu? = some cpu := by
  cases stages with
  | nil => rfl
  | cons stage outer => simp [mark, cpu?]

end Stage

namespace Hardware

variable {start : Fin maxCpus → Bool}

mutual

theorem stages_activity (x : Activity) (past : List Moment) :
    (after start (x.history ++ past)).stages =
      Stage.mark x.event.fails (after start past).stages := by
  cases x with
  | mk event before inner last =>
    rw [Activity.history_eq, List.cons_append, List.append_assoc]
    change Stage.mark event.fails (after start (history inner ++ _)).stages.tail = _
    rw [stages_history inner]
    rfl

/-- What has begun and ended in between leaves nothing under way; at most it has failed. -/
theorem stages_history (new : List Activity) (past : List Moment) :
    (after start (history new ++ past)).stages =
      Stage.mark (new.any (·.event.fails)) (after start past).stages := by
  cases new with
  | nil => simp [history]
  | cons x older =>
    rw [history, List.append_assoc, stages_activity x, stages_history older, Stage.mark_mark]
    rw [List.any_cons, Bool.or_comm]

end

theorem stages_ends (x : Activity) (new : List Activity) (past : List Moment) :
    (after start (.ends x :: (history new ++ .begins x :: past))).stages =
      Stage.mark x.event.fails (after start past).stages := by
  change Stage.mark x.event.fails (after start (history new ++ .begins x :: past)).stages.tail = _
  rw [stages_history]
  rfl

theorem flags_of_setFlag_false {hardware : Hardware} {cpu : Fin maxCpus}
    (h : hardware.setFlag false cpu = true) : hardware.flags cpu = true := by
  unfold setFlag at h
  cases hcpu : hardware.stages.findSome? Stage.cpu? with
  | none =>
    rw [hcpu] at h
    exact h
  | some other =>
    rw [hcpu] at h
    by_cases hother : cpu = other
    · subst hother
      simp at h
    · simpa [Function.update_of_ne hother] using h

theorem flags_of_ends {hardware : Hardware} {x : Activity} {cpu : Fin maxCpus}
    (hx : x.event.cpu? = none) (h : (hardware.ends x).flags cpu = true) :
    hardware.flags cpu = true := by
  simp only [ends] at h
  cases hevent : x.event with
  | trap other frame result =>
    rw [hevent] at hx
    cases hx
  | service c result =>
    rw [hevent] at h
    cases c with
    | disableInterrupts =>
      cases result with
      | ok value => exact flags_of_setFlag_false h
      | error stop => exact h
    | _ => exact h
  | _ =>
    rw [hevent] at h
    exact h

theorem map_activity_stages (past : List Moment) :
    (after start past).stages.map Stage.activity = underWay past := by
  induction past with
  | nil => rfl
  | cons moment past ih =>
    cases moment with
    | begins x => exact congrArg (x :: ·) ih
    | ends x =>
      rw [underWay_ends, ← ih, ← List.map_tail]
      simp only [after, ends, Stage.map_activity_mark]

/-- What an activity other than a trap does to the flags if nothing in the course of
it changes them. -/
def through (hardware : Hardware) : Event → Fin maxCpus → Bool
  | .service .enableInterrupts _ => hardware.setFlag true
  | .service .disableInterrupts (.ok _) => hardware.setFlag false
  | _ => hardware.flags

theorem setFlag_history (flag : Bool) {x : Activity} (hx : x.event.cpu? = none)
    (new : List Activity) (past : List Moment)
    (hflags : (after start (history new ++ .begins x :: past)).flags = (after start past).flags) :
    (after start (history new ++ .begins x :: past)).setFlag flag =
      (after start past).setFlag flag := by
  have hcpu : (after start (history new ++ .begins x :: past)).stages.findSome? Stage.cpu? =
      (after start past).stages.findSome? Stage.cpu? := by
    rw [stages_history, Stage.findSome?_mark]
    change List.findSome? Stage.cpu? (_ :: _) = _
    rw [List.findSome?_cons]
    simp only [Stage.cpu?, hx]
  unfold setFlag
  rw [hcpu, hflags]

theorem flags_ends {x : Activity} (hx : x.event.cpu? = none) (new : List Activity)
    (past : List Moment)
    (hflags : (after start (history new ++ .begins x :: past)).flags =
      (after start (.begins x :: past)).flags) :
    (after start (.ends x :: (history new ++ .begins x :: past))).flags =
      (after start past).through x.event := by
  rw [after_ends]
  rw [after_begins] at hflags
  simp only [ends, begins, through] at *
  cases hevent : x.event with
  | trap cpu frame result =>
    rw [hevent] at hx
    cases hx
  | service c result =>
    rw [hevent] at hflags
    cases c with
    | disableInterrupts =>
      cases result with
      | ok value => exact setFlag_history false hx new past hflags
      | error stop => exact hflags
    | _ => exact hflags
  | _ =>
    rw [hevent] at hflags
    exact hflags

end Hardware

namespace Stage

/-- The CPU of the trap for which the dispatcher itself is at work: the innermost
activity is a trap, or the scope of its line. -/
def dispatching : List Stage → Option (Fin maxCpus)
  | [] => none
  | stage :: outer => match stage.activity.event with
    | .trap cpu _ _ => some cpu
    | .scope _ _ => dispatching outer
    | _ => none

/-- The CPU of the innermost trap, if a device handler or a system call is at work
for it. -/
def serving : List Stage → Option (Fin maxCpus)
  | [] => none
  | stage :: outer => match stage.activity.event with
    | .trap _ _ _ => none
    | .service (.device _ _) _ => dispatching outer
    | .systemCall _ _ _ _ => (outer.head?.bind cpu?).or (serving outer)
    | _ => serving outer

/-- Whether nothing has failed in the course of the innermost trap, nor in what is
under way within it. -/
def calm : List Stage → Bool
  | [] => true
  | stage :: outer => !stage.unwinding && (stage.cpu?.isSome || calm outer)

theorem dispatching_mark (failed : Bool) (stages : List Stage) :
    dispatching (mark failed stages) = dispatching stages := by
  cases stages <;> rfl

theorem calm_mark_true {stages : List Stage} (h : stages ≠ []) : calm (mark true stages) = false := by
  cases stages with
  | nil => exact absurd rfl h
  | cons stage outer => simp [mark, calm]

theorem serving_of_dispatching {stages : List Stage} {cpu : Fin maxCpus}
    (h : dispatching stages = some cpu) : serving stages = none := by
  induction stages with
  | nil => rfl
  | cons stage outer ih =>
    simp only [dispatching] at h
    simp only [serving]
    split at h
    next hevent => rw [hevent]
    next hevent =>
      rw [hevent]
      exact ih h
    · cases h

theorem findSome?_of_dispatching {stages : List Stage} {cpu : Fin maxCpus}
    (h : dispatching stages = some cpu) : stages.findSome? cpu? = some cpu := by
  induction stages with
  | nil => cases h
  | cons stage outer ih =>
    simp only [dispatching] at h
    rw [List.findSome?_cons]
    split at h
    next other _ _ hevent =>
      have hcpu : stage.cpu? = some other := congrArg Event.cpu? hevent
      rw [hcpu]
      exact h
    next hevent =>
      have hcpu : stage.cpu? = none := congrArg Event.cpu? hevent
      rw [hcpu]
      exact ih h
    · cases h

theorem dispatching_of_head {stages : List Stage} {cpu : Fin maxCpus}
    (h : stages.head?.bind cpu? = some cpu) : dispatching stages = some cpu := by
  cases stages with
  | nil => cases h
  | cons stage outer =>
    change stage.activity.event.cpu? = some cpu at h
    simp only [dispatching]
    cases hevent : stage.activity.event <;> rw [hevent] at h <;> first | exact h | cases h

theorem cpu?_head_of_dispatching {stages : List Stage} (h : dispatching stages = none) :
    stages.head?.bind cpu? = none := by
  cases hhead : stages.head?.bind cpu? with
  | none => rfl
  | some cpu =>
    rw [dispatching_of_head hhead] at h
    cases h

end Stage

theorem Hardware.setFlag_of_dispatching {hardware : Hardware} {cpu : Fin maxCpus}
    (h : Stage.dispatching hardware.stages = some cpu) (flag : Bool) :
    hardware.setFlag flag = Function.update hardware.flags cpu flag := by
  unfold Hardware.setFlag
  rw [Stage.findSome?_of_dispatching h]

def Call.isPlain : Call → Bool
  | .enableInterrupts | .disableInterrupts | .device _ _ => false
  | _ => true

def Event.isPlain : Event → Bool
  | .service c _ => c.isPlain
  | .trap _ _ _ | .scope _ _ => false
  | _ => true

namespace Hardware

variable {hardware : Hardware} {x : Activity}

theorem flags_begins_of_isPlain (h : x.event.isPlain = true) :
    (hardware.begins x).flags = hardware.flags := by
  simp only [begins]
  cases hevent : x.event with
  | trap cpu frame result =>
    rw [hevent] at h
    cases h
  | service c result =>
    rw [hevent] at h
    cases c with
    | enableInterrupts => cases h
    | _ => rfl
  | _ => rfl

theorem flags_begins_of_ne {c : Call} {result : Except Stop c.Reply}
    (hx : x.event = .service c result) (hc : c ≠ .enableInterrupts) :
    (hardware.begins x).flags = hardware.flags := by
  simp only [begins, hx]
  cases c <;> first | rfl | exact absurd rfl hc

theorem through_of_isPlain {event : Event} (h : event.isPlain = true) :
    hardware.through event = hardware.flags := by
  cases event with
  | service c result => cases c <;> first | rfl | cases h
  | _ => rfl

theorem dispatching_begins_of_isPlain (h : x.event.isPlain = true) :
    Stage.dispatching (hardware.begins x).stages = none := by
  simp only [begins, Stage.dispatching]
  cases hevent : x.event <;> first | rfl | (rw [hevent] at h; cases h)

theorem serving_begins_of_isPlain (h : x.event.isPlain = true)
    (houter : hardware.stages.head?.bind Stage.cpu? = none) :
    Stage.serving (hardware.begins x).stages = Stage.serving hardware.stages := by
  simp only [begins, Stage.serving, houter]
  cases hevent : x.event with
  | trap cpu frame result =>
    rw [hevent] at h
    cases h
  | service c result =>
    rw [hevent] at h
    cases c with
    | device handler irq => cases h
    | _ => rfl
  | _ => rfl

theorem cpu?_of_isPlain {event : Event} (h : event.isPlain = true) : event.cpu? = none := by
  cases event <;> first | rfl | cases h

/-- A plain activity in whose course nothing is done passes the hardware by. -/
theorem after_noted {start : Fin maxCpus → Bool} (hplain : x.event.isPlain = true)
    (hfails : x.event.fails = false) (past : List Moment) :
    after start (.ends x :: .begins x :: past) = after start past := by
  have hstages : (after start (.ends x :: (history [] ++ .begins x :: past))).stages = _ :=
    stages_ends x [] past
  have hflags : (after start (.ends x :: (history [] ++ .begins x :: past))).flags = _ :=
    flags_ends (cpu?_of_isPlain hplain) [] past rfl
  rw [hfails, Stage.mark_false] at hstages
  rw [through_of_isPlain hplain] at hflags
  exact Hardware.ext hflags hstages

theorem calm_begins (h : x.event.cpu? = none) :
    Stage.calm (hardware.begins x).stages = Stage.calm hardware.stages := by
  have hcpu : Stage.cpu? ⟨x, x.event.cpu?.any hardware.flags, false⟩ = none := h
  simp only [begins, Stage.calm, hcpu]
  rfl

end Hardware
end TrapDispatch
