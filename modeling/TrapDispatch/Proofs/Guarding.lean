import TrapDispatch.Proofs.Closing
import TrapDispatch.Proofs.OpenLines
import TrapDispatch.Proofs.Regimes

/-!
# Guards of lines

A controller that never names a masked line cannot make the dispatcher enter a line twice:
the line of an open guard is masked until the guard gives it back, and no guard within it
has that line. So no handler is interrupted by its own line, and under the policy for it a
line that nobody claims is masked for good.
-/

namespace TrapDispatch

/-- The line that is dispatched by an event, if one is: its scope is entered, or its handler
runs. -/
def Event.dispatches? : Event → Option Irq
  | .scope irq _ => some irq
  | .service (.device _ irq) _ => some irq
  | _ => none

/-- Whether a moment is as guards of lines have it, on one CPU and with a controller that
names no masked line: they ensure what they should, a forsaken line is not dispatched if it
is to stay masked, and a line is left unhandled only if it is forsaken. -/
def Guards {σ : Type} (kernel : Kernel σ) (own : Fin maxCpus) (past : List Moment) :
    Moment → Prop
  | .begins x => (sparesMasked own (.begins x :: past) = true → Guarded kernel (.begins x :: past)) ∧
    ∀ irq, x.event.dispatches? = some irq → sparesMasked own past = true →
      kernel.config.policy = .maskLine → ¬ Forsaken kernel irq past
  | .ends x => (sparesMasked own (.ends x :: past) = true → Guarded kernel (.ends x :: past)) ∧
    ∀ cpu frame irq, x.event = .trap cpu frame (.ok (.unhandled irq)) → Forsaken kernel irq past

/-- A point of a run to look back to, and whether traps have been refused since. -/
structure Lookout where
  past : List Moment
  shut : Bool

/-- What is known at a point of a run: all moments are as the guards have them, the guards are
those that there were at the lookout, and nothing is forsaken while traps are refused. -/
structure Guarding {σ : Type} (kernel : Kernel σ) (own : Fin maxCpus) (view : Lookout)
    (past : List Moment) (machine : Machine σ) : Prop where
  since : Since view.past past
  upheld : Upheld (Guards kernel own) [] past
  steady : sparesMasked own past = true → Steady kernel view.past past
  shut : sparesMasked own past = true → view.shut = true →
    Kernel.accepts (machine.slots.get own) = false ∧
      ∀ irq, Forsaken kernel irq past → Forsaken kernel irq view.past

def guarding {σ : Type} (kernel : Kernel σ) (own : Fin maxCpus) : Regime σ where
  View := Lookout
  holds := Guarding kernel own
  halts view _ := Guarding kernel own view
  halting h _ := h

variable {σ α : Type} {kernel : Kernel σ} {server : Server σ} {own : Fin maxCpus}
  {view : Lookout} {start past now : List Moment} {machine last : Machine σ}
  {shut : Bool} {x : Activity}

theorem Event.dispatches?_of_isNeutral {event : Event} (h : event.isNeutral = true)
    (hruns : event.runs? = none) : event.dispatches? = none := by
  cases event with
  | service c result => cases c <;> first | rfl | cases hruns
  | scope irq claimed => cases h
  | _ => rfl

theorem guarded_of_upheld (h : Upheld (Guards kernel own) [] past)
    (hspares : sparesMasked own past = true) : Guarded kernel past := by
  cases past with
  | nil => exact guarded_nil kernel
  | cons moment past =>
    have hgood := (upheld_cons.mp h).1
    cases moment with
    | begins x => exact hgood.1 hspares
    | ends x => exact hgood.1 hspares

theorem Since.upheld {good : List Moment → Moment → Prop} (hsince : Since start past)
    (h : Upheld good [] past) : Upheld good [] start := by
  obtain ⟨new, rfl⟩ := hsince
  exact ((upheld_append _ _).mp h).2

/-- What is spared at the end of an activity was spared at its beginning. -/
theorem sparesMasked_begins
    (h : sparesMasked own (.ends x :: (history x.inner ++ .begins x :: past)) = true) :
    sparesMasked own (.begins x :: past) = true := by
  have hsince : Since (.begins x :: past) (history x.inner ++ .begins x :: past) := ⟨x.inner, rfl⟩
  exact hsince.sparesMasked (sparesMasked_tail h)

theorem guards_begins (h : Upheld (Guards kernel own) [] past) (hneutral : x.event.isNeutral = true)
    (hruns : x.event.runs? = none) : Guards kernel own past (.begins x) := by
  refine ⟨fun hspares => ?_, fun irq hdispatches => ?_⟩
  · exact (guarded_of_upheld h (sparesMasked_tail hspares)).begins
      (Event.opening_of_isNeutral hneutral) hruns fun _ => isMasked_begins hneutral
  · rw [Event.dispatches?_of_isNeutral hneutral hruns] at hdispatches
    cases hdispatches

theorem guards_ends (h : Upheld (Guards kernel own) [] (history x.inner ++ .begins x :: past))
    (hclosing : ∀ guards, x.event.closing guards = guards)
    (hlookup : ∀ irq entry, x.event ≠ .lookup irq entry)
    (hrunning : sparesMasked own (.ends x :: (history x.inner ++ .begins x :: past)) = true →
      (runningLines past).Sublist (openLines (history x.inner ++ .begins x :: past)))
    (htold : ∀ cpu frame irq, x.event = .trap cpu frame (.ok (.unhandled irq)) →
      Forsaken kernel irq (history x.inner ++ .begins x :: past)) :
    Guards kernel own (history x.inner ++ .begins x :: past) (.ends x) := by
  refine ⟨fun hspares => ?_, htold⟩
  exact (guarded_of_upheld h (sparesMasked_tail hspares)).ends hclosing hlookup (hrunning hspares)

namespace Guarding

theorem guarded (h : Guarding kernel own view past machine)
    (hspares : sparesMasked own past = true) : Guarded kernel past :=
  guarded_of_upheld h.upheld hspares

theorem here (h : Guarding kernel own ⟨start, shut⟩ past machine) :
    Guarding kernel own ⟨past, shut⟩ past machine :=
  ⟨.refl past, h.upheld, fun _ => .refl kernel past,
    fun hspares hshut => ⟨(h.shut hspares hshut).1, fun _ hirq => hirq⟩⟩

theorem trans {later : Bool} (h : Guarding kernel own ⟨start, shut⟩ past machine)
    (h' : Guarding kernel own ⟨past, later⟩ now last) :
    Guarding kernel own ⟨start, shut && later⟩ now last := by
  refine ⟨h.since.trans h'.since, h'.upheld, fun hspares => ?_, fun hspares hshut => ?_⟩
  · exact (h.steady (h'.since.sparesMasked hspares)).trans (h'.steady hspares)
  · obtain ⟨hshut, hlater⟩ := Bool.and_eq_true_iff.mp hshut
    obtain ⟨hrefuses, hforsaken⟩ := h'.shut hspares hlater
    have hbefore := (h.shut (h'.since.sparesMasked hspares) hshut).2
    exact ⟨hrefuses, fun irq hirq => hbefore irq (hforsaken irq hirq)⟩

theorem loosen (h : Guarding kernel own ⟨start, shut⟩ past machine) :
    Guarding kernel own ⟨start, false⟩ past machine :=
  ⟨h.since, h.upheld, h.steady, fun _ hshut => by cases hshut⟩

theorem begins (h : Guarding kernel own view past machine) (hx : Guards kernel own past (.begins x))
    (hshut : shut = true → view.shut = true) :
    Guarding kernel own ⟨.begins x :: past, shut⟩ (.begins x :: past) machine := by
  refine ⟨.refl _, upheld_cons.mpr ⟨hx, h.upheld⟩, fun _ => .refl kernel _, fun hspares hview => ?_⟩
  exact ⟨(h.shut (sparesMasked_tail hspares) (hshut hview)).1, fun _ hirq => hirq⟩

/-- A neutral activity ends. Traps count as refused only if they were so in its course. -/
theorem ends (h : Guarding kernel own view past machine) (hneutral : x.event.isNeutral = true)
    (htold : ∀ cpu frame irq, x.event = .trap cpu frame (.ok (.unhandled irq)) →
      Forsaken kernel irq (history x.inner ++ .begins x :: past))
    (hshut : sparesMasked own (.begins x :: past) = true → view.shut = true → shut = true)
    (hlast : Guarding kernel own ⟨.begins x :: past, shut⟩ (history x.inner ++ .begins x :: past)
      last) :
    Guarding kernel own view (.ends x :: (history x.inner ++ .begins x :: past)) last := by
  have hbegins := Steady.begins kernel past hneutral
  have hclosing := Event.closing_of_isNeutral hneutral
  have hlookup := Event.ne_lookup_of_isNeutral hneutral
  have hends := Steady.ends kernel (history x.inner ++ .begins x :: past) hclosing hlookup
  refine ⟨h.since.closing x, upheld_cons.mpr ⟨?_, hlast.upheld⟩, fun hspares => ?_,
    fun hspares hview => ?_⟩
  · refine guards_ends hlast.upheld hclosing hlookup (fun hspares => ?_) htold
    have hsteady := hbegins.trans (hlast.steady (sparesMasked_tail hspares))
    rw [hsteady.openLines]
    exact (h.guarded (sparesMasked_tail (sparesMasked_begins hspares))).running
  · have hpast := h.steady (sparesMasked_tail (sparesMasked_begins hspares))
    exact ((hpast.trans hbegins).trans (hlast.steady (sparesMasked_tail hspares))).trans hends
  · have hinner := hlast.shut (sparesMasked_tail hspares)
      (hshut (sparesMasked_begins hspares) hview)
    have hbefore := h.shut (sparesMasked_tail (sparesMasked_begins hspares)) hview
    refine ⟨hinner.1, fun irq hirq => hbefore.2 irq ?_⟩
    rcases hirq.of_ends with hirq | ⟨entry, hentry, -⟩
    · exact (hinner.2 irq hirq).of_begins
    · exact absurd hentry (hlookup irq entry)

end Guarding

theorem guarding_cuts {stop : Stop} : (guarding kernel own).cuts view stop past machine ↔
    Guarding kernel own view past machine := by
  cases stop <;> exact Iff.rfl

theorem guarding_upon {result : Except Stop α} :
    Upon (fun _ => Guarding kernel own view) ((guarding kernel own).cuts view) result past machine ↔
      Guarding kernel own view past machine := by
  cases result with
  | ok value => exact Iff.rfl
  | error stop => exact guarding_cuts

theorem guarding_during {event : Except Stop α → Event} {body : Dispatch σ α}
    (fact : α → List Moment → Prop) (hneutral : ∀ result, (event result).isNeutral = true)
    (hruns : ∀ result, (event result).runs? = none) (htrap : ∀ result, (event result).cpu? = none)
    (hbody : (guarding kernel own).Keeps body)
    (hfact : ∀ x value past now, x.event = event (.ok value) →
      (sparesMasked own now = true → Steady kernel (.begins x :: past) now) →
      fact value (.ends x :: now)) :
    Carries (Guarding kernel own view)
      (fun value past machine => Guarding kernel own view past machine ∧ fact value past)
      ((guarding kernel own).cuts view) (Dispatch.during event body) := by
  apply carries_during
  intro x result past machine hx _ h
  have hneutral : x.event.isNeutral = true := hx ▸ hneutral result
  have htold : ∀ cpu frame irq, x.event = .trap cpu frame (.ok (.unhandled irq)) →
      Forsaken kernel irq (history x.inner ++ .begins x :: past) := by
    intro cpu frame irq hevent
    have hcpu := htrap result
    rw [← hx, hevent] at hcpu
    cases hcpu
  have hbegins := h.begins (guards_begins h.upheld hneutral (hx ▸ hruns result)) fun hshut => hshut
  refine ⟨_, _, _, hbody ⟨.begins x :: past, view.shut⟩, hbegins, fun last _ hupon => ?_⟩
  have hinner := guarding_upon.mp hupon
  have hends := h.ends hneutral htold (fun _ hview => hview) hinner
  cases result with
  | ok value => exact ⟨hends, hfact x value past _ hx hinner.steady⟩
  | error stop => exact guarding_cuts.mpr hends

theorem guarding_neutral {event : Except Stop α → Event} {body : Dispatch σ α}
    (hneutral : ∀ result, (event result).isNeutral = true)
    (hruns : ∀ result, (event result).runs? = none) (htrap : ∀ result, (event result).cpu? = none)
    (hbody : (guarding kernel own).Keeps body) :
    (guarding kernel own).Keeps (Dispatch.during event body) := fun _ =>
  (guarding_during (fun _ _ => True) hneutral hruns htrap hbody fun _ _ _ _ _ _ => trivial).mono
    (fun _ _ h => h) (fun _ _ _ h => h.1) fun _ _ _ h => h

theorem guarding_note {event : Event} (hneutral : event.isNeutral = true)
    (hruns : event.runs? = none) (htrap : event.cpu? = none) :
    (guarding kernel own).Keeps (Dispatch.note (σ := σ) event) := by
  refine fun view => carries_note fun x past machine hx hinner h => ?_
  have hneutral : x.event.isNeutral = true := hx ▸ hneutral
  have hbegins := h.begins (guards_begins h.upheld hneutral (hx ▸ hruns)) fun hshut => hshut
  have hends : Guarding kernel own view (.ends x :: (history x.inner ++ .begins x :: past)) machine := by
    refine h.ends hneutral ?_ (fun _ hview => hview) (by rw [hinner]; exact hbegins)
    intro cpu frame irq hevent
    rw [← hx, hevent] at htrap
    cases htrap
  rw [hinner] at hends
  exact hends

theorem guarding_modifyMachine {change : Machine σ → Machine σ}
    (hjournal : ∀ machine, (change machine).journal = machine.journal)
    (hslots : ∀ machine, (change machine).slots = machine.slots) :
    (guarding kernel own).Keeps (Dispatch.modifyMachine change) := by
  refine fun view => carries_modifyMachine hjournal fun past machine h => ?_
  refine ⟨h.since, h.upheld, h.steady, fun hspares hshut => ?_⟩
  have hmachine : (change machine).bare.slots = machine.bare.slots := hslots machine
  rw [hmachine]
  exact h.shut hspares hshut

theorem quiet_guarding : (guarding kernel own).Quiet := by
  intro view past a b hslots _ _ _ h
  refine ⟨h.since, h.upheld, h.steady, fun hspares hshut => ?_⟩
  rw [hslots]
  exact h.shut hspares hshut

theorem guarding_setSlot (cpu : Fin maxCpus) (change : CpuSlot → CpuSlot) :
    ((guarding kernel own).under ⟨start, false⟩).Keeps (Dispatch.setSlot cpu change) :=
  carries_modifyMachine (fun _ => rfl) fun _ _ h =>
    ⟨h.since, h.upheld, h.steady, fun _ hshut => by cases hshut⟩

theorem guarding_withRegistry (change : Registry → α × Registry) :
    (guarding kernel own).Keeps (Dispatch.withRegistry change) :=
  quiet_guarding.plain.withRegistry (fun _ => carries_throw _ fun _ _ h => guarding_cuts.mpr h)
    (guarding_modifyMachine (fun _ => rfl) fun _ => rfl)
    fun _ => guarding_modifyMachine (fun _ => rfl) fun _ => rfl

/-- Calls that neither unmask a line nor run a device handler. -/
def Call.isNeutral : Call → Bool
  | .unmask _ | .device _ _ => false
  | _ => true

theorem Call.isNeutral_event {c : Call} (h : c.isNeutral = true) (result : Except Stop c.Reply) :
    (Event.service c result).isNeutral = true ∧ (Event.service c result).runs? = none := by
  cases c <;> first | exact ⟨rfl, rfl⟩ | cases h

section

variable (hserves : ∀ op, (guarding kernel own).Keeps (server.reply op))

include hserves

theorem guarding_run (program : ServiceProgram σ α) :
    (guarding kernel own).Keeps (server.run program) :=
  (guarding kernel own).resilient.run (S := serviceSignature σ) hserves program

theorem guarding_tells {c : Call} (h : c.isNeutral = true)
    (fact : c.Reply → List Moment → Prop)
    (hfact : ∀ x value past now, x.event = .service c (.ok value) →
      (sparesMasked own now = true → Steady kernel (.begins x :: past) now) →
      fact value (.ends x :: now)) :
    Carries (Guarding kernel own view)
      (fun value past machine => Guarding kernel own view past machine ∧ fact value past)
      ((guarding kernel own).cuts view) (kernel.call server c) :=
  guarding_during fact (fun result => (Call.isNeutral_event h result).1)
    (fun result => (Call.isNeutral_event h result).2) (fun _ => rfl) (guarding_run hserves _) hfact

theorem guarding_call {c : Call} (h : c.isNeutral = true) :
    (guarding kernel own).Keeps (kernel.call server c) :=
  guarding_neutral (fun result => (Call.isNeutral_event h result).1)
    (fun result => (Call.isNeutral_event h result).2) (fun _ => rfl) (guarding_run hserves _)

/-- What the controller names was not masked. -/
theorem guarding_pending (vector : UInt64) :
    Carries (Guarding kernel own view)
      (fun named past machine => Guarding kernel own view past machine ∧
        (sparesMasked own past = true → ∀ irq, named = some irq → isMasked irq past = false))
      ((guarding kernel own).cuts view) (kernel.call server (.pending vector)) := by
  refine guarding_tells (c := .pending vector) hserves rfl _ ?_
  rintro x value past now hx - hspares irq rfl
  have hnamed := (Bool.and_eq_true_iff.mp hspares).1
  rw [hx] at hnamed
  change isMasked irq now = false
  simpa [Event.named?] using hnamed

theorem guarding_mask (irq : Irq) :
    Carries (Guarding kernel own view)
      (fun _ past machine => Guarding kernel own view past machine ∧
        (sparesMasked own past = true → isMasked irq past = true))
      ((guarding kernel own).cuts view) (kernel.call server (.mask irq)) := by
  refine guarding_tells (c := .mask irq) hserves rfl _ ?_
  intro x value past now hx hsteady hspares
  exact (hsteady (sparesMasked_tail hspares)).masked irq (isMasked_of_mask hx)

end

end TrapDispatch
