import TrapDispatch.Proofs.Handlers

/-!
# Traps and their masks

The dispatcher works with interrupts off and refuses traps, and lets interrupts in only
while a handler runs. A trap that returns leaves flags and slots as they were; where one
is cut short, its CPU is not seen to accept what it should not.
-/

namespace TrapDispatch

/-- What holds of a trap where it may have been cut short. -/
structure Wrecked (start : Fin maxCpus → Bool) (cpu : Fin maxCpus) (past : List Moment)
    (slots : CpuSlots) : Prop where
  agree : Agree (.after start past) slots
  dispatching : Stage.dispatching (Hardware.after start past).stages = some cpu
  unheld : ¬ Stage.Withheld cpu (Hardware.after start past).stages
  shut : Stage.calm (Hardware.after start past).stages = true → Shut (.after start past) slots cpu

/-- What is watched where the dispatcher itself is at work for a trap. -/
def trapWatch (start : Fin maxCpus → Bool) (cpu : Fin maxCpus) : Watch where
  good := Seen start
  holds past slots := Wrecked start cpu past slots ∧
    Stage.calm (Hardware.after start past).stages = true
  wreck past slots := Wrecked start cpu past slots
  same past before now after :=
    (∀ other, other ≠ cpu → (Hardware.after start now).flags other =
      (Hardware.after start past).flags other) ∧ SameBut (some cpu) before after
  wrecks h := h.1
  refl _ slots := ⟨fun _ _ => rfl, .refl (some cpu) slots⟩
  trans hfirst hsecond := ⟨fun other h => (hsecond.1 other h).trans (hfirst.1 other h),
    hfirst.2.trans hsecond.2⟩

variable {σ α : Type} {start : Fin maxCpus → Bool} {cpu : Fin maxCpus} {kernel : Kernel σ}
  {server : Server σ} {hardware : Hardware} {slots after : CpuSlots} {x : Activity}
  {past : List Moment}

theorem through_of_isMasked {c : Call} (hmasked : c.isMasked = true) (value : c.Reply) :
    hardware.through (.service c (.ok value)) = hardware.flags := by
  cases c <;> first | rfl | cases hmasked

theorem Wrecked.later {later : List Moment} (h : Wrecked start cpu past slots)
    (hagree : Agree (.after start later) after)
    (hstages : (Hardware.after start later).stages = (Hardware.after start past).stages)
    (hflags : (Hardware.after start later).flags = (Hardware.after start past).flags)
    (hsame : SameBut none slots after) : Wrecked start cpu later after where
  agree := hagree
  dispatching := by rw [hstages, h.dispatching]
  unheld := by rw [hstages]; exact h.unheld
  shut hcalm := (h.shut (by rw [← hstages, hcalm])).later (by rw [hflags]) hsame

/-- Nothing is asked of a trap in the course of which something failed. -/
theorem Wrecked.failed {later : List Moment}
    (hdispatching : Stage.dispatching (Hardware.after start past).stages = some cpu)
    (hunheld : ¬ Stage.Withheld cpu (Hardware.after start past).stages)
    (hagree : Agree (.after start later) after)
    (hstages : (Hardware.after start later).stages =
      Stage.mark true (Hardware.after start past).stages) : Wrecked start cpu later after where
  agree := hagree
  dispatching := by rw [hstages, Stage.dispatching_mark, hdispatching]
  unheld := by rw [hstages, Stage.withheld_mark]; exact hunheld
  shut hcalm := by
    have hne : (Hardware.after start past).stages ≠ [] := by
      intro hnil
      rw [hnil] at hdispatching
      cases hdispatching
    rw [hstages, Stage.calm_mark_true hne] at hcalm
    cases hcalm

theorem Wrecked.ready {c : Call} (h : Wrecked start cpu past slots) (hmasked : c.isMasked = true) :
    Ready cpu c (.after start past) slots where
  agree := h.agree
  dispatching := h.dispatching
  unheld := h.unheld
  shut _ := h.shut
  running hc := by
    rw [hc] at hmasked
    cases hmasked
  enabled hc := by
    obtain ⟨handler, irq, rfl⟩ := hc
    cases hmasked

theorem trapWatch_call (hserves : (serviceWatch start).law.Serves server) {c : Call}
    (hmasked : c.isMasked = true) : (trapWatch start cpu).law.Obeys (kernel.call server c) := by
  rw [Watch.obeys_iff]
  refine leads_mono (leads_readyCall hserves fun past slots h => h.1.ready hmasked) ?_ ?_
  · rintro past before now after ⟨hwrecked, hcalm⟩ ⟨hagree, hstages, ⟨value, hflags⟩, hsame⟩
    rw [through_of_isMasked hmasked] at hflags
    refine ⟨⟨hwrecked.later hagree hstages hflags hsame, by rw [hstages, hcalm]⟩,
      fun other _ => by rw [hflags], hsame.weaken _⟩
  · rintro past before now after ⟨hwrecked, -⟩ ⟨hagree, hstages⟩
    exact .failed hwrecked.dispatching hwrecked.unheld hagree hstages

/-- Masked calls of the dispatcher, where something was cut short. -/
theorem aftermath_call (hserves : (serviceWatch start).law.Serves server) {c : Call}
    (hmasked : c.isMasked = true) :
    (trapWatch start cpu).aftermath.law.Obeys (kernel.call server c) := by
  rw [Watch.obeys_iff]
  refine leads_mono (leads_readyCall hserves fun past slots h => h.ready hmasked) ?_ ?_
  · rintro past before now after hwrecked ⟨hagree, hstages, ⟨value, hflags⟩, hsame⟩
    rw [through_of_isMasked hmasked] at hflags
    exact ⟨hwrecked.later hagree hstages hflags hsame, trivial⟩
  · rintro past before now after hwrecked ⟨hagree, hstages⟩
    exact .failed hwrecked.dispatching hwrecked.unheld hagree hstages

/-- Whether a computation of the dispatcher that begins under `pre` ends under `post`,
and leaves the other CPUs alone. -/
def Conducts (start : Fin maxCpus → Bool) (cpu : Fin maxCpus)
    (pre post : List Moment → CpuSlots → Prop) (body : Dispatch σ α) : Prop :=
  Law.Leads
    (Follows (Seen start) pre fun past before now after =>
      post now after ∧ (trapWatch start cpu).same past before now after)
    (Follows (Seen start) pre fun _ _ now after => Wrecked start cpu now after) body

section

variable {β : Type} {pre middle post : List Moment → CpuSlots → Prop}

theorem Conducts.bind {body : Dispatch σ α} {next : α → Dispatch σ β}
    (hbody : Conducts start cpu pre middle body)
    (hnext : ∀ value, Conducts start cpu middle post (next value)) :
    Conducts start cpu pre post (body >>= next) := by
  refine leads_bind hbody hnext (fun _ _ _ _ _ h => h.1) ?_ (fun _ _ _ _ _ h => h)
    fun _ _ _ _ _ _ _ _ h => h
  intro past before now after later last _ hfirst hsecond
  exact ⟨hsecond.1, (trapWatch start cpu).trans hfirst.2 hsecond.2⟩

theorem Conducts.mono {first last : List Moment → CpuSlots → Prop} {body : Dispatch σ α}
    (h : Conducts start cpu first last body) (hpre : ∀ past slots, pre past slots → first past slots)
    (hpost : ∀ past slots, last past slots → post past slots) :
    Conducts start cpu pre post body := by
  intro state
  refine (h state).mono (fun b h => ?_) fun b h => h.weaken fun past => hpre past _
  exact (h.weaken fun past => hpre past _).mono fun past now _ h => ⟨hpost _ _ h.1, h.2⟩

theorem conducts_pure (value : α) (hpost : ∀ past slots, pre past slots → post past slots) :
    Conducts start cpu pre post (pure value : Dispatch σ α) :=
  fun _ => Law.leadsAt_of_ok rfl
    (Follows.still rfl fun past h => ⟨hpost past _ h, (trapWatch start cpu).refl past _⟩)

end

structure Lowered (start : Fin maxCpus → Bool) (cpu : Fin maxCpus) (past : List Moment)
    (slots : CpuSlots) : Prop where
  agree : Agree (.after start past) slots
  dispatching : Stage.dispatching (Hardware.after start past).stages = some cpu
  unheld : ¬ Stage.Withheld cpu (Hardware.after start past).stages
  calm : Stage.calm (Hardware.after start past).stages = true
  flag : (Hardware.after start past).flags cpu = false

structure Opened (start : Fin maxCpus → Bool) (cpu : Fin maxCpus) (past : List Moment)
    (slots : CpuSlots) : Prop where
  agree : Agree (.after start past) slots
  dispatching : Stage.dispatching (Hardware.after start past).stages = some cpu
  unheld : ¬ Stage.Withheld cpu (Hardware.after start past).stages
  calm : Stage.calm (Hardware.after start past).stages = true
  flag : (Hardware.after start past).flags cpu = true
  running : (slots.get cpu).state = .handlerRunning ∧ (slots.get cpu).masked = false

theorem conducts_setState (state : DispatchState) (masked : Bool) :
    Conducts start cpu (Lowered start cpu)
      (fun past slots => Lowered start cpu past slots ∧
        (slots.get cpu).state = state ∧ (slots.get cpu).masked = masked)
      (Kernel.setState (σ := σ) cpu state masked) := by
  unfold Kernel.setState
  refine leads_mono (leads_setSlot cpu _) ?_ fun _ _ _ _ _ h => h.elim
  rintro past before now after hlowered ⟨rfl, rfl⟩
  refine ⟨⟨{ hlowered with agree := hlowered.agree.put hlowered.flag hlowered.unheld _ }, ?_⟩,
    fun _ _ => rfl, ?_⟩
  · rw [CpuSlots.get_put_self]
    exact ⟨rfl, rfl⟩
  · intro other hother
    have hne : other ≠ cpu := fun h => hother (h ▸ rfl)
    rw [CpuSlots.get_put_ne _ _ hne]
    exact ⟨rfl, rfl⟩

theorem Opened.ready {c : Call} (h : Opened start cpu past slots) (hmasked : c.isMasked = false) :
    Ready cpu c (.after start past) slots where
  agree := h.agree
  dispatching := h.dispatching
  unheld := h.unheld
  shut hc := by
    rw [hmasked] at hc
    cases hc
  running _ := h.running
  enabled _ := h.flag

theorem Opened.later {later : List Moment} (h : Opened start cpu past slots)
    (hagree : Agree (.after start later) after)
    (hstages : (Hardware.after start later).stages = (Hardware.after start past).stages)
    (hflags : (Hardware.after start later).flags = (Hardware.after start past).flags)
    (hsame : SameBut none slots after) : Opened start cpu later after where
  agree := hagree
  dispatching := by rw [hstages, h.dispatching]
  unheld := by rw [hstages]; exact h.unheld
  calm := by rw [hstages, h.calm]
  flag := by rw [hflags, h.flag]
  running := by
    obtain ⟨hstate, hmasked⟩ := hsame cpu (by simp)
    exact ⟨hstate.trans h.running.1, hmasked.trans h.running.2⟩

theorem conducts_openCall (hserves : (serviceWatch start).law.Serves server) {c : Call}
    (hmasked : c.isMasked = false) (henable : c ≠ .enableInterrupts)
    (hdisable : c ≠ .disableInterrupts) :
    Conducts start cpu (Opened start cpu) (Opened start cpu) (kernel.call server c) := by
  have hthrough : ∀ (hardware : Hardware) (value : c.Reply),
      hardware.through (.service c (.ok value)) = hardware.flags := by
    intro hardware value
    cases c <;> first | rfl | contradiction
  refine leads_mono (leads_readyCall hserves fun past slots h => h.ready hmasked) ?_ ?_
  · rintro past before now after hopened ⟨hagree, hstages, ⟨value, hflags⟩, hsame⟩
    rw [hthrough] at hflags
    exact ⟨hopened.later hagree hstages hflags hsame, fun other _ => by rw [hflags],
      hsame.weaken _⟩
  · rintro past before now after hopened ⟨hagree, hstages⟩
    exact .failed hopened.dispatching hopened.unheld hagree hstages

theorem Lowered.ready (h : Lowered start cpu past slots)
    (hrunning : (slots.get cpu).state = .handlerRunning ∧ (slots.get cpu).masked = false) :
    Ready cpu .enableInterrupts (.after start past) slots where
  agree := h.agree
  dispatching := h.dispatching
  unheld := h.unheld
  shut hc := by cases hc
  running _ := hrunning
  enabled hc := by
    obtain ⟨handler, irq, hc⟩ := hc
    cases hc

theorem conducts_enable (hserves : (serviceWatch start).law.Serves server) :
    Conducts start cpu
      (fun past slots => Lowered start cpu past slots ∧
        (slots.get cpu).state = .handlerRunning ∧ (slots.get cpu).masked = false)
      (Opened start cpu) (kernel.call server .enableInterrupts) := by
  refine leads_mono (leads_readyCall hserves fun past slots h => h.1.ready h.2) ?_ ?_
  · rintro past before now after ⟨hlowered, hrunning⟩ ⟨hagree, hstages, ⟨value, hflags⟩, hsame⟩
    have hset : (Hardware.after start now).flags =
        Function.update (Hardware.after start past).flags cpu true := by
      rw [hflags, ← Hardware.setFlag_of_dispatching hlowered.dispatching]
      rfl
    obtain ⟨hstate, hmask⟩ := hsame cpu (by simp)
    refine ⟨⟨hagree, hstages ▸ hlowered.dispatching, hstages ▸ hlowered.unheld,
      hstages ▸ hlowered.calm, ?_, ?_⟩,
      fun other hother => ?_, hsame.weaken _⟩
    · rw [hset, Function.update_self]
    · exact ⟨hstate.trans hrunning.1, hmask.trans hrunning.2⟩
    · rw [hset, Function.update_of_ne hother]
  · rintro past before now after ⟨hlowered, -⟩ ⟨hagree, hstages⟩
    exact .failed hlowered.dispatching hlowered.unheld hagree hstages

theorem conducts_disable (hserves : (serviceWatch start).law.Serves server) :
    Conducts start cpu (Opened start cpu) (Lowered start cpu)
      (kernel.call server .disableInterrupts) := by
  refine leads_mono (leads_readyCall hserves fun past slots h => h.ready rfl) ?_ ?_
  · rintro past before now after hopened ⟨hagree, hstages, ⟨value, hflags⟩, hsame⟩
    have hset : (Hardware.after start now).flags =
        Function.update (Hardware.after start past).flags cpu false := by
      rw [hflags, ← Hardware.setFlag_of_dispatching hopened.dispatching]
      rfl
    refine ⟨⟨hagree, hstages ▸ hopened.dispatching, hstages ▸ hopened.unheld,
      hstages ▸ hopened.calm, ?_⟩,
      fun other hother => ?_, hsame.weaken _⟩
    · rw [hset, Function.update_self]
    · rw [hset, Function.update_of_ne hother]
  · rintro past before now after hopened ⟨hagree, hstages⟩
    exact .failed hopened.dispatching hopened.unheld hagree hstages

theorem lowered_of_holds (h : (trapWatch start cpu).holds past slots) :
    Lowered start cpu past slots :=
  ⟨h.1.agree, h.1.dispatching, h.1.unheld, h.2, (h.1.shut h.2).1⟩

/-- A slot that is masked in the course of a trap is shut once the flag is cleared. -/
theorem holds_of_lowered {state : DispatchState} (hstate : state ≠ .idle)
    (h : Lowered start cpu past slots ∧ (slots.get cpu).state = state ∧
      (slots.get cpu).masked = true) : (trapWatch start cpu).holds past slots := by
  obtain ⟨hlowered, hslot, hmasked⟩ := h
  refine ⟨⟨hlowered.agree, hlowered.dispatching, hlowered.unheld,
    fun _ => ⟨hlowered.flag, hmasked, ?_⟩⟩, hlowered.calm⟩
  unfold Kernel.accepts
  rw [hslot, hmasked]
  cases state <;> first | rfl | exact absurd rfl hstate

theorem trapWatch_setState {state : DispatchState} (hstate : state ≠ .idle) :
    (trapWatch start cpu).law.Obeys (Kernel.setState (σ := σ) cpu state true) := by
  have h : Conducts start cpu (trapWatch start cpu).holds (trapWatch start cpu).holds
      (Kernel.setState (σ := σ) cpu state true) :=
    (conducts_setState state true).mono (fun _ _ => lowered_of_holds)
      fun _ _ => holds_of_lowered hstate
  exact h

theorem trapWatch_interruptible (hserves : (serviceWatch start).law.Serves server)
    {body : Dispatch σ α} (hbody : Conducts start cpu (Opened start cpu) (Opened start cpu) body) :
    (trapWatch start cpu).law.Obeys (kernel.interruptible server cpu body) := by
  have hlast : ∀ value : α, Conducts start cpu (Opened start cpu) (trapWatch start cpu).holds (do
      kernel.call server .disableInterrupts
      Kernel.setState cpu .handlerRunning true
      return value) := by
    intro value
    apply (conducts_disable hserves).bind
    intro _
    apply (conducts_setState .handlerRunning true).bind
    intro _
    exact conducts_pure value fun _ _ => holds_of_lowered (by decide)
  have h : Conducts start cpu (trapWatch start cpu).holds (trapWatch start cpu).holds
      (kernel.interruptible server cpu body) := by
    -- The slot is opened before the flag is set, and shut only once the flag is cleared.
    refine Conducts.bind ((conducts_setState .handlerRunning false).mono
      (fun _ _ => lowered_of_holds) fun _ _ h => h) fun _ => ?_
    exact (conducts_enable hserves).bind fun _ => hbody.bind hlast
  exact h

theorem conducts_timeDevice (hserves : (serviceWatch start).law.Serves server) (irq : Irq)
    (handler : HandlerId) : Conducts start cpu (Opened start cpu) (Opened start cpu)
      (kernel.timeDevice server irq handler) := by
  unfold Kernel.timeDevice
  apply (conducts_openCall hserves rfl (by simp) (by simp)).bind
  intro first
  apply (conducts_openCall hserves rfl (by simp) (by simp)).bind
  intro _
  apply (conducts_openCall hserves rfl (by simp) (by simp)).bind
  intro last
  exact conducts_pure _ fun _ _ h => h

theorem conducts_systemCall (hserves : (serviceWatch start).law.Serves server) (number : UInt64)
    (words : ArgumentWords) : Conducts start cpu (Opened start cpu) (Opened start cpu)
      (kernel.systemCall server number words) := by
  have hframe : Conducts start cpu (Opened start cpu) (Opened start cpu) (Dispatch.frame (σ := σ)) :=
    fun _ => Law.leadsAt_of_ok rfl
      (Follows.still rfl fun past h => ⟨h, (trapWatch start cpu).refl past _⟩)
  unfold Kernel.systemCall
  apply hframe.bind
  intro frame
  refine leads_mono (masking_inner (Opened start cpu)
    ((serviceWatch_handles hserves).serveCall serviceWatch_handler number words frame) (fun _ => rfl) (fun _ => rfl)
    (fun _ => rfl) ?_) ?_ ?_
  · intro x result past hx hopened
    have hplain : x.event.isPlain = true := by rw [hx]; rfl
    refine ⟨hopened.agree, ?_, ?_, Hardware.dispatching_begins_of_isPlain hplain⟩
    · exact hopened.agree.begins_of_noCall (Hardware.cpu?_of_isPlain hplain)
        (Hardware.flags_begins_of_isPlain hplain) (by rw [hx]; rfl)
    · intro other hserving _
      rw [Hardware.after_begins] at hserving ⊢
      rw [Hardware.flags_begins_of_isPlain hplain]
      have hquiet := Stage.serving_of_dispatching hopened.dispatching
      simp only [Hardware.begins, Stage.serving, hx, hquiet, Option.or_none] at hserving
      have hother := Stage.dispatching_of_head hserving
      rw [hopened.dispatching] at hother
      cases hother
      exact hopened.flag
  · rintro past before now after hopened ⟨hagree, hstages, ⟨value, hflags⟩, hsame⟩
    rw [Hardware.through_of_isPlain rfl] at hflags
    exact ⟨hopened.later hagree hstages hflags hsame, fun other _ => by rw [hflags],
      hsame.weaken _⟩
  · rintro past before now after hopened ⟨hagree, hstages⟩
    exact .failed hopened.dispatching hopened.unheld hagree hstages

theorem trapWatch_lookup (irq : Irq) (entry : Option HandlerEntry) :
    (trapWatch start cpu).law.Obeys (Dispatch.note (σ := σ) (.lookup irq entry)) := by
  intro state
  have hnoting : (trapWatch start cpu).Returns state.machine
      (state.machine.closing { state.machine with journal := [] } (.lookup irq entry)) := by
    have hserved : ∀ x : Activity, x.event = .lookup irq entry → ∀ past,
        (trapWatch start cpu).holds past state.machine.slots →
        Served (.after start (.begins x :: past)) := by
      intro x hx past h other hserving
      rw [Hardware.after_begins] at hserving
      have hquiet := Stage.serving_of_dispatching h.1.dispatching
      simp only [Hardware.begins, Stage.serving, hx, hquiet] at hserving
      cases hserving
    refine Follows.noting ?_ ?_
    · intro x hx hbefore past h
      have hbegins := hserved x hx past h
      rw [← hbefore] at h
      exact .begins_noted (by rw [hx]; rfl) (by rw [hx]; rfl) h.1.agree hbegins
    · intro x hx hbefore hafter past h
      have hbegins := hserved x hx past h
      have hnoted : Hardware.after start (.ends x :: .begins x :: past) = .after start past :=
        Hardware.after_noted (by rw [hx]; rfl) (by rw [hx]; rfl) past
      refine ⟨?_, ⟨?_, ?_⟩, ?_, .refl _ _⟩
      · rw [← hafter] at h
        exact .ends_noted (by rw [hx]; rfl) (by rw [hx]; rfl) (by rw [hx]; rfl) h.1.agree hbegins
      · exact h.1.later (hnoted ▸ h.1.agree) (by rw [hnoted]) (by rw [hnoted]) (.refl _ _)
      · rw [hnoted]
        exact h.2
      · intro other _
        rw [hnoted]
  exact hnoting

theorem trapWatch_closes (hserves : (serviceWatch start).law.Serves server) (irq : Irq) :
    (trapWatch start cpu).law.Closes kernel server irq :=
  ⟨Watch.quiet _, trapWatch_call hserves rfl, trapWatch_call hserves rfl, trapWatch_call hserves rfl⟩

theorem aftermath_closes (hserves : (serviceWatch start).law.Serves server) (irq : Irq) :
    (trapWatch start cpu).aftermath.law.Closes kernel server irq :=
  ⟨Watch.quiet _, aftermath_call hserves rfl, aftermath_call hserves rfl, aftermath_call hserves rfl⟩

theorem trapWatch_scopes (hserves : (serviceWatch start).law.Serves server) (irq : Irq) :
    (trapWatch start cpu).law.Scopes (trapWatch start cpu).aftermath.law kernel server cpu irq where
  closes := trapWatch_closes hserves irq
  closesAfter := aftermath_closes hserves irq
  unwinds := Watch.unwinds_aftermath _
  lookup := trapWatch_lookup irq
  device handler := trapWatch_interruptible hserves (conducts_timeDevice hserves irq handler)

theorem holds_begins_scope {irq : Irq} {result : Except Stop Bool}
    (h : (trapWatch start cpu).holds past slots) (hx : x.event = .scope irq result) :
    (trapWatch start cpu).holds (.begins x :: past) slots := by
  obtain ⟨hwrecked, hcalm⟩ := h
  have hcpu : x.event.cpu? = none := by rw [hx]; rfl
  have hcall : x.event.call? = none := by rw [hx]; rfl
  have hflags : ((Hardware.after start past).begins x).flags = (Hardware.after start past).flags := by
    simp only [Hardware.begins, hx]
  have hdispatching : Stage.dispatching ((Hardware.after start past).begins x).stages = some cpu := by
    simp only [Hardware.begins, Stage.dispatching, hx, hwrecked.dispatching]
  have hcalm' : Stage.calm ((Hardware.after start past).begins x).stages = true := by
    rw [Hardware.calm_begins hcpu, hcalm]
  refine ⟨⟨hwrecked.agree.begins_of_noCall hcpu hflags hcall, hdispatching, ?_, fun _ => ?_⟩, hcalm'⟩
  · exact mt (Stage.withheld_begins hcall).mp hwrecked.unheld
  · exact (hwrecked.shut hcalm).later (by rw [Hardware.after_begins, hflags]) (.refl _ _)

theorem trapWatch_scope (hserves : (serviceWatch start).law.Serves server) (scope : AckScope) :
    (trapWatch start cpu).law.Obeys (kernel.serviceScope server cpu scope) := by
  have hservicing : (trapWatch start cpu).law.Obeys (scope.servicing (kernel.controller server)
      (kernel.serviceLine server cpu scope.irq scope)) :=
    (trapWatch_scopes hserves scope.irq).servicing
  rw [Watch.obeys_iff] at hservicing ⊢
  unfold Kernel.serviceScope
  refine leads_during hservicing ?_ ?_ ?_
  · intro x result past hx h
    have hbegins := holds_begins_scope h hx
    exact ⟨⟨h.1.agree.receptive, .of_dispatching hbegins.1.dispatching, hbegins.1.agree.secluded⟩,
      hbegins⟩
  · rintro x value past hx ⟨hwrecked, hcalm⟩ ⟨⟨hnow, hcalmnow⟩, hsame⟩
    have hflags : (Hardware.after start (.ends x :: (history x.inner ++ .begins x :: past))).flags =
        (Hardware.after start (history x.inner ++ .begins x :: past)).flags := by
      rw [Hardware.after_ends]
      simp only [Hardware.ends, hx]
    have hstages : (Hardware.after start (.ends x :: (history x.inner ++ .begins x :: past))).stages =
        (Hardware.after start past).stages := by
      rw [Hardware.stages_ends, hx]
      exact Stage.mark_false _
    have hagree := hnow.agree.ends (x := x) (by rw [hx]; rfl)
    refine ⟨⟨hagree.receptive, .of_dispatching hnow.dispatching, hnow.agree.secluded⟩,
      ⟨⟨hagree, ?_, ?_, ?_⟩, ?_⟩, ?_, hsame.2⟩
    · rw [hstages, hwrecked.dispatching]
    · rw [hstages]
      exact hwrecked.unheld
    · intro _
      exact (hnow.shut hcalmnow).later (by rw [hflags]) (.refl _ _)
    · rw [hstages, hcalm]
    · intro other hother
      rw [hflags, hsame.1 other hother, Hardware.after_begins]
      simp only [Hardware.begins, hx]
  · rintro x stop past hx ⟨hwrecked, -⟩ hnow
    have hagree := hnow.agree.ends (x := x) (by rw [hx]; rfl)
    refine ⟨⟨hagree.receptive, .of_dispatching hnow.dispatching, hnow.agree.secluded⟩, ?_⟩
    refine .failed hwrecked.dispatching hwrecked.unheld hagree ?_
    rw [Hardware.stages_ends, hx]
    rfl

theorem trapWatch_routes (hserves : (serviceWatch start).law.Serves server) :
    (trapWatch start cpu).law.Routes kernel server cpu where
  quiet := Watch.quiet _
  state _ hstate := trapWatch_setState hstate
  call _ hmasked _ := trapWatch_call hserves hmasked
  scope := trapWatch_scope hserves
  systemCall number words :=
    trapWatch_interruptible hserves (conducts_systemCall hserves number words)

theorem holds_entering {frame : Frame} {result : Except Stop Outcome}
    (h : (serviceWatch start).holds past slots) (hx : x.event = .trap cpu frame result)
    (haccepts : Kernel.accepts (slots.get cpu) = true) :
    (trapWatch start cpu).holds (.begins x :: past) (slots.entering cpu) := by
  have hunheld := h.1.unheld_of_accepts haccepts
  have hflag : (Hardware.after start (.begins x :: past)).flags cpu = false := by
    rw [Hardware.after_begins]
    simp only [Hardware.begins, hx, Function.update_self]
  have hunheld' : ¬ Stage.Withheld cpu (Hardware.after start (.begins x :: past)).stages :=
    mt (Stage.withheld_begins (by rw [hx]; rfl)).mp hunheld
  refine ⟨⟨?_, ?_, hunheld', fun _ => ⟨hflag, ?_⟩⟩, ?_⟩
  · exact (h.1.begins_trap hx hunheld).put hflag hunheld' _
  · rw [Hardware.after_begins]
    simp only [Hardware.begins, Stage.dispatching, hx]
  · unfold CpuSlots.entering
    rw [CpuSlots.get_put_self]
    exact ⟨rfl, rfl⟩
  · have hcpu : x.event.cpu? = some cpu := by rw [hx]; rfl
    rw [Hardware.after_begins]
    simp only [Hardware.begins, Stage.calm, Stage.cpu?, hcpu]
    rfl

/-- A trap that returns leaves flags and what is under way as they were. -/
theorem after_trap {frame : Frame} {outcome : Outcome} {new : List Activity}
    (hx : x.event = .trap cpu frame (.ok outcome))
    (hflags : ∀ other, other ≠ cpu →
      (Hardware.after start (history new ++ .begins x :: past)).flags other =
        (Hardware.after start (.begins x :: past)).flags other) :
    Hardware.after start (.ends x :: (history new ++ .begins x :: past)) = .after start past := by
  refine Hardware.ext ?_ ?_
  · have hentry : (Hardware.after start (history new ++ .begins x :: past)).stages.head?.any
        Stage.entryFlag = (Hardware.after start past).flags cpu := by
      rw [Hardware.stages_history, Hardware.after_begins]
      simp only [Hardware.begins, Stage.mark, hx]
      rfl
    rw [Hardware.after_ends]
    simp only [Hardware.ends, hx]
    rw [hentry]
    funext other
    by_cases hother : other = cpu
    · rw [hother, Function.update_self]
    · rw [Function.update_of_ne hother, hflags other hother, Hardware.after_begins]
      simp only [Hardware.begins, hx]
      rw [Function.update_of_ne hother]
  · rw [Hardware.stages_ends, hx]
    exact Stage.mark_false _

/-- What a trap changes of its CPU's slot is undone when it is left. -/
theorem SameBut.leaving (h : SameBut (some cpu) (slots.entering cpu) after) :
    SameBut none slots (after.leaving cpu (slots.get cpu)) := by
  intro other _
  unfold CpuSlots.leaving
  by_cases hother : other = cpu
  · rw [hother, CpuSlots.get_put_self]
    exact ⟨rfl, rfl⟩
  · have hstill := h other fun heq => hother (Option.some.inj heq).symm
    unfold CpuSlots.entering at hstill
    rw [CpuSlots.get_put_ne _ _ hother] at hstill ⊢
    exact hstill

theorem Agree.ends_failed {frame : Frame} {why : Stop} {new : List Activity}
    (h : Agree (.after start (history new ++ .begins x :: past)) slots)
    (hx : x.event = .trap cpu frame (.error why)) :
    Agree (.after start (.ends x :: (history new ++ .begins x :: past))) slots := by
  have hstages : (Hardware.after start (.ends x :: (history new ++ .begins x :: past))).stages =
      Stage.mark true (Hardware.after start past).stages := by
    rw [Hardware.stages_ends, hx]
    rfl
  refine h.mono (fun other hmem => ?_) (fun other hheld => ?_) fun other hflag => ?_
  · rw [hstages, Stage.exists_mem_mark] at hmem
    rw [Hardware.stages_history, Stage.exists_mem_mark]
    obtain ⟨stage, hstage, hcpu⟩ := hmem
    exact ⟨stage, List.mem_cons_of_mem _ hstage, hcpu⟩
  · rw [hstages, Stage.withheld_mark] at hheld
    rw [Hardware.stages_history, Stage.withheld_mark]
    exact .inr hheld
  · rw [Hardware.after_ends] at hflag
    simp only [Hardware.ends, hx] at hflag
    exact hflag

theorem serviceWatch_trap (hserves : (serviceWatch start).law.Serves server) (cpu : Fin maxCpus)
    (outer : CpuSlot) (frame : Frame) (haccepts : Kernel.accepts outer = true) : Law.Leads
      (Follows (serviceWatch start).good
        (fun past slots => slots.get cpu = outer ∧ (serviceWatch start).holds past slots)
        fun past before now after =>
          (serviceWatch start).holds now after ∧ (serviceWatch start).same past before now after)
      (Follows (serviceWatch start).good
        (fun past slots => slots.get cpu = outer ∧ (serviceWatch start).holds past slots)
        fun _ _ now after => (serviceWatch start).wreck now after)
      (Dispatch.during (.trap cpu frame) (kernel.carryOut server cpu outer)) := by
  refine leads_during ((trapWatch_routes hserves).carryOut outer) ?_ ?_ ?_
  · rintro x result past hx ⟨rfl, hholds⟩
    have hentering := holds_entering hholds hx haccepts
    have hbegins := hholds.1.begins_trap hx (hholds.1.unheld_of_accepts haccepts)
    exact ⟨⟨hholds.1.receptive, .of_dispatching hentering.1.dispatching, hbegins.secluded⟩, hentering⟩
  · rintro x value past hx ⟨rfl, hholds⟩ ⟨last, hnow, hkept, hlast⟩
    have hafter := after_trap hx hkept.1
    have hsame : SameBut none x.before x.after := by
      rw [hlast]
      exact hkept.2.leaving
    have hagree : Agree (.after start past) x.after := hholds.1.sameBut hsame
    have hleaving := hnow.1.agree.put (hnow.1.shut hnow.2).1 hnow.1.unheld
      { state := (x.before.get cpu).state, masked := (x.before.get cpu).masked,
        depth := (last.get cpu).depth - 1 }
    refine ⟨⟨?_, .of_dispatching hnow.1.dispatching, ?_⟩, ?_, ?_, hsame⟩
    · rw [Moment.upTo, hafter]
      exact hagree.receptive
    · rw [Moment.slots, hlast]
      exact hleaving.secluded
    · change Agree _ _ ∧ Served _ ∧ _
      rw [hafter]
      exact ⟨hagree, hholds.2⟩
    · rw [hafter]
  · rintro x why past hx ⟨-, hholds⟩ hnow
    have hstages : (Hardware.after start (.ends x :: (history x.inner ++ .begins x :: past))).stages =
        Stage.mark true (Hardware.after start past).stages := by
      rw [Hardware.stages_ends, hx]
      rfl
    have hagree := hnow.agree.ends_failed hx
    refine ⟨⟨hagree.receptive, .of_dispatching hnow.dispatching, hnow.agree.secluded⟩, hagree,
      .failed hstages, ?_⟩
    rw [hstages, Stage.dispatching_mark, hholds.2.2]

end TrapDispatch
