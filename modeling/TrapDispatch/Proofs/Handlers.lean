import TrapDispatch.Proofs.Agreement

/-!
# Services and handlers

What is done by services and handlers keeps flags and slots in agreement: their calls,
the system calls that they make, and what the dispatcher calls them for.
-/

namespace TrapDispatch

/-- What is watched where services and handlers are at work. -/
def serviceWatch (start : Fin maxCpus → Bool) : Watch where
  good := Seen start
  holds past slots := Agree (.after start past) slots ∧ Served (.after start past) ∧
    Stage.dispatching (Hardware.after start past).stages = none
  wreck past slots := Agree (.after start past) slots ∧ Served (.after start past) ∧
    Stage.dispatching (Hardware.after start past).stages = none
  same past before now after := (Hardware.after start now).flags = (Hardware.after start past).flags ∧
    SameBut none before after
  wrecks h := h
  refl _ slots := ⟨rfl, .refl none slots⟩
  trans hfirst hsecond := ⟨hsecond.1.trans hfirst.1, hfirst.2.trans hsecond.2⟩

variable {σ α : Type} {start : Fin maxCpus → Bool} {cpu : Fin maxCpus} {kernel : Kernel σ}
  {server : Server σ} {hardware : Hardware} {slots : CpuSlots} {x : Activity} {past : List Moment}

/-- What is done by services in the course of an activity leaves what is under way, and
changes the flags only as the activity itself does. -/
theorem masking_inner (pre : List Moment → CpuSlots → Prop) {event : Except Stop α → Event}
    {body : Dispatch σ α} (hbody : (serviceWatch start).law.Obeys body)
    (hevent : ∀ result, (event result).cpu? = none)
    (hreturned : ∀ value, (event (.ok value)).fails = false)
    (hfailed : ∀ stop, (event (.error stop)).fails = true)
    (hpre : ∀ x result past, x.event = event result → pre past x.before →
      Agree (.after start past) x.before ∧
        (serviceWatch start).holds (.begins x :: past) x.before) :
    Law.Leads
      (Follows (Seen start) pre fun past before now after =>
        Agree (.after start now) after ∧
        (Hardware.after start now).stages = (Hardware.after start past).stages ∧
        (∃ value, (Hardware.after start now).flags =
          (Hardware.after start past).through (event (.ok value))) ∧
        SameBut none before after)
      (Follows (Seen start) pre fun past _ now after =>
        Agree (.after start now) after ∧
        (Hardware.after start now).stages = Stage.mark true (Hardware.after start past).stages)
      (Dispatch.during event body) := by
  have hend : ∀ (x : Activity) result past, x.event = event result →
      (serviceWatch start).holds (history x.inner ++ .begins x :: past) x.after →
      Seen start (history x.inner ++ .begins x :: past) (.ends x) := by
    intro x result past hx hholds
    exact ⟨(hholds.1.ends (by rw [hx, hevent])).receptive, hholds.2.1, hholds.1.secluded⟩
  rw [Watch.obeys_iff] at hbody
  refine leads_during hbody ?_ ?_ ?_
  · intro x result past hx h
    obtain ⟨hagree, hholds⟩ := hpre x result past hx h
    exact ⟨⟨hagree.receptive, hholds.2.1, hholds.1.secluded⟩, hholds⟩
  · rintro x value past hx h ⟨hholds, hsame⟩
    have hx' : x.event.cpu? = none := by rw [hx, hevent]
    refine ⟨hend x _ past hx hholds, hholds.1.ends hx', ?_, ⟨value, ?_⟩, hsame.2⟩
    · rw [Hardware.stages_ends, hx, hreturned, Stage.mark_false]
    · rw [Hardware.flags_ends hx' _ _ hsame.1, hx]
  · rintro x stop past hx h hholds
    refine ⟨hend x _ past hx hholds, hholds.1.ends (by rw [hx, hevent]), ?_⟩
    rw [Hardware.stages_ends, hx, hfailed]

theorem serviceWatch_begins (hplain : x.event.isPlain = true)
    (h : (serviceWatch start).holds past slots) :
    (serviceWatch start).holds (.begins x :: past) slots := by
  obtain ⟨hagree, hserved, hnone⟩ := h
  have hcpu := Hardware.cpu?_of_isPlain hplain
  refine ⟨?_, ?_, ?_⟩
  · apply hagree.begins hcpu (Hardware.flags_begins_of_isPlain hplain)
    rintro cpu ⟨c, result, -, -, hdispatching, -⟩
    rw [hnone] at hdispatching
    cases hdispatching
  · intro cpu hserving hcalm
    have hhead := Stage.cpu?_head_of_dispatching hnone
    rw [Hardware.after_begins] at hserving hcalm ⊢
    rw [Hardware.serving_begins_of_isPlain hplain hhead] at hserving
    rw [Hardware.calm_begins hcpu] at hcalm
    rw [Hardware.flags_begins_of_isPlain hplain]
    exact hserved cpu hserving hcalm
  · exact Hardware.dispatching_begins_of_isPlain hplain

/-- Services and handlers keep to the watch if what is done in the course of their plain
activities does. -/
theorem serviceWatch_during {event : Except Stop α → Event} {body : Dispatch σ α}
    (hbody : (serviceWatch start).law.Obeys body) (hplain : ∀ result, (event result).isPlain = true)
    (hreturned : ∀ value, (event (.ok value)).fails = false)
    (hfailed : ∀ stop, (event (.error stop)).fails = true) :
    (serviceWatch start).law.Obeys (Dispatch.during event body) := by
  rw [Watch.obeys_iff]
  refine leads_mono (masking_inner (serviceWatch start).holds hbody
    (fun result => Hardware.cpu?_of_isPlain (hplain result)) hreturned hfailed ?_) ?_ ?_
  · intro x result past hx h
    exact ⟨h.1, serviceWatch_begins (by rw [hx, hplain]) h⟩
  · rintro past before now after ⟨-, hserved, hnone⟩ ⟨hagree, hstages, ⟨value, hflags⟩, hsame⟩
    rw [Hardware.through_of_isPlain (hplain _)] at hflags
    refine ⟨⟨hagree, ?_, hstages ▸ hnone⟩, hflags, hsame⟩
    unfold Served
    rw [hstages, hflags]
    exact hserved
  · rintro past before now after ⟨-, hserved, hnone⟩ ⟨hagree, hstages⟩
    exact ⟨hagree, .failed hstages, by rw [hstages, Stage.dispatching_mark, hnone]⟩

theorem serviceWatch_call (hserves : (serviceWatch start).law.Serves server) {c : Call}
    (hplain : c.isPlain = true) : (serviceWatch start).law.Obeys (kernel.call server c) :=
  serviceWatch_during (hserves.run ((serviceWatch start).unwinds rfl) _) (fun _ => hplain)
    (fun _ => rfl) fun _ => rfl

theorem serviceWatch_noting {event : Event} (hplain : event.isPlain = true)
    (hcall : event.call? = none) (hfails : event.fails = false) (a : Machine σ) :
    (serviceWatch start).Returns a (a.closing { a with journal := [] } event) := by
  refine Follows.noting ?_ ?_
  · rintro x rfl hbefore past h
    have hbegins := serviceWatch_begins (x := x) hplain h
    rw [← hbefore] at h
    exact .begins_noted hplain hcall h.1 hbegins.2.1
  · rintro x rfl hbefore hafter past h
    have hbegins := serviceWatch_begins (x := x) hplain h
    have hnoted : Hardware.after start (.ends x :: .begins x :: past) = .after start past :=
      Hardware.after_noted hplain hfails past
    refine ⟨?_, ?_⟩
    · rw [← hafter] at h
      exact .ends_noted hplain hcall hfails h.1 hbegins.2.1
    · change (_ ∧ Served _ ∧ _) ∧ _ ∧ _
      rw [hnoted]
      exact ⟨h, rfl, .refl none _⟩

theorem serviceWatch_handles (hserves : (serviceWatch start).law.Serves server) :
    (serviceWatch start).law.Handles kernel server := by
  have hprocess : ∀ c : Call, c.isProcess = true → c.isPlain = true := by
    intro c hc
    cases c <;> first | rfl | cases hc
  exact ⟨Watch.quiet _, Watch.unwinds _ rfl, hserves,
    fun c hc => serviceWatch_call hserves (hprocess c hc)⟩

theorem serviceWatch_handler (number : UInt64) (arguments : Arguments)
    (body : Dispatch σ CallResult) (hbody : (serviceWatch start).law.Obeys body) :
    (serviceWatch start).law.Obeys (Dispatch.during (.handler number arguments) body) :=
  serviceWatch_during hbody (fun _ => rfl) (fun _ => rfl) fun _ => rfl

theorem serviceWatch_systemCall (hserves : (serviceWatch start).law.Serves server) (number : UInt64)
    (words : ArgumentWords) : (serviceWatch start).law.Obeys (kernel.systemCall server number words) :=
  (serviceWatch_handles hserves).systemCall serviceWatch_handler (fun _ _ _ _ hbody =>
    serviceWatch_during hbody (fun _ => rfl) (fun _ => rfl) fun _ => rfl) number words

/-- What a call needs where the dispatcher itself makes it for a trap on `cpu`. -/
structure Ready (cpu : Fin maxCpus) (c : Call) (hardware : Hardware) (slots : CpuSlots) : Prop where
  agree : Agree hardware slots
  dispatching : Stage.dispatching hardware.stages = some cpu
  unheld : ¬ Stage.Withheld cpu hardware.stages
  shut : c.isMasked = true → Stage.calm hardware.stages = true → Shut hardware slots cpu
  running : c = .enableInterrupts →
    (slots.get cpu).state = .handlerRunning ∧ (slots.get cpu).masked = false
  enabled : (∃ handler irq, c = .device handler irq) → hardware.flags cpu = true

theorem Ready.begins {c : Call} {result : Except Stop c.Reply} (h : Ready cpu c hardware slots)
    (hx : x.event = .service c result) : Agree (hardware.begins x) slots ∧
      Served (hardware.begins x) ∧ Stage.dispatching (hardware.begins x).stages = none := by
  have hnone : x.event.cpu? = none := by rw [hx]; rfl
  refine ⟨?_, ?_, ?_⟩
  · by_cases hc : c = .enableInterrupts
    · subst hc
      exact h.agree.begins_enable hx h.dispatching h.unheld (h.running rfl)
    · apply h.agree.begins hnone (Hardware.flags_begins_of_ne hx hc)
      rintro other ⟨c', _, hc', hmasked, hdispatching, hcalm⟩
      rw [hx] at hc'
      cases hc'
      rw [h.dispatching] at hdispatching
      cases hdispatching
      exact h.shut hmasked hcalm
  · intro other hserving _
    have hquiet := Stage.serving_of_dispatching h.dispatching
    cases c with
    | device handler irq =>
      have hother : Stage.dispatching hardware.stages = some other := by
        simpa only [Hardware.begins, Stage.serving, hx] using hserving
      rw [h.dispatching] at hother
      cases hother
      rw [Hardware.flags_begins_of_ne hx (by simp)]
      exact h.enabled ⟨handler, irq, rfl⟩
    | _ =>
      simp only [Hardware.begins, Stage.serving, hx, hquiet] at hserving
      cases hserving
  · simp only [Hardware.begins, Stage.dispatching, hx]

theorem leads_readyCall (hserves : (serviceWatch start).law.Serves server) {c : Call}
    {pre : List Moment → CpuSlots → Prop}
    (hpre : ∀ past slots, pre past slots → Ready cpu c (.after start past) slots) :
    Law.Leads
      (Follows (Seen start) pre fun past before now after =>
        Agree (.after start now) after ∧
        (Hardware.after start now).stages = (Hardware.after start past).stages ∧
        (∃ value : c.Reply, (Hardware.after start now).flags =
          (Hardware.after start past).through (.service c (.ok value))) ∧
        SameBut none before after)
      (Follows (Seen start) pre fun past _ now after =>
        Agree (.after start now) after ∧
        (Hardware.after start now).stages = Stage.mark true (Hardware.after start past).stages)
      (kernel.call server c) := by
  refine masking_inner pre (hserves.run ((serviceWatch start).unwinds rfl) _) (fun _ => rfl)
    (fun _ => rfl) (fun _ => rfl) ?_
  intro x result past hx h
  have hready := hpre past x.before h
  exact ⟨hready.agree, hready.begins hx⟩

end TrapDispatch
