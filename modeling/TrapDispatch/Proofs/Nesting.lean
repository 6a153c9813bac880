import TrapDispatch.Proofs.Routes

/-!
# Nesting of traps

The depth in the slot of a CPU counts the traps that are in progress there, and the
CPU is idle exactly when there are none. Every trap that returns leaves all slots as
it found them, so the count can be kept through traps nested in any way.
-/

namespace TrapDispatch

def trapsOn (cpu : Fin maxCpus) (around : List Activity) : Nat :=
  around.countP fun x => x.event.cpu? = some cpu

def Moment.isFailure : Moment → Bool
  | .begins _ => false
  | .ends x => x.event.fails

/-- Whether every slot counts the traps in progress on its CPU, unless something
failed. -/
def Counted (past : List Moment) (slots : CpuSlots) : Prop :=
  (∃ moment ∈ past, moment.isFailure = true) ∨
    ∀ cpu, (slots.get cpu).depth = trapsOn cpu (underWay past) ∧
      ((slots.get cpu).state = .idle ↔ trapsOn cpu (underWay past) = 0)

/-- Whether a trap or a call that has returned left all slots as they were, and
whether what was told of a slot is what it held. -/
def Event.Flat (before after : CpuSlots) : Event → Prop
  | .service _ (.ok _) | .trap _ _ (.ok _) => after = before
  | .told cpu slot => slot = before.ofCpu cpu
  | _ => True

def Moment.Flat : Moment → Prop
  | .begins _ => True
  | .ends x => x.event.Flat x.before x.after

/-- What nested traps keep to, seen from a trap on the CPU `own` if there is one: its
state and mask are its own to change. -/
def nesting (own : Option (Fin maxCpus)) : Watch where
  good past moment := moment.Flat ∧ Counted (moment.upTo past) moment.slots
  holds past slots := Counted past slots ∧ ∀ cpu, own = some cpu → trapsOn cpu (underWay past) ≠ 0
  wreck past slots := Counted past slots ∧ ∀ cpu, own = some cpu → trapsOn cpu (underWay past) ≠ 0
  wrecks h := h
  same _ before _ after := ∀ cpu, (after.get cpu).depth = (before.get cpu).depth ∧
    (own ≠ some cpu → after.get cpu = before.get cpu)
  refl _ _ _ := ⟨rfl, fun _ => rfl⟩
  trans hfirst hsecond cpu := ⟨(hsecond cpu).1.trans (hfirst cpu).1,
    fun h => ((hsecond cpu).2 h).trans ((hfirst cpu).2 h)⟩

variable {σ α : Type} {own : Option (Fin maxCpus)} {kernel : Kernel σ} {server : Server σ}

theorem trapsOn_cons (cpu : Fin maxCpus) (x : Activity) (around : List Activity) :
    trapsOn cpu (x :: around) = trapsOn cpu around + if x.event.cpu? = some cpu then 1 else 0 := by
  simp [trapsOn, List.countP_cons]

theorem Counted.later {past now : List Moment} {slots after : CpuSlots} (h : Counted past slots)
    (hpast : past ⊆ now) (htraps : ∀ cpu, trapsOn cpu (underWay now) = trapsOn cpu (underWay past))
    (hslots : ∀ cpu, (after.get cpu).depth = (slots.get cpu).depth ∧
      ((after.get cpu).state = .idle ↔ (slots.get cpu).state = .idle)) : Counted now after := by
  rcases h with ⟨moment, hmem, hfails⟩ | h
  · exact Or.inl ⟨moment, hpast hmem, hfails⟩
  · apply Or.inr
    intro cpu
    rw [htraps, (hslots cpu).1, (hslots cpu).2]
    exact h cpu

theorem Counted.begins {past : List Moment} {slots : CpuSlots} {x : Activity}
    (h : Counted past slots) (hevent : x.event.cpu? = none) :
    Counted (.begins x :: past) slots := by
  refine h.later (List.subset_cons_self _ _) (fun cpu => ?_) fun _ => ⟨rfl, Iff.rfl⟩
  rw [underWay_begins, trapsOn_cons, hevent]
  rfl

theorem Counted.ends {past : List Moment} {slots : CpuSlots} {x : Activity} {new : List Activity}
    (h : Counted (history new ++ .begins x :: past) slots) (hevent : x.event.cpu? = none) :
    Counted (.ends x :: (history new ++ .begins x :: past)) slots := by
  refine h.later (List.subset_cons_self _ _) (fun cpu => ?_) fun _ => ⟨rfl, Iff.rfl⟩
  rw [underWay_over, underWay_history, underWay_begins, trapsOn_cons, hevent]
  rfl

theorem nesting_begins {inner : Option (Fin maxCpus)}
    (hinner : ∀ cpu, inner = some cpu → own = some cpu) {x : Activity}
    (hevent : x.event.cpu? = none) {past : List Moment}
    (h : (nesting own).holds past x.before) :
    (nesting own).good past (.begins x) ∧
      (nesting inner).holds (.begins x :: past) x.before := by
  obtain ⟨hcounted, hown⟩ := h
  refine ⟨⟨trivial, hcounted⟩, hcounted.begins hevent, fun cpu hcpu => ?_⟩
  rw [underWay_begins, trapsOn_cons, hevent]
  exact hown cpu (hinner cpu hcpu)

theorem nesting_ends {inner : Option (Fin maxCpus)} {x : Activity}
    (hevent : x.event.cpu? = none) (hflat : x.event.Flat x.before x.after) {past : List Moment}
    (h : (nesting own).holds past x.before)
    (hnow : (nesting inner).holds (history x.inner ++ .begins x :: past) x.after) :
    (nesting own).good (history x.inner ++ .begins x :: past) (.ends x) ∧
      (nesting own).holds (.ends x :: (history x.inner ++ .begins x :: past)) x.after := by
  have hcounted := hnow.1.ends hevent
  refine ⟨⟨hflat, hcounted⟩, hcounted, fun cpu hcpu => ?_⟩
  rw [underWay_over]
  exact h.2 cpu hcpu

theorem nesting_during {inner : Option (Fin maxCpus)} {event : Except Stop α → Event}
    {body : Dispatch σ α} (hinner : ∀ cpu, inner = some cpu → own = some cpu)
    (hbody : (nesting inner).law.Obeys body) (hevent : ∀ result, (event result).cpu? = none)
    (hflat : ∀ result before after,
      ((∃ value, result = .ok value) → inner = none → after = before) →
      (event result).Flat before after) : (nesting own).law.Obeys (Dispatch.during event body) := by
  have hsame : ∀ {past now before after}, (nesting inner).same past before now after →
      (nesting own).same past before now after := by
    intro past now before after h cpu
    exact ⟨(h cpu).1, fun hown => (h cpu).2 fun hcpu => hown (hinner cpu hcpu)⟩
  rw [Watch.obeys_iff] at hbody ⊢
  refine leads_during hbody (fun x result past hx h => ?_) (fun x value past hx h hnow => ?_)
    fun x why past hx h hnow => ?_
  · exact nesting_begins hinner (by rw [hx, hevent]) h
  · have hflat' : x.event.Flat x.before x.after := by
      rw [hx]
      refine hflat _ _ _ fun _ hnone => ?_
      exact CpuSlots.ext_get fun cpu => (hnow.2 cpu).2 (by simp [hnone])
    obtain ⟨hgood, hend⟩ := nesting_ends (by rw [hx, hevent]) hflat' h hnow.1
    exact ⟨hgood, hend, hsame hnow.2⟩
  · have hflat' : x.event.Flat x.before x.after := by
      rw [hx]
      refine hflat _ _ _ fun ⟨value, hvalue⟩ => ?_
      cases hvalue
    exact nesting_ends (by rw [hx, hevent]) hflat' h hnow

theorem nesting_noting {event : Event} (hevent : event.cpu? = none) (a : Machine σ)
    (hflat : event.Flat a.slots a.slots) :
    (nesting own).Returns a (a.closing { a with journal := [] } event) := by
  refine Follows.noting ?_ ?_
  · intro x hx hbefore past hholds
    rw [← hbefore] at hholds
    exact (nesting_begins (fun _ h => h) (by rw [hx, hevent]) hholds).1
  · intro x hx hbefore hafter past hholds
    have hcounted : Counted (.ends x :: .begins x :: past) a.slots :=
      hholds.1.later (fun moment hmem => by simp [hmem]) (fun _ => rfl) fun _ => ⟨rfl, Iff.rfl⟩
    refine ⟨⟨?_, ?_⟩, ⟨hcounted, hholds.2⟩, fun _ => ⟨rfl, fun _ => rfl⟩⟩
    · change x.event.Flat x.before x.after
      rw [hx, hbefore, hafter]
      exact hflat
    · change Counted (.ends x :: .begins x :: past) x.after
      rw [hafter]
      exact hcounted

theorem nesting_tellSlot (cpu : UInt64) : (nesting own).law.Obeys (Kernel.tellSlot (σ := σ) cpu) :=
  fun state => nesting_noting rfl state.machine rfl

theorem nesting_call (hserves : (nesting none).law.Serves server) (c : Call) :
    (nesting own).law.Obeys (kernel.call server c) := by
  unfold Kernel.call
  refine nesting_during (by simp) (hserves.run ((nesting none).unwinds rfl) _) (fun _ => rfl) ?_
  intro result before after h
  cases result with
  | ok value => exact h ⟨value, rfl⟩ rfl
  | error stop => trivial

theorem nesting_setState (cpu : Fin maxCpus) {state : DispatchState} (hstate : state ≠ .idle)
    (masked : Bool) : (nesting (some cpu)).law.Obeys (Kernel.setState (σ := σ) cpu state masked) := by
  unfold Kernel.setState Dispatch.setSlot
  apply Law.obeys_modifyMachine
  intro a
  have hput : ∀ other, ((a.slots.put cpu { a.slots.get cpu with state, masked }).get other).depth =
      (a.slots.get other).depth := by
    intro other
    rw [CpuSlots.get_put]
    split
    case isTrue h => rw [h]
    case isFalse => rfl
  have hreturns : (nesting (some cpu)).Returns a
      { a with slots := a.slots.put cpu { a.slots.get cpu with state, masked } } := by
    refine Follows.still rfl fun past ⟨hcounted, hown⟩ => ⟨⟨?_, hown⟩, fun other => ⟨hput other, ?_⟩⟩
    · rcases hcounted with hfailed | hcounted
      · exact Or.inl hfailed
      · refine Or.inr fun other => ⟨(hput other).trans (hcounted other).1, ?_⟩
        by_cases hother : other = cpu
        · subst hother
          rw [CpuSlots.get_put_self]
          simp only [hstate, hown other rfl]
        · rw [CpuSlots.get_put_ne _ _ hother]
          exact (hcounted other).2
    · intro hother
      have hne : other ≠ cpu := fun h => hother (h ▸ rfl)
      exact CpuSlots.get_put_ne _ _ hne
  exact hreturns

theorem nesting_interruptible (hserves : (nesting none).law.Serves server) {cpu : Fin maxCpus}
    {body : Dispatch σ α} (hbody : (nesting (some cpu)).law.Obeys body) :
    (nesting (some cpu)).law.Obeys (kernel.interruptible server cpu body) :=
  (nesting (some cpu)).law.discipline.interruptible (nesting_setState cpu (by decide))
    (nesting_call hserves _) (nesting_call hserves _) hbody

theorem nesting_scopes (hserves : (nesting none).law.Serves server) (cpu : Fin maxCpus) (irq : Irq) :
    (nesting (some cpu)).law.Scopes (nesting (some cpu)).law kernel server cpu irq where
  closes := ⟨Watch.quiet _, nesting_call hserves _, nesting_call hserves _, nesting_call hserves _⟩
  closesAfter :=
    ⟨Watch.quiet _, nesting_call hserves _, nesting_call hserves _, nesting_call hserves _⟩
  unwinds := Watch.unwinds _ rfl
  lookup _ state := nesting_noting rfl state.machine trivial
  device _ := nesting_interruptible hserves ((nesting (some cpu)).law.discipline.timeDevice
    (nesting_call hserves _) (nesting_call hserves _))

theorem nesting_systemCall (hserves : (nesting none).law.Serves server) (number : UInt64)
    (words : ArgumentWords) : (nesting own).law.Obeys (kernel.systemCall server number words) := by
  have hhandles : (nesting none).law.Handles kernel server :=
    ⟨Watch.quiet _, Watch.unwinds _ rfl, hserves, fun c _ => nesting_call hserves c⟩
  refine hhandles.systemCall (fun _ _ _ hbody => ?_) (fun _ _ _ _ hbody => ?_) number words
  · exact nesting_during (by simp) hbody (fun _ => rfl) fun _ _ _ _ => trivial
  · exact nesting_during (by simp) hbody (fun _ => rfl) fun _ _ _ _ => trivial

theorem nesting_routes (hserves : (nesting none).law.Serves server) (cpu : Fin maxCpus) :
    (nesting (some cpu)).law.Routes kernel server cpu where
  quiet := Watch.quiet _
  state state hstate := nesting_setState cpu hstate true
  call c _ _ := nesting_call hserves c
  scope scope := by
    unfold Kernel.serviceScope
    exact nesting_during (fun _ h => h) (nesting_scopes hserves cpu scope.irq).servicing
      (fun _ => rfl) fun _ _ _ _ => trivial
  systemCall number words := nesting_interruptible hserves (nesting_systemCall hserves number words)

/-- What a trap does to the slots from its entry on is undone when it is left. -/
theorem leaving_entering {cpu : Fin maxCpus} {slots after : CpuSlots} {past now : List Moment}
    (h : (nesting (some cpu)).same past (slots.entering cpu) now after) :
    after.leaving cpu (slots.get cpu) = slots := by
  apply CpuSlots.ext_get
  intro other
  obtain ⟨hdepth, hother⟩ := h other
  unfold CpuSlots.leaving
  by_cases hcpu : other = cpu
  · subst hcpu
    unfold CpuSlots.entering at hdepth
    rw [CpuSlots.get_put_self] at hdepth ⊢
    rw [hdepth]
    rfl
  · have hafter := hother fun h => hcpu (Option.some.inj h).symm
    unfold CpuSlots.entering at hafter
    rw [CpuSlots.get_put_ne _ _ hcpu] at hafter ⊢
    exact hafter

/-- A trap that is entered is counted. -/
theorem Counted.enters {past : List Moment} {slots : CpuSlots} {x : Activity} {cpu : Fin maxCpus}
    (h : Counted past slots) (hevent : x.event.cpu? = some cpu) :
    (nesting (some cpu)).holds (.begins x :: past) (slots.entering cpu) := by
  have htraps : ∀ other, trapsOn other (underWay (.begins x :: past)) =
      trapsOn other (underWay past) + if other = cpu then 1 else 0 := by
    intro other
    rw [underWay_begins, trapsOn_cons, hevent]
    simp only [Option.some.injEq, eq_comm]
  refine ⟨?_, fun other hother => ?_⟩
  · rcases h with ⟨moment, hmem, hfails⟩ | h
    · exact Or.inl ⟨moment, List.mem_cons_of_mem _ hmem, hfails⟩
    · apply Or.inr
      intro other
      rw [htraps]
      unfold CpuSlots.entering
      by_cases hother : other = cpu
      · subst hother
        rw [CpuSlots.get_put_self, if_pos rfl]
        exact ⟨congrArg (· + 1) (h other).1, by simp⟩
      · rw [CpuSlots.get_put_ne _ _ hother, if_neg hother]
        exact h other
  · cases hother
    rw [htraps, if_pos rfl]
    exact Nat.succ_ne_zero _

theorem nesting_trap (hserves : (nesting none).law.Serves server) (cpu : Fin maxCpus)
    (outer : CpuSlot) (frame : Frame) : Law.Leads
      (Follows (nesting none).good
        (fun past slots => slots.get cpu = outer ∧ (nesting none).holds past slots)
        fun past before now after =>
          (nesting none).holds now after ∧ (nesting none).same past before now after)
      (Follows (nesting none).good
        (fun past slots => slots.get cpu = outer ∧ (nesting none).holds past slots)
        fun _ _ now after => (nesting none).holds now after)
      (Dispatch.during (.trap cpu frame) (kernel.carryOut server cpu outer)) := by
  refine leads_during ((nesting_routes hserves cpu).carryOut outer) ?_ ?_ ?_
  · rintro x result past hx ⟨hget, hholds⟩
    exact ⟨⟨trivial, hholds.1⟩, hholds.1.enters (by rw [hx]; rfl)⟩
  · rintro x value past hx ⟨rfl, hholds⟩ ⟨last, -, hkept, hlast⟩
    have hsame : x.after = x.before := hlast.trans (leaving_entering hkept)
    have hcounted : Counted (.ends x :: (history x.inner ++ .begins x :: past)) x.after := by
      rw [hsame]
      refine hholds.1.later (fun moment hmem => by simp [hmem]) (fun other => ?_)
        fun _ => ⟨rfl, Iff.rfl⟩
      rw [underWay_over]
    have hflat : x.event.Flat x.before x.after := by
      rw [hx]
      exact hsame
    refine ⟨⟨hflat, hcounted⟩, ⟨hcounted, by simp⟩, fun other => ?_⟩
    rw [hsame]
    exact ⟨rfl, fun _ => rfl⟩
  · rintro x why past hx - -
    have hcounted : Counted (.ends x :: (history x.inner ++ .begins x :: past)) x.after := by
      refine Or.inl ⟨.ends x, List.mem_cons_self, ?_⟩
      change x.event.fails = true
      rw [hx]
      rfl
    have hflat : x.event.Flat x.before x.after := by
      rw [hx]
      trivial
    exact ⟨⟨hflat, hcounted⟩, hcounted, by simp⟩

/-- Service programs keep to the watch. -/
theorem nesting_covers (kernel : Kernel σ) : (nesting none).law.Covers kernel where
  quiet := Watch.quiet _
  unwinds := Watch.unwinds _ rfl
  tellSlot := nesting_tellSlot
  registry _ _ state := nesting_noting rfl state.machine trivial
  trap _ hserves := Law.watched_handleTrap (nesting_call hserves _)
    fun cpu outer frame _ => nesting_trap hserves cpu outer frame
  systemCall _ hserves := nesting_systemCall hserves

/-- In every run from idle CPUs, whatever the services do and however traps are
nested: a trap or a call that has returned left all slots as they were, and as long
as nothing has failed, the depth of every CPU is the number of traps in progress
there, and the CPU is idle exactly if that number is zero. -/
theorem slots_count_traps (kernel : Kernel σ) (depth : Nat) (program : ServiceProgram σ α)
    (machine : Machine σ) :
    let run := kernel.runService depth program machine.fresh
    (∀ x, .ends x ∈ history run.machine.journal → x.event.Flat x.before x.after) ∧
      (∀ later moment past, history run.machine.journal = later ++ moment :: past →
        (∀ earlier ∈ moment.upTo past, earlier.isFailure = false) →
        ∀ cpu, (moment.slots.get cpu).depth = trapsOn cpu (underWay (moment.upTo past)) ∧
          ((moment.slots.get cpu).state = .idle ↔
            trapsOn cpu (underWay (moment.upTo past)) = 0)) ∧
      ((∃ value, run.result = .ok value) → run.machine.slots = .idle) := by
  have hstart : (nesting none).holds [] machine.fresh.slots := by
    unfold Machine.fresh
    refine ⟨Or.inr fun cpu => ?_, by simp⟩
    rw [CpuSlots.get_idle]
    exact ⟨rfl, by simp [underWay, trapsOn]⟩
  obtain ⟨hgood, hsame⟩ := (nesting_covers kernel).watched depth program
    (show machine.fresh.journal = [] from rfl) hstart
  refine ⟨fun x hx => ?_, fun later moment past hsplit hsound cpu => ?_, fun hvalue => ?_⟩
  · obtain ⟨past, hflat, -⟩ := hgood.of_mem hx
    exact hflat
  · obtain ⟨-, hfailed | hcounted⟩ := hgood.at hsplit
    · obtain ⟨earlier, hearlier, hfails⟩ := hfailed
      rw [hsound earlier hearlier] at hfails
      cases hfails
    · exact hcounted cpu
  · exact CpuSlots.ext_get fun cpu => (hsame hvalue cpu).2 (by simp)

/-- Services that do nothing of their own around a device: one CPU, one line. -/
def Services.plain (line : Irq) (device : ServiceProgram σ Unit) : Services σ where
  controllerName := "plain"
  perform
    | .cpuId => return 0
    | .cycles => return 0
    | .triggerMode _ => return .edge
    | .pending _ => return some line
    | .device _ _ => device
    | .schedule _ _ => return .continue
    | .resolveFault _ _ => return false
    | .pid => return 1
    | .userRange => return .between 0x1000 0x2000
    | .signalPending => return false
    | .write _ _ => return .ok 0
    | .read _ _ => return .ok (.done 0)
    | .enableInterrupts | .disableInterrupts | .mask _ | .unmask _ | .acknowledge _
    | .endOfInterrupt _ | .terminate _ => return ()

def Kernel.plain (line : Irq) (device : ServiceProgram σ Unit) : Kernel σ where
  vectors := ⟨.x86_64, 0⟩
  services := .plain line device
  syscalls := {}
  config := {}

theorem maxCpus_pos : 0 < maxCpus := by
  decide

def trapOn (vector : UInt64) : ServiceProgram σ Unit := do
  let _ ← ServiceProgram.ask (.trap { (default : Frame) with vector })

def Machine.attached (line : Irq) (world : σ) : Machine σ :=
  match ({} : Registry).register line 0 0 with
  | .ok (_, registry) => { registry, world }
  | .error _ => { world }

/-- A device whose first interrupt is itself interrupted. -/
def nestingDevice : ServiceProgram Bool Unit := do
  if ← ServiceProgram.world then
    ServiceProgram.ask (.setWorld false)
    trapOn 35

def nestedMoments : List Moment :=
  history ((Kernel.plain ⟨3⟩ nestingDevice).runService 3 (trapOn 35)
    (Machine.attached ⟨3⟩ true).fresh).machine.journal

/-- While the inner of two traps looks at its line, the CPU counts both. -/
theorem slots_count_nested_traps :
    ∃ moment past, nestedMoments.drop 34 = moment :: past ∧
      trapsOn ⟨0, by decide⟩ (underWay (Moment.upTo past moment)) = 2 ∧
      (moment.slots.get ⟨0, by decide⟩).depth = 2 := by
  have hcheck : (nestedMoments.drop 34).head?.any (fun moment =>
      (moment.upTo (nestedMoments.drop 34).tail).all (fun earlier => !earlier.isFailure) &&
        trapsOn ⟨0, by decide⟩ (underWay (moment.upTo (nestedMoments.drop 34).tail)) == 2) =
      true := by
    decide +kernel
  have hsplit := (List.take_append_drop 34 nestedMoments).symm
  cases hdrop : nestedMoments.drop 34 with
  | nil =>
    rw [hdrop] at hcheck
    cases hcheck
  | cons moment past =>
    rw [hdrop] at hcheck hsplit
    simp only [List.head?_cons, List.tail_cons, Option.any_some, Bool.and_eq_true,
      List.all_eq_true, Bool.not_eq_true', beq_iff_eq] at hcheck
    obtain ⟨-, hall, -⟩ := slots_count_traps (Kernel.plain ⟨3⟩ nestingDevice) 3 (trapOn 35)
      (Machine.attached ⟨3⟩ true)
    have hslots := hall _ moment past hsplit hcheck.1 ⟨0, by decide⟩
    exact ⟨moment, past, rfl, hcheck.2, hslots.1.trans hcheck.2⟩

end TrapDispatch
