import TrapDispatch.Proofs.UnclaimedLines

/-!
# Accounts of hardware

Hardware notes some of what a driver does to it. If the driver notes something only where it names
no line, and where it ends the interrupt of one, then the notes of a whole run are those of its
spared interrupts and of its scopes, in their order, however the scopes are nested and however
the run ends. The same holds of each trap, which accounts for its own interrupt once.
-/

namespace TrapDispatch

/-- What hardware notes: something where an interrupt is ended, and perhaps where it is spared. -/
structure Account (η : Type) where
  Entry : Type
  entries : η → List Entry
  ended : Irq → List Entry
  spared : UInt64 → List Entry

namespace Account

variable {η τ α : Type} (account : Account η)

/-- What is noted at the end of an event, newest first. A scope is closed where it returns and
where it is unwound. -/
def own : Event → List account.Entry
  | .service (.pending vector) (.ok none) => account.spared vector
  | .scope irq (.ok _) | .scope irq (.error (.panic _)) => account.ended irq
  | _ => []

/-- What is noted in the course of some moments, newest first. -/
def settled (moments : List Moment) : List account.Entry :=
  (moments.filterMap Moment.ending?).flatMap (account.own ·.event)

structure Keeps (plain : Controller (StateM η)) : Prop where
  triggerMode : ∀ irq hardware,
    account.entries (plain.triggerMode irq hardware).2 = account.entries hardware
  pending : ∀ vector hardware, account.entries (plain.pending vector hardware).2 =
    account.own (.service (.pending vector) (.ok (plain.pending vector hardware).1)) ++
      account.entries hardware
  mask : ∀ irq hardware, account.entries (plain.mask irq hardware).2 = account.entries hardware
  unmask : ∀ irq hardware, account.entries (plain.unmask irq hardware).2 = account.entries hardware
  acknowledge : ∀ irq hardware,
    account.entries (plain.acknowledge irq hardware).2 = account.entries hardware
  endOfInterrupt : ∀ irq hardware, account.entries (plain.endOfInterrupt irq hardware).2 =
    account.ended irq ++ account.entries hardware

/-- Whether the notes at a point are those of the moments before it, after some older ones, and
`extra` that no moment has accounted for yet. -/
def Owes (extra base : List account.Entry) : Assertion (η × τ) :=
  fun past machine => account.entries machine.world.1 = extra ++ account.settled past ++ base

def regime (τ : Type) : Regime (η × τ) where
  View := List account.Entry
  holds := account.Owes []
  halts base _ := account.Owes [] base
  halting h _ := h

variable {account} {kernel : Kernel τ} {driver : Controller (ServiceProgram (η × τ))}
  {plain : Controller (StateM η)} {server : Server (η × τ)} {base : List account.Entry}

@[simp] theorem settled_begins (x : Activity) (past : List Moment) :
    account.settled (.begins x :: past) = account.settled past :=
  rfl

@[simp] theorem settled_ends (x : Activity) (past : List Moment) :
    account.settled (.ends x :: past) = account.own x.event ++ account.settled past :=
  rfl

theorem cuts_iff {stop : Stop} {past : List Moment} {machine : Machine (η × τ)} :
    (account.regime τ).cuts base stop past machine ↔ account.Owes [] base past machine := by
  cases stop <;> exact .rfl

theorem quiet_regime : (account.regime τ).Quiet := by
  intro base past a b _ _ _ hworld h
  change account.entries b.world.1 = _
  rw [hworld]
  exact h

/-- What an activity notes, apart from what is noted in the course of it, is accounted for at its
end. -/
theorem carries_during_owes {event : Except Stop α → Event} {body : Dispatch (η × τ) α}
    (h : Carries (account.Owes [] base)
      (fun value => account.Owes (account.own (event (.ok value))) base)
      (fun stop => account.Owes (account.own (event (.error stop))) base) body) :
    Carries (account.Owes [] base) (fun _ => account.Owes [] base) (fun _ => account.Owes [] base)
      (Dispatch.during event body) := by
  apply carries_during
  intro x result past machine hx _ hpast
  refine ⟨_, _, _, h, by rw [Owes, settled_begins]; exact hpast, fun last _ hupon => ?_⟩
  cases result with
  | ok value =>
    change account.entries last.world.1 = _ at hupon ⊢
    rw [settled_ends, hx, hupon, List.nil_append]
  | error stop =>
    change account.entries last.world.1 = _ at hupon ⊢
    rw [settled_ends, hx, hupon, List.nil_append]

theorem own_of_isBeside {event : Event} (h : event.isBeside = true) : account.own event = [] := by
  cases event with
  | service c result =>
    cases c with
    | pending vector => cases h
    | _ => rfl
  | scope irq result => cases h
  | _ => rfl

theorem keeps_iff {body : Dispatch (η × τ) α} : (account.regime τ).Keeps body ↔
    ∀ base, Carries (account.Owes [] base) (fun _ => account.Owes [] base)
      (fun _ => account.Owes [] base) body := by
  constructor
  · intro h base
    exact (h base).mono (fun _ _ h => h) (fun _ _ _ h => h) fun _ _ _ => cuts_iff.mp
  · intro h base
    exact (h base).mono (fun _ _ h => h) (fun _ _ _ h => h) fun _ _ _ => cuts_iff.mpr

theorem beside_regime : (account.regime τ).discipline.Beside where
  resilient := (account.regime τ).resilient
  plain := quiet_regime.plain
  deadlock base := carries_throw _ fun _ _ h => h
  modifyMachine hjournal hworld base := by
    refine carries_modifyMachine hjournal fun past machine h => ?_
    exact (congrArg account.entries (hworld machine)).trans h
  onFrame := Regime.keeps_onFrame
  during hbeside hbody := by
    refine keeps_iff.mpr fun base => carries_during_owes ?_
    simp only [own_of_isBeside (hbeside _)]
    exact keeps_iff.mp hbody base
  note hbeside base := by
    refine carries_note fun x past machine hx _ h => ?_
    change account.entries machine.world.1 = _
    rw [settled_ends, settled_begins, hx, own_of_isBeside hbeside]
    exact h

/-! ### Scopes and interrupts -/

theorem own_of_isControl {event : Event} (h : event.call?.any Call.isControl = true) :
    account.own event = [] := by
  cases event with
  | service c result =>
    cases c with
    | pending vector => cases h
    | _ => rfl
  | _ => cases h

theorem own_error (c : Call) (stop : Stop) : account.own (.service c (.error stop)) = [] := by
  cases c <;> rfl

theorem settled_of_simple {new : List Activity} (h : Simple Call.isControl new)
    (past : List Moment) : account.settled (history new ++ past) = account.settled past := by
  induction new with
  | nil => rfl
  | cons x new ih =>
    obtain ⟨hinner, hcontrol⟩ := h x (by simp)
    have hsplit : history (x :: new) = history [x] ++ history new := history_append [x] new
    rw [hsplit, List.append_assoc, history_cons_append, settled_ends, hinner,
      own_of_isControl hcontrol]
    exact ih fun y hy => h y (by simp [hy])

section

variable [MonadRecord (StateM η)] (hdrops : ∀ r, (record r : StateM η Unit) = pure ())
  (hkeeps : account.Keeps plain)

include hdrops hkeeps

theorem entries_close (scope : AckScope) (hardware : η) :
    account.entries (scope.close plain hardware).2 =
      account.ended scope.irq ++ account.entries hardware := by
  obtain ⟨irq, mode, keepMasked⟩ := scope
  rw [close_eq hdrops]
  cases mode <;> cases keepMasked <;>
    simp [Controller.after, AckScope.closingCalls, Controller.next, hkeeps.acknowledge,
      hkeeps.endOfInterrupt, hkeeps.unmask]

theorem carries_close (htells : Tells server.reply) (hdriver : driver.Mirrors plain)
    (scope : AckScope) :
    Carries (account.Owes [] base) (fun _ => account.Owes (account.ended scope.irq) base)
      (fun stop past machine => stop = .exhausted ∧ account.Owes [] base past machine)
      (scope.close ((kernel.wired driver).controller server)) := by
  have hcloses : Performs (Idles server.reply) Call.isControl
      (scope.close ((kernel.wired driver).controller server)) (scope.close plain) :=
    performs_close hdrops hdriver htells
  intro past state h
  have hpast : account.entries state.hardware = account.settled past ++ base := h
  refine (hcloses state).mono fun new result after ⟨hsimple, hafter⟩ => ?_
  cases result with
  | ok value =>
    change account.entries after.hardware = _
    rw [settled_of_simple hsimple, hafter.2.1, entries_close hdrops hkeeps, hpast,
      List.append_assoc]
  | error stop =>
    refine ⟨hafter.2.1, ?_⟩
    change account.entries after.hardware = _
    rw [settled_of_simple hsimple, hafter.2.2, hpast]
    rfl

end

theorem keeps_driven (htells : Tells server.reply) {c : Call} {access : StateM η c.Reply}
    (h : Mirrors ((kernel.wired driver).services.perform c) access)
    (hentries : ∀ hardware, account.entries (access hardware).2 =
      account.own (.service c (.ok (access hardware).1)) ++ account.entries hardware) :
    (account.regime τ).Keeps ((kernel.wired driver).call server c) := by
  refine keeps_iff.mpr fun base => carries_during_owes fun past state hpast => ?_
  have howed : ∀ value : c.Reply, value = (access state.hardware).1 → ∀ hardware,
      hardware = (access state.hardware).2 → account.entries hardware =
        account.own (.service c (.ok value)) ++ account.settled past ++ base := by
    rintro _ rfl _ rfl
    rw [hentries, List.append_assoc]
    exact congrArg _ hpast
  by_cases hidle : Idles server.reply
  · rcases h.idle server hidle state with hstop | ⟨hrun, hsame⟩
    · refine runsAt_of_error [] hstop rfl ?_
      change account.entries state.hardware = _
      rw [own_error]
      exact hpast
    · exact runsAt_of_ok [] hrun rfl (howed _ rfl _ hsame.symm)
  · obtain ⟨log, hrun⟩ := h.hosted server (htells.resolve_left hidle) state
    exact runsAt_of_ok [] hrun rfl (howed _ rfl _ rfl)

section

variable [MonadRecord (StateM η)] (hdrops : ∀ r, (record r : StateM η Unit) = pure ())
  (hdriver : driver.Mirrors plain) (hkeeps : account.Keeps plain)
  (hserver : (account.regime τ).discipline.Attended server)

include hdrops hdriver hkeeps hserver

/-- Where a scope returns or is unwound, its line has been ended, and otherwise it has not. -/
theorem keeps_serviceScope (cpu : Fin maxCpus) (scope : AckScope) :
    (account.regime τ).Keeps ((kernel.wired driver).serviceScope server cpu scope) := by
  refine keeps_iff.mpr fun base => carries_during_owes ?_
  have hclose : ∀ last : AckScope, last.irq = scope.irq →
      Carries (account.Owes [] base) (fun _ => account.Owes (account.ended scope.irq) base)
        (fun stop past machine => stop = .exhausted ∧ account.Owes [] base past machine)
        (last.close ((kernel.wired driver).controller server)) := by
    rintro last hlast
    rw [← hlast]
    exact carries_close hdrops hkeeps hserver.tells hdriver last
  have hline : (account.regime τ).Keeps
      ((kernel.wired driver).serviceLine server cpu scope.irq scope) :=
    beside_regime.serviceLine hserver cpu scope.irq scope
  have hservice : Carries (account.Owes [] base)
      (fun value past machine => value.2.irq = scope.irq ∧ account.Owes [] base past machine)
      (fun stop => account.Owes (account.own (.scope scope.irq (.error stop))) base)
      (unwinding ((kernel.wired driver).serviceLine server cpu scope.irq scope)
        (scope.close ((kernel.wired driver).controller server))) := by
    refine carries_unwinding ((keeps_iff.mp hline base).giving
      (Law.Scopes.serviceLine_irq scope.irq scope)) (fun _ => hclose scope rfl) ?_ ?_
    · intro stop past machine hstop h
      cases stop with
      | panic message => exact absurd rfl (hstop message)
      | _ => exact h
    · rintro _ past machine ⟨rfl, h⟩
      exact h
  unfold AckScope.servicing
  refine hservice.bind fun value past state ⟨hlast, h⟩ => ?_
  have hrest : Carries (account.Owes [] base) (fun _ => account.Owes (account.ended scope.irq) base)
      (fun stop => account.Owes (account.own (.scope scope.irq (.error stop))) base)
      (value.2.close ((kernel.wired driver).controller server) >>= fun _ => pure value.1) := by
    refine Carries.bind ((hclose _ hlast).mono (fun _ _ h => h) (fun _ _ _ h => h) ?_)
      fun _ => carries_pure _ fun _ _ h => h
    rintro _ past machine ⟨rfl, h⟩
    exact h
  exact hrest past state h

theorem keeps_interrupt (cpu : Fin maxCpus) :
    (account.regime τ).Keeps ((kernel.wired driver).interrupt server cpu) := by
  let rule := (account.regime τ).discipline
  have hcommons : rule.Commons (kernel.wired driver) server := beside_regime.commons hserver
  refine hcommons.interrupt (fun vector => ?_) (fun irq => ?_)
    (keeps_serviceScope hdrops hdriver hkeeps hserver cpu)
  · exact keeps_driven hserver.tells (c := .pending vector) (hdriver.pending vector)
      (hkeeps.pending vector)
  · exact ⟨quiet_regime.plain.toLooking,
      keeps_driven hserver.tells (c := .triggerMode irq) (hdriver.triggerMode irq)
        (hkeeps.triggerMode irq),
      keeps_driven hserver.tells (c := .mask irq) (hdriver.mask irq) (hkeeps.mask irq),
      keeps_driven hserver.tells (c := .acknowledge irq) (hdriver.acknowledge irq)
        (hkeeps.acknowledge irq)⟩

end

section

variable [MonadRecord (StateM η)] (hdrops : ∀ r, (record r : StateM η Unit) = pure ())
  (kernel : Kernel τ) (hdriver : driver.Mirrors plain) (hkeeps : account.Keeps plain) (depth : Nat)

include hdrops hdriver hkeeps

theorem attends_regime :
    (account.regime τ).discipline.Attended ((kernel.wired driver).server depth) :=
  beside_regime.attends (fun _ hserver => keeps_interrupt hdrops hdriver hkeeps hserver) depth

/-- What a trap has noted is what the spared interrupts and the scopes in it account for. -/
theorem entries_carryOut {cpu : Fin maxCpus} {outer : CpuSlot} {state after : Activation (η × τ)}
    {outcome : Outcome} (hrun : (kernel.wired driver).carryOut
      ((kernel.wired driver).server depth) cpu outer state = .ok outcome after) :
    ∃ new, after.machine.journal = new ++ state.machine.journal ∧
      account.entries after.hardware =
        account.settled (history new) ++ account.entries state.hardware := by
  have hserver : (account.regime τ).discipline.Attended ((kernel.wired driver).server depth) :=
    attends_regime hdrops kernel hdriver hkeeps depth
  have hcarry : (account.regime τ).Keeps ((kernel.wired driver).carryOut
      ((kernel.wired driver).server depth) cpu outer) :=
    beside_regime.carryOut hserver (keeps_interrupt hdrops hdriver hkeeps hserver) cpu outer
  have hstart : (account.regime τ).holds (account.entries state.hardware) [] state.machine.bare :=
    rfl
  obtain ⟨new, hnew, howes⟩ := (hcarry _ _ _ hstart).returned hrun
  rw [List.append_nil] at howes
  exact ⟨new, hnew, howes⟩

theorem entries_runService (program : ServiceProgram τ α) (machine : Machine (η × τ)) :
    let run := (kernel.wired driver).runService depth program.beside machine.fresh
    account.entries run.machine.world.1 =
      account.settled (history run.machine.journal) ++ account.entries machine.world.1 := by
  intro run
  have hprogram : (account.regime τ).Keeps _ :=
    beside_regime.program (attends_regime hdrops kernel hdriver hkeeps depth) program
  have hstart : (account.regime τ).holds (account.entries machine.world.1) [] machine.fresh.bare :=
    rfl
  have hrun : Upon (fun _ => account.Owes [] _) ((account.regime τ).cuts _) run.result
      (history run.machine.journal) run.machine.bare :=
    hprogram.runService (account.entries machine.world.1) rfl hstart
  cases hresult : run.result with
  | ok value =>
    rw [hresult] at hrun
    exact hrun
  | error stop =>
    rw [hresult] at hrun
    have howes : account.Owes [] _ _ run.machine.bare := cuts_iff.mp hrun
    exact howes

end

end Account

/-! ### What a trap accounts for by itself -/

namespace Account

variable {σ η τ : Type} (account : Account η)

/-- What some activities account for by themselves, newest first. -/
def owns (new : List Activity) : List account.Entry :=
  new.flatMap (account.own ·.event)

/-- Whether a journal was extended by activities that account for just that by themselves. -/
def Adds (owned : List account.Entry) (a b : Machine σ) : Prop :=
  ∃ new, b.journal = new ++ a.journal ∧ account.owns new = owned

/-- What an interrupt is to account for, in view of its outcome. -/
def due (vector : UInt64) (outcome : Outcome) : List account.Entry :=
  match outcome.line? with
  | some irq => account.ended irq
  | none => account.spared vector

/-- Whether a trap has accounted for its own interrupt and for those within it, and nothing else
was noted. -/
def Settles (outcome : Outcome) (state after : Activation (η × τ)) : Prop :=
  ∃ new, after.machine.journal = new ++ state.machine.journal ∧
    account.owns new = account.due state.frame.vector outcome ∧
    account.entries after.hardware =
      account.settled (history new) ++ account.entries state.hardware

section

variable {account} {kernel : Kernel σ} {server : Server σ} {cpu : Fin maxCpus}
  {state after : Activation σ} {outcome : Outcome}

theorem Adds.trans {later earlier : List account.Entry} {a b c : Machine σ}
    (hfirst : account.Adds earlier a b) (hsecond : account.Adds later b c) :
    account.Adds (later ++ earlier) a c := by
  obtain ⟨old, hold, rfl⟩ := hfirst
  obtain ⟨new, hnew, rfl⟩ := hsecond
  exact ⟨new ++ old, by rw [hnew, hold, List.append_assoc], by simp [owns]⟩

/-- What is done of itself accounts for nothing. -/
def unowned (account : Account η) (σ : Type) : Law σ where
  returns := account.Adds []
  stops := account.Adds []
  refl _ := ⟨[], rfl, rfl⟩
  trans := .trans
  weaken h := h
  trans_stops := .trans

theorem quiet_unowned : (account.unowned σ).Quiet :=
  fun _ _ _ hjournal => ⟨[], hjournal, rfl⟩

theorem unowned_call {c : Call} (hc : ∀ result, account.own (.service c result) = []) :
    (account.unowned σ).Obeys (kernel.call server c) := by
  intro state
  unfold Kernel.call
  cases hrun : server.run (kernel.services.perform c) { state with machine.journal := [] } with
  | ok value last =>
    exact Law.leadsAt_of_ok (Dispatch.during_of_ok hrun) ⟨[_], rfl, by simp [owns, hc]⟩
  | error stop last =>
    exact Law.leadsAt_of_error (Dispatch.during_of_error hrun) ⟨[_], rfl, by simp [owns, hc]⟩

theorem adds_due (hrun : kernel.interrupt server cpu state = .ok outcome after) :
    account.Adds (account.due state.frame.vector outcome) state.machine after.machine := by
  have hplain : (account.unowned σ).discipline.Plain := quiet_unowned.plain
  have hcommons : (account.unowned σ).discipline.Commons kernel server :=
    ⟨hplain, fun c hc => unowned_call fun _ => by cases c <;> first | rfl | cases hc⟩
  have hopens : ∀ irq, (account.unowned σ).discipline.Opens kernel server irq := fun _ =>
    ⟨hplain.toLooking, unowned_call fun _ => rfl, unowned_call fun _ => rfl,
      unowned_call fun _ => rfl⟩
  have hpending : ∀ {named asked}, kernel.call server (.pending state.frame.vector) state =
      .ok named asked → account.Adds
        (account.own (.service (.pending state.frame.vector) (.ok named)))
        state.machine asked.machine := by
    intro named asked hasked
    obtain ⟨inner, -, rfl⟩ := Dispatch.exists_of_during hasked
    exact ⟨[_], rfl, List.append_nil _⟩
  cases Kernel.interrupts_of_run hrun with
  | spurious hasked halike =>
    obtain ⟨new, hnew, howns⟩ := hpending hasked
    exact ⟨new, halike.journal.trans hnew, howns⟩
  | @line irq mode handled asked opened serviced hasked hopened hserviced htick =>
    have hopening : account.Adds [] asked.machine opened.machine :=
      ((hopens irq).opened _).returned hopened
    have hscope : account.Adds (account.ended irq) opened.machine serviced.machine := by
      obtain ⟨inner, -, rfl⟩ := Dispatch.exists_of_during hserviced
      exact ⟨[_], rfl, List.append_nil _⟩
    have hticking : (account.unowned σ).Obeys
        (if kernel.config.isTimer irq then kernel.reschedule server .tick else pure ()) :=
      Law.obeys_ite (hcommons.reschedule _) (Law.obeys_pure _)
    have hdue : account.due state.frame.vector (if handled then .irqHandled irq else .unhandled irq) =
        account.ended irq := by
      cases handled <;> rfl
    have hall := (((hpending hasked).trans hopening).trans hscope).trans ((hticking _).returned htick)
    simpa [hdue, own] using hall

end

/-- A trap that is an interrupt accounts for it and for those within it. -/
theorem settles_carryOut [MonadRecord (StateM η)]
    (hdrops : ∀ r, (record r : StateM η Unit) = pure ()) (kernel : Kernel τ)
    {driver : Controller (ServiceProgram (η × τ))} {plain : Controller (StateM η)}
    (hdriver : driver.Mirrors plain) (hkeeps : account.Keeps plain) (depth : Nat)
    {cpu : Fin maxCpus} {outer : CpuSlot} {state after : Activation (η × τ)} {outcome : Outcome}
    (hcause : (kernel.wired driver).cause state.frame = .interrupt)
    (hrun : (kernel.wired driver).carryOut ((kernel.wired driver).server depth) cpu outer state =
      .ok outcome after) : account.Settles outcome state after := by
  obtain ⟨new, hnew, hentries⟩ : ∃ new, after.machine.journal = new ++ state.machine.journal ∧
      account.entries after.hardware =
        account.settled (history new) ++ account.entries state.hardware :=
    entries_carryOut hdrops kernel hdriver hkeeps depth hrun
  obtain ⟨inner, last, hinner, hlast, hinterrupt⟩ := Kernel.exists_interrupt hcause hrun
  obtain ⟨added, hadded, howns⟩ :
      account.Adds (account.due inner.frame.vector outcome) inner.machine last.machine :=
    adds_due hinterrupt
  have hsame : added = new := by
    have hjournals : added ++ state.machine.journal = new ++ state.machine.journal := by
      rw [← hnew, ← hinner.journal, ← hadded, hlast.journal]
    exact List.append_cancel_right hjournals
  subst hsame
  rw [hinner.frame] at howns
  exact ⟨added, hnew, howns, hentries⟩

end Account
end TrapDispatch
