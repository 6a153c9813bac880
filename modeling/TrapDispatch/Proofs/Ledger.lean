import TrapDispatch.Proofs.Counters

/-!
# The ledger of the counters

Between the end of an activity and its entry in a counter nothing is lost: a service leaves the
counters higher by what has ended in the course of it, and a step of a trap by that and by what
the trap has still to be entered for, which is told by the value of the step. What is due can
also be a debt, where an entry stands before its count.
-/

namespace TrapDispatch

variable {σ α β : Type}

namespace Kernel

variable (kernel : Kernel σ)

/-- Whether the outcome of a trap is one that its cause can come to. -/
def Fits (x : Activity) : Prop :=
  ∀ frame outcome, x.event.frame? = some frame → x.event.outcome? = some outcome →
    (kernel.cause frame).admits outcome = true

/-- Whether the counters of arrivals follow what was done between two machines, and all traps
in it have come to fitting outcomes. -/
structure Arrivals (new : List Activity) (a b : Machine σ) : Prop where
  journal : b.journal = new ++ a.journal
  fits : ∀ x ∈ endings (history new), kernel.Fits x
  arrivals : ∀ counter, counter.isOfArrival = true →
    b.stats.read counter = a.stats.read counter + kernel.entries new counter

/-- Whether all counters follow it, with something due, if all traps in it have returned. -/
structure Books (due : Counter → UInt64) (new : List Activity) (a b : Machine σ) : Prop extends
    kernel.Arrivals new a b where
  results : AllReturned new → ∀ counter, counter.isOfArrival = false →
    b.stats.read counter = a.stats.read counter + (due counter + kernel.entries new counter)

variable {kernel}

theorem Arrivals.trans {old new : List Activity} {a b c : Machine σ}
    (hfirst : kernel.Arrivals old a b) (hsecond : kernel.Arrivals new b c) :
    kernel.Arrivals (new ++ old) a c where
  journal := by rw [hsecond.journal, hfirst.journal, List.append_assoc]
  fits := by
    rw [history_append, endings_append, List.forall_mem_append]
    exact ⟨hsecond.fits, hfirst.fits⟩
  arrivals counter h := by
    rw [hsecond.arrivals counter h, hfirst.arrivals counter h, entries_append]
    ac_rfl

theorem Books.trans {first second : Counter → UInt64} {old new : List Activity} {a b c : Machine σ}
    (hfirst : kernel.Books first old a b) (hsecond : kernel.Books second new b c) :
    kernel.Books (fun counter => first counter + second counter) (new ++ old) a c where
  toArrivals := hfirst.toArrivals.trans hsecond.toArrivals
  results hall counter h := by
    obtain ⟨hnew, hold⟩ := allReturned_append.mp hall
    rw [hsecond.results hnew counter h, hfirst.results hold counter h, entries_append]
    ac_rfl

theorem Books.still {a b : Machine σ} (hjournal : b.journal = a.journal)
    (hstats : b.stats = a.stats) : kernel.Books (fun _ => 0) [] a b where
  journal := hjournal
  fits _ h := by cases h
  arrivals counter _ := by
    rw [hstats]
    exact (UInt64.add_zero _).symm
  results _ counter _ := by
    rw [hstats]
    exact (UInt64.add_zero _).symm

def Balanced (kernel : Kernel σ) (new : List Activity) (a b : Machine σ) : Prop :=
  kernel.Books (fun _ => 0) new a b

theorem Balanced.trans {old new : List Activity} {a b c : Machine σ}
    (hfirst : kernel.Balanced old a b) (hsecond : kernel.Balanced new b c) :
    kernel.Balanced (new ++ old) a c :=
  Books.trans hfirst hsecond

theorem Fits.of_frame? {x : Activity} (h : x.event.frame? = none) : kernel.Fits x := by
  intro frame outcome hframe
  rw [h] at hframe
  cases hframe

theorem fits_single {x : Activity} (h : kernel.Fits x)
    (hinner : ∀ y ∈ endings (history x.inner), kernel.Fits y) :
    ∀ y ∈ endings (history [x]), kernel.Fits y := by
  rw [endings_history, List.forall_mem_cons, List.forall_mem_append]
  exact ⟨h, hinner, fun y hy => by cases hy⟩

theorem Arrivals.closing {new : List Activity} {a b : Machine σ}
    (h : kernel.Arrivals new { a with journal := [] } b) {event : Event}
    (hevent : event.frame? = none) :
    kernel.Arrivals [⟨event, a.slots, new, b.slots⟩] a (a.closing b event) where
  journal := by
    have hjournal : b.journal = new := h.journal.trans (List.append_nil _)
    unfold Machine.closing
    rw [hjournal]
    rfl
  fits := fits_single (.of_frame? hevent) h.fits
  arrivals counter hcounter := by
    rw [entries_single, entriesOf_of_isOfArrival kernel hevent hcounter, UInt64.zero_add]
    exact h.arrivals counter hcounter

/-- What an activity is entered for is no longer due once it has closed over what was done in
the course of it. -/
theorem Books.closing {due : Counter → UInt64} {new : List Activity} {a b : Machine σ}
    (h : kernel.Books due new { a with journal := [] } b) {event : Event}
    (hevent : event.frame? = none) :
    kernel.Books
      (fun counter => due counter - kernel.entriesOf ⟨event, a.slots, new, b.slots⟩ counter)
      [⟨event, a.slots, new, b.slots⟩] a (a.closing b event) where
  toArrivals := h.toArrivals.closing hevent
  results hall counter hcounter := by
    rw [entries_single, ← UInt64.add_assoc (due counter - _), UInt64.sub_add_cancel]
    exact h.results (allReturned_single.mp hall).2 counter hcounter

theorem Balanced.closing {a b : Machine σ} {event : Event}
    (h : ∃ new, kernel.Balanced new { a with journal := [] } b) (hevent : event.isEntered = false) :
    ∃ x, x.event = event ∧ kernel.Balanced [x] a (a.closing b event) := by
  obtain ⟨new, hnew⟩ := h
  have hentries : ∀ counter, kernel.entriesOf ⟨event, a.slots, new, b.slots⟩ counter = 0 :=
    entriesOf_eq_zero kernel hevent
  have hframe : event.frame? = none := by
    cases event with
    | trap cpu frame result => cases hevent
    | _ => rfl
  have hbooks := Books.closing hnew hframe
  simp only [hentries, UInt64.sub_zero] at hbooks
  exact ⟨_, rfl, hbooks⟩

end Kernel

namespace Law

open Kernel

def ledger (kernel : Kernel σ) : Law σ where
  returns a b := ∃ new, kernel.Balanced new a b
  stops a b := ∃ new, kernel.Balanced new a b
  refl _ := ⟨[], Books.still rfl rfl⟩
  trans := by
    rintro a b c ⟨old, hold⟩ ⟨new, hnew⟩
    exact ⟨new ++ old, hold.trans hnew⟩
  weaken h := h
  trans_stops := by
    rintro a b c ⟨old, hold⟩ ⟨new, hnew⟩
    exact ⟨new ++ old, hold.trans hnew⟩

def arrivals (kernel : Kernel σ) : Law σ where
  returns a b := ∃ new, kernel.Arrivals new a b
  stops a b := ∃ new, kernel.Arrivals new a b
  refl a := ⟨[], (Books.still rfl rfl : kernel.Balanced [] a a).toArrivals⟩
  trans := by
    rintro a b c ⟨old, hold⟩ ⟨new, hnew⟩
    exact ⟨new ++ old, hold.trans hnew⟩
  weaken h := h
  trans_stops := by
    rintro a b c ⟨old, hold⟩ ⟨new, hnew⟩
    exact ⟨new ++ old, hold.trans hnew⟩

/-- A step of a trap in which no device handler is run or timed leaves nothing due, unless it
is cut short. -/
def charges (kernel : Kernel σ) : Law σ where
  returns a b := ∃ new, timings new = [] ∧ kernel.Balanced new a b
  stops := (arrivals kernel).stops
  refl _ := ⟨[], rfl, Books.still rfl rfl⟩
  trans := by
    rintro a b c ⟨old, htimings, hold⟩ ⟨new, hnext, hnew⟩
    refine ⟨new ++ old, ?_, hold.trans hnew⟩
    rw [timings_append, htimings, hnext]
    rfl
  weaken := by
    rintro a b ⟨new, -, hnew⟩
    exact ⟨new, hnew.toArrivals⟩
  trans_stops := by
    rintro a b c ⟨old, -, hold⟩ hrest
    exact (arrivals kernel).trans_stops ⟨old, hold.toArrivals⟩ hrest

variable {kernel : Kernel σ} {server : Server σ} {cpu : Fin maxCpus}

theorem arrivals_of_ledger {body : Dispatch σ α} (h : (ledger kernel).Obeys body) :
    (arrivals kernel).Obeys body :=
  fun state => (h state).mono (fun _ ⟨new, hnew⟩ => ⟨new, hnew.toArrivals⟩)
    fun _ ⟨new, hnew⟩ => ⟨new, hnew.toArrivals⟩

theorem arrivals_of_charges {body : Dispatch σ α} (h : (charges kernel).Obeys body) :
    (arrivals kernel).Obeys body :=
  fun state => (h state).mono (fun _ => (charges kernel).weaken) fun _ hstops => hstops

theorem unwinds_ledger : (ledger kernel).Unwinds (ledger kernel) :=
  fun _ _ _ => (ledger kernel).trans

theorem unwinds_arrivals : (arrivals kernel).Unwinds (arrivals kernel) :=
  fun _ _ _ => (arrivals kernel).trans

section

variable {change : Machine σ → Machine σ} (hjournal : ∀ a, (change a).journal = a.journal)
  (hstats : ∀ a, (change a).stats = a.stats)

include hjournal hstats

theorem ledger_modifyMachine : (ledger kernel).Obeys (Dispatch.modifyMachine change) :=
  obeys_modifyMachine fun a => ⟨[], Books.still (hjournal a) (hstats a)⟩

theorem charges_modifyMachine : (charges kernel).Obeys (Dispatch.modifyMachine change) :=
  obeys_modifyMachine fun a => ⟨[], rfl, Books.still (hjournal a) (hstats a)⟩

end

theorem mending_ledger : (ledger kernel).discipline.Mending where
  frame := obeys_frame
  requests := obeys_requests
  machine := obeys_machine
  record _ := ledger_modifyMachine (fun _ => rfl) fun _ => rfl
  modifyFrame := obeys_modifyFrame
  modifyRequests := obeys_modifyRequests

theorem mending_charges : (charges kernel).discipline.Mending where
  frame := obeys_frame
  requests := obeys_requests
  machine := obeys_machine
  record _ := charges_modifyMachine (fun _ => rfl) fun _ => rfl
  modifyFrame := obeys_modifyFrame
  modifyRequests := obeys_modifyRequests

theorem charges_setSlot (change : CpuSlot → CpuSlot) :
    (charges kernel).Obeys (Dispatch.setSlot cpu change) :=
  charges_modifyMachine (fun _ => rfl) fun _ => rfl

theorem charges_setState (state : DispatchState) (masked : Bool) :
    (charges kernel).Obeys (Kernel.setState cpu state masked) :=
  charges_setSlot _

theorem ledger_withRegistry {change : Registry → α × Registry} :
    (ledger kernel).Obeys (Dispatch.withRegistry change) :=
  mending_ledger.withRegistry (obeys_throw _) (ledger_modifyMachine (fun _ => rfl) fun _ => rfl)
    fun _ => ledger_modifyMachine (fun _ => rfl) fun _ => rfl

theorem charges_withRegistry {change : Registry → α × Registry} :
    (charges kernel).Obeys (Dispatch.withRegistry change) :=
  mending_charges.withRegistry (obeys_throw _) (charges_modifyMachine (fun _ => rfl) fun _ => rfl)
    fun _ => charges_modifyMachine (fun _ => rfl) fun _ => rfl

section

variable {event : Event} (hevent : event.isEntered = false)

include hevent

theorem ledger_note : (ledger kernel).Obeys (Dispatch.note event) := by
  apply obeys_modifyMachine
  intro a
  obtain ⟨x, -, hx⟩ := Balanced.closing ((ledger kernel).refl { a with journal := [] }) hevent
  exact ⟨[x], hx⟩

theorem charges_note (htiming : event.isTiming = false) :
    (charges kernel).Obeys (Dispatch.note event) := by
  apply obeys_modifyMachine
  intro a
  obtain ⟨x, hx, hbalanced⟩ :=
    Balanced.closing ((ledger kernel).refl { a with journal := [] }) hevent
  refine ⟨[x], ?_, hbalanced⟩
  simp [timings, hx, htiming]

end

section

variable {event : Except Stop α → Event} {body : Dispatch σ α} (hbody : (ledger kernel).Obeys body)
  (hevent : ∀ result, (event result).isEntered = false)

include hbody hevent

theorem ledger_during : (ledger kernel).Obeys (Dispatch.during event body) := by
  refine hbody.during (fun a b value h => ?_) fun a b stop h => ?_
  · obtain ⟨x, -, hx⟩ := Balanced.closing h (hevent (.ok value))
    exact ⟨[x], hx⟩
  · obtain ⟨x, -, hx⟩ := Balanced.closing h (hevent (.error stop))
    exact ⟨[x], hx⟩

theorem charges_during (htiming : ∀ result, (event result).isTiming = false) :
    (charges kernel).Obeys (Dispatch.during event body) := by
  refine hbody.during (fun a b value h => ?_) fun a b stop h => ?_
  · obtain ⟨x, hx, hbalanced⟩ := Balanced.closing h (hevent (.ok value))
    refine ⟨[x], ?_, hbalanced⟩
    simp [timings, hx, htiming]
  · obtain ⟨x, -, hx⟩ := Balanced.closing h (hevent (.error stop))
    exact ⟨[x], hx.toArrivals⟩

end

section

variable (hserves : (ledger kernel).Serves server)

include hserves

theorem ledger_call {c : Call} (h : ∀ result, (Event.service c result).isEntered = false) :
    (ledger kernel).Obeys (kernel.call server c) :=
  ledger_during (hserves.run unwinds_ledger _) h

theorem charges_call {c : Call} (h : ∀ result, (Event.service c result).isEntered = false)
    (htiming : ∀ result, (Event.service c result).isTiming = false) :
    (charges kernel).Obeys (kernel.call server c) :=
  charges_during (hserves.run unwinds_ledger _) h htiming

theorem ledger_calls : (ledger kernel).discipline.Calls kernel server where
  mends := mending_ledger
  call c hc := by
    apply ledger_call hserves
    cases c with
    | resolveFault address access => cases hc
    | _ => exact fun _ => rfl

theorem ledger_serveCall (number : UInt64) (words : ArgumentWords) (frame : Frame) :
    (ledger kernel).Obeys (kernel.serveCall server number words frame) := by
  have hcalls : (ledger kernel).discipline.Calls kernel server := ledger_calls hserves
  refine hcalls.serveCall (fun descriptor arguments _ => ?_) words frame
  apply ledger_during ?_ fun _ => rfl
  exact (resilient unwinds_ledger).run (S := handlerSignature σ)
    (fun op => hcalls.serveHandler op fun inner _ => hserves inner) _

theorem ledger_systemCall (number : UInt64) (words : ArgumentWords) :
    (ledger kernel).Obeys (kernel.systemCall server number words) := by
  unfold Kernel.systemCall
  apply obeys_bind obeys_frame
  intro frame
  exact ledger_during (ledger_serveCall hserves number words frame) fun _ => rfl

theorem charges_systemCall (number : UInt64) (words : ArgumentWords) :
    (charges kernel).Obeys (kernel.systemCall server number words) := by
  unfold Kernel.systemCall
  apply obeys_bind obeys_frame
  intro frame
  exact charges_during (ledger_serveCall hserves number words frame) (fun _ => rfl) fun _ => rfl

end

/-- Where traps keep the ledger, all replies to services do. -/
theorem ledger_replies (hserves : (ledger kernel).Serves server)
    (htrap : (ledger kernel).Obeys (kernel.handleTrap server)) :
    (ledger kernel).discipline.Replies kernel server where
  mends := mending_ledger
  onFrame := obeys_onFrame
  install := ledger_modifyMachine (fun _ => rfl) fun _ => rfl
  tellSlot _ := mending_ledger.tellSlot fun _ => ledger_note rfl
  registry _ := Discipline.callRegistry ledger_withRegistry fun _ => ledger_note rfl
  trap := htrap
  systemCall := ledger_systemCall hserves
  invoke _ _ := hserves.run unwinds_ledger _

end Law
end TrapDispatch
