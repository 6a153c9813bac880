import TrapDispatch.Proofs.Classes

/-!
# Accounts of traps

Over any run in which all traps return, the counters tell how many of them came to each kind of
outcome, how many arrived on each vector, how many faults the memory manager has resolved, and
how many runs of device handlers were too long.
-/

namespace TrapDispatch

namespace Outcome

/-- Whether an outcome is none of interrupts. -/
def isOfProgram : Outcome → Bool
  | resumed | threadTerminated | syscall _ => true
  | _ => false

def isFailure : Outcome → Bool
  | syscall (.error _) => true
  | _ => false

end Outcome

theorem Cause.isInterrupt_of_admits {cause : Cause} {outcome : Outcome}
    (h : cause.admits outcome = true) : cause.isInterrupt = outcome.isOfInterrupt := by
  cases cause <;> cases outcome <;> first | rfl | cases h

theorem Outcome.isOfProgram_eq (outcome : Outcome) :
    outcome.isOfProgram = !outcome.isOfInterrupt := by
  cases outcome <;> rfl

def Event.isResolved : Event → Bool
  | .service (.resolveFault _ _) (.ok true) => true
  | _ => false

/-- How many traps have come to an outcome of a kind, modulo 2^64. -/
def outcomes (kind : Outcome → Bool) (moments : List Moment) : UInt64 :=
  ended (fun x => x.event.outcome?.any kind) moments

def takenOn (vector : UInt64) (moments : List Moment) : UInt64 :=
  ended (fun x => x.event.frame?.any (·.vector = vector)) moments

theorem outcomes_add {first second kind : Outcome → Bool} (moments : List Moment)
    (hkind : ∀ outcome, kind outcome = (first outcome || second outcome))
    (hdisjoint : ∀ outcome, (first outcome && second outcome) = false) :
    outcomes kind moments = outcomes first moments + outcomes second moments := by
  refine ended_add (fun x _ => ?_) fun x _ => ?_
  · cases x.event.outcome? with
    | none => rfl
    | some outcome => exact hkind outcome
  · cases x.event.outcome? with
    | none => rfl
    | some outcome => exact hdisjoint outcome

namespace Kernel

variable {σ α : Type} (kernel : Kernel σ)

/-- Whether an activity is the service of a line whose handler has outlived the budget. -/
def isOverrun (x : Activity) : Bool :=
  match x.event with
  | .scope _ _ => (elapsed? (timings x.inner)).any kernel.config.overruns
  | _ => false

/-- The counters after some moments, in terms of what has ended in them. -/
structure Accounts (before after : Stats) (moments : List Moment) : Prop where
  interrupts : after.interrupts = before.interrupts + outcomes Outcome.isOfInterrupt moments
  spurious : after.spurious = before.spurious + outcomes Counter.spurious.counts moments
  unhandled : after.unhandled = before.unhandled + outcomes Counter.unhandled.counts moments
  others : after.exceptions + after.syscalls + after.unassigned =
    before.exceptions + before.syscalls + before.unassigned + outcomes Outcome.isOfProgram moments
  killed : after.killed = before.killed + outcomes Counter.killed.counts moments
  errors : ∀ code, after.errorCount code =
    before.errorCount code + outcomes (Counter.error code).counts moments
  errorTotal : after.errorTotal = before.errorTotal + outcomes Outcome.isFailure moments
  resolved : after.resolved = before.resolved + ended (·.event.isResolved) moments
  overruns : after.overruns = before.overruns + ended kernel.isOverrun moments
  vectors : ∀ vector : UInt64, vector.toNat < 256 →
    after.vectorCount vector = before.vectorCount vector + takenOn vector moments

section

variable {counter : Counter}

theorem classCounter_isOfArrival (frame : Frame) :
    (kernel.classCounter frame).isOfArrival = true := by
  unfold classCounter
  cases kernel.vectors.lookup frame.vector with
  | none => rfl
  | some entry => exact Counter.ofClass_isOfArrival entry.trapClass entry.assigned

theorem classCounter_ne_vector (frame : Frame) (index : Fin 256) :
    kernel.classCounter frame ≠ .vector index := by
  unfold classCounter
  cases kernel.vectors.lookup frame.vector with
  | none => rintro ⟨⟩
  | some entry => exact Counter.ofClass_ne_vector entry.trapClass entry.assigned index

theorem arrivalEntries_of_isOfResult (frame : Frame) (h : counter.isOfArrival = false) :
    kernel.arrivalEntries frame counter = 0 := by
  have hclass : Counter.entry (kernel.classCounter frame) counter = 0 := by
    apply if_neg
    rintro rfl
    rw [classCounter_isOfArrival] at h
    cases h
  have hvector : Counter.vectorEntry frame.vector counter = 0 := by
    cases counter with
    | vector index => cases h
    | _ => rfl
  rw [arrivalEntries, hclass, hvector]
  rfl

theorem entriesOf_outcome (hcounter : counter.isOfArrival = false) (hresolved : counter ≠ .resolved)
    (hoverruns : counter ≠ .overruns) (x : Activity) :
    kernel.entriesOf x counter = if x.event.outcome?.any counter.counts then 1 else 0 := by
  obtain ⟨event, before, inner, after⟩ := x
  unfold entriesOf
  dsimp only
  split
  next frame result =>
    rw [arrivalEntries_of_isOfResult kernel frame hcounter, UInt64.zero_add]
    cases result with
    | ok outcome => exact outcome.entries_eq counter
    | error stop => rfl
  · exact if_neg hresolved
  next irq result =>
    unfold Config.overrunEntries
    split
    · exact if_neg hoverruns
    · rfl
  next hother _ _ =>
    cases event with
    | trap cpu frame result => exact absurd rfl (hother cpu frame result)
    | _ => rfl

theorem entriesOf_resolved (x : Activity) :
    kernel.entriesOf x .resolved = if x.event.isResolved then 1 else 0 := by
  obtain ⟨event, before, inner, after⟩ := x
  unfold entriesOf
  dsimp only
  split
  next frame result =>
    rw [arrivalEntries_of_isOfResult kernel frame rfl, UInt64.zero_add]
    cases result with
    | ok outcome => exact outcome.entries_eq .resolved
    | error stop => rfl
  · rfl
  · unfold Config.overrunEntries
    split <;> rfl
  next _ hresolved _ =>
    rw [if_neg]
    unfold Event.isResolved
    split
    · exact absurd rfl (hresolved _ _)
    · exact Bool.false_ne_true

theorem entriesOf_overruns (x : Activity) :
    kernel.entriesOf x .overruns = if kernel.isOverrun x then 1 else 0 := by
  obtain ⟨event, before, inner, after⟩ := x
  unfold entriesOf isOverrun
  dsimp only
  split
  next frame result =>
    rw [arrivalEntries_of_isOfResult kernel frame rfl, UInt64.zero_add]
    cases result with
    | ok outcome => exact outcome.entries_eq .overruns
    | error stop => rfl
  · rfl
  · rfl
  next hscope =>
    cases event with
    | scope irq result => exact absurd rfl (hscope irq result)
    | _ => rfl

theorem entriesOf_vector {vector : UInt64} (hvector : vector.toNat < 256) (x : Activity) :
    kernel.entriesOf x (.vector ⟨vector.toNat, hvector⟩) =
      if x.event.frame?.any (·.vector = vector) then 1 else 0 := by
  cases hframe : x.event.frame? with
  | none => exact kernel.entriesOf_of_isOfArrival hframe rfl
  | some frame =>
    obtain ⟨cpu, result, hx⟩ := Event.exists_of_frame? hframe
    have hclass :
        Counter.entry (kernel.classCounter frame) (.vector ⟨vector.toNat, hvector⟩) = 0 := by
      apply if_neg
      exact (kernel.classCounter_ne_vector frame ⟨vector.toNat, hvector⟩).symm
    unfold entriesOf arrivalEntries
    rw [hx]
    dsimp only
    rw [resultEntries_of_isOfArrival result rfl, hclass, UInt64.zero_add, UInt64.add_zero]
    simp [Counter.vectorEntry, UInt64.toNat_inj]

end

variable {kernel} {new : List Activity} {a b : Machine σ}

/-- A counter that is not of arrivals has gone up by what it counts, if all traps have
returned. -/
theorem Balanced.result_eq (h : kernel.Balanced new a b) (hreturned : AllReturned new)
    (counter : Counter) {kind : Activity → Bool} (hcounter : counter.isOfArrival = false)
    (hkind : ∀ x, kernel.entriesOf x counter = if kind x then 1 else 0) :
    b.stats.read counter = a.stats.read counter + ended kind (history new) := by
  rw [h.results hreturned counter hcounter, UInt64.zero_add]
  exact congrArg _ (kernel.total_eq_ofNat fun x _ => hkind x)

theorem Balanced.vector_eq (h : kernel.Balanced new a b) {vector : UInt64}
    (hvector : vector.toNat < 256) :
    b.stats.vectorCount vector = a.stats.vectorCount vector + takenOn vector (history new) := by
  rw [Stats.vectorCount_eq _ hvector, Stats.vectorCount_eq _ hvector, h.arrivals _ rfl]
  exact congrArg _ (kernel.total_eq_ofNat fun x _ => kernel.entriesOf_vector hvector x)

theorem Balanced.decoded_eq (h : kernel.Balanced new a b) (hreturned : AllReturned new)
    {kind : Cause → Bool} {kindOf : Outcome → Bool}
    (hkind : ∀ cause outcome, cause.admits outcome = true → kind cause = kindOf outcome) :
    kernel.decoded kind (history new) = outcomes kindOf (history new) := by
  refine ended_congr fun x hx => ?_
  have hfits := h.fits x hx
  have hended := hreturned x hx
  obtain ⟨event, before, inner, after⟩ := x
  cases event with
  | trap cpu frame result =>
    cases result with
    | ok outcome => exact hkind _ _ (hfits frame outcome rfl rfl)
    | error stop => cases hended
  | _ => rfl

theorem decoded_add {first second kind : Cause → Bool} (moments : List Moment)
    (hkind : ∀ cause, kind cause = (first cause || second cause))
    (hdisjoint : ∀ cause, (first cause && second cause) = false) :
    kernel.decoded kind moments = kernel.decoded first moments + kernel.decoded second moments := by
  refine ended_add (fun x _ => ?_) fun x _ => ?_
  · cases x.event.frame? with
    | none => rfl
    | some frame => exact hkind _
  · cases x.event.frame? with
    | none => rfl
    | some frame => exact hdisjoint _

theorem Balanced.interrupts_eq (h : kernel.Balanced new a b) (htable : kernel.OfTable (history new))
    (hreturned : AllReturned new) : b.stats.interrupts =
      a.stats.interrupts + outcomes Outcome.isOfInterrupt (history new) := by
  rw [← h.decoded_eq hreturned fun _ _ => Cause.isInterrupt_of_admits]
  refine h.class_eq htable .interrupts rfl (fun _ => rfl) fun cause => ?_
  generalize kernel.vectors.arch = arch
  cases arch <;> cases cause <;> rfl

theorem Balanced.others_eq (h : kernel.Balanced new a b) (htable : kernel.OfTable (history new))
    (hreturned : AllReturned new) :
    b.stats.exceptions + b.stats.syscalls + b.stats.unassigned =
      a.stats.exceptions + a.stats.syscalls + a.stats.unassigned +
        outcomes Outcome.isOfProgram (history new) := by
  let isIn (counter : Counter) (cause : Cause) : Bool :=
    counter = kernel.vectors.arch.counterOf cause
  have hclass : ∀ counter : Counter, counter.isOfArrival = true →
      (∀ number, Counter.vectorEntry number counter = 0) → b.stats.read counter =
        a.stats.read counter + kernel.decoded (isIn counter) (history new) :=
    fun counter harrival hvector => h.class_eq htable counter harrival hvector fun _ => rfl
  have hdisjoint : ∀ {first second : Counter}, first ≠ second → ∀ cause,
      (isIn first cause && isIn second cause) = false := by
    intro first second hne cause
    simp only [isIn, Bool.and_eq_false_imp, decide_eq_true_eq, decide_eq_false_iff_not]
    rintro rfl
    exact hne.symm
  have hthree : ∀ cause, (!cause.isInterrupt) =
      (isIn .exceptions cause || (isIn .syscalls cause || isIn .unassigned cause)) := by
    simp only [isIn]
    generalize kernel.vectors.arch = arch
    intro cause
    cases arch <;> cases cause <;> rfl
  have hprogram : kernel.decoded (fun cause => !cause.isInterrupt) (history new) =
      outcomes Outcome.isOfProgram (history new) := by
    refine h.decoded_eq hreturned fun cause outcome hadmits => ?_
    rw [Cause.isInterrupt_of_admits hadmits, outcome.isOfProgram_eq]
  have hsum : outcomes Outcome.isOfProgram (history new) =
      kernel.decoded (isIn .exceptions) (history new) +
        (kernel.decoded (isIn .syscalls) (history new) +
          kernel.decoded (isIn .unassigned) (history new)) := by
    rw [← hprogram, decoded_add _ hthree, decoded_add _ fun _ => rfl]
    · exact hdisjoint (by decide)
    · intro cause
      rw [Bool.and_or_distrib_left, hdisjoint (by decide), hdisjoint (by decide)]
      rfl
  have hexceptions := hclass .exceptions rfl fun _ => rfl
  have hsyscalls := hclass .syscalls rfl fun _ => rfl
  have hunassigned := hclass .unassigned rfl fun _ => rfl
  change b.stats.read .exceptions + b.stats.read .syscalls + b.stats.read .unassigned = _
  rw [hexceptions, hsyscalls, hunassigned, hsum]
  change _ = a.stats.read .exceptions + a.stats.read .syscalls + a.stats.read .unassigned + _
  ac_rfl

end Kernel

theorem Stats.sum_errorCount {before after : Stats} {moments : List Moment}
    (h : ∀ code, after.errorCount code =
      before.errorCount code + outcomes (Counter.error code).counts moments)
    {codes : List ErrorCode} (hnodup : codes.Nodup) :
    (codes.map after.errorCount).foldr (· + ·) 0 =
      (codes.map before.errorCount).foldr (· + ·) 0 + outcomes
        (fun outcome => codes.any fun code => (Counter.error code).counts outcome) moments := by
  induction codes with
  | nil =>
    have hnone : outcomes (fun _ => false) moments = 0 := by
      simp [outcomes, ended]
    simp [hnone]
  | cons code codes ih =>
    obtain ⟨hcode, hcodes⟩ := List.nodup_cons.mp hnodup
    have hdisjoint : ∀ outcome, ((Counter.error code).counts outcome &&
        codes.any fun code => (Counter.error code).counts outcome) = false := by
      intro outcome
      rw [Bool.and_eq_false_imp, List.any_eq_false]
      intro hcounts other hother hcountsOther
      have hsame := Counter.counts_error hcounts hcountsOther
      exact hcode (hsame ▸ hother)
    rw [List.map_cons, List.foldr_cons, List.map_cons, List.foldr_cons, h, ih hcodes,
      outcomes_add moments (fun _ => List.any_cons) hdisjoint]
    ac_rfl

theorem Stats.errorTotal_add {before after : Stats} {moments : List Moment}
    (h : ∀ code, after.errorCount code =
      before.errorCount code + outcomes (Counter.error code).counts moments) :
    after.errorTotal = before.errorTotal + outcomes Outcome.isFailure moments := by
  have hfailure : Outcome.isFailure =
      fun outcome => ErrorCode.all.any fun code => (Counter.error code).counts outcome := by
    funext outcome
    cases outcome with
    | syscall result =>
      cases result with
      | ok value => rfl
      | error code => cases code <;> rfl
    | _ => rfl
  rw [Stats.errorTotal_eq, Stats.errorTotal_eq, hfailure]
  exact Stats.sum_errorCount h (by decide)

/-- The counters are the accounts of the traps of a run, in which all have returned. -/
theorem counters_account_for_traps {σ α : Type} (kernel : Kernel σ) (depth : Nat)
    (program : ServiceProgram σ α) {machine : Machine σ} (hjournal : machine.journal = []) :
    let last := (kernel.runService depth program machine).machine
    kernel.OfTable (history last.journal) → AllReturned last.journal →
      kernel.Accounts machine.stats last.stats (history last.journal) := by
  intro last htable hreturned
  have hbooks : kernel.Balanced last.journal machine last :=
    kernel.runService_books depth program hjournal
  have houtcome : ∀ counter : Counter, counter.isOfArrival = false →
      counter ≠ .resolved → counter ≠ .overruns → last.stats.read counter =
        machine.stats.read counter + outcomes counter.counts (history last.journal) :=
    fun counter hcounter hresolved hoverruns => hbooks.result_eq hreturned counter hcounter
      (kernel.entriesOf_outcome hcounter hresolved hoverruns)
  have herrors : ∀ code, last.stats.errorCount code = machine.stats.errorCount code +
      outcomes (Counter.error code).counts (history last.journal) :=
    fun code => houtcome (.error code) rfl (by simp) (by simp)
  exact {
    interrupts := hbooks.interrupts_eq htable hreturned
    spurious := houtcome .spurious rfl (by simp) (by simp)
    unhandled := houtcome .unhandled rfl (by simp) (by simp)
    others := hbooks.others_eq htable hreturned
    killed := houtcome .killed rfl (by simp) (by simp)
    errors := herrors
    errorTotal := Stats.errorTotal_add herrors
    resolved := hbooks.result_eq hreturned .resolved rfl kernel.entriesOf_resolved
    overruns := hbooks.result_eq hreturned .overruns rfl kernel.entriesOf_overruns
    vectors := fun vector hvector => hbooks.vector_eq hvector }

/-- An interrupt that is interrupted, a system call without a handler, and an interrupt without
a line. -/
def severalTraps : ServiceProgram Bool Unit := do
  trapOn 35
  trapOn 0x80
  trapOn 40

def severalTrapsRun : Kernel.Completion Bool Unit :=
  (Kernel.plain ⟨3⟩ nestingDevice).runService 3 severalTraps (Machine.attached ⟨3⟩ true).fresh

/-- All four traps are accounted for. -/
theorem several_traps_accounted :
    severalTrapsRun.machine.stats.interrupts = 3 ∧ severalTrapsRun.machine.stats.errorTotal = 1 ∧
      severalTrapsRun.machine.stats.vectorCount 35 = 2 := by
  unfold severalTrapsRun
  have htable : (Kernel.plain ⟨3⟩ nestingDevice).OfTable (history
      ((Kernel.plain ⟨3⟩ nestingDevice).runService 3 severalTraps
        (Machine.attached ⟨3⟩ true).fresh).machine.journal) := by
    unfold Kernel.OfTable
    decide +kernel
  have hreturned : AllReturned ((Kernel.plain ⟨3⟩ nestingDevice).runService 3 severalTraps
      (Machine.attached ⟨3⟩ true).fresh).machine.journal := by
    unfold AllReturned
    decide +kernel
  have haccounts := counters_account_for_traps (Kernel.plain ⟨3⟩ nestingDevice) 3 severalTraps
    (rfl : (Machine.attached ⟨3⟩ true).fresh.journal = []) htable hreturned
  refine ⟨?_, ?_, ?_⟩
  · rw [haccounts.interrupts]
    decide +kernel
  · rw [haccounts.errorTotal]
    decide +kernel
  · rw [haccounts.vectors 35 (by decide)]
    decide +kernel

end TrapDispatch
