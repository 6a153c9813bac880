import TrapDispatch.Proofs.Outcomes
import TrapDispatch.Proofs.Resumption

/-!
# Counters and their entries

The counters of a dispatcher as one family, and what the end of an activity enters in each
of them. A trap is entered by its vector, by the class of its slot and by its outcome; a page
fault by the reply of the memory manager; the run of a device handler by the readings of the
cycle counter around it. Sums of entries are taken modulo 2^64, as those of the counters are.
-/

namespace TrapDispatch

inductive Counter where
  | exceptions
  | interrupts
  | syscalls
  | unassigned
  | vector (index : Fin 256)
  | spurious
  | unhandled
  | overruns
  | resolved
  | killed
  | error (code : ErrorCode)
  deriving DecidableEq

namespace Counter

/-- Whether a counter is about how a trap arrives, whatever comes of it. -/
def isOfArrival : Counter → Bool
  | exceptions | interrupts | syscalls | unassigned | vector _ => true
  | _ => false

/-- What an entry in one counter adds to another. -/
def entry (counter other : Counter) : UInt64 :=
  if other = counter then 1 else 0

def vectorEntry (number : UInt64) : Counter → UInt64
  | vector index => if number.toNat = index.val then 1 else 0
  | _ => 0

def ofClass (trapClass : TrapClass) (assigned : Bool) : Counter :=
  if assigned = false then unassigned
  else match trapClass with
    | .exception => exceptions
    | .interrupt => interrupts
    | .software => syscalls

theorem ofClass_isOfArrival (trapClass : TrapClass) (assigned : Bool) :
    (ofClass trapClass assigned).isOfArrival = true := by
  cases trapClass <;> cases assigned <;> rfl

theorem ofClass_ne_vector (trapClass : TrapClass) (assigned : Bool) (index : Fin 256) :
    ofClass trapClass assigned ≠ vector index := by
  cases trapClass <;> cases assigned <;> rintro ⟨⟩

theorem entry_of_isOfArrival {counter other : Counter} (hother : other.isOfArrival = true)
    (hcounter : counter.isOfArrival = false) : counter.entry other = 0 := by
  apply if_neg
  rintro rfl
  rw [hother] at hcounter
  cases hcounter

end Counter

namespace Stats

def read (stats : Stats) : Counter → UInt64
  | .exceptions => stats.exceptions
  | .interrupts => stats.interrupts
  | .syscalls => stats.syscalls
  | .unassigned => stats.unassigned
  | .vector index => stats.perVector[index.val]
  | .spurious => stats.spurious
  | .unhandled => stats.unhandled
  | .overruns => stats.overruns
  | .resolved => stats.resolved
  | .killed => stats.killed
  | .error code => stats.errorCount code

theorem vectorCount_eq (stats : Stats) {vector : UInt64} (h : vector.toNat < 256) :
    stats.vectorCount vector = stats.read (.vector ⟨vector.toNat, h⟩) := by
  unfold vectorCount
  rw [Vector.getElem?_eq_getElem h]
  rfl

variable (stats : Stats) (counter : Counter)

theorem read_recordSpurious :
    stats.recordSpurious.read counter = stats.read counter + Counter.entry .spurious counter := by
  cases counter <;> simp [read, recordSpurious, errorCount, Counter.entry]

theorem read_recordUnhandled :
    stats.recordUnhandled.read counter = stats.read counter + Counter.entry .unhandled counter := by
  cases counter <;> simp [read, recordUnhandled, errorCount, Counter.entry]

theorem read_recordOverrun :
    stats.recordOverrun.read counter = stats.read counter + Counter.entry .overruns counter := by
  cases counter <;> simp [read, recordOverrun, errorCount, Counter.entry]

theorem read_recordResolved :
    stats.recordResolved.read counter = stats.read counter + Counter.entry .resolved counter := by
  cases counter <;> simp [read, recordResolved, errorCount, Counter.entry]

theorem read_recordKilled :
    stats.recordKilled.read counter = stats.read counter + Counter.entry .killed counter := by
  cases counter <;> simp [read, recordKilled, errorCount, Counter.entry]

theorem errorCount_recordError (code other : ErrorCode) :
    (stats.recordError code).errorCount other =
      stats.errorCount other + if other = code then 1 else 0 := by
  have hindex : code.index.val = other.index.val ↔ other = code := by
    cases code <;> cases other <;> decide
  change (bump stats.perError code.index.val)[other.index.val] = _
  rw [getElem_bump]
  by_cases h : other = code
  · rw [if_pos (hindex.mpr h), if_pos h]
    rfl
  · rw [if_neg (mt hindex.mp h), if_neg h, UInt64.add_zero]
    rfl

theorem read_recordError (code : ErrorCode) :
    (stats.recordError code).read counter =
      stats.read counter + Counter.entry (.error code) counter := by
  cases counter with
  | error other =>
    have hcount := stats.errorCount_recordError code other
    simpa [read, Counter.entry] using hcount
  | _ => simp [read, recordError, Counter.entry]

/-- A trap is counted by its vector and by its class. -/
theorem read_recordTrap (vector : UInt64) (trapClass : TrapClass) (assigned : Bool) :
    (stats.recordTrap vector trapClass assigned).read counter =
      stats.read counter + (Counter.entry (.ofClass trapClass assigned) counter +
        Counter.vectorEntry vector counter) := by
  have hvector : ∀ index : Fin 256, (bump stats.perVector vector.toNat)[index.val] =
      stats.perVector[index.val] + if vector.toNat = index.val then 1 else 0 := by
    intro index
    rw [getElem_bump]
    split
    · rfl
    · exact (UInt64.add_zero _).symm
  unfold recordTrap Counter.ofClass
  cases assigned with
  | false => cases counter <;> simp [read, errorCount, Counter.entry, Counter.vectorEntry, hvector]
  | true =>
    cases trapClass <;> cases counter <;>
      simp [read, errorCount, Counter.entry, Counter.vectorEntry, hvector]

theorem errorTotal_eq :
    stats.errorTotal = (ErrorCode.all.map stats.errorCount).foldr (· + ·) 0 := by
  have hlist : stats.perError.toList = ErrorCode.all.map stats.errorCount := by
    apply List.ext_getElem
    · rw [Vector.length_toList]
      rfl
    · intro index hleft hright
      rw [Vector.length_toList] at hleft
      rw [Vector.getElem_toList, List.getElem_map]
      obtain rfl | rfl | rfl | rfl | rfl | rfl :
        index = 0 ∨ index = 1 ∨ index = 2 ∨ index = 3 ∨ index = 4 ∨ index = 5 := by omega
      all_goals rfl
  unfold errorTotal
  rw [hlist]
  exact List.sum_eq_foldl.symm

end Stats

/-- What an outcome adds to the counters. -/
def Outcome.entries : Outcome → Counter → UInt64
  | .spurious => Counter.entry .spurious
  | .unhandled _ => Counter.entry .unhandled
  | .threadTerminated => Counter.entry .killed
  | .syscall (.error code) => Counter.entry (.error code)
  | .syscall (.ok _) | .resumed | .irqHandled _ => fun _ => 0

def Counter.counts : Counter → Outcome → Bool
  | spurious, .spurious => true
  | unhandled, .unhandled _ => true
  | killed, .threadTerminated => true
  | error code, .syscall (.error other) => other = code
  | _, _ => false

theorem Counter.counts_error {code other : ErrorCode} {outcome : Outcome}
    (hcode : (error code).counts outcome = true) (hother : (error other).counts outcome = true) :
    code = other := by
  cases outcome with
  | syscall result =>
    cases result with
    | ok value => cases hcode
    | error found => exact (of_decide_eq_true hcode).symm.trans (of_decide_eq_true hother)
  | _ => cases hcode

theorem Outcome.entries_eq (outcome : Outcome) (counter : Counter) :
    outcome.entries counter = if counter.counts outcome then 1 else 0 := by
  cases outcome with
  | syscall result =>
    cases result with
    | ok value => cases counter <;> rfl
    | error other =>
      cases counter with
      | error code => simp [entries, Counter.entry, Counter.counts, eq_comm]
      | _ => rfl
  | _ => cases counter <;> rfl

theorem Outcome.entries_of_isOfArrival (outcome : Outcome) {counter : Counter}
    (h : counter.isOfArrival = true) : outcome.entries counter = 0 := by
  rw [outcome.entries_eq, if_neg]
  cases counter <;> cases outcome <;> first | exact Bool.false_ne_true | cases h

/-- What the end of a trap adds to the counters: nothing if it was cut short. -/
def resultEntries : Except Stop Outcome → Counter → UInt64
  | .ok outcome => outcome.entries
  | .error _ => fun _ => 0

theorem resultEntries_of_isOfArrival (result : Except Stop Outcome) {counter : Counter}
    (h : counter.isOfArrival = true) : resultEntries result counter = 0 := by
  cases result with
  | ok outcome => exact outcome.entries_of_isOfArrival h
  | error stop => rfl

/-- The activities that have ended, latest first. -/
def endings (moments : List Moment) : List Activity :=
  moments.filterMap Moment.ending?

theorem endings_append (later earlier : List Moment) :
    endings (later ++ earlier) = endings later ++ endings earlier :=
  List.filterMap_append

theorem endings_history (x : Activity) (old : List Activity) :
    endings (history (x :: old)) = x :: (endings (history x.inner) ++ endings (history old)) := by
  change endings (x.history ++ history old) = _
  rw [endings_append, Activity.history_eq]
  change x :: endings (history x.inner ++ [.begins x]) ++ endings (history old) = _
  rw [endings_append]
  change x :: (endings (history x.inner) ++ []) ++ endings (history old) = _
  rw [List.append_nil, List.cons_append]

/-- How many activities of a kind have ended, modulo 2^64. -/
def ended (kind : Activity → Bool) (moments : List Moment) : UInt64 :=
  .ofNat ((endings moments).countP kind)

section

variable {first second kind : Activity → Bool} {moments : List Moment}

theorem ended_congr (h : ∀ x ∈ endings moments, first x = second x) :
    ended first moments = ended second moments := by
  unfold ended
  rw [List.countP_congr fun x hx => by rw [h x hx]]

theorem ended_add (hkind : ∀ x ∈ endings moments, kind x = (first x || second x))
    (hdisjoint : ∀ x ∈ endings moments, (first x && second x) = false) :
    ended kind moments = ended first moments + ended second moments := by
  unfold ended
  rw [← UInt64.ofNat_add, List.countP_eq_countP_filter_add (endings moments) kind first,
    List.countP_filter, List.countP_filter]
  congr 2 <;>
  · refine List.countP_congr fun x hx => ?_
    have hsum := hkind x hx
    have hboth := hdisjoint x hx
    cases hfirst : first x <;> simp_all

end

/-- Whether an event is a reading of the cycle counter or the run of a device handler. -/
def Event.isTiming : Event → Bool
  | .service .cycles _ => true
  | .service (.device _ _) _ => true
  | _ => false

def timings (journal : List Activity) : List Event :=
  (journal.map (·.event)).filter Event.isTiming

theorem timings_append (new old : List Activity) :
    timings (new ++ old) = timings new ++ timings old := by
  unfold timings
  rw [List.map_append, List.filter_append]

/-- The cycles between two readings of the counter around the run of a device handler,
modulo 2^64. -/
def elapsed? : List Event → Option UInt64
  | [.service .cycles (.ok stop), .service (.device _ _) (.ok _), .service .cycles (.ok start)] =>
    some (stop - start)
  | _ => none

namespace Config

def overruns (config : Config) (elapsed : UInt64) : Bool :=
  0 < config.budget && config.budget < elapsed

/-- What the run of a device handler adds to the counters. -/
def overrunEntries (config : Config) (elapsed : Option UInt64) (counter : Counter) : UInt64 :=
  if elapsed.any config.overruns then Counter.entry .overruns counter else 0

theorem overrunEntries_of_isOfArrival (config : Config) (elapsed : Option UInt64)
    {counter : Counter} (h : counter.isOfArrival = true) :
    config.overrunEntries elapsed counter = 0 := by
  unfold overrunEntries
  split
  · exact Counter.entry_of_isOfArrival h rfl
  · rfl

end Config

/-- Whether an event is of a kind that is entered in counters. -/
def Event.isEntered : Event → Bool
  | .trap _ _ _ | .scope _ _ | .service (.resolveFault _ _) _ => true
  | _ => false

namespace Kernel

variable {σ : Type} (kernel : Kernel σ)

def classCounter (frame : Frame) : Counter :=
  match kernel.vectors.lookup frame.vector with
  | some entry => .ofClass entry.trapClass entry.assigned
  | none => .unassigned

def arrivalEntries (frame : Frame) (counter : Counter) : UInt64 :=
  Counter.entry (kernel.classCounter frame) counter + Counter.vectorEntry frame.vector counter

/-- What an activity that has ended has added to the counters, apart from what was done in the
course of it. -/
def entriesOf (x : Activity) (counter : Counter) : UInt64 :=
  match x.event with
  | .trap _ frame result => kernel.arrivalEntries frame counter + resultEntries result counter
  | .service (.resolveFault _ _) (.ok true) => Counter.entry .resolved counter
  | .scope _ _ => kernel.config.overrunEntries (elapsed? (timings x.inner)) counter
  | _ => 0

theorem entriesOf_eq_zero {x : Activity} (h : x.event.isEntered = false) (counter : Counter) :
    kernel.entriesOf x counter = 0 := by
  unfold entriesOf
  split
  case h_4 => rfl
  all_goals
    next hx =>
      rw [hx] at h
      cases h

theorem entriesOf_scope {x : Activity} {irq : Irq} {result : Except Stop Bool}
    (h : x.event = .scope irq result) (counter : Counter) :
    kernel.entriesOf x counter =
      kernel.config.overrunEntries (elapsed? (timings x.inner)) counter := by
  unfold entriesOf
  rw [h]

theorem entriesOf_of_isOfArrival {x : Activity} (h : x.event.frame? = none) {counter : Counter}
    (hcounter : counter.isOfArrival = true) : kernel.entriesOf x counter = 0 := by
  unfold entriesOf
  split
  next hx =>
    rw [hx] at h
    cases h
  · exact Counter.entry_of_isOfArrival hcounter rfl
  · exact Config.overrunEntries_of_isOfArrival _ _ hcounter
  · rfl

def total (counter : Counter) : List Activity → UInt64
  | [] => 0
  | x :: rest => kernel.entriesOf x counter + total counter rest

/-- What all that has ended in a journal has added to the counters. -/
def entries (journal : List Activity) (counter : Counter) : UInt64 :=
  kernel.total counter (endings (history journal))

theorem total_append (counter : Counter) (first second : List Activity) :
    kernel.total counter (first ++ second) =
      kernel.total counter first + kernel.total counter second := by
  induction first with
  | nil => exact (UInt64.zero_add _).symm
  | cons x first ih => rw [List.cons_append, total, ih, total, UInt64.add_assoc]

theorem entries_append (new old : List Activity) (counter : Counter) :
    kernel.entries (new ++ old) counter =
      kernel.entries new counter + kernel.entries old counter := by
  unfold entries
  rw [history_append, endings_append, total_append]

theorem entries_single (x : Activity) (counter : Counter) :
    kernel.entries [x] counter = kernel.entriesOf x counter + kernel.entries x.inner counter := by
  unfold entries
  rw [endings_history, total, total_append]
  exact congrArg _ (UInt64.add_zero _)

/-- A sum of ones is a count. -/
theorem total_eq_ofNat {counter : Counter} {counts : Activity → Bool} {activities : List Activity}
    (h : ∀ x ∈ activities, kernel.entriesOf x counter = if counts x then 1 else 0) :
    kernel.total counter activities = .ofNat (activities.countP counts) := by
  induction activities with
  | nil => rfl
  | cons x rest ih =>
    rw [total, h x List.mem_cons_self, ih fun y hy => h y (List.mem_cons_of_mem x hy),
      List.countP_cons, UInt64.ofNat_add, UInt64.add_comm]
    split <;> rfl

end Kernel

/-- Whether a trap has ended without an outcome. -/
def Event.failsTrap : Event → Bool
  | .trap _ _ (.error _) => true
  | _ => false

def AllReturned (journal : List Activity) : Prop :=
  ∀ x ∈ endings (history journal), x.event.failsTrap = false

theorem allReturned_append {new old : List Activity} :
    AllReturned (new ++ old) ↔ AllReturned new ∧ AllReturned old := by
  unfold AllReturned
  rw [history_append, endings_append]
  exact List.forall_mem_append

theorem allReturned_single {x : Activity} :
    AllReturned [x] ↔ x.event.failsTrap = false ∧ AllReturned x.inner := by
  unfold AllReturned
  rw [endings_history, List.forall_mem_cons]
  simp [history, endings]

end TrapDispatch
