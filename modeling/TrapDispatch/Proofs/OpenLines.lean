import TrapDispatch.Proofs.LineOutcomes

/-!
# Open lines

The guards of lines at a point of a run: one for every scope under way, which has released
its line once the call that unmasks it begins. A line is masked if the latest call that
masks or unmasks it masks it. What is said here is read off a history alone.
-/

namespace TrapDispatch

/-- The guard of a line, and whether it has begun to give its line back. -/
structure Guard where
  irq : Irq
  released : Bool
  deriving DecidableEq

namespace Guard

def release : List Guard → List Guard
  | [] => []
  | guard :: outer => { guard with released := true } :: outer

/-- The lines of the guards that have not released them. -/
def lines (guards : List Guard) : List Irq :=
  (guards.filter fun guard => !guard.released).map Guard.irq

end Guard

namespace Event

/-- The line that is masked or unmasked by a call, if one is, and whether it is masked. -/
def switches? : Event → Option (Irq × Bool)
  | .service (.mask irq) _ => some (irq, true)
  | .service (.unmask irq) _ => some (irq, false)
  | _ => none

/-- The line whose device handler is called, if one is. -/
def runs? : Event → Option Irq
  | .service (.device _ irq) _ => some irq
  | _ => none

def named? : Event → Option Irq
  | .service (.pending _) (.ok named) => named
  | _ => none

def opening (event : Event) (guards : List Guard) : List Guard :=
  match event with
  | .scope irq _ => ⟨irq, false⟩ :: guards
  | .service (.unmask _) _ => Guard.release guards
  | _ => guards

def closing (event : Event) (guards : List Guard) : List Guard :=
  match event with
  | .scope _ _ => guards.tail
  | _ => guards

end Event

def guards : List Moment → List Guard
  | [] => []
  | .begins x :: past => x.event.opening (guards past)
  | .ends x :: past => x.event.closing (guards past)

def openLines (past : List Moment) : List Irq :=
  Guard.lines (guards past)

def runningLines (past : List Moment) : List Irq :=
  (underWay past).filterMap (·.event.runs?)

/-- Whether the latest call that masks or unmasks a line has masked it. -/
def isMasked (irq : Irq) : List Moment → Bool
  | [] => false
  | .begins x :: past =>
    match x.event.switches? with
    | some (line, masked) => if line = irq then masked else isMasked irq past
    | none => isMasked irq past
  | .ends _ :: past => isMasked irq past

/-- Whether all traps so far were taken on one CPU, and the controller has never named a line
that was masked then. -/
def sparesMasked (cpu : Fin maxCpus) : List Moment → Bool
  | [] => true
  | .begins x :: past => x.event.cpu?.all (· = cpu) && sparesMasked cpu past
  | .ends x :: past => x.event.named?.all (fun irq => !isMasked irq past) && sparesMasked cpu past

/-- Whether a look-up has found nobody to claim a line. -/
def Forsaken {σ : Type} (kernel : Kernel σ) (irq : Irq) (past : List Moment) : Prop :=
  ∃ x entry, .ends x ∈ past ∧ x.event = .lookup irq entry ∧ kernel.claims irq entry = false

/-- What the guards of lines ensure at a point of a run: open lines are distinct and masked,
handlers run only for them, and with the policy for it, forsaken lines are masked. -/
structure Guarded {σ : Type} (kernel : Kernel σ) (past : List Moment) : Prop where
  distinct : (openLines past).Nodup
  masked : ∀ irq ∈ openLines past, isMasked irq past = true
  running : (runningLines past).Sublist (openLines past)
  forsaken : kernel.config.policy = .maskLine → ∀ irq, Forsaken kernel irq past →
    isMasked irq past = true

variable {σ : Type} {kernel : Kernel σ} {cpu : Fin maxCpus} {irq : Irq} {x : Activity}
  {past now : List Moment} {moment : Moment}

theorem sparesMasked_tail (h : sparesMasked cpu (moment :: past) = true) :
    sparesMasked cpu past = true := by
  cases moment <;> exact (Bool.and_eq_true_iff.mp h).2

/-- A controller that has spared masked lines had done so before. -/
theorem sparesMasked_of_append (new : List Moment)
    (h : sparesMasked cpu (new ++ past) = true) : sparesMasked cpu past = true := by
  induction new with
  | nil => exact h
  | cons moment new ih => exact ih (sparesMasked_tail h)

theorem Since.sparesMasked {view : List Moment} (h : Since view past)
    (hpast : sparesMasked cpu past = true) : TrapDispatch.sparesMasked cpu view = true := by
  obtain ⟨new, rfl⟩ := h
  exact sparesMasked_of_append _ hpast

theorem guarded_nil (kernel : Kernel σ) : Guarded kernel [] where
  distinct := List.nodup_nil
  masked _ h := by cases h
  running := List.Sublist.refl _
  forsaken _ _ h := by
    obtain ⟨x, entry, hmem, -⟩ := h
    cases hmem

theorem Forsaken.mono (h : Forsaken kernel irq past) (hpast : past ⊆ now) :
    Forsaken kernel irq now := by
  obtain ⟨x, entry, hmem, hx⟩ := h
  exact ⟨x, entry, hpast hmem, hx⟩

theorem Forsaken.of_begins (h : Forsaken kernel irq (.begins x :: past)) :
    Forsaken kernel irq past := by
  obtain ⟨y, entry, hmem, hy⟩ := h
  rcases List.mem_cons.mp hmem with h | hmem
  · cases h
  · exact ⟨y, entry, hmem, hy⟩

theorem Forsaken.of_ends (h : Forsaken kernel irq (.ends x :: past)) :
    Forsaken kernel irq past ∨ ∃ entry, x.event = .lookup irq entry ∧
      kernel.claims irq entry = false := by
  obtain ⟨y, entry, hmem, hy⟩ := h
  rcases List.mem_cons.mp hmem with h | hmem
  · cases h
    exact Or.inr ⟨entry, hy⟩
  · exact Or.inl ⟨y, entry, hmem, hy⟩

/-- What was masked at an earlier point of a run is still masked and has not been looked up. -/
structure Kept (kernel : Kernel σ) (view past : List Moment) : Prop where
  masked : ∀ irq, isMasked irq view = true → isMasked irq past = true
  forsaken : ∀ irq, isMasked irq view = true → Forsaken kernel irq past →
    Forsaken kernel irq view

structure Steady (kernel : Kernel σ) (view past : List Moment) : Prop
    extends Kept kernel view past where
  guards : guards past = guards view

theorem Kept.trans {view : List Moment} (h : Kept kernel view past) (h' : Kept kernel past now) :
    Kept kernel view now :=
  ⟨fun irq hirq => h'.masked irq (h.masked irq hirq),
    fun irq hirq hnow => h.forsaken irq hirq (h'.forsaken irq (h.masked irq hirq) hnow)⟩

namespace Steady

theorem refl (kernel : Kernel σ) (past : List Moment) : Steady kernel past past :=
  ⟨⟨fun _ h => h, fun _ _ h => h⟩, rfl⟩

theorem trans {view : List Moment} (h : Steady kernel view past) (h' : Steady kernel past now) :
    Steady kernel view now :=
  ⟨h.toKept.trans h'.toKept, h'.guards.trans h.guards⟩

theorem openLines {view : List Moment} (h : Steady kernel view past) :
    TrapDispatch.openLines past = TrapDispatch.openLines view := by
  unfold TrapDispatch.openLines
  rw [h.guards]

end Steady

/-- Whether an event neither opens nor releases a guard, nor looks up a line. -/
def Event.isNeutral : Event → Bool
  | .scope _ _ | .lookup _ _ | .service (.unmask _) _ => false
  | _ => true

namespace Event

variable {event : Event}

theorem opening_of_isNeutral (h : event.isNeutral = true) (guards : List Guard) :
    event.opening guards = guards := by
  cases event with
  | service c result => cases c <;> first | rfl | cases h
  | scope irq claimed => cases h
  | _ => rfl

theorem closing_of_isNeutral (h : event.isNeutral = true) (guards : List Guard) :
    event.closing guards = guards := by
  cases event with
  | scope irq claimed => cases h
  | _ => rfl

theorem ne_lookup_of_isNeutral (h : event.isNeutral = true) (irq : Irq)
    (entry : Option HandlerEntry) : event ≠ .lookup irq entry := by
  rintro rfl
  cases h

theorem switches?_of_isNeutral (h : event.isNeutral = true) {masked : Bool}
    (hswitches : event.switches? = some (irq, masked)) : masked = true := by
  cases event with
  | service c result =>
    cases c with
    | mask line =>
      cases hswitches
      rfl
    | unmask line => cases h
    | _ => cases hswitches
  | _ => cases hswitches

end Event

theorem openLines_begins (h : x.event.opening (guards past) = guards past) :
    openLines (.begins x :: past) = openLines past := by
  unfold openLines
  rw [guards, h]

theorem openLines_ends (h : x.event.closing (guards past) = guards past) :
    openLines (.ends x :: past) = openLines past := by
  unfold openLines
  rw [guards, h]

theorem runningLines_begins (h : x.event.runs? = none) :
    runningLines (.begins x :: past) = runningLines past := by
  unfold runningLines
  exact List.filterMap_cons_none h

/-- At the end of an activity, the handlers are running that were so at its beginning. -/
theorem runningLines_over :
    runningLines (.ends x :: (history x.inner ++ .begins x :: past)) = runningLines past := by
  unfold runningLines
  rw [underWay_over]

theorem Since.runningLines {view : List Moment} (h : Since view past) :
    TrapDispatch.runningLines past = TrapDispatch.runningLines view := by
  unfold TrapDispatch.runningLines
  rw [h.underWay]

theorem isMasked_begins (h : x.event.isNeutral = true) (hpast : isMasked irq past = true) :
    isMasked irq (.begins x :: past) = true := by
  unfold isMasked
  split
  next line masked hswitches =>
    rw [Event.switches?_of_isNeutral h hswitches]
    split
    · rfl
    · exact hpast
  next => exact hpast

theorem isMasked_of_mask {result : Except Stop Unit} (hx : x.event = .service (.mask irq) result) :
    isMasked irq (.begins x :: past) = true := by
  unfold isMasked
  rw [hx]
  exact if_pos rfl

theorem isMasked_of_unmask {line : Irq} {result : Except Stop Unit}
    (hx : x.event = .service (.unmask line) result) (hline : line ≠ irq) :
    isMasked irq (.begins x :: past) = isMasked irq past := by
  rw [isMasked, hx]
  exact if_neg hline

theorem isMasked_of_switches? (h : x.event.switches? = none) :
    isMasked irq (.begins x :: past) = isMasked irq past := by
  rw [isMasked, h]

/-- A neutral activity that begins leaves guards and masks as they are. -/
theorem Steady.begins (kernel : Kernel σ) (past : List Moment) (h : x.event.isNeutral = true) :
    Steady kernel past (.begins x :: past) :=
  ⟨⟨fun _ => isMasked_begins h, fun _ _ hirq => hirq.of_begins⟩,
    Event.opening_of_isNeutral h _⟩

theorem Steady.ends (kernel : Kernel σ) (past : List Moment)
    (hclosing : ∀ guards, x.event.closing guards = guards)
    (hlookup : ∀ irq entry, x.event ≠ .lookup irq entry) :
    Steady kernel past (.ends x :: past) := by
  refine ⟨⟨fun _ hirq => hirq, fun irq _ hirq => ?_⟩, hclosing _⟩
  rcases hirq.of_ends with hirq | ⟨entry, hentry, -⟩
  · exact hirq
  · exact absurd hentry (hlookup irq entry)

/-- What holds of a line while its guard is the innermost, as seen from the point at which the
controller has named it. Unless the line is kept masked in the end, it is not forsaken. -/
structure Held (kernel : Kernel σ) (view : List Moment) (irq : Irq) (keep : Bool)
    (past : List Moment) : Prop extends Kept kernel view past where
  fresh : isMasked irq view = false
  mask : isMasked irq past = true
  opened : guards past = ⟨irq, false⟩ :: guards view
  running : (runningLines past).Sublist (openLines view)
  free : kernel.config.policy = .maskLine → keep = false → ¬ Forsaken kernel irq past

/-- What is left of it at the end of its scope. -/
structure Spent (kernel : Kernel σ) (view past : List Moment) : Prop
    extends Kept kernel view past where
  rest : (guards past).tail = guards view

section

variable {view : List Moment} {keep : Bool}

theorem Held.opens (hview : Guarded kernel view) (hkept : Kept kernel view past)
    (hguards : guards past = guards view) (hsince : Since view past)
    (hforsaken : Forsaken kernel irq past → Forsaken kernel irq view)
    (hfresh : isMasked irq view = false) (hmask : isMasked irq past = true)
    {claimed : Except Stop Bool} (hx : x.event = .scope irq claimed) :
    Held kernel view irq false (.begins x :: past) := by
  have hsame : ∀ line, isMasked line (.begins x :: past) = isMasked line past :=
    fun line => isMasked_of_switches? (by rw [hx]; rfl)
  refine ⟨⟨fun line hline => ?_, fun line hline hnow => ?_⟩, hfresh, ?_, ?_, ?_, ?_⟩
  · rw [hsame]
    exact hkept.masked line hline
  · exact hkept.forsaken line hline hnow.of_begins
  · rw [hsame]
    exact hmask
  · rw [guards, hx, ← hguards]
    rfl
  · rw [runningLines_begins (by rw [hx]; rfl), hsince.runningLines]
    exact hview.running
  · intro hpolicy _ hnow
    have hmasked := hview.forsaken hpolicy irq (hforsaken hnow.of_begins)
    rw [hfresh] at hmasked
    cases hmasked

theorem Held.openLines (h : Held kernel view irq keep past) :
    TrapDispatch.openLines past = irq :: TrapDispatch.openLines view := by
  unfold TrapDispatch.openLines
  rw [h.opened]
  rfl

theorem Held.later (h : Held kernel view irq keep past) (hsteady : Steady kernel past now)
    (hsince : Since past now) : Held kernel view irq keep now where
  toKept := h.toKept.trans hsteady.toKept
  fresh := h.fresh
  mask := hsteady.masked irq h.mask
  opened := hsteady.guards.trans h.opened
  running := by
    rw [hsince.runningLines]
    exact h.running
  free hpolicy hkeep hnow := h.free hpolicy hkeep (hsteady.forsaken irq h.mask hnow)

theorem Held.looked (h : Held kernel view irq false past) {entry : Option HandlerEntry}
    (hx : x.event = .lookup irq entry) :
    Held kernel view irq (!kernel.claims irq entry) (.ends x :: .begins x :: past) := by
  have hsame : ∀ line, isMasked line (.ends x :: .begins x :: past) = isMasked line past :=
    fun line => isMasked_of_switches? (by rw [hx]; rfl)
  refine ⟨⟨fun line hline => ?_, fun line hline hnow => ?_⟩, h.fresh, ?_, ?_, ?_, ?_⟩
  · rw [hsame]
    exact h.masked line hline
  · rcases hnow.of_ends with hnow | ⟨found, hfound, -⟩
    · exact h.forsaken line hline hnow.of_begins
    · rw [hx] at hfound
      cases hfound
      rw [h.fresh] at hline
      cases hline
  · rw [hsame]
    exact h.mask
  · rw [guards, guards, hx, ← h.opened]
    rfl
  · change (runningLines past).Sublist _
    exact h.running
  · intro hpolicy hkeep hnow
    rcases hnow.of_ends with hnow | ⟨found, hfound, hclaims⟩
    · exact h.free hpolicy rfl hnow.of_begins
    · rw [hx] at hfound
      cases hfound
      rw [hclaims] at hkeep
      cases hkeep

theorem Held.of_policy (h : Held kernel view irq keep past) (hpolicy : kernel.config.policy ≠ .maskLine)
    (other : Bool) : Held kernel view irq other past :=
  ⟨h.toKept, h.fresh, h.mask, h.opened, h.running, fun h => absurd h hpolicy⟩

theorem Held.spent (h : Held kernel view irq keep past) : Spent kernel view past where
  toKept := h.toKept
  rest := by rw [h.opened, List.tail_cons]

theorem Held.released (h : Held kernel view irq keep past) {result : Except Stop Unit}
    (hx : x.event = .service (.unmask irq) result) : Spent kernel view (.begins x :: past) := by
  refine ⟨⟨fun line hline => ?_, fun line hline hnow => ?_⟩, ?_⟩
  · have hne : irq ≠ line := by
      rintro rfl
      rw [h.fresh] at hline
      cases hline
    rw [isMasked_of_unmask hx hne]
    exact h.masked line hline
  · exact h.forsaken line hline hnow.of_begins
  · rw [guards, hx, h.opened]
    rfl

theorem Spent.later (h : Spent kernel view past) (hsteady : Steady kernel past now) :
    Spent kernel view now where
  toKept := h.toKept.trans hsteady.toKept
  rest := by rw [hsteady.guards, h.rest]

theorem Spent.closes (h : Spent kernel view past) {claimed : Except Stop Bool}
    (hx : x.event = .scope irq claimed) : Steady kernel view (.ends x :: past) := by
  refine ⟨⟨h.masked, fun line hline hnow => ?_⟩, ?_⟩
  · rcases hnow.of_ends with hnow | ⟨entry, hentry, -⟩
    · exact h.forsaken line hline hnow
    · rw [hx] at hentry
      cases hentry
  · rw [guards, hx]
    exact h.rest

end

namespace Guarded

theorem begins (h : Guarded kernel past) (hopening : ∀ guards, x.event.opening guards = guards)
    (hruns : x.event.runs? = none)
    (hmasked : ∀ irq, isMasked irq past = true → isMasked irq (.begins x :: past) = true) :
    Guarded kernel (.begins x :: past) := by
  have hopen := openLines_begins (hopening (guards past))
  refine ⟨?_, fun irq hirq => ?_, ?_, fun hpolicy irq hirq => ?_⟩
  · rw [hopen]
    exact h.distinct
  · rw [hopen] at hirq
    exact hmasked irq (h.masked irq hirq)
  · rw [hopen, runningLines_begins hruns]
    exact h.running
  · exact hmasked irq (h.forsaken hpolicy irq hirq.of_begins)

theorem ends (h : Guarded kernel (history x.inner ++ .begins x :: past))
    (hclosing : ∀ guards, x.event.closing guards = guards)
    (hlookup : ∀ irq entry, x.event ≠ .lookup irq entry)
    (hrunning : (runningLines past).Sublist (openLines (history x.inner ++ .begins x :: past))) :
    Guarded kernel (.ends x :: (history x.inner ++ .begins x :: past)) := by
  have hopen := openLines_ends (hclosing (guards (history x.inner ++ .begins x :: past)))
  refine ⟨?_, fun irq hirq => ?_, ?_, fun hpolicy irq hirq => ?_⟩
  · rw [hopen]
    exact h.distinct
  · rw [hopen] at hirq
    exact h.masked irq hirq
  · rw [hopen, runningLines_over]
    exact hrunning
  · rcases hirq.of_ends with hirq | ⟨entry, hentry, -⟩
    · exact h.forsaken hpolicy irq hirq
    · exact absurd hentry (hlookup irq entry)

theorem opens (h : Guarded kernel past) {claimed : Except Stop Bool}
    (hx : x.event = .scope irq claimed) (hmasked : isMasked irq past = true)
    (hopen : irq ∉ openLines past) : Guarded kernel (.begins x :: past) := by
  have hlines : openLines (.begins x :: past) = irq :: openLines past := by
    unfold openLines
    rw [guards, hx]
    rfl
  have hsame : ∀ line, isMasked line (.begins x :: past) = isMasked line past :=
    fun line => isMasked_of_switches? (by rw [hx]; rfl)
  refine ⟨?_, fun line hline => ?_, ?_, fun hpolicy line hline => ?_⟩
  · rw [hlines]
    exact List.nodup_cons.mpr ⟨hopen, h.distinct⟩
  · rw [hsame]
    rw [hlines] at hline
    rcases List.mem_cons.mp hline with rfl | hline
    · exact hmasked
    · exact h.masked line hline
  · rw [hlines, runningLines_begins (by rw [hx]; rfl)]
    exact h.running.cons irq
  · rw [hsame]
    exact h.forsaken hpolicy line hline.of_begins

/-- The innermost guard closes. -/
theorem closes (h : Guarded kernel past) {view : List Moment} (hview : Guarded kernel view)
    (hguards : guards past = guards view) {claimed : Except Stop Bool}
    (hx : x.event = .scope irq claimed)
    (hlast : Guarded kernel (history x.inner ++ .begins x :: past))
    (hspent : Spent kernel view (history x.inner ++ .begins x :: past)) :
    Guarded kernel (.ends x :: (history x.inner ++ .begins x :: past)) := by
  have hsteady := hspent.closes hx
  have hopen : openLines past = openLines view := by
    unfold openLines
    rw [hguards]
  refine ⟨?_, fun line hline => ?_, ?_, fun hpolicy line hline => ?_⟩
  · rw [hsteady.openLines]
    exact hview.distinct
  · rw [hsteady.openLines] at hline
    exact hsteady.masked line (hview.masked line hline)
  · rw [hsteady.openLines, runningLines_over, ← hopen]
    exact h.running
  · rcases hline.of_ends with hline | ⟨entry, hentry, -⟩
    · exact hlast.forsaken hpolicy line hline
    · rw [hx] at hentry
      cases hentry

section

variable {view : List Moment} {keep : Bool}

theorem runs (h : Guarded kernel past) (hheld : Held kernel view irq keep past)
    {handler : HandlerId} {result : Except Stop Unit}
    (hx : x.event = .service (.device handler irq) result) :
    Guarded kernel (.begins x :: past) := by
  have hsteady : Steady kernel past (.begins x :: past) := .begins kernel past (by rw [hx]; rfl)
  have hruns : runningLines (.begins x :: past) = irq :: runningLines past :=
    List.filterMap_cons_some (by rw [hx]; rfl)
  refine ⟨?_, fun line hline => ?_, ?_, fun hpolicy line hline => ?_⟩
  · rw [hsteady.openLines]
    exact h.distinct
  · rw [hsteady.openLines] at hline
    exact hsteady.masked line (h.masked line hline)
  · rw [hsteady.openLines, hruns, hheld.openLines]
    exact hheld.running.cons_cons irq
  · exact hsteady.masked line (h.forsaken hpolicy line hline.of_begins)

/-- The innermost guard gives its line back, for which no handler runs any more and which is
not forsaken. -/
theorem releases (h : Guarded kernel past) (hheld : Held kernel view irq false past)
    {result : Except Stop Unit} (hx : x.event = .service (.unmask irq) result) :
    Guarded kernel (.begins x :: past) := by
  have hlines : openLines (.begins x :: past) = openLines view := by
    unfold openLines
    rw [guards, hx, hheld.opened]
    rfl
  have hdistinct := h.distinct
  rw [hheld.openLines, List.nodup_cons] at hdistinct
  refine ⟨?_, fun line hline => ?_, ?_, fun hpolicy line hline => ?_⟩
  · rw [hlines]
    exact hdistinct.2
  · rw [hlines] at hline
    have hne : irq ≠ line := by
      rintro rfl
      exact hdistinct.1 hline
    rw [isMasked_of_unmask hx hne]
    refine h.masked line ?_
    rw [hheld.openLines]
    exact List.mem_cons_of_mem _ hline
  · rw [hlines, runningLines_begins (by rw [hx]; rfl)]
    exact hheld.running
  · have hne : irq ≠ line := by
      rintro rfl
      exact hheld.free hpolicy rfl hline.of_begins
    rw [isMasked_of_unmask hx hne]
    exact h.forsaken hpolicy line hline.of_begins

theorem looks (h : Guarded kernel past) (hheld : Held kernel view irq keep past)
    {entry : Option HandlerEntry} (hx : x.event = .lookup irq entry) :
    Guarded kernel (.begins x :: past) ∧ Guarded kernel (.ends x :: .begins x :: past) := by
  have hsame : ∀ line, isMasked line (.begins x :: past) = isMasked line past :=
    fun line => isMasked_of_switches? (by rw [hx]; rfl)
  have hbegins : Guarded kernel (.begins x :: past) := by
    refine h.begins (fun _ => by rw [hx]; rfl) (by rw [hx]; rfl) fun line hline => ?_
    rw [hsame]
    exact hline
  have hopen : openLines (.ends x :: .begins x :: past) = openLines (.begins x :: past) :=
    openLines_ends (by rw [hx]; rfl)
  refine ⟨hbegins, ?_, fun line hline => ?_, ?_, fun hpolicy line hline => ?_⟩
  · rw [hopen]
    exact hbegins.distinct
  · rw [hopen] at hline
    exact hbegins.masked line hline
  · rw [hopen]
    change (runningLines past).Sublist _
    rw [← runningLines_begins (by rw [hx]; rfl : x.event.runs? = none)]
    exact hbegins.running
  · rcases hline.of_ends with hline | ⟨found, hfound, -⟩
    · exact hbegins.forsaken hpolicy line hline
    · rw [hx] at hfound
      cases hfound
      exact (hsame irq).trans hheld.mask

end

end Guarded

end TrapDispatch
