import TrapDispatch.Proofs.Law

/-!
# Histories

The journal of a run, laid out moment by moment: an activity begins, then what is
done in the course of it begins and ends, then the activity itself ends. Histories
stand newest first, so the moments after one in the list are those before it in time.
-/

namespace TrapDispatch

def Event.cpu? : Event → Option (Fin maxCpus)
  | .trap cpu _ _ => some cpu
  | _ => none

/-- Whether what was done ended without a result. -/
def Event.fails : Event → Bool
  | .service _ (.error _) | .trap _ _ (.error _) | .scope _ (.error _) => true
  | .systemCall _ _ _ (.error _) | .handler _ _ (.error _) => true
  | _ => false

inductive Moment where
  | begins (activity : Activity)
  | ends (activity : Activity)

namespace Moment

def slots : Moment → CpuSlots
  | begins activity => activity.before
  | ends activity => activity.after

def beginning? : Moment → Option Activity
  | begins activity => some activity
  | ends _ => none

def ending? : Moment → Option Activity
  | begins _ => none
  | ends activity => some activity

end Moment

def Event.call? : Event → Option Call
  | .service c _ => some c
  | _ => none

def Event.frame? : Event → Option Frame
  | .trap _ frame _ => some frame
  | _ => none

def Event.outcome? : Event → Option Outcome
  | .trap _ _ (.ok outcome) => some outcome
  | _ => none

theorem Event.exists_of_call? {event : Event} {c : Call} (h : event.call? = some c) :
    ∃ result, event = .service c result := by
  cases event with
  | service c result =>
    cases h
    exact ⟨result, rfl⟩
  | _ => cases h

theorem Event.exists_of_frame? {event : Event} {frame : Frame} (h : event.frame? = some frame) :
    ∃ cpu result, event = .trap cpu frame result := by
  cases event with
  | trap cpu frame result =>
    cases h
    exact ⟨cpu, result, rfl⟩
  | _ => cases h

theorem Event.exists_of_outcome? {event : Event} {outcome : Outcome}
    (h : event.outcome? = some outcome) : ∃ cpu frame, event = .trap cpu frame (.ok outcome) := by
  cases event with
  | trap cpu frame result =>
    cases result with
    | ok value =>
      cases h
      exact ⟨cpu, frame, rfl⟩
    | error stop => cases h
  | _ => cases h

theorem cons_of_beginning? {moments : List Moment} {x : Activity}
    (h : moments.head?.bind Moment.beginning? = some x) : moments = .begins x :: moments.tail := by
  obtain ⟨moment, hhead, hbegins⟩ := Option.bind_eq_some_iff.mp h
  cases moments with
  | nil => cases hhead
  | cons first rest =>
    cases hhead
    cases moment with
    | begins y =>
      cases hbegins
      rfl
    | ends y => cases hbegins

theorem cons_of_ending? {moments : List Moment} {x : Activity}
    (h : moments.head?.bind Moment.ending? = some x) : moments = .ends x :: moments.tail := by
  obtain ⟨moment, hhead, hends⟩ := Option.bind_eq_some_iff.mp h
  cases moments with
  | nil => cases hhead
  | cons first rest =>
    cases hhead
    cases moment with
    | begins y => cases hends
    | ends y =>
      cases hends
      rfl

theorem exists_begins {moments : List Moment} {c : Call}
    (h : (moments.head?.bind Moment.beginning?).bind (·.event.call?) = some c) :
    ∃ x result, moments = .begins x :: moments.tail ∧ x.event = .service c result := by
  obtain ⟨x, hx, hcall⟩ := Option.bind_eq_some_iff.mp h
  obtain ⟨result, hevent⟩ := Event.exists_of_call? hcall
  exact ⟨x, result, cons_of_beginning? hx, hevent⟩

mutual

def Activity.history : Activity → List Moment
  | ⟨event, before, inner, after⟩ =>
    .ends ⟨event, before, inner, after⟩ ::
      (history inner ++ [.begins ⟨event, before, inner, after⟩])

def history : List Activity → List Moment
  | [] => []
  | activity :: older => activity.history ++ history older

end

theorem Activity.history_eq (x : Activity) :
    x.history = .ends x :: (TrapDispatch.history x.inner ++ [.begins x]) := by
  cases x
  rfl

theorem history_append (new old : List Activity) :
    history (new ++ old) = history new ++ history old := by
  induction new with
  | nil => rfl
  | cons x new ih =>
    change x.history ++ history (new ++ old) = (x.history ++ history new) ++ history old
    rw [ih, List.append_assoc]

/-- The history up to a moment; what begins there has not begun yet, and what ends
there is over. -/
def Moment.upTo (past : List Moment) : Moment → List Moment
  | .begins _ => past
  | .ends x => .ends x :: past

/-- The activities that have begun and not ended, innermost first. -/
def underWay : List Moment → List Activity
  | [] => []
  | .begins x :: past => x :: underWay past
  | .ends _ :: past => (underWay past).tail

@[simp] theorem underWay_begins (x : Activity) (past : List Moment) :
    underWay (.begins x :: past) = x :: underWay past := rfl

@[simp] theorem underWay_ends (x : Activity) (past : List Moment) :
    underWay (.ends x :: past) = (underWay past).tail := rfl

mutual

theorem Activity.underWay_history (x : Activity) (past : List Moment) :
    underWay (x.history ++ past) = underWay past := by
  cases x with
  | mk event before inner after =>
    rw [Activity.history_eq, List.cons_append, List.append_assoc, underWay_ends,
      TrapDispatch.underWay_history inner]
    rfl

/-- What has begun after a moment and ended before another is under way at neither. -/
theorem underWay_history (new : List Activity) (past : List Moment) :
    underWay (history new ++ past) = underWay past := by
  cases new with
  | nil => rfl
  | cons x older =>
    rw [history, List.append_assoc, Activity.underWay_history x, underWay_history older]

end

theorem underWay_over (x : Activity) (new : List Activity) (past : List Moment) :
    underWay (.ends x :: (history new ++ .begins x :: past)) = underWay past := by
  rw [underWay_ends, underWay_history, underWay_begins, List.tail_cons]

/-- Whether all that has begun after some moments is over. -/
def Since (past now : List Moment) : Prop :=
  ∃ new, now = history new ++ past

namespace Since

variable {past now later : List Moment}

theorem refl (past : List Moment) : Since past past :=
  ⟨[], rfl⟩

theorem trans (h : Since past now) (h' : Since now later) : Since past later := by
  obtain ⟨old, rfl⟩ := h
  obtain ⟨new, rfl⟩ := h'
  exact ⟨new ++ old, by rw [history_append, List.append_assoc]⟩

theorem underWay (h : Since past now) : underWay now = TrapDispatch.underWay past := by
  obtain ⟨new, rfl⟩ := h
  exact underWay_history new past

theorem closing (h : Since past now) (x : Activity) :
    Since past (.ends x :: (history x.inner ++ .begins x :: now)) := by
  apply h.trans
  refine ⟨[x], ?_⟩
  rw [history, history, List.append_nil, Activity.history_eq]
  simp

end Since

/-- Whether every moment of a history is good in view of the moments before it. -/
def Upheld (good : List Moment → Moment → Prop) (past : List Moment) : List Moment → Prop
  | [] => True
  | moment :: older => good (older ++ past) moment ∧ Upheld good past older

theorem upheld_append {good : List Moment → Moment → Prop} {past : List Moment}
    (new old : List Moment) :
    Upheld good past (new ++ old) ↔ Upheld good (old ++ past) new ∧ Upheld good past old := by
  induction new with
  | nil => simp [Upheld]
  | cons moment new ih => simp only [List.cons_append, Upheld, ih, List.append_assoc, and_assoc]

theorem upheld_cons {good : List Moment → Moment → Prop} {moment : Moment} {past : List Moment} :
    Upheld good [] (moment :: past) ↔ good past moment ∧ Upheld good [] past := by
  rw [Upheld, List.append_nil]

theorem Upheld.at {good : List Moment → Moment → Prop} {moments later past : List Moment}
    {moment : Moment} (h : Upheld good [] moments) (hsplit : moments = later ++ moment :: past) :
    good past moment := by
  rw [hsplit, upheld_append] at h
  have hgood := h.2.1
  rw [List.append_nil] at hgood
  exact hgood

theorem Upheld.of_mem {good : List Moment → Moment → Prop} {moments : List Moment}
    {moment : Moment} (h : Upheld good [] moments) (hmem : moment ∈ moments) :
    ∃ past, good past moment := by
  obtain ⟨later, past, hsplit⟩ := List.append_of_mem hmem
  exact ⟨past, h.at hsplit⟩

variable {σ : Type}

/-- Whether a machine follows another: what was done in between is good at every
moment if `pre` held before it, and then `post` relates what was before with what
is now. -/
def Follows (good : List Moment → Moment → Prop) (pre : List Moment → CpuSlots → Prop)
    (post : List Moment → CpuSlots → List Moment → CpuSlots → Prop) (a b : Machine σ) : Prop :=
  ∃ new, b.journal = new ++ a.journal ∧ ∀ past, pre past a.slots →
    Upheld good past (history new) ∧ post past a.slots (history new ++ past) b.slots

section

variable {good : List Moment → Moment → Prop} {pre middle : List Moment → CpuSlots → Prop}
  {post first second : List Moment → CpuSlots → List Moment → CpuSlots → Prop} {a b c : Machine σ}

theorem Follows.still (hjournal : b.journal = a.journal)
    (hpost : ∀ past, pre past a.slots → post past a.slots past b.slots) :
    Follows good pre post a b :=
  ⟨[], hjournal, fun past hpre => ⟨trivial, hpost past hpre⟩⟩

theorem Follows.trans (hfirst : Follows good pre first a b) (hsecond : Follows good middle second b c)
    (hmiddle : ∀ past now, pre past a.slots → first past a.slots now b.slots → middle now b.slots)
    (hpost : ∀ past now later, pre past a.slots → first past a.slots now b.slots →
      second now b.slots later c.slots → post past a.slots later c.slots) :
    Follows good pre post a c := by
  obtain ⟨old, hold, hfirst⟩ := hfirst
  obtain ⟨new, hnew, hsecond⟩ := hsecond
  refine ⟨new ++ old, by rw [hnew, hold, List.append_assoc], fun past hpre => ?_⟩
  obtain ⟨hgood, hreached⟩ := hfirst past hpre
  obtain ⟨hgood', hreached'⟩ := hsecond _ (hmiddle _ _ hpre hreached)
  rw [history_append, List.append_assoc]
  exact ⟨(upheld_append _ _).mpr ⟨hgood', hgood⟩, hpost _ _ _ hpre hreached hreached'⟩

theorem Follows.mono (h : Follows good pre first a b)
    (hpost : ∀ past now, pre past a.slots → first past a.slots now b.slots →
      post past a.slots now b.slots) : Follows good pre post a b := by
  obtain ⟨new, hnew, h⟩ := h
  exact ⟨new, hnew, fun past hpre => ⟨(h past hpre).1, hpost _ _ hpre (h past hpre).2⟩⟩

theorem Follows.weaken (h : Follows good pre post a b)
    (hpre : ∀ past, middle past a.slots → pre past a.slots) : Follows good middle post a b := by
  obtain ⟨new, hnew, h⟩ := h
  exact ⟨new, hnew, fun past hmiddle => h past (hpre past hmiddle)⟩

/-- An activity that closes over what was done since its beginning. -/
theorem Follows.closing {event : Event} (h : Follows good middle first { a with journal := [] } b)
    (hbegins : ∀ x : Activity, x.event = event → x.before = a.slots → ∀ past, pre past a.slots →
      good past (.begins x) ∧ middle (.begins x :: past) a.slots)
    (hends : ∀ x : Activity, x.event = event → x.before = a.slots → x.inner = b.journal →
      x.after = b.slots → ∀ past, pre past a.slots →
      first (.begins x :: past) a.slots (history x.inner ++ .begins x :: past) b.slots →
      good (history x.inner ++ .begins x :: past) (.ends x) ∧
        post past a.slots (.ends x :: (history x.inner ++ .begins x :: past)) b.slots) :
    Follows good pre post a (a.closing b event) := by
  obtain ⟨new, hnew, h⟩ := h
  rw [List.append_nil] at hnew
  let x : Activity := ⟨event, a.slots, b.journal, b.slots⟩
  refine ⟨[x], rfl, fun past hpre => ?_⟩
  obtain ⟨hbegin, hmiddle⟩ := hbegins x rfl rfl past hpre
  obtain ⟨hgood, hreached⟩ := h (.begins x :: past) hmiddle
  rw [← hnew] at hgood hreached
  obtain ⟨hend, hpost⟩ := hends x rfl rfl rfl rfl past hpre hreached
  have hhistory : history [x] = .ends x :: (history x.inner ++ [.begins x]) := by
    rw [history, history, List.append_nil, Activity.history_eq]
  rw [hhistory]
  simp only [List.cons_append, List.append_assoc, List.nil_append]
  refine ⟨⟨?_, (upheld_append _ _).mpr ⟨hgood, hbegin, trivial⟩⟩, hpost⟩
  rw [List.append_assoc]
  exact hend

theorem Follows.noting {event : Event}
    (hbegins : ∀ x : Activity, x.event = event → x.before = a.slots → ∀ past, pre past a.slots →
      good past (.begins x))
    (hends : ∀ x : Activity, x.event = event → x.before = a.slots → x.after = a.slots →
      ∀ past, pre past a.slots → good (.begins x :: past) (.ends x) ∧
        post past a.slots (.ends x :: .begins x :: past) a.slots) :
    Follows good pre post a (a.closing { a with journal := [] } event) := by
  let blank : Machine σ := { a with journal := [] }
  have hstill : Follows good (fun _ _ => True) (fun _ _ _ _ => True) blank blank :=
    Follows.still rfl fun _ _ => trivial
  refine Follows.closing hstill ?_ ?_
  · intro x hx hbefore past hpre
    exact ⟨hbegins x hx hbefore past hpre, trivial⟩
  · intro x hx hbefore hinner hafter past hpre _
    rw [hinner]
    exact hends x hx hbefore hafter past hpre

end

section

variable {α β : Type} {good : List Moment → Moment → Prop} {pre middle : List Moment → CpuSlots → Prop}
  {first cut second rest post stop : List Moment → CpuSlots → List Moment → CpuSlots → Prop}

theorem leads_bind {body : Dispatch σ α} {next : α → Dispatch σ β}
    (hbody : Law.Leads (Follows good pre first) (Follows good pre cut) body)
    (hnext : ∀ value, Law.Leads (Follows good middle second) (Follows good middle rest) (next value))
    (hmiddle : ∀ past before now after, pre past before → first past before now after →
      middle now after)
    (hpost : ∀ past before now after later last, pre past before → first past before now after →
      second now after later last → post past before later last)
    (hcut : ∀ past before now after, pre past before → cut past before now after →
      stop past before now after)
    (hstop : ∀ past before now after later last, pre past before → first past before now after →
      rest now after later last → stop past before later last) :
    Law.Leads (Follows good pre post) (Follows good pre stop) (body >>= next) := by
  refine hbody.bind hnext ?_ ?_ ?_
  · intro a b c hfirst hsecond
    exact hfirst.trans hsecond (fun past now => hmiddle past _ now _) fun past now later =>
      hpost past _ now _ later _
  · intro a b hcut'
    exact hcut'.mono fun past now => hcut past _ now _
  · intro a b c hfirst hrest
    exact hfirst.trans hrest (fun past now => hmiddle past _ now _) fun past now later =>
      hstop past _ now _ later _

theorem leads_mono {body : Dispatch σ α}
    (h : Law.Leads (Follows good pre first) (Follows good pre cut) body)
    (hpost : ∀ past before now after, pre past before → first past before now after →
      post past before now after)
    (hstop : ∀ past before now after, pre past before → cut past before now after →
      stop past before now after) :
    Law.Leads (Follows good pre post) (Follows good pre stop) body :=
  fun state => (h state).mono (fun _ h => h.mono fun past now => hpost past _ now _)
    fun _ h => h.mono fun past now => hstop past _ now _

theorem leads_pure (value : α) :
    Law.Leads
      (Follows good (fun _ _ => True) fun past before now after => now = past ∧ after = before)
      (Follows good (fun _ _ => True) fun _ _ _ _ => False) (pure value : Dispatch σ α) :=
  fun _ => Law.leadsAt_of_ok rfl (Follows.still rfl fun _ _ => ⟨rfl, rfl⟩)

theorem leads_setSlot (cpu : Fin maxCpus) (change : CpuSlot → CpuSlot) :
    Law.Leads
      (Follows good pre fun past before now after =>
        now = past ∧ after = before.put cpu (change (before.get cpu)))
      (Follows good pre fun _ _ _ _ => False) (Dispatch.setSlot (σ := σ) cpu change) :=
  Law.leads_modifyMachine fun _ => Follows.still rfl fun _ _ => ⟨rfl, rfl⟩

/-- An activity is in order if what is done in the course of it is. -/
theorem leads_during {event : Except Stop α → Event} {body : Dispatch σ α}
    (hbody : Law.Leads (Follows good middle first) (Follows good middle cut) body)
    (hbegins : ∀ x result past, x.event = event result → pre past x.before →
      good past (.begins x) ∧ middle (.begins x :: past) x.before)
    (hreturns : ∀ x value past, x.event = event (.ok value) → pre past x.before →
      first (.begins x :: past) x.before (history x.inner ++ .begins x :: past) x.after →
      good (history x.inner ++ .begins x :: past) (.ends x) ∧
        post past x.before (.ends x :: (history x.inner ++ .begins x :: past)) x.after)
    (hstops : ∀ x why past, x.event = event (.error why) → pre past x.before →
      cut (.begins x :: past) x.before (history x.inner ++ .begins x :: past) x.after →
      good (history x.inner ++ .begins x :: past) (.ends x) ∧
        stop past x.before (.ends x :: (history x.inner ++ .begins x :: past)) x.after) :
    Law.Leads (Follows good pre post) (Follows good pre stop) (Dispatch.during event body) := by
  refine hbody.during (fun a b value h => h.closing ?_ ?_) fun a b why h => h.closing ?_ ?_
  · rintro x hx hbefore past hpre
    rw [← hbefore] at hpre ⊢
    exact hbegins x _ past hx hpre
  · rintro x hx hbefore - hafter past hpre hnow
    rw [← hbefore, ← hafter] at *
    exact hreturns x value past hx hpre hnow
  · rintro x hx hbefore past hpre
    rw [← hbefore] at hpre ⊢
    exact hbegins x _ past hx hpre
  · rintro x hx hbefore - hafter past hpre hnow
    rw [← hbefore, ← hafter] at *
    exact hstops x why past hx hpre hnow

end

/-- What is watched in a run: that every moment is good in view of those before it,
that something holds as long as computations return, and something weaker where one
is cut short, and that those which return leave something the same. -/
structure Watch where
  good : List Moment → Moment → Prop
  holds : List Moment → CpuSlots → Prop
  wreck : List Moment → CpuSlots → Prop
  same : List Moment → CpuSlots → List Moment → CpuSlots → Prop
  wrecks {past : List Moment} {slots : CpuSlots} : holds past slots → wreck past slots
  refl (past : List Moment) (slots : CpuSlots) : same past slots past slots
  trans {past now later : List Moment} {a b c : CpuSlots} :
    same past a now b → same now b later c → same past a later c

namespace Watch

variable (watch : Watch)

/-- The machine after a computation that returned under watch. -/
def Returns (a b : Machine σ) : Prop :=
  Follows watch.good watch.holds
    (fun past before now after => watch.holds now after ∧ watch.same past before now after) a b

/-- The machine after a computation that was cut short under watch. -/
def Stops (a b : Machine σ) : Prop :=
  Follows watch.good watch.holds (fun _ _ now after => watch.wreck now after) a b

/-- The law of computations under watch. -/
def law : Law σ where
  returns := watch.Returns
  stops := watch.Stops
  refl a := Follows.still rfl fun past h => ⟨h, watch.refl past a.slots⟩
  trans hfirst hsecond := Follows.trans hfirst hsecond (fun _ _ _ h => h.1)
    fun _ _ _ _ h h' => ⟨h'.1, watch.trans h.2 h'.2⟩
  weaken h := Follows.mono h fun _ _ _ h => watch.wrecks h.1
  trans_stops hfirst hsecond := Follows.trans hfirst hsecond (fun _ _ _ h => h.1)
    fun _ _ _ _ _ h' => h'

/-- The watch where a computation was cut short. -/
def aftermath : Watch where
  good := watch.good
  holds := watch.wreck
  wreck := watch.wreck
  same _ _ _ _ := True
  wrecks h := h
  refl _ _ := trivial
  trans _ _ := trivial

theorem unwinds_aftermath : (watch.law (σ := σ)).Unwinds watch.aftermath.law := by
  intro a b c (hfirst : watch.Stops a b) (hsecond : watch.aftermath.Stops b c)
  have h : watch.Stops a c := Follows.trans hfirst hsecond (fun _ _ _ h => h)
    fun _ _ _ _ _ h => h
  exact h

/-- Where nothing is lost in the aftermath, computations may run on. -/
theorem unwinds (hwreck : watch.wreck = watch.holds) :
    (watch.law (σ := σ)).Unwinds watch.law := by
  intro a b c (hfirst : watch.Stops a b) (hsecond : watch.Stops b c)
  have h : watch.Stops a c := Follows.trans hfirst hsecond
    (fun _ _ _ h => by rw [← hwreck]; exact h) fun _ _ _ _ _ h => h
  exact h

theorem quiet : (watch.law (σ := σ)).Quiet := by
  intro a b hslots hjournal
  have h : watch.Returns a b := Follows.still hjournal fun past h => by
    rw [hslots]
    exact ⟨h, watch.refl past a.slots⟩
  exact h

theorem obeys_iff {α : Type} {body : Dispatch σ α} : watch.law.Obeys body ↔
    Law.Leads
      (Follows watch.good watch.holds fun past before now after =>
        watch.holds now after ∧ watch.same past before now after)
      (Follows watch.good watch.holds fun _ _ now after => watch.wreck now after) body :=
  Iff.rfl

end Watch
end TrapDispatch
