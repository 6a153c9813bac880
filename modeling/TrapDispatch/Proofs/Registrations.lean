import TrapDispatch.Interrupt.Registry

/-!
# Histories of a registry

A registry is judged by the calls made to it and by what came of them. Registrations
that were made and not released since are standing: they are what the lines hold, and
what handles are accepted for. All of this rests on generations being given out once,
which they are as long as fewer registrations are made than there are generations.
-/

namespace TrapDispatch

/-- Calls with what came of them, newest first. -/
abbrev RegistryHistory := List (RegistryCall × RegistryReply)

namespace Registry

/-- The history of calls to a registry that was empty at first, and what they made of it;
the newest call stands first. -/
def after : List RegistryCall → RegistryHistory × Registry
  | [] => ([], {})
  | call :: earlier =>
    let (history, registry) := after earlier
    let (reply, next) := registry.perform call
    ((call, reply) :: history, next)

theorem after_cons (call : RegistryCall) (earlier : List RegistryCall) :
    after (call :: earlier) =
      ((call, ((after earlier).2.perform call).1) :: (after earlier).1,
        ((after earlier).2.perform call).2) := rfl

end Registry

/-- What was registered in one call, and the handle that the call gave out. -/
structure Registration where
  irq : Irq
  driver : UInt32
  handler : HandlerId
  handle : RegistrationHandle
  deriving DecidableEq

def HandlerEntry.registration (entry : HandlerEntry) : Registration :=
  { irq := entry.irq
    driver := entry.driver
    handler := entry.handler
    handle := ⟨entry.irq, entry.generation⟩ }

namespace RegistryHistory

def made? : RegistryCall × RegistryReply → Option Registration
  | (.register irq driver handler, .issued handle) => some ⟨irq, driver, handler, handle⟩
  | _ => none

def released? : RegistryCall × RegistryReply → Option RegistrationHandle
  | (.unregister handle, .done) => some handle
  | _ => none

def registrations (history : RegistryHistory) : List Registration :=
  history.filterMap made?

/-- The registrations that were made and not released since. -/
def standing : RegistryHistory → List Registration
  | [] => []
  | item :: older =>
    (made? item).toList ++ (standing older).filter fun r => released? item ≠ some r.handle

theorem standing_subset (history : RegistryHistory) :
    history.standing ⊆ history.registrations := by
  induction history with
  | nil => exact List.Subset.refl _
  | cons item older ih =>
    intro r hr
    unfold registrations at ih ⊢
    rw [List.filterMap_cons]
    rcases List.mem_append.mp hr with hnew | hold
    · rw [Option.mem_toList] at hnew
      rw [hnew]
      exact List.mem_cons_self
    · have hrest := ih (List.mem_filter.mp hold).1
      split
      · exact hrest
      · exact List.mem_cons_of_mem _ hrest

end RegistryHistory

namespace Registry

variable {registry next : Registry} {irq : Irq} {handle : RegistrationHandle}

theorem lt_of_lookup {entry : HandlerEntry} (h : registry.lookup irq = some entry) :
    irq.number.toNat < maxIrqs := by
  unfold lookup at h
  cases hline : registry.entries[irq.number.toNat]? with
  | none =>
    rw [hline] at h
    cases h
  | some line => exact (Vector.getElem?_eq_some_iff.mp hline).1

theorem lookup_put (hline : irq.number.toNat < maxIrqs) (entry : Option HandlerEntry) (other : Irq) :
    (registry.put irq.number.toNat entry).lookup other =
      if other = irq then entry else registry.lookup other := by
  unfold lookup put
  rw [Vector.getElem?_setIfInBounds]
  by_cases h : other = irq
  · subst h
    rw [if_pos rfl, if_pos rfl, if_pos hline]
    rfl
  · have hnumber : irq.number.toNat ≠ other.number.toNat :=
      fun heq => h (Irq.eq_of_toNat heq.symm)
    rw [if_neg h, if_neg hnumber]

theorem register_eq_ok_iff (driver : UInt32) (handler : HandlerId) :
    registry.register irq driver handler = .ok (handle, next) ↔
      irq.number.toNat < maxIrqs ∧ registry.lookup irq = none ∧
        handle = ⟨irq, registry.nextGeneration⟩ ∧
        next = { registry.put irq.number.toNat
            (some ⟨irq, driver, handler, true, registry.nextGeneration⟩) with
          nextGeneration := generationAfter registry.nextGeneration } := by
  unfold register
  by_cases hline : maxIrqs ≤ irq.number.toNat
  · simp [hline, Nat.not_lt.mpr hline]
  · have hin := Nat.not_le.mp hline
    cases hentry : registry.lookup irq with
    | some entry => simp [hline]
    | none => simp [hline, hin, eq_comm]

theorem register_eq_error_iff (driver : UInt32) (handler : HandlerId) (why : RegistryError) :
    registry.register irq driver handler = .error why ↔
      maxIrqs ≤ irq.number.toNat ∧ why = .invalidIrq ∨
        (∃ entry, registry.lookup irq = some entry) ∧ why = .alreadyRegistered := by
  unfold register
  by_cases hline : maxIrqs ≤ irq.number.toNat
  · have hempty : ∀ entry, registry.lookup irq ≠ some entry := fun entry h =>
      Nat.not_lt.mpr hline (lt_of_lookup h)
    simp [hline, hempty, eq_comm]
  · cases hentry : registry.lookup irq with
    | some entry => simp [hline, eq_comm]
    | none => simp [hline]

theorem live_eq_ok_iff {entry : HandlerEntry} :
    registry.live handle = .ok entry ↔
      registry.lookup handle.irq = some entry ∧ entry.generation = handle.generation := by
  unfold live
  by_cases hline : maxIrqs ≤ handle.irq.number.toNat
  · have hempty : registry.lookup handle.irq ≠ some entry := fun h =>
      Nat.not_lt.mpr hline (lt_of_lookup h)
    simp [hline, hempty]
  · rw [if_neg hline]
    cases hentry : registry.lookup handle.irq with
    | none => simp
    | some found =>
      by_cases hfound : found.generation = handle.generation
      · simp only [hfound, if_true, Except.ok.injEq, Option.some.injEq]
        constructor
        · rintro rfl
          exact ⟨rfl, hfound⟩
        · exact And.left
      · simp only [hfound, if_false, reduceCtorEq, Option.some.injEq, false_iff, not_and]
        rintro rfl
        exact hfound

/-- On a line that exists, a handle that is not accepted names no registration. -/
theorem live_eq_notFound (hline : handle.irq.number.toNat < maxIrqs)
    (h : ∀ entry, registry.live handle ≠ .ok entry) : registry.live handle = .error .notFound := by
  unfold live at h ⊢
  rw [if_neg (Nat.not_le.mpr hline)] at h ⊢
  cases hentry : registry.lookup handle.irq with
  | none => rfl
  | some entry =>
    rw [hentry] at h
    by_cases hfound : entry.generation = handle.generation
    · exact absurd (if_pos hfound) (h entry)
    · exact if_neg hfound

theorem unregister_eq_ok_iff : registry.unregister handle = .ok next ↔
    ∃ entry, registry.live handle = .ok entry ∧
      next = registry.put handle.irq.number.toNat none := by
  unfold unregister
  cases hlive : registry.live handle with
  | ok entry => simp [bind, Except.bind, pure, Except.pure, eq_comm]
  | error why => simp [bind, Except.bind]

theorem unregister_of_error {why : RegistryError} (h : registry.live handle = .error why) :
    registry.unregister handle = .error why := by
  unfold unregister
  rw [h]
  rfl

theorem setEnabled_eq_ok_iff (enabled : Bool) : registry.setEnabled handle enabled = .ok next ↔
    ∃ entry, registry.live handle = .ok entry ∧
      next = registry.put handle.irq.number.toNat (some { entry with enabled }) := by
  unfold setEnabled
  cases hlive : registry.live handle with
  | ok entry => simp [bind, Except.bind, pure, Except.pure, eq_comm]
  | error why => simp [bind, Except.bind]

theorem setEnabled_of_error {why : RegistryError} (enabled : Bool)
    (h : registry.live handle = .error why) : registry.setEnabled handle enabled = .error why := by
  unfold setEnabled
  rw [h]
  rfl

/-- Setting a flag changes the flag, on the line of the handle and nowhere else. -/
theorem lookup_setEnabled {enabled : Bool} (h : registry.setEnabled handle enabled = .ok next)
    (irq : Irq) : next.lookup irq = if irq = handle.irq then
      (registry.lookup irq).map fun entry => { entry with enabled } else registry.lookup irq := by
  obtain ⟨entry, hlive, rfl⟩ := (setEnabled_eq_ok_iff enabled).mp h
  obtain ⟨hentry, -⟩ := live_eq_ok_iff.mp hlive
  rw [lookup_put (lt_of_lookup hentry)]
  split
  next hirq =>
    rw [hirq, hentry]
    rfl
  · rfl

theorem perform_of_refused {call : RegistryCall} {why : RegistryError}
    (h : (registry.perform call).1 = .refused why) : (registry.perform call).2 = registry := by
  cases call with
  | register irq driver handler =>
    unfold perform at h ⊢
    simp only at h ⊢
    cases hregister : registry.register irq driver handler with
    | ok issued =>
      rw [hregister] at h
      cases h
    | error why => rfl
  | unregister handle =>
    unfold perform at h ⊢
    simp only at h ⊢
    cases hunregister : registry.unregister handle with
    | ok next =>
      rw [hunregister] at h
      cases h
    | error why => rfl
  | setEnabled handle enabled =>
    unfold perform at h ⊢
    simp only at h ⊢
    cases hset : registry.setEnabled handle enabled with
    | ok next =>
      rw [hset] at h
      cases h
    | error why => rfl
  | lookup irq => rfl
  | isRegistered irq => rfl

end Registry

/-- What a registry owes to the history of the calls that were made to it. -/
structure RegistryHistory.Accounts (history : RegistryHistory) (registry : Registry) : Prop where
  shown : ∀ irq entry, registry.lookup irq = some entry →
    entry.irq = irq ∧ entry.registration ∈ history.standing
  held : ∀ r ∈ history.standing, ∃ entry, registry.lookup r.irq = some entry ∧ entry.registration = r
  bounded : ∀ r ∈ history.registrations,
    r.handle.irq.number.toNat < maxIrqs ∧ r.handle.generation.toNat ≤ history.registrations.length
  distinct : (history.registrations.map (·.handle.generation)).Nodup
  next : history.registrations.length + 1 < UInt32.size →
    registry.nextGeneration.toNat = history.registrations.length + 1

namespace RegistryHistory.Accounts

variable {history : RegistryHistory} {registry next : Registry} {handle : RegistrationHandle}
  {item : RegistryCall × RegistryReply}

theorem empty : Accounts [] {} := by
  refine ⟨fun irq entry h => ?_, by simp [standing], by simp [registrations], by simp [registrations],
    fun _ => rfl⟩
  have hline := Registry.lt_of_lookup h
  unfold Registry.lookup at h
  rw [Vector.getElem?_replicate, if_pos hline] at h
  cases h

theorem kept (h : Accounts history registry) (hmade : made? item = none)
    (hreleased : released? item = none) (hnext : next.nextGeneration = registry.nextGeneration)
    (hentries : ∀ irq, (next.lookup irq).map HandlerEntry.registration =
      (registry.lookup irq).map HandlerEntry.registration) : Accounts (item :: history) next := by
  have hregistrations : registrations (item :: history) = history.registrations := by
    unfold registrations
    rw [List.filterMap_cons, hmade]
  have hstanding : standing (item :: history) = history.standing := by
    simp [standing, hmade, hreleased]
  refine ⟨fun irq entry hentry => ?_, fun r hr => ?_, ?_, ?_, ?_⟩
  · have hsame := hentries irq
    rw [hentry, Option.map_some, eq_comm, Option.map_eq_some_iff] at hsame
    obtain ⟨old, hold, heq⟩ := hsame
    obtain ⟨hirq, hmem⟩ := h.shown irq old hold
    rw [hstanding, ← heq]
    exact ⟨(congrArg Registration.irq heq).symm.trans hirq, hmem⟩
  · rw [hstanding] at hr
    obtain ⟨old, hold, heq⟩ := h.held r hr
    have hsame := hentries r.irq
    rw [hold, Option.map_some, Option.map_eq_some_iff] at hsame
    obtain ⟨entry, hentry, hregistration⟩ := hsame
    exact ⟨entry, hentry, hregistration.trans heq⟩
  · rw [hregistrations]
    exact h.bounded
  · rw [hregistrations]
    exact h.distinct
  · rw [hregistrations, hnext]
    exact h.next

/-- Short of the last generation, the next one is one more. -/
theorem toNat_generationAfter {generation : UInt32} (h : generation.toNat + 1 < UInt32.size) :
    (Registry.generationAfter generation).toNat = generation.toNat + 1 := by
  have hsum : (generation + 1).toNat = generation.toNat + 1 := by
    rw [UInt32.toNat_add]
    exact Nat.mod_eq_of_lt h
  have hnonzero : generation + 1 ≠ 0 := by
    intro hzero
    rw [hzero] at hsum
    exact Nat.succ_ne_zero _ hsum.symm
  unfold Registry.generationAfter
  rw [if_neg hnonzero, hsum]

theorem register {irq : Irq} {driver : UInt32} {handler : HandlerId}
    (h : Accounts history registry) (hfew : history.registrations.length + 1 < UInt32.size)
    (hregister : registry.register irq driver handler = .ok (handle, next)) :
    Accounts ((.register irq driver handler, .issued handle) :: history) next := by
  obtain ⟨hline, hempty, rfl, rfl⟩ := (Registry.register_eq_ok_iff driver handler).mp hregister
  have hgeneration := h.next hfew
  let new : Registration := ⟨irq, driver, handler, ⟨irq, registry.nextGeneration⟩⟩
  let entry : HandlerEntry := ⟨irq, driver, handler, true, registry.nextGeneration⟩
  have hlookup : ∀ other, (registry.put irq.number.toNat (some entry)).lookup other =
      if other = irq then some entry else registry.lookup other := Registry.lookup_put hline _
  have hregistrations : registrations ((.register irq driver handler, .issued new.handle) :: history) =
      new :: history.registrations := rfl
  have hstanding : standing ((.register irq driver handler, .issued new.handle) :: history) =
      new :: history.standing := by
    simp [standing, made?, released?, new]
  refine ⟨fun other found hfound => ?_, fun r hr => ?_, fun r hr => ?_, ?_, fun hsize => ?_⟩
  · rw [hstanding]
    by_cases hother : other = irq
    · subst hother
      have hnew := (hlookup other).symm.trans hfound
      rw [if_pos rfl] at hnew
      rw [← Option.some.inj hnew]
      exact ⟨rfl, List.mem_cons_self⟩
    · have hold := (hlookup other).symm.trans hfound
      rw [if_neg hother] at hold
      obtain ⟨hirq, hmem⟩ := h.shown other found hold
      exact ⟨hirq, List.mem_cons_of_mem _ hmem⟩
  · rw [hstanding] at hr
    rcases List.mem_cons.mp hr with rfl | hold
    · exact ⟨entry, (hlookup irq).trans (if_pos rfl), rfl⟩
    · obtain ⟨found, hfound, heq⟩ := h.held r hold
      have hother : r.irq ≠ irq := by
        intro hsame
        rw [hsame, hempty] at hfound
        cases hfound
      exact ⟨found, ((hlookup r.irq).trans (if_neg hother)).trans hfound, heq⟩
  · rw [hregistrations] at hr ⊢
    rw [List.length_cons]
    rcases List.mem_cons.mp hr with rfl | hold
    · exact ⟨hline, Nat.le_of_eq hgeneration⟩
    · exact ⟨(h.bounded r hold).1, Nat.le_succ_of_le (h.bounded r hold).2⟩
  · rw [hregistrations, List.map_cons, List.nodup_cons]
    refine ⟨fun hmem => ?_, h.distinct⟩
    obtain ⟨r, hr, heq⟩ := List.mem_map.mp hmem
    have hbound := (h.bounded r hr).2
    rw [heq, hgeneration] at hbound
    exact Nat.not_succ_le_self _ hbound
  · rw [hregistrations, List.length_cons] at hsize ⊢
    rw [← hgeneration] at hsize ⊢
    exact toNat_generationAfter hsize

theorem unregister (h : Accounts history registry)
    (hunregister : registry.unregister handle = .ok next) :
    Accounts ((.unregister handle, .done) :: history) next := by
  obtain ⟨entry, hlive, rfl⟩ := Registry.unregister_eq_ok_iff.mp hunregister
  obtain ⟨hentry, hgeneration⟩ := Registry.live_eq_ok_iff.mp hlive
  have hlookup : ∀ other, (registry.put handle.irq.number.toNat none).lookup other =
      if other = handle.irq then none else registry.lookup other :=
    fun other => Registry.lookup_put (Registry.lt_of_lookup hentry) none other
  have hregistrations : registrations ((.unregister handle, .done) :: history) =
      history.registrations := rfl
  have hstanding : ∀ r, r ∈ standing ((.unregister handle, .done) :: history) ↔
      r ∈ history.standing ∧ handle ≠ r.handle := by
    intro r
    simp [standing, made?, released?]
  -- What the line of the handle held is what the handle names.
  have hnamed : ∀ r ∈ history.standing, r.irq = handle.irq → handle = r.handle := by
    intro r hr hirq
    obtain ⟨found, hfound, rfl⟩ := h.held r hr
    rw [hirq, hentry] at hfound
    cases hfound
    calc handle = ⟨handle.irq, handle.generation⟩ := rfl
      _ = ⟨entry.irq, entry.generation⟩ := by rw [← hirq, ← hgeneration]; rfl
  refine ⟨fun other found hfound => ?_, fun r hr => ?_, h.bounded, h.distinct, h.next⟩
  · rw [hlookup] at hfound
    split at hfound
    · cases hfound
    next hother =>
      obtain ⟨hirq, hmem⟩ := h.shown other found hfound
      refine ⟨hirq, (hstanding _).mpr ⟨hmem, fun hhandle => ?_⟩⟩
      have hline : handle.irq = found.irq := congrArg RegistrationHandle.irq hhandle
      exact hother (hirq.symm.trans hline.symm)
  · obtain ⟨hmem, hother⟩ := (hstanding r).mp hr
    obtain ⟨found, hfound, heq⟩ := h.held r hmem
    rw [hlookup, if_neg fun hirq => hother (hnamed r hmem hirq)]
    exact ⟨found, hfound, heq⟩

theorem setEnabled {enabled : Bool} (h : Accounts history registry)
    (hset : registry.setEnabled handle enabled = .ok next) :
    Accounts ((.setEnabled handle enabled, .done) :: history) next := by
  obtain ⟨entry, hlive, rfl⟩ := (Registry.setEnabled_eq_ok_iff enabled).mp hset
  obtain ⟨hentry, -⟩ := Registry.live_eq_ok_iff.mp hlive
  refine h.kept rfl rfl rfl fun irq => ?_
  rw [Registry.lookup_put (Registry.lt_of_lookup hentry)]
  split
  next hirq =>
    rw [hirq, hentry]
    rfl
  · rfl

/-- Every call keeps the account, as long as there are generations left. -/
theorem perform (h : Accounts history registry) (call : RegistryCall)
    (hfew : (registrations ((call, (registry.perform call).1) :: history)).length < UInt32.size) :
    Accounts ((call, (registry.perform call).1) :: history) (registry.perform call).2 := by
  have hsame : ∀ {item}, made? item = none → released? item = none →
      Accounts (item :: history) registry := fun hmade hreleased =>
    h.kept hmade hreleased rfl fun _ => rfl
  cases call with
  | register irq driver handler =>
    unfold Registry.perform at hfew ⊢
    simp only at hfew ⊢
    cases hregister : registry.register irq driver handler with
    | ok issued =>
      rw [hregister] at hfew
      exact h.register hfew hregister
    | error why => exact hsame rfl rfl
  | unregister handle =>
    unfold Registry.perform
    simp only
    cases hunregister : registry.unregister handle with
    | ok next => exact h.unregister hunregister
    | error why => exact hsame rfl rfl
  | setEnabled handle enabled =>
    unfold Registry.perform
    simp only
    cases hset : registry.setEnabled handle enabled with
    | ok next => exact h.setEnabled hset
    | error why => exact hsame rfl rfl
  | lookup irq => exact hsame rfl rfl
  | isRegistered irq => exact hsame rfl rfl

theorem after (calls : List RegistryCall)
    (hfew : (Registry.after calls).1.registrations.length < UInt32.size) :
    Accounts (Registry.after calls).1 (Registry.after calls).2 := by
  induction calls with
  | nil => exact empty
  | cons call earlier ih =>
    rw [Registry.after_cons] at hfew ⊢
    refine Accounts.perform (ih ?_) call hfew
    refine Nat.lt_of_le_of_lt ?_ hfew
    unfold registrations
    rw [List.filterMap_cons]
    split
    · exact Nat.le_refl _
    · exact Nat.le_succ _

/-- A handle is live exactly if it is that of a standing registration. -/
theorem live_iff (h : Accounts history registry) (handle : RegistrationHandle) :
    (∃ entry, registry.live handle = .ok entry) ↔ ∃ r ∈ history.standing, r.handle = handle := by
  constructor
  · rintro ⟨entry, hlive⟩
    obtain ⟨hentry, hgeneration⟩ := Registry.live_eq_ok_iff.mp hlive
    obtain ⟨hirq, hmem⟩ := h.shown handle.irq entry hentry
    refine ⟨entry.registration, hmem, ?_⟩
    calc entry.registration.handle = ⟨entry.irq, entry.generation⟩ := rfl
      _ = ⟨handle.irq, handle.generation⟩ := by rw [hirq, hgeneration]
  · rintro ⟨r, hr, rfl⟩
    obtain ⟨entry, hentry, rfl⟩ := h.held r hr
    exact ⟨entry, Registry.live_eq_ok_iff.mpr ⟨hentry, rfl⟩⟩

/-- There is one registration at most for every line. -/
theorem eq_of_irq (h : Accounts history registry) {first second : Registration}
    (hfirst : first ∈ history.standing) (hsecond : second ∈ history.standing)
    (hirq : first.irq = second.irq) : first = second := by
  obtain ⟨entry, hentry, rfl⟩ := h.held first hfirst
  obtain ⟨other, hother, rfl⟩ := h.held second hsecond
  rw [hirq, hother] at hentry
  cases hentry
  rfl

/-- A handle that was given out once, and whose registration is not standing any more, names
no registration. -/
theorem live_of_released (h : Accounts history registry) {r : Registration}
    (hr : r ∈ history.registrations) (hreleased : ∀ other ∈ history.standing, other.handle ≠ r.handle) :
    registry.live r.handle = .error .notFound := by
  refine Registry.live_eq_notFound (h.bounded r hr).1 fun entry hlive => ?_
  obtain ⟨other, hother, heq⟩ := (h.live_iff r.handle).mp ⟨entry, hlive⟩
  exact hreleased other hother heq

end RegistryHistory.Accounts

/-- Whatever calls are made to a registry, in any order, with fewer registrations than there
are generations: a line holds what was registered for it in one call and not released
since, no two registrations ever made share a generation, and a handle is accepted exactly
if it is that of a standing registration; every other handle that was given out is not
found. A registration is refused for its line alone, a refusal changes nothing, and
setting a flag changes that flag only. -/
theorem handles_name_standing_registrations (calls : List RegistryCall)
    (hfew : (Registry.after calls).1.registrations.length < UInt32.size) :
    let history := (Registry.after calls).1
    let registry := (Registry.after calls).2
    (∀ irq entry, registry.lookup irq = some entry →
      irq.number.toNat < maxIrqs ∧ entry.irq = irq ∧ entry.registration ∈ history.standing) ∧
    (∀ r ∈ history.standing, r ∈ history.registrations ∧
      (∃ entry, registry.lookup r.irq = some entry ∧ entry.registration = r) ∧
      ∀ other ∈ history.standing, other.irq = r.irq → other = r) ∧
    (history.registrations.map (·.handle.generation)).Nodup ∧
    (∀ handle enabled,
      ((∃ next, registry.unregister handle = .ok next) ↔
        ∃ r ∈ history.standing, r.handle = handle) ∧
      ((∃ next, registry.setEnabled handle enabled = .ok next) ↔
        ∃ r ∈ history.standing, r.handle = handle)) ∧
    (∀ r ∈ history.registrations, (∀ other ∈ history.standing, other.handle ≠ r.handle) →
      registry.unregister r.handle = .error .notFound ∧
        ∀ enabled, registry.setEnabled r.handle enabled = .error .notFound) ∧
    (∀ irq driver handler,
      (registry.register irq driver handler = .error .invalidIrq ↔ maxIrqs ≤ irq.number.toNat) ∧
      (registry.register irq driver handler = .error .alreadyRegistered ↔
        ∃ entry, registry.lookup irq = some entry) ∧
      ((∃ issued, registry.register irq driver handler = .ok issued) ↔
        irq.number.toNat < maxIrqs ∧ registry.lookup irq = none)) ∧
    (∀ call why, (registry.perform call).1 = .refused why → (registry.perform call).2 = registry) ∧
    ∀ handle enabled next, registry.setEnabled handle enabled = .ok next →
      next.nextGeneration = registry.nextGeneration ∧
        ∀ irq, next.lookup irq = if irq = handle.irq then
          (registry.lookup irq).map fun entry => { entry with enabled } else registry.lookup irq := by
  intro history registry
  have h : history.Accounts registry := .after calls hfew
  refine ⟨fun irq entry hentry => ⟨Registry.lt_of_lookup hentry, h.shown irq entry hentry⟩,
    fun r hr => ⟨history.standing_subset hr, h.held r hr, fun other hother => h.eq_of_irq hother hr⟩,
    h.distinct, fun handle enabled => ?_, fun r hr hreleased => ?_, fun irq driver handler => ?_,
    fun call why => Registry.perform_of_refused, fun handle enabled next hset => ?_⟩
  · rw [← h.live_iff]
    simp only [Registry.unregister_eq_ok_iff, Registry.setEnabled_eq_ok_iff]
    constructor
    · exact ⟨fun ⟨_, entry, hlive, _⟩ => ⟨entry, hlive⟩, fun ⟨entry, hlive⟩ => ⟨_, entry, hlive, rfl⟩⟩
    · exact ⟨fun ⟨_, entry, hlive, _⟩ => ⟨entry, hlive⟩, fun ⟨entry, hlive⟩ => ⟨_, entry, hlive, rfl⟩⟩
  · have hlive := h.live_of_released hr hreleased
    exact ⟨Registry.unregister_of_error hlive, fun enabled => Registry.setEnabled_of_error enabled hlive⟩
  · refine ⟨by simp [Registry.register_eq_error_iff], by simp [Registry.register_eq_error_iff], ?_⟩
    constructor
    · rintro ⟨⟨handle, next⟩, hregister⟩
      obtain ⟨hline, hempty, -⟩ := (Registry.register_eq_ok_iff driver handler).mp hregister
      exact ⟨hline, hempty⟩
    · rintro ⟨hline, hempty⟩
      exact ⟨_, (Registry.register_eq_ok_iff driver handler).mpr ⟨hline, hempty, rfl, rfl⟩⟩
  · obtain ⟨entry, -, rfl⟩ := (Registry.setEnabled_eq_ok_iff enabled).mp hset
    exact ⟨rfl, Registry.lookup_setEnabled hset⟩

def retakenLine : List RegistryCall :=
  [.register ⟨5⟩ 2 8, .unregister ⟨⟨5⟩, 1⟩, .register ⟨5⟩ 1 7]

/-- The handle of the first registration stays stale when its line is taken again. -/
theorem retaken_line_refuses_first_handle :
    ⟨⟨5⟩, 1, 7, ⟨⟨5⟩, 1⟩⟩ ∈ (Registry.after retakenLine).1.registrations ∧
      (Registry.after retakenLine).2.unregister ⟨⟨5⟩, 1⟩ = .error .notFound ∧
      ∃ next, (Registry.after retakenLine).2.unregister ⟨⟨5⟩, 2⟩ = .ok next := by
  have hregistrations : (Registry.after retakenLine).1.registrations =
      [⟨⟨5⟩, 2, 8, ⟨⟨5⟩, 2⟩⟩, ⟨⟨5⟩, 1, 7, ⟨⟨5⟩, 1⟩⟩] := by
    decide +kernel
  have hstanding : (Registry.after retakenLine).1.standing = [⟨⟨5⟩, 2, 8, ⟨⟨5⟩, 2⟩⟩] := by
    decide +kernel
  obtain ⟨-, -, -, haccepted, hstale, -⟩ :=
    handles_name_standing_registrations retakenLine (by rw [hregistrations]; decide)
  rw [hstanding] at haccepted hstale
  rw [hregistrations] at hstale ⊢
  refine ⟨by simp, ?_, ?_⟩
  · exact (hstale ⟨⟨5⟩, 1, 7, ⟨⟨5⟩, 1⟩⟩ (by simp) (by decide)).1
  · exact (haccepted ⟨⟨5⟩, 2⟩ true).1.mpr ⟨_, List.mem_singleton_self _, rfl⟩

end TrapDispatch
