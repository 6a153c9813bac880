import TrapDispatch.Proofs.Registrations

/-!
# What lines hold

The calls made to a registry and the replies to them say what every line holds: the registration
whose handle was given out for it and has not been released since, enabled unless the last call
that changed this has disabled it. A registry that held something at first is judged by what was
done since. Every reply is the one that follows from what the lines hold, and every call makes of
them what its reply says.
-/

namespace TrapDispatch

structure HeldRegistration where
  registration : Registration
  enabled : Bool
  deriving DecidableEq

abbrev Holdings := Irq → Option HeldRegistration

namespace Holdings

/-- Whether a handle is that of the registration which its line holds. -/
def Names (holdings : Holdings) (handle : RegistrationHandle) : Prop :=
  ∃ holding, holdings handle.irq = some holding ∧ holding.registration.handle = handle

def next (holdings : Holdings) : RegistryCall × RegistryReply → Holdings
  | (.register irq driver handler, .issued handle) => fun line =>
    if line = irq then some ⟨⟨irq, driver, handler, handle⟩, true⟩ else holdings line
  | (.unregister handle, .done) => fun line =>
    (holdings line).filter fun holding => holding.registration.handle ≠ handle
  | (.setEnabled handle enabled, .done) => fun line =>
    (holdings line).map fun holding =>
      if holding.registration.handle = handle then { holding with enabled } else holding
  | _ => holdings

def after (start : Holdings) : RegistryHistory → Holdings
  | [] => start
  | item :: older => (start.after older).next item

end Holdings

def HandlerEntry.holding (irq : Irq) (entry : HandlerEntry) : HeldRegistration where
  registration := ⟨irq, entry.driver, entry.handler, ⟨irq, entry.generation⟩⟩
  enabled := entry.enabled

def Registry.holdings (registry : Registry) : Holdings := fun irq =>
  (registry.lookup irq).map (HandlerEntry.holding irq)

/-- Whether a reply to a change of a registration is the one that its handle calls for. -/
def Holdings.Admits (holdings : Holdings) (handle : RegistrationHandle) (reply : RegistryReply) :
    Prop :=
  (maxIrqs ≤ handle.irq.number.toNat ∧ reply = .refused .invalidIrq) ∨
    (handle.irq.number.toNat < maxIrqs ∧ holdings.Names handle ∧ reply = .done) ∨
    (handle.irq.number.toNat < maxIrqs ∧ ¬ holdings.Names handle ∧ reply = .refused .notFound)

/-- Whether a reply to a call is the one that follows from what the lines hold. -/
def Holdings.Answers (holdings : Holdings) : RegistryCall → RegistryReply → Prop
  | .register irq _ _, reply =>
    (maxIrqs ≤ irq.number.toNat ∧ reply = .refused .invalidIrq) ∨
      (irq.number.toNat < maxIrqs ∧ (holdings irq).isSome ∧ reply = .refused .alreadyRegistered) ∨
      (irq.number.toNat < maxIrqs ∧ holdings irq = none ∧
        ∃ generation, reply = .issued ⟨irq, generation⟩)
  | .unregister handle, reply => holdings.Admits handle reply
  | .setEnabled handle _, reply => holdings.Admits handle reply
  | .lookup irq, reply =>
    ∃ entry, reply = .found entry ∧ entry.map (HandlerEntry.holding irq) = holdings irq
  | .isRegistered irq, reply => reply = .told (holdings irq).isSome

namespace Registry

variable {registry : Registry} {irq : Irq} {handle : RegistrationHandle}

/-- Whatever is on the line of a live handle is what the handle names. -/
theorem names_iff : registry.holdings.Names handle ↔ ∃ entry, registry.live handle = .ok entry := by
  unfold Holdings.Names holdings
  simp only [Option.map_eq_some_iff, live_eq_ok_iff]
  constructor
  · rintro ⟨_, ⟨entry, hentry, rfl⟩, hhandle⟩
    exact ⟨entry, hentry, congrArg RegistrationHandle.generation hhandle⟩
  · rintro ⟨entry, hentry, hgeneration⟩
    refine ⟨_, ⟨entry, hentry, rfl⟩, ?_⟩
    change (⟨handle.irq, entry.generation⟩ : RegistrationHandle) = handle
    rw [hgeneration]

/-- What a live handle names is on its line only, and nothing else is. -/
theorem handle_eq_iff {entry : HandlerEntry} (hlive : registry.live handle = .ok entry)
    {holding : HeldRegistration} (hholding : registry.holdings irq = some holding) :
    holding.registration.handle = handle ↔ irq = handle.irq := by
  obtain ⟨hentry, hgeneration⟩ := live_eq_ok_iff.mp hlive
  obtain ⟨other, hother, rfl⟩ := Option.map_eq_some_iff.mp hholding
  constructor
  · exact congrArg RegistrationHandle.irq
  · rintro rfl
    cases hentry.symm.trans hother
    change (⟨handle.irq, entry.generation⟩ : RegistrationHandle) = handle
    rw [hgeneration]

theorem holdings_put (hline : irq.number.toNat < maxIrqs) (entry : Option HandlerEntry) (line : Irq) :
    (registry.put irq.number.toNat entry).holdings line =
      if line = irq then entry.map (HandlerEntry.holding irq) else registry.holdings line := by
  unfold holdings
  rw [lookup_put hline]
  split
  next hsame => rw [hsame]
  · rfl

theorem holdings_register {driver : UInt32} {handler : HandlerId} {next : Registry}
    (h : registry.register irq driver handler = .ok (handle, next)) :
    next.holdings = registry.holdings.next (.register irq driver handler, .issued handle) := by
  obtain ⟨hline, -, rfl, rfl⟩ := (register_eq_ok_iff driver handler).mp h
  funext line
  exact holdings_put hline _ line

theorem holdings_unregister {next : Registry} (h : registry.unregister handle = .ok next) :
    next.holdings = registry.holdings.next (.unregister handle, .done) := by
  obtain ⟨entry, hlive, rfl⟩ := unregister_eq_ok_iff.mp h
  obtain ⟨hentry, -⟩ := live_eq_ok_iff.mp hlive
  funext line
  rw [holdings_put (lt_of_lookup hentry)]
  change _ = (registry.holdings line).filter _
  cases hheld : registry.holdings line with
  | none => simp
  | some holding =>
    have hnamed := handle_eq_iff hlive hheld
    rw [Option.filter_some]
    by_cases hline : line = handle.irq
    · rw [if_pos hline, if_neg (by simpa using hnamed.mpr hline)]
      rfl
    · rw [if_neg hline, if_pos (by simpa using fun hhandle => hline (hnamed.mp hhandle))]

theorem holdings_setEnabled {enabled : Bool} {next : Registry}
    (h : registry.setEnabled handle enabled = .ok next) :
    next.holdings = registry.holdings.next (.setEnabled handle enabled, .done) := by
  obtain ⟨entry, hlive, rfl⟩ := (setEnabled_eq_ok_iff enabled).mp h
  obtain ⟨hentry, -⟩ := live_eq_ok_iff.mp hlive
  funext line
  rw [holdings_put (lt_of_lookup hentry)]
  change _ = (registry.holdings line).map _
  by_cases hline : line = handle.irq
  · subst hline
    have hheld : registry.holdings handle.irq = some (entry.holding handle.irq) := by
      unfold holdings
      rw [hentry]
      rfl
    have hnamed : (entry.holding handle.irq).registration.handle = handle :=
      (handle_eq_iff hlive hheld).mpr rfl
    rw [if_pos rfl, hheld, Option.map_some, Option.map_some, if_pos hnamed]
    rfl
  · rw [if_neg hline]
    cases hheld : registry.holdings line with
    | none => rfl
    | some holding =>
      rw [Option.map_some, if_neg fun hhandle => hline ((handle_eq_iff hlive hheld).mp hhandle)]

/-- A call makes of the lines what its reply says. -/
theorem holdings_perform (registry : Registry) (call : RegistryCall) :
    (registry.perform call).2.holdings =
      registry.holdings.next (call, (registry.perform call).1) := by
  cases call with
  | register irq driver handler =>
    unfold perform
    simp only
    cases hregister : registry.register irq driver handler with
    | ok issued => exact holdings_register hregister
    | error why => rfl
  | unregister handle =>
    unfold perform
    simp only
    cases hunregister : registry.unregister handle with
    | ok next => exact holdings_unregister hunregister
    | error why => rfl
  | setEnabled handle enabled =>
    unfold perform
    simp only
    cases hset : registry.setEnabled handle enabled with
    | ok next => exact holdings_setEnabled hset
    | error why => rfl
  | lookup irq => rfl
  | isRegistered irq => rfl

theorem admits_of_live {reply : RegistryReply}
    (hdone : ∀ entry, registry.live handle = .ok entry → reply = .done)
    (hrefused : ∀ why, registry.live handle = .error why → reply = .refused why) :
    registry.holdings.Admits handle reply := by
  by_cases hline : maxIrqs ≤ handle.irq.number.toNat
  · exact .inl ⟨hline, hrefused _ (if_pos hline)⟩
  have hin : handle.irq.number.toNat < maxIrqs := Nat.not_le.mp hline
  by_cases hlive : ∃ entry, registry.live handle = .ok entry
  · obtain ⟨entry, hentry⟩ := hlive
    exact .inr (.inl ⟨hin, names_iff.mpr ⟨entry, hentry⟩, hdone entry hentry⟩)
  · have hnone : ∀ entry, registry.live handle ≠ .ok entry := fun entry h => hlive ⟨entry, h⟩
    exact .inr (.inr ⟨hin, fun hnames => hlive (names_iff.mp hnames),
      hrefused _ (live_eq_notFound hin hnone)⟩)

/-- Every call is replied to as what the lines hold calls for. -/
theorem answers_perform (registry : Registry) (call : RegistryCall) :
    registry.holdings.Answers call (registry.perform call).1 := by
  cases call with
  | register irq driver handler =>
    have hempty : registry.holdings irq = none ↔ registry.lookup irq = none :=
      Option.map_eq_none_iff
    unfold perform
    simp only
    cases hregister : registry.register irq driver handler with
    | ok issued =>
      obtain ⟨hline, hlookup, hhandle, -⟩ := (register_eq_ok_iff driver handler).mp hregister
      exact .inr (.inr ⟨hline, hempty.mpr hlookup, _, congrArg RegistryReply.issued hhandle⟩)
    | error why =>
      rcases (register_eq_error_iff driver handler why).mp hregister with
        ⟨hline, rfl⟩ | ⟨⟨entry, hentry⟩, rfl⟩
      · exact .inl ⟨hline, rfl⟩
      · refine .inr (.inl ⟨lt_of_lookup hentry, ?_, rfl⟩)
        rw [Option.isSome_iff_ne_none, ne_eq, hempty, hentry]
        exact Option.some_ne_none entry
  | unregister handle =>
    refine admits_of_live (fun entry hlive => ?_) fun why hlive => ?_
    · have hdone := unregister_eq_ok_iff.mpr ⟨entry, hlive, rfl⟩
      simp only [perform, hdone]
    · simp only [perform, unregister_of_error hlive]
  | setEnabled handle enabled =>
    refine admits_of_live (fun entry hlive => ?_) fun why hlive => ?_
    · have hdone := (setEnabled_eq_ok_iff enabled).mpr ⟨entry, hlive, rfl⟩
      simp only [perform, hdone]
    · simp only [perform, setEnabled_of_error enabled hlive]
  | lookup irq => exact ⟨_, rfl, rfl⟩
  | isRegistered irq => exact congrArg RegistryReply.told Option.isSome_map.symm

end Registry

end TrapDispatch
