import TrapDispatch.Proofs.Law

/-!
# Computations in lockstep

Two computations that start from related states keep in lockstep if both return, with related
values and in related states, or neither does. So do the runs of two programs of one shape, each
against a server of its own, if all requests that they make are answered alike.
-/

namespace TrapDispatch

section

variable {s t α β γ δ : Type}

/-- What does not return does not return either with a cleanup. -/
theorem exists_unwinding_error {body : EStateM Stop s α} (cleanup : EStateM Stop s Unit)
    {state middle : s} {stop : Stop} (h : body state = .error stop middle) :
    ∃ why after, unwinding body cleanup state = .error why after := by
  cases stop with
  | panic message =>
    cases hcleanup : cleanup middle with
    | ok done after => exact ⟨_, _, unwinding_of_panic h hcleanup⟩
    | error why after =>
      obtain ⟨last, -, hlast⟩ := unwinding_of_failure h hcleanup
      exact ⟨_, _, hlast⟩
  | _ => exact ⟨_, _, unwinding_of_stop h (by simp)⟩

/-- Whether two runs end alike: both return, with related values and states, or neither does. -/
inductive EndTogether (states : s → t → Prop) (values : α → β → Prop) :
    EStateM.Result Stop s α → EStateM.Result Stop t β → Prop where
  | returned {value : α} {other : β} {a : s} {b : t} (hvalue : values value other)
      (hstate : states a b) : EndTogether states values (.ok value a) (.ok other b)
  | stopped {stop why : Stop} {a : s} {b : t} :
      EndTogether states values (.error stop a) (.error why b)

/-- Whether two computations end alike from all states that are related before. -/
def Lockstep (before after : s → t → Prop) (values : α → β → Prop) (first : EStateM Stop s α)
    (second : EStateM Stop t β) : Prop :=
  ∀ a b, before a b → EndTogether after values (first a) (second b)

namespace Lockstep

variable {states before middle after : s → t → Prop} {values : α → β → Prop}
  {results : γ → δ → Prop} {first : EStateM Stop s α} {second : EStateM Stop t β}

theorem pure {value : α} {other : β} (h : values value other) :
    Lockstep states states values (pure value) (pure other) :=
  fun _ _ hstate => .returned h hstate

theorem throw {stop why : Stop} : Lockstep before after values (throw stop) (throw why) :=
  fun _ _ _ => .stopped

theorem bind {next : α → EStateM Stop s γ} {other : β → EStateM Stop t δ}
    (h : Lockstep before middle values first second)
    (hnext : ∀ v w, values v w → Lockstep middle after results (next v) (other w)) :
    Lockstep before after results (first >>= next) (second >>= other) := by
  intro a b hstate
  have hends := h a b hstate
  change EndTogether after results (EStateM.bind first next a) (EStateM.bind second other b)
  unfold EStateM.bind
  generalize first a = left at hends
  generalize second b = right at hends
  cases hends with
  | returned hvalue hmiddle => exact hnext _ _ hvalue _ _ hmiddle
  | stopped => exact .stopped

theorem weaken {earlier : s → t → Prop} (h : Lockstep before after values first second)
    (hbefore : ∀ a b, earlier a b → before a b) : Lockstep earlier after values first second :=
  fun a b hstate => h a b (hbefore a b hstate)

theorem giving {property : α → Prop} (h : Lockstep before after values first second)
    (hgives : ∀ a value c, first a = .ok value c → property value) :
    Lockstep before after (fun v w => values v w ∧ property v) first second := by
  intro a b hstate
  have hends := h a b hstate
  have hvalue := hgives a
  generalize first a = left at hends hvalue
  generalize second b = right at hends
  cases hends with
  | returned hvalues hafter => exact .returned ⟨hvalues, hvalue _ _ rfl⟩ hafter
  | stopped => exact .stopped

theorem unwinding {cleanup : EStateM Stop s Unit} {other : EStateM Stop t Unit}
    (h : Lockstep before after values first second) :
    Lockstep before after values (unwinding first cleanup) (unwinding second other) := by
  intro a b hstate
  have hends := h a b hstate
  generalize hfirst : first a = left at hends
  generalize hsecond : second b = right at hends
  cases hends with
  | returned hvalue hafter =>
    rw [unwinding_of_ok hfirst, unwinding_of_ok hsecond]
    exact .returned hvalue hafter
  | stopped =>
    obtain ⟨stop, c, hleft⟩ := exists_unwinding_error cleanup hfirst
    obtain ⟨why, d, hright⟩ := exists_unwinding_error other hsecond
    rw [hleft, hright]
    exact .stopped

theorem repeated {body : EStateM Stop s (Option α)} {other : EStateM Stop t (Option β)}
    (h : Lockstep states states (Option.Rel values) body other) (bound : Nat) :
    Lockstep states states values (repeated body bound) (repeated other bound) := by
  induction bound with
  | zero => exact throw
  | succ bound ih =>
    refine h.bind ?_
    rintro _ _ (hvalue | _)
    · exact pure hvalue
    · exact ih

end Lockstep

/-- Whether two programs are of one shape: they make requests in turn that are answered alike,
go on alike whatever the replies are that these get, and come to related values. -/
inductive Program.Similar {S : Signature}
    (answers : (a b : S.Op) → (S.Reply a → S.Reply b → Prop) → Prop) :
    {α β : Type} → (α → β → Prop) → Program S α → Program S β → Prop where
  | done {α β : Type} {values : α → β → Prop} {value : α} {other : β} (h : values value other) :
      Similar answers values (.done value) (.done other)
  | panic {α β : Type} {values : α → β → Prop} (message other : String) :
      Similar answers values (.panic message) (.panic other)
  | request {α β : Type} {values : α → β → Prop} {a b : S.Op}
      {replies : S.Reply a → S.Reply b → Prop} {next : S.Reply a → Program S α}
      {other : S.Reply b → Program S β} (h : answers a b replies)
      (hnext : ∀ v w, replies v w → Similar answers values (next v) (other w)) :
      Similar answers values (.request a next) (.request b other)
  | onPanic {α β γ δ : Type} {values : α → β → Prop} {inner : γ → δ → Prop} {body : Program S γ}
      {body' : Program S δ} {cleanup cleanup' : Program S Unit} {next : γ → Program S α}
      {next' : δ → Program S β} (hbody : Similar answers inner body body')
      (hnext : ∀ v w, inner v w → Similar answers values (next v) (next' w)) :
      Similar answers values (.onPanic body cleanup next) (.onPanic body' cleanup' next')
  | untilSome {α β γ δ : Type} {values : α → β → Prop} {inner : γ → δ → Prop}
      {body : Program S (Option γ)} {body' : Program S (Option δ)} {next : γ → Program S α}
      {next' : δ → Program S β} (hbody : Similar answers (Option.Rel inner) body body')
      (hnext : ∀ v w, inner v w → Similar answers values (next v) (next' w)) :
      Similar answers values (.untilSome body next) (.untilSome body' next')

theorem Program.Similar.mono {S : Signature}
    {answers more : (a b : S.Op) → (S.Reply a → S.Reply b → Prop) → Prop} {values : α → β → Prop}
    {program : Program S α} {similar : Program S β} (h : program.Similar answers values similar)
    (hmore : ∀ a b replies, answers a b replies → more a b replies) :
    program.Similar more values similar := by
  induction h with
  | done h => exact .done h
  | panic message text => exact .panic message text
  | request h _ ih => exact .request (hmore _ _ _ h) ih
  | onPanic _ _ hbody ih => exact .onPanic hbody ih
  | untilSome _ _ hbody ih => exact .untilSome hbody ih

/-- Similar programs run in lockstep, against servers whose answers do. -/
theorem Lockstep.run {S : Signature} {states : s → t → Prop} {values : α → β → Prop}
    {answers : (a b : S.Op) → (S.Reply a → S.Reply b → Prop) → Prop}
    {serve : (op : S.Op) → EStateM Stop s (S.Reply op)}
    {other : (op : S.Op) → EStateM Stop t (S.Reply op)} {bound : Nat}
    (hserve : ∀ a b replies, answers a b replies →
      Lockstep states states replies (serve a) (other b))
    {program : Program S α} {similar : Program S β} (h : program.Similar answers values similar) :
    Lockstep states states values (program.run serve bound) (similar.run other bound) := by
  induction h with
  | done h => exact pure h
  | panic message other => exact throw
  | request h _ ih => exact (hserve _ _ _ h).bind ih
  | onPanic _ _ hbody ih => exact hbody.unwinding.bind ih
  | untilSome _ _ hbody ih => exact (hbody.repeated bound).bind ih

end

end TrapDispatch
