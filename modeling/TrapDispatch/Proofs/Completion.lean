import TrapDispatch.Program

/-!
# Programs that complete

How often a repetition may go round bounds a run, and does not change it otherwise: a run that
was not cut off stays as it is when more rounds are allowed. So a program completes if it
returns under some bound, and what it returns then it returns under all that suffice.
-/

namespace TrapDispatch

theorem bind_eq_ok {s α β : Type} {body : EStateM Stop s α} {next : α → EStateM Stop s β} {value : α}
    {state middle : s} (h : body state = .ok value middle) :
    (body >>= next) state = next value middle := by
  change EStateM.bind body next state = next value middle
  unfold EStateM.bind
  rw [h]

/-- Whether a computation ends as another one does wherever that one is not cut off. -/
def Extends {s α : Type} (more less : EStateM Stop s α) : Prop :=
  ∀ state, more state = less state ∨ ∃ after, less state = .error .exhausted after

namespace Extends

variable {s α β : Type} {body more less : EStateM Stop s α}

theorem refl : Extends body body :=
  fun _ => .inl rfl

theorem bind {next later : α → EStateM Stop s β} (h : Extends more less)
    (hnext : ∀ value, Extends (next value) (later value)) :
    Extends (more >>= next) (less >>= later) := by
  intro state
  change EStateM.bind more next state = EStateM.bind less later state ∨
    ∃ after, EStateM.bind less later state = .error .exhausted after
  unfold EStateM.bind
  rcases h state with hsame | ⟨after, hless⟩
  · rw [hsame]
    cases less state with
    | ok value middle => exact hnext value middle
    | error stop middle => exact .inl rfl
  · rw [hless]
    exact .inr ⟨after, rfl⟩

theorem unwinding {cleanup other : EStateM Stop s Unit} (h : Extends more less)
    (hcleanup : Extends cleanup other) : Extends (unwinding more cleanup) (unwinding less other) := by
  intro state
  unfold TrapDispatch.unwinding
  rcases h state with hsame | ⟨after, hless⟩
  · rw [hsame]
    cases less state with
    | ok value middle => exact .inl rfl
    | error stop middle =>
      cases stop with
      | panic message =>
        rcases hcleanup middle with hsame | ⟨after, hother⟩
        · exact .inl (by simp only [hsame])
        · exact .inr ⟨after, by simp only [hother]⟩
      | abort => exact .inl rfl
      | deadlock => exact .inl rfl
      | exhausted => exact .inl rfl
  · exact .inr ⟨after, by rw [hless]⟩

theorem repeated {more less : EStateM Stop s (Option α)} (h : Extends more less)
    {fewer bound : Nat} (hle : fewer ≤ bound) :
    Extends (repeated more bound) (repeated less fewer) := by
  induction fewer generalizing bound with
  | zero => exact fun state => .inr ⟨state, rfl⟩
  | succ fewer ih =>
    obtain ⟨bound, rfl⟩ : ∃ pred, bound = pred + 1 := ⟨bound - 1, by omega⟩
    apply h.bind
    intro value
    cases value with
    | some value => exact refl
    | none => exact ih (by omega)

end Extends

namespace Program

variable {S : Signature} {s α β : Type} {serve : (op : S.Op) → EStateM Stop s (S.Reply op)}

/-- A run goes on as it did when its repetitions may go round more often. -/
theorem extends_run (serve : (op : S.Op) → EStateM Stop s (S.Reply op)) {fewer bound : Nat}
    (hle : fewer ≤ bound) (program : Program S α) :
    Extends (program.run serve bound) (program.run serve fewer) := by
  induction program with
  | done value => exact .refl
  | panic message => exact .refl
  | request op next ih => exact Extends.refl.bind ih
  | onPanic body cleanup next hbody hcleanup ih => exact (hbody.unwinding hcleanup).bind ih
  | untilSome body next hbody ih => exact (hbody.repeated hle).bind ih

/-- Whether a program returns a value and leaves a state under every bound from some bound on. -/
def Completes (serve : (op : S.Op) → EStateM Stop s (S.Reply op)) (program : Program S α)
    (before : s) (value : α) (after : s) : Prop :=
  ∃ least, ∀ bound, least ≤ bound → program.run serve bound before = .ok value after

variable {program : Program S α} {body : Program S (Option α)} {before middle after : s} {value : α}

/-- One bound that suffices is enough. -/
theorem completes_of_run (bound : Nat) (h : program.run serve bound before = .ok value after) :
    program.Completes serve before value after := by
  refine ⟨bound, fun more hle => ?_⟩
  rcases extends_run serve hle program before with hsame | ⟨last, hcut⟩
  · rw [hsame, h]
  · rw [h] at hcut
    cases hcut

theorem completes_ask {op : S.Op} {reply : S.Reply op} (h : serve op before = .ok reply after) :
    (ask op).Completes serve before reply after := by
  refine completes_of_run 0 ?_
  rw [ask, run, bind_eq_ok h]
  rfl

theorem Completes.bind {next : α → Program S β} {result : β}
    (h : program.Completes serve before value middle)
    (hnext : (next value).Completes serve middle result after) :
    (program.bind next).Completes serve before result after := by
  obtain ⟨least, hrun⟩ := h
  obtain ⟨enough, hlast⟩ := hnext
  refine completes_of_run (max least enough) ?_
  rw [run_bind, bind_eq_ok (hrun _ (by omega))]
  exact hlast _ (by omega)

theorem run_repeatUntil (bound : Nat) :
    (repeatUntil body).run serve bound = repeated (body.run serve bound) bound := by
  simp [repeatUntil, run]

theorem Completes.last (h : body.Completes serve before (some value) after) :
    (repeatUntil body).Completes serve before value after := by
  obtain ⟨least, hrun⟩ := h
  refine completes_of_run (least + 1) ?_
  rw [run_repeatUntil, repeated, bind_eq_ok (hrun _ (by omega))]
  rfl

theorem Completes.again (h : body.Completes serve before none middle)
    (hrest : (repeatUntil body).Completes serve middle value after) :
    (repeatUntil body).Completes serve before value after := by
  obtain ⟨least, hrun⟩ := h
  obtain ⟨enough, hlast⟩ := hrest
  have hmore := hlast (max least enough) (by omega)
  rw [run_repeatUntil] at hmore
  refine completes_of_run (max least enough + 1) ?_
  rw [run_repeatUntil, repeated, bind_eq_ok (hrun _ (by omega))]
  -- One round is used up, and what is left of the bound is what sufficed for the rest.
  have hextends := (extends_run serve (Nat.le_succ (max least enough)) body).repeated
    (Nat.le_refl (max least enough)) middle
  rw [hmore] at hextends
  exact hextends.resolve_right (by simp)

end Program
end TrapDispatch
