import Mathlib.Data.List.Induction
import TrapDispatch.Interrupt.Controller

/-!
# Calls of a controller, one after the other

What a driver has made of its registers is judged by the calls that were made of it. A part of
the registers that each call either sets or leaves is as the last call that sets it says. What
is noted of the accesses is what one of the calls does.
-/

namespace TrapDispatch

inductive ControllerCall where
  | triggerMode (irq : Irq)
  | pending (vector : UInt64)
  | mask (irq : Irq)
  | unmask (irq : Irq)
  | acknowledge (irq : Irq)
  | endOfInterrupt (irq : Irq)
  | setPriority (irq : Irq) (level : UInt8)
  deriving DecidableEq

namespace ControllerCall

variable {α : Type} {call : ControllerCall} {calls : List ControllerCall}

def switch? (irq : Irq) : ControllerCall → Option Bool
  | .mask other => if other = irq then some false else none
  | .unmask other => if other = irq then some true else none
  | _ => none

def level? (irq : Irq) : ControllerCall → Option UInt8
  | .setPriority other level => if other = irq then some level else none
  | _ => none

/-- What the last of the calls that set something has set. -/
def last (set? : ControllerCall → Option α) (calls : List ControllerCall) : Option α :=
  calls.reverse.findSome? set?

def lastSwitched (irq : Irq) (calls : List ControllerCall) : Option Bool :=
  last (switch? irq) calls

def lastLevel (irq : Irq) (calls : List ControllerCall) : Option UInt8 :=
  last (level? irq) calls

theorem last_concat (set? : ControllerCall → Option α) :
    last set? (calls ++ [call]) = (set? call).or (last set? calls) := by
  unfold last
  rw [List.reverse_append, List.findSome?_append]
  cases h : set? call <;> simp [h]

theorem last_none : last (fun _ => (none : Option α)) calls = none := by
  induction calls using List.reverseRecOn with
  | nil => rfl
  | append_singleton calls call ih => rw [last_concat, ih, Option.none_or]

theorem last_map {β : Type} (set? : ControllerCall → Option α) (value : α → β) :
    last (fun call => (set? call).map value) calls = (last set? calls).map value := by
  induction calls using List.reverseRecOn with
  | nil => rfl
  | append_singleton calls call ih =>
    rw [last_concat, last_concat, ih]
    cases set? call <;> rfl

end ControllerCall

namespace Controller

open ControllerCall

variable {σ α β : Type} (controller : Controller (StateM σ))

theorem bind_apply (first : StateM σ α) (rest : α → StateM σ β) (board : σ) :
    (first >>= rest) board = rest (first board).1 (first board).2 :=
  rfl

/-- What a call leaves of the registers. -/
def next (board : σ) : ControllerCall → σ
  | .triggerMode irq => (controller.triggerMode irq board).2
  | .pending vector => (controller.pending vector board).2
  | .mask irq => (controller.mask irq board).2
  | .unmask irq => (controller.unmask irq board).2
  | .acknowledge irq => (controller.acknowledge irq board).2
  | .endOfInterrupt irq => (controller.endOfInterrupt irq board).2
  | .setPriority irq level => (controller.setPriority irq level board).2

def after (board : σ) (calls : List ControllerCall) : σ :=
  calls.foldl controller.next board

variable {controller} {board : σ} {calls : List ControllerCall} {call : ControllerCall}

theorem after_concat :
    controller.after board (calls ++ [call]) =
      controller.next (controller.after board calls) call := by
  simp [after]

/-- What every call either sets or leaves is as it was set last. -/
theorem view_after {view : σ → α} {set? : ControllerCall → Option α}
    (h : ∀ board call, view (controller.next board call) = (set? call).getD (view board))
    (board : σ) (calls : List ControllerCall) :
    view (controller.after board calls) = (last set? calls).getD (view board) := by
  induction calls using List.reverseRecOn with
  | nil => rfl
  | append_singleton calls call ih =>
    rw [after_concat, h, ih, last_concat]
    cases set? call <;> rfl

/-- What is noted, newest first, is what one of the calls does. -/
theorem notes_after {notes : σ → List α} {Does : ControllerCall → α → Prop}
    (h : ∀ board call, ∃ new, notes (controller.next board call) = new ++ notes board ∧
      ∀ note ∈ new, Does call note)
    (board : σ) (calls : List ControllerCall) :
    ∃ new, notes (controller.after board calls) = new ++ notes board ∧
      ∀ note ∈ new, ∃ call ∈ calls, Does call note := by
  induction calls using List.reverseRecOn with
  | nil => exact ⟨[], rfl, by simp⟩
  | append_singleton calls call ih =>
    obtain ⟨older, holder, hold⟩ := ih
    obtain ⟨newer, hnewer, hnew⟩ := h (controller.after board calls) call
    refine ⟨newer ++ older, by rw [after_concat, hnewer, holder, List.append_assoc], ?_⟩
    intro note hnote
    rcases List.mem_append.mp hnote with hnote | hnote
    · exact ⟨call, by simp, hnew note hnote⟩
    · obtain ⟨earlier, hmem, hdoes⟩ := hold note hnote
      exact ⟨earlier, by simp [hmem], hdoes⟩

end Controller
end TrapDispatch
