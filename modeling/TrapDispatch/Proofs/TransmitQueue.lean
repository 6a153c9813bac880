import TrapDispatch.Proofs.Transmission

/-!
# The serial console on a transmit queue

A queue of some capacity behind the registers. Words leave it in the order in which they came,
at times of its own, and one that is written while it is full is lost. The console loses none:
whatever it sends is taken in, and follows what was there before.
-/

namespace TrapDispatch.Uart

/-- A transmit queue: the words that have left it and those that wait in it, the oldest first, and
those that it had no room for. -/
structure Queue (capacity : Nat) where
  gone : List UInt32 := []
  waiting : List UInt32 := []
  lost : List UInt32 := []
  clock : Nat := 0
  fits : waiting.length ≤ capacity := by simp

namespace Queue

variable {capacity : Nat} {leaves : Nat → Bool}

def taken (queue : Queue capacity) : List UInt32 :=
  queue.gone ++ queue.waiting

/-- Time goes on. At certain times the oldest word leaves, if there is one. -/
def tick (leaves : Nat → Bool) (queue : Queue capacity) : Queue capacity where
  gone := queue.gone ++ queue.waiting.take (leaves queue.clock).toNat
  waiting := queue.waiting.drop (leaves queue.clock).toNat
  lost := queue.lost
  clock := queue.clock + 1
  fits := by
    have hfits := queue.fits
    rw [List.length_drop]
    omega

def push (word : UInt32) (queue : Queue capacity) : Queue capacity :=
  if h : queue.waiting.length < capacity then
    { queue with
      waiting := queue.waiting ++ [word]
      fits := by
        rw [List.length_append]
        exact h }
  else { queue with lost := queue.lost ++ [word] }

/-- The queue behind the registers of a console. Every access takes its time. -/
def port (leaves : Nat → Bool) : Port (Queue capacity) where
  flags queue := if queue.waiting.length < capacity then 0 else queueFull
  read := tick leaves
  write word queue := (queue.push word).tick leaves

section

variable (queue : Queue capacity) {word : UInt32}

@[simp] theorem taken_tick : (queue.tick leaves).taken = queue.taken := by
  simp [taken, tick, List.append_assoc]

@[simp] theorem lost_tick : (queue.tick leaves).lost = queue.lost :=
  rfl

theorem length_tick_le : (queue.tick leaves).waiting.length ≤ queue.waiting.length := by
  simp [tick]

theorem taken_push (h : queue.waiting.length < capacity) :
    (queue.push word).taken = queue.taken ++ [word] := by
  simp [push, h, taken]

theorem lost_push (h : queue.waiting.length < capacity) : (queue.push word).lost = queue.lost := by
  simp [push, h]

theorem flags_eq_zero_iff :
    (port leaves).flags queue &&& queueFull = 0 ↔ queue.waiting.length < capacity := by
  unfold port
  by_cases h : queue.waiting.length < capacity <;> simp [h, queueFull]

end

/-- A queue that words leave again and again has room again and again. -/
theorem relents (hcapacity : 0 < capacity)
    (hleaves : ∀ time, ∃ later, time ≤ later ∧ leaves later = true) :
    (port leaves : Port (Queue capacity)).Relents := by
  intro queue
  obtain ⟨later, hle, hleave⟩ := hleaves queue.clock
  generalize htime : queue.clock = time at hle
  induction hle using Nat.decreasingInduction generalizing queue with
  | self =>
    -- The word that leaves now makes room.
    have hroom : (queue.tick leaves).waiting.length < capacity := by
      have hfits := queue.fits
      simp [tick, htime, hleave]
      omega
    exact Port.exists_waits_of_read ⟨_, _, .room ((flags_eq_zero_iff (queue.tick leaves)).mpr hroom)⟩
  | of_succ time hlt ih =>
    exact Port.exists_waits_of_read (ih (queue.tick leaves) (congrArg Nat.succ htime))

variable {queue after : Queue capacity} {looks sent : List Transfer} {bytes : List UInt8}

theorem taken_of_waits (h : (port leaves).Waits queue looks after) :
    after.waiting.length < capacity ∧ after.taken = queue.taken ∧ after.lost = queue.lost := by
  induction h with
  | @room queue h =>
    have hroom := (flags_eq_zero_iff queue).mp h
    exact ⟨Nat.lt_of_le_of_lt queue.length_tick_le hroom, queue.taken_tick, queue.lost_tick⟩
  | @full queue after looks h hrest ih =>
    obtain ⟨hroom, htaken, hlost⟩ := ih
    exact ⟨hroom, htaken.trans queue.taken_tick, hlost.trans queue.lost_tick⟩

/-- All bytes that are sent are taken in, and none is lost. -/
theorem taken_of_sends (h : (port leaves).Sends bytes queue sent after) :
    after.taken = queue.taken ++ bytes.map UInt8.toUInt32 ∧ after.lost = queue.lost := by
  induction h with
  | none => simp
  | @byte queue middle after byte rest looks sent hwaits hrest ih =>
    obtain ⟨hroom, htaken, hlost⟩ := taken_of_waits hwaits
    obtain ⟨hlater, hnone⟩ := ih
    have hwrite : (port leaves).write byte.toUInt32 middle =
        (middle.push byte.toUInt32).tick leaves := rfl
    rw [hwrite] at hlater hnone
    constructor
    · rw [hlater, taken_tick, taken_push middle hroom, htaken, List.append_assoc, List.map_cons,
        List.singleton_append]
    · rw [hnone, lost_tick, lost_push middle hroom, hlost]

/-- A text gets through a queue of any capacity, at whatever times words leave it: the call returns,
and the bytes of the text follow all that was taken in before. None is lost. -/
theorem text_gets_through (hcapacity : 0 < capacity)
    (hleaves : ∀ time, ∃ later, time ≤ later ∧ leaves later = true) (text : String)
    (queue : Queue capacity) (past : List Transfer) :
    ∃ sent after,
      (puts text).Completes (port leaves).serve ⟨queue, past⟩ () ⟨after, past ++ sent⟩ ∧
      after.taken = queue.taken ++ (lineBytes text).map UInt8.toUInt32 ∧
      after.lost = queue.lost := by
  obtain ⟨sent, after, hsends⟩ := (relents hcapacity hleaves).exists_sends (lineBytes text) queue
  exact ⟨sent, after, hsends.completes_puts past, taken_of_sends hsends⟩

end Queue
end TrapDispatch.Uart
