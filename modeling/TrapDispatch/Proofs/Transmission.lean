import Mathlib.Data.List.Basic
import Mathlib.Data.Nat.Init
import TrapDispatch.Log.Uart
import TrapDispatch.Proofs.Completion

/-!
# What the serial console sends

A byte waits until the flags show room, and then it is written at once. So a text is sent in
full, whatever the queue does in between, if only there is room for it again and again: all of
its bytes, in order, with a carriage return before each newline.
-/

namespace TrapDispatch

/-! ### Bytes of a text -/

theorem toList_loop (bytes : ByteArray) (start : Nat) (past : List UInt8) :
    ByteArray.toList.loop bytes start past = past.reverse ++ bytes.data.toList.drop start := by
  fun_induction ByteArray.toList.loop bytes start past with
  | case1 start past hlt ih =>
    have hlength : start < bytes.data.toList.length := by
      simpa using hlt
    have hget : bytes.get! start = bytes.data[start]! := by
      cases bytes
      rfl
    rw [ih, List.reverse_cons, List.append_assoc, List.drop_eq_getElem_cons hlength, hget,
      getElem!_pos bytes.data start hlt]
    rfl
  | case2 start past hle =>
    have hlength : bytes.data.toList.length ≤ start := by
      simpa using hle
    rw [List.drop_eq_nil_of_le hlength, List.append_nil]

theorem toList_toUTF8 (text : String) :
    text.toUTF8.toList = text.toList.flatMap String.utf8EncodeChar := by
  have hdata : text.toUTF8.toList = text.toUTF8.data.toList := toList_loop text.toUTF8 0 []
  rw [hdata, String.toUTF8_eq_toByteArray, ← String.utf8Encode_toList]
  exact List.toList_data_toByteArray

theorem newline_not_mem {c : Char} (h : c ≠ '\n') : 0x0A ∉ String.utf8EncodeChar c := by
  have hne : c.val.toNat ≠ 10 := fun hval => h (Char.ext (UInt32.toNat_inj.mp hval))
  have hval : c.toNat = c.val.toNat := rfl
  unfold String.utf8EncodeChar
  simp only
  split_ifs <;> simp [← UInt8.toNat_inj] <;> omega

namespace Uart

/-- The bytes of a text as they are sent, with a carriage return before each newline. -/
def lineBytes (text : String) : List UInt8 :=
  text.toUTF8.toList.flatMap fun byte => if byte = 0x0A then [0x0D, 0x0A] else [byte]

def withReturns (text : String) : String :=
  String.ofList (text.toList.flatMap fun c => if c = '\n' then ['\r', '\n'] else [c])

theorem puts_eq (text : String) : puts text = putBytes (lineBytes text) :=
  rfl

theorem lineBytes_append (text more : String) :
    lineBytes (text ++ more) = lineBytes text ++ lineBytes more := by
  simp only [lineBytes, toList_toUTF8, String.toList_append, List.flatMap_append]

theorem expand_of_not_mem {bytes : List UInt8} (h : 0x0A ∉ bytes) : bytes.flatMap expand = bytes := by
  induction bytes with
  | nil => rfl
  | cons byte rest ih =>
    rw [List.mem_cons, not_or] at h
    rw [List.flatMap_cons, ih h.2, expand, if_neg (Ne.symm h.1), List.singleton_append]

/-- What is sent is a text again: the bytes in which other characters are encoded stay as they are. -/
theorem lineBytes_eq (text : String) : lineBytes text = (withReturns text).toUTF8.toList := by
  rw [toList_toUTF8, withReturns, String.toList_ofList, List.flatMap_assoc, lineBytes, toList_toUTF8,
    List.flatMap_assoc]
  congr 1
  funext c
  by_cases h : c = '\n'
  · subst h
    decide
  · rw [if_neg h, List.flatMap_singleton]
    exact expand_of_not_mem (newline_not_mem h)

/-! ### Accesses -/

/-- An access that was made to the registers. -/
inductive Transfer where
  | read (flags : UInt32)
  | wrote (word : UInt32)
  deriving DecidableEq

def Transfer.flags? : Transfer → Option UInt32
  | read flags => some flags
  | wrote _ => none

def Transfer.word? : Transfer → Option UInt32
  | read _ => none
  | wrote word => some word

def flagsRead (transfers : List Transfer) : List UInt32 :=
  transfers.filterMap Transfer.flags?

def wordsWritten (transfers : List Transfer) : List UInt32 :=
  transfers.filterMap Transfer.word?

/-- Whether right before each word the flags were read, and showed room for it. -/
def Heeds (transfers : List Transfer) : Prop :=
  ∀ place word, transfers[place]? = some (.wrote word) →
    ∃ before flags, place = before + 1 ∧ transfers[before]? = some (.read flags) ∧
      flags &&& queueFull = 0

/-- Whether numbers of words in the queue, one for each access, are in keeping with the flags: there
is room where these show it, and until the next access words can only leave. -/
def Levels (capacity : Nat) (level : Nat → Nat) (transfers : List Transfer) : Prop :=
  ∀ place flags, transfers[place]? = some (.read flags) →
    (flags &&& queueFull = 0 → level place < capacity) ∧ level (place + 1) ≤ level place

section

variable {transfers : List Transfer} {flags word : UInt32}

@[simp] theorem flagsRead_append (first second : List Transfer) :
    flagsRead (first ++ second) = flagsRead first ++ flagsRead second :=
  List.filterMap_append

@[simp] theorem wordsWritten_append (first second : List Transfer) :
    wordsWritten (first ++ second) = wordsWritten first ++ wordsWritten second :=
  List.filterMap_append

@[simp] theorem flagsRead_read : flagsRead (.read flags :: transfers) = flags :: flagsRead transfers :=
  rfl

@[simp] theorem flagsRead_wrote : flagsRead (.wrote word :: transfers) = flagsRead transfers :=
  rfl

@[simp] theorem wordsWritten_read : wordsWritten (.read flags :: transfers) = wordsWritten transfers :=
  rfl

@[simp] theorem wordsWritten_wrote :
    wordsWritten (.wrote word :: transfers) = word :: wordsWritten transfers :=
  rfl

theorem heeds_nil : Heeds [] := by
  intro place word hword
  simp at hword

theorem Heeds.read (h : Heeds transfers) : Heeds (.read flags :: transfers) := by
  intro place other hword
  cases place with
  | zero => simp at hword
  | succ place =>
    obtain ⟨before, shown, rfl, hread, hroom⟩ := h place other hword
    exact ⟨before + 1, shown, rfl, hread, hroom⟩

theorem Heeds.wrote (h : Heeds transfers) (hroom : flags &&& queueFull = 0) :
    Heeds (.read flags :: .wrote word :: transfers) := by
  intro place other hword
  match place with
  | 0 => simp at hword
  | 1 => exact ⟨0, flags, rfl, rfl, hroom⟩
  | place + 2 =>
    obtain ⟨before, shown, rfl, hread, hshown⟩ := h place other hword
    exact ⟨before + 2, shown, rfl, hread, hshown⟩

theorem Heeds.lt_capacity (h : Heeds transfers) {capacity place : Nat} {level : Nat → Nat}
    (hlevels : Levels capacity level transfers) (hword : transfers[place]? = some (.wrote word)) :
    level place < capacity := by
  obtain ⟨before, shown, rfl, hread, hroom⟩ := h place word hword
  obtain ⟨hbelow, hfalls⟩ := hlevels before shown hread
  exact Nat.lt_of_le_of_lt hfalls (hbelow hroom)

end

/-! ### Ports -/

/-- One look at the flags, which is the last one if they show room. -/
def look : Program registers (Option Unit) := do
  let flags : UInt32 ← .ask (S := registers) .readFlags
  return if flags &&& queueFull ≠ 0 then none else some ()

theorem awaitRoom_eq : awaitRoom = .repeatUntil look :=
  rfl

/-- What is behind the registers: the flags that it shows, and what it becomes when they are read
or a word is written. -/
structure Port (δ : Type) where
  flags : δ → UInt32
  read : δ → δ
  write : UInt32 → δ → δ

structure Wire (δ : Type) where
  device : δ
  transfers : List Transfer

namespace Port

variable {δ : Type} (port : Port δ)

def serve : (op : Access) → EStateM Stop (Wire δ) op.Reply
  | .readFlags => fun wire => .ok (port.flags wire.device)
      ⟨port.read wire.device, wire.transfers ++ [.read (port.flags wire.device)]⟩
  | .writeData word => fun wire => .ok ()
      ⟨port.write word wire.device, wire.transfers ++ [.wrote word]⟩

theorem completes_look (state : δ) (past : List Transfer) :
    look.Completes port.serve ⟨state, past⟩
      (if port.flags state &&& queueFull ≠ 0 then none else some ())
      ⟨port.read state, past ++ [.read (port.flags state)]⟩ :=
  Program.completes_of_run 0 rfl

/-- The looks at the flags until there is room, and what they leave. -/
inductive Waits : δ → List Transfer → δ → Prop where
  | room {state : δ} (h : port.flags state &&& queueFull = 0) :
      Waits state [.read (port.flags state)] (port.read state)
  | full {state after : δ} {looks : List Transfer} (h : port.flags state &&& queueFull ≠ 0)
      (hrest : Waits (port.read state) looks after) :
      Waits state (.read (port.flags state) :: looks) after

/-- The accesses by which bytes are sent one by one, and what they leave. -/
inductive Sends : List UInt8 → δ → List Transfer → δ → Prop where
  | none {state : δ} : Sends [] state [] state
  | byte {state middle after : δ} {byte : UInt8} {rest : List UInt8} {looks sent : List Transfer}
      (hwaits : port.Waits state looks middle)
      (hrest : Sends rest (port.write byte.toUInt32 middle) sent after) :
      Sends (byte :: rest) state (looks ++ .wrote byte.toUInt32 :: sent) after

/-- Whether every wait for room is over at some time. -/
def Relents : Prop :=
  ∀ state, ∃ looks after, port.Waits state looks after

variable {port} {state after : δ} {looks sent : List Transfer} {bytes : List UInt8}

/-- A wait that is over after one more look is over. -/
theorem exists_waits_of_read (h : ∃ looks after, port.Waits (port.read state) looks after) :
    ∃ looks after, port.Waits state looks after := by
  obtain ⟨looks, after, hwaits⟩ := h
  by_cases hroom : port.flags state &&& queueFull = 0
  · exact ⟨_, _, .room hroom⟩
  · exact ⟨_, after, .full hroom hwaits⟩

theorem Waits.completes (h : port.Waits state looks after) (past : List Transfer) :
    awaitRoom.Completes port.serve ⟨state, past⟩ () ⟨after, past ++ looks⟩ := by
  rw [awaitRoom_eq]
  induction h generalizing past with
  | @room state h =>
    have hlook := port.completes_look state past
    rw [if_neg (not_not.mpr h)] at hlook
    exact hlook.last
  | @full state after looks h hrest ih =>
    have hlook := port.completes_look state past
    rw [if_pos h] at hlook
    have hlater := ih (past ++ [.read (port.flags state)])
    rw [List.append_assoc] at hlater
    exact hlook.again hlater

/-- Bytes are sent by these accesses. -/
theorem Sends.completes (h : port.Sends bytes state sent after) (past : List Transfer) :
    (putBytes bytes).Completes port.serve ⟨state, past⟩ () ⟨after, past ++ sent⟩ := by
  induction h generalizing past with
  | none =>
    rw [List.append_nil]
    exact Program.completes_of_run 0 rfl
  | @byte state middle after byte rest looks sent hwaits hrest ih =>
    have hwrite : (Program.ask (S := registers) (.writeData byte.toUInt32)).Completes port.serve
        ⟨middle, past ++ looks⟩ ()
        ⟨port.write byte.toUInt32 middle, past ++ looks ++ [.wrote byte.toUInt32]⟩ :=
      Program.completes_ask rfl
    have hlater := ih (past ++ looks ++ [.wrote byte.toUInt32])
    have hpast : past ++ looks ++ [.wrote byte.toUInt32] ++ sent =
        past ++ (looks ++ .wrote byte.toUInt32 :: sent) := by
      simp
    rw [hpast] at hlater
    exact ((hwaits.completes past).bind hwrite).bind hlater

/-- A text is sent by the accesses that send its bytes. -/
theorem Sends.completes_puts {text : String} (h : port.Sends (lineBytes text) state sent after)
    (past : List Transfer) :
    (puts text).Completes port.serve ⟨state, past⟩ () ⟨after, past ++ sent⟩ := by
  rw [puts_eq]
  exact h.completes past

theorem Relents.exists_sends (h : port.Relents) (bytes : List UInt8) (state : δ) :
    ∃ sent after, port.Sends bytes state sent after := by
  induction bytes generalizing state with
  | nil => exact ⟨[], state, .none⟩
  | cons byte rest ih =>
    obtain ⟨looks, middle, hwaits⟩ := h state
    obtain ⟨sent, after, hrest⟩ := ih (port.write byte.toUInt32 middle)
    exact ⟨_, after, .byte hwaits hrest⟩

theorem Waits.wordsWritten_eq (h : port.Waits state looks after) : wordsWritten looks = [] := by
  induction h with
  | room h => rfl
  | full h hrest ih => rw [wordsWritten_read, ih]

theorem Sends.wordsWritten_eq (h : port.Sends bytes state sent after) :
    wordsWritten sent = bytes.map UInt8.toUInt32 := by
  induction h with
  | none => rfl
  | byte hwaits hrest ih => simp [hwaits.wordsWritten_eq, ih]

theorem Sends.append {more : List UInt8} {rest : List Transfer} {last : δ}
    (h : port.Sends bytes state sent after) (hmore : port.Sends more after rest last) :
    port.Sends (bytes ++ more) state (sent ++ rest) last := by
  induction h with
  | none => exact hmore
  | byte hwaits hrest ih =>
    rw [List.cons_append, List.append_assoc, List.cons_append]
    exact .byte hwaits (ih hmore)

theorem Waits.heeds {word : UInt32} (h : port.Waits state looks after) (hsent : Heeds sent) :
    Heeds (looks ++ .wrote word :: sent) := by
  induction h with
  | room h => exact hsent.wrote h
  | full h hrest ih => exact ih.read

theorem Sends.heeds (h : port.Sends bytes state sent after) : Heeds sent := by
  induction h with
  | none => exact heeds_nil
  | byte hwaits hrest ih => exact hwaits.heeds ih

/-! ### Flags as they come -/

/-- A port that shows flags one after the other, whatever is written. -/
def showing (flags : Nat → UInt32) : Port Nat where
  flags := flags
  read look := look + 1
  write _ look := look

section

variable {flags : Nat → UInt32} {start last : Nat}

theorem relents_showing (h : ∀ look, ∃ later, look ≤ later ∧ flags later &&& queueFull = 0) :
    (showing flags).Relents := by
  intro look
  obtain ⟨later, hle, hroom⟩ := h look
  induction hle using Nat.decreasingInduction with
  | self => exact ⟨_, _, .room hroom⟩
  | of_succ look hlt ih => exact exists_waits_of_read ih

theorem Waits.flagsRead_eq (h : (showing flags).Waits start looks last) :
    last = start + (flagsRead looks).length ∧
      flagsRead looks = (List.range' start (flagsRead looks).length).map flags := by
  induction h with
  | room h => exact ⟨rfl, rfl⟩
  | @full state after looks h hrest ih =>
    obtain ⟨hlast, hflags⟩ := ih
    have hread : (showing flags).read state = state + 1 := rfl
    rw [hread] at hlast hflags
    constructor
    · rw [hlast, flagsRead_read, List.length_cons]
      omega
    · rw [flagsRead_read, List.length_cons, List.range'_succ, List.map_cons, ← hflags]
      rfl

/-- The flags are read as they come, each of them once. -/
theorem Sends.flagsRead_eq (h : (showing flags).Sends bytes start sent last) :
    last = start + (flagsRead sent).length ∧
      flagsRead sent = (List.range' start (flagsRead sent).length).map flags := by
  induction h with
  | none => exact ⟨rfl, rfl⟩
  | @byte start middle after byte rest looks sent hwaits hrest ih =>
    obtain ⟨hmiddle, hlooks⟩ := hwaits.flagsRead_eq
    obtain ⟨hlast, hflags⟩ := ih
    have hwrite : (showing flags).write byte.toUInt32 middle = middle := rfl
    rw [hwrite] at hlast hflags
    constructor
    · simp [hlast, hmiddle]
      omega
    · rw [flagsRead_append, flagsRead_wrote, List.length_append, ← List.range'_append_1,
        List.map_append, ← hlooks, ← hmiddle, ← hflags]

end

end Port

/-- However often the flags show that the queue is full, if only they show room again and again, a
text is sent and the call returns. What is written are the bytes of the text in order, with a
carriage return before each newline and nothing else, which are those of a text again. The flags
are read right before each word, and show room for it; so no word is written to a queue that is
full, however fast the words leave it. Two texts that are sent one after the other make the same
accesses as both in one. -/
theorem text_is_sent_whole (flags : Nat → UInt32)
    (hroom : ∀ look, ∃ later, look ≤ later ∧ flags later &&& queueFull = 0)
    (text : String) (start : Nat) (past : List Transfer) :
    ∃ sent after,
      (puts text).Completes (Port.showing flags).serve ⟨start, past⟩ () ⟨after, past ++ sent⟩ ∧
      flagsRead sent = (List.range' start (after - start)).map flags ∧
      wordsWritten sent = (lineBytes text).map UInt8.toUInt32 ∧
      lineBytes text = (withReturns text).toUTF8.toList ∧
      Heeds sent ∧
      (∀ capacity level, Levels capacity level sent →
        ∀ place word, sent[place]? = some (.wrote word) → level place < capacity) ∧
      ∀ more, ∃ last,
        (puts more).Completes (Port.showing flags).serve ⟨after, past ++ sent⟩ () last ∧
        (puts (text ++ more)).Completes (Port.showing flags).serve ⟨start, past⟩ () last := by
  have hrelents := Port.relents_showing hroom
  obtain ⟨sent, after, hsends⟩ := hrelents.exists_sends (lineBytes text) start
  obtain ⟨hafter, hflags⟩ := hsends.flagsRead_eq
  have hcount : after - start = (flagsRead sent).length := by
    omega
  refine ⟨sent, after, hsends.completes_puts past, ?_, hsends.wordsWritten_eq, lineBytes_eq text,
    hsends.heeds, ?_, ?_⟩
  · rw [hcount]
    exact hflags
  · intro capacity level hlevels place word hword
    exact hsends.heeds.lt_capacity hlevels hword
  · intro more
    obtain ⟨rest, last, hrest⟩ := hrelents.exists_sends (lineBytes more) after
    have hboth := hsends.append hrest
    rw [← lineBytes_append] at hboth
    refine ⟨⟨last, past ++ sent ++ rest⟩, hrest.completes_puts _, ?_⟩
    rw [List.append_assoc]
    exact hboth.completes_puts past

/-- Flags that show room at every third look. -/
def everyThird (look : Nat) : UInt32 :=
  if look % 3 = 2 then 0x90 else 0x30

/-- A text with a long character and a newline is sent as four bytes. -/
theorem slow_console_sends_line :
    (∀ look, ∃ later, look ≤ later ∧ everyThird later &&& queueFull = 0) ∧
      ∃ sent after,
        (puts "é\n").Completes (Port.showing everyThird).serve ⟨0, []⟩ () ⟨after, sent⟩ ∧
        wordsWritten sent = [0xC3, 0xA9, 0x0D, 0x0A] := by
  have hroom : ∀ look, ∃ later, look ≤ later ∧ everyThird later &&& queueFull = 0 := by
    intro look
    have hthird : (3 * look + 2) % 3 = 2 := by
      omega
    refine ⟨3 * look + 2, by omega, ?_⟩
    rw [everyThird, if_pos hthird]
    rfl
  obtain ⟨sent, after, hcompletes, -, hwords, -⟩ := text_is_sent_whole everyThird hroom "é\n" 0 []
  refine ⟨hroom, sent, after, hcompletes, ?_⟩
  rw [hwords]
  decide +kernel

end Uart
end TrapDispatch
