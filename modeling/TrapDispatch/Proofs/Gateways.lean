import TrapDispatch.Interrupt.Plic
import TrapDispatch.Proofs.Nesting
import TrapDispatch.Proofs.Wiring

/-!
# Gateways of claimed lines

A claim closes the gateway of a source, and its completion opens it again, but only if the source
is enabled for the context at that moment; otherwise the completion is ignored. A line is masked
as long as its scope is open, and completed before that is closed: every completion comes while
the source is not enabled, and the gateways of all sources that are claimed stay closed.
-/

namespace TrapDispatch

variable {τ α : Type}

/-- The contexts that the registers have room for. -/
abbrev PlicContext :=
  Fin 15872

/-- What has happened at the claim register of a context. Source 0 is none. -/
inductive GateEvent where
  | claimed (source : UInt32)
  | completed (source : UInt32) (accepted : Bool)
  deriving DecidableEq

/-- The gateways of all sources, and the registers of a context. What is offered to a claim may
depend on all that has happened there, newest first. -/
structure Gateways where
  offer : List GateEvent → UInt32
  words : UInt64 → UInt32
  closed : UInt32 → Bool
  events : List GateEvent

/-- Interrupt enables and pending bits of the hart, and the local lines that are masked. -/
structure HartState where
  enables : UInt64 := 0
  pending : UInt64 := 0
  masked : UInt64 := 0

/-- Whether what was claimed is closed still, and what was completed was refused. -/
def GateEvent.Fits (gates : Gateways) : GateEvent → Prop
  | .claimed source => source ≠ 0 → gates.closed source = true
  | .completed _ accepted => accepted = false

/-- The sources that were claimed and not completed, newest first. -/
def uncompleted : List GateEvent → List UInt32
  | [] => []
  | .claimed source :: earlier =>
    if source = 0 then uncompleted earlier else source :: uncompleted earlier
  | .completed source _ :: earlier => (uncompleted earlier).erase source

namespace Gateways

def bit (source : UInt32) : UInt32 :=
  (1 : UInt32) <<< (source % 32)

def withBit (source : UInt32) (value : Bool) (word : UInt32) : UInt32 :=
  if value then word ||| bit source else word &&& ~~~bit source

section

variable (context : PlicContext) (gates : Gateways)

def claimRegister : UInt64 :=
  Plic.claimOffset + Plic.contextStride * context.val.toUInt64

def enableWord (source : UInt32) : UInt64 :=
  Plic.enableOffset + Plic.enableStride * context.val.toUInt64 + 4 * (source.toUInt64 / 32)

def enabled (source : UInt32) : Bool :=
  (gates.words (enableWord context source)).toBitVec.getLsbD (source.toNat % 32)

def isClaimable (source : UInt32) : Bool :=
  Plic.isExternal ⟨source⟩ && gates.enabled context source && !gates.closed source

def claiming (source : UInt32) : Gateways :=
  { gates with
    closed := fun other => other == source || gates.closed other
    events := .claimed source :: gates.events }

/-- Claims what is offered, if it can be claimed. -/
def claim : UInt32 × Gateways :=
  let source := gates.offer gates.events
  if gates.isClaimable context source then (source, gates.claiming source)
  else (0, { gates with events := .claimed 0 :: gates.events })

/-- Completes a source, if it is enabled. -/
def complete (source : UInt32) : Gateways :=
  if gates.enabled context source then
    { gates with
      closed := fun other => other != source && gates.closed other
      events := .completed source true :: gates.events }
  else { gates with events := .completed source false :: gates.events }

def store (offset : UInt64) (word : UInt32) : Gateways :=
  { gates with words := fun other => if other = offset then word else gates.words other }

end

def block (context : PlicContext) : RegisterBlock (StateM (Gateways × HartState)) :=
  .ofWords
    (fun offset board =>
      if offset = claimRegister context then
        ((board.1.claim context).1, (board.1.claim context).2, board.2)
      else (board.1.words offset, board))
    (fun offset word board =>
      if offset = claimRegister context then ((), board.1.complete context word, board.2)
      else ((), board.1.store offset word, board.2))

section

variable (context : PlicContext) (board : Gateways × HartState) (word : UInt32) {offset : UInt64}

theorem read_claim : (block context).read32 (claimRegister context) board =
    ((board.1.claim context).1, (board.1.claim context).2, board.2) :=
  if_pos rfl

theorem read_other (h : offset ≠ claimRegister context) :
    (block context).read32 offset board = (board.1.words offset, board) :=
  if_neg h

theorem write_claim : (block context).write32 (claimRegister context) word board =
    ((), board.1.complete context word, board.2) :=
  if_pos rfl

theorem write_other (h : offset ≠ claimRegister context) :
    (block context).write32 offset word board = ((), board.1.store offset word, board.2) :=
  if_neg h

end

def onHart (access : HartState → α × HartState) : ServiceProgram ((Gateways × HartState) × τ) α :=
  onHardware fun board => ((access board.2).1, board.1, (access board.2).2)

def plic (context : PlicContext) : Plic (ServiceProgram ((Gateways × HartState) × τ)) where
  registers := (block context).wired
  hart :=
    { enable := fun flags =>
        onHart fun hart => ((), { hart with enables := hart.enables ||| flags })
      disable := fun flags =>
        onHart fun hart => ((), { hart with enables := hart.enables &&& ~~~flags })
      clearPending := fun flags =>
        onHart fun hart => ((), { hart with pending := hart.pending &&& ~~~flags }) }
  context := context.val.toUInt64
  localMasked :=
    { get := onHart fun hart => (hart.masked, hart)
      set := fun masked => onHart fun hart => ((), { hart with masked }) }

variable {context : PlicContext} {gates : Gateways} {source other : UInt32}

theorem lt_of_isExternal (h : Plic.isExternal ⟨source⟩ = true) : source.toNat < 1024 := by
  have hlt := (Bool.and_eq_true_iff.mp h).2
  exact UInt32.lt_iff_toNat_lt.mp (of_decide_eq_true hlt)

theorem toNat_enableWord (h : source.toNat < 1024) :
    (enableWord context source).toNat = 0x2000 + 0x80 * context.val + 4 * (source.toNat / 32) := by
  have hcontext := context.isLt
  simp only [enableWord, Plic.enableOffset, Plic.enableStride, UInt64.toNat_add, UInt64.toNat_mul,
    UInt64.toNat_div, UInt32.toNat_toUInt64, UInt64.toNat_ofNat, Nat.toUInt64, UInt64.toNat_ofNat',
    Nat.reducePow, Nat.reduceMod]
  omega

theorem toNat_claimRegister :
    (claimRegister context).toNat = 0x200004 + 0x1000 * context.val := by
  have hcontext := context.isLt
  simp only [claimRegister, Plic.claimOffset, Plic.contextStride, UInt64.toNat_add,
    UInt64.toNat_mul, UInt64.toNat_ofNat, Nat.toUInt64, UInt64.toNat_ofNat', Nat.reducePow,
    Nat.reduceMod]
  omega

theorem enableWord_ne_claimRegister (h : source.toNat < 1024) :
    enableWord context source ≠ claimRegister context := by
  intro heq
  have hnat := congrArg UInt64.toNat heq
  rw [toNat_enableWord h, toNat_claimRegister] at hnat
  have hcontext := context.isLt
  omega

theorem eq_of_enableWord (hsource : source.toNat < 1024) (hother : other.toNat < 1024)
    (hword : enableWord context source = enableWord context other)
    (hbit : source.toNat % 32 = other.toNat % 32) : source = other := by
  have hnat := congrArg UInt64.toNat hword
  rw [toNat_enableWord hsource, toNat_enableWord hother] at hnat
  apply UInt32.toNat_inj.mp
  omega

theorem getLsbD_bit (source : UInt32) {index : Nat} (h : index < 32) :
    (bit source).toBitVec.getLsbD index = decide (index = source.toNat % 32) := by
  have hshift : (bit source).toBitVec = 1#32 <<< (source.toNat % 32) := by
    simp [bit, UInt32.toBitVec_shiftLeft]
  rw [hshift, BitVec.getLsbD_shiftLeft, BitVec.getLsbD_one, Bool.eq_iff_iff]
  simp only [Bool.and_eq_true, Bool.not_eq_true', decide_eq_true_eq, decide_eq_false_iff_not]
  omega

theorem getLsbD_withBit (source : UInt32) (value : Bool) (word : UInt32) {index : Nat}
    (h : index < 32) : (withBit source value word).toBitVec.getLsbD index =
      if index = source.toNat % 32 then value else word.toBitVec.getLsbD index := by
  unfold withBit
  cases value with
  | false =>
    rw [if_neg Bool.false_ne_true, UInt32.toBitVec_and, UInt32.toBitVec_not, BitVec.getLsbD_and,
      BitVec.getLsbD_not, getLsbD_bit source h]
    split <;> simp [*]
  | true =>
    rw [if_pos rfl, UInt32.toBitVec_or, BitVec.getLsbD_or, getLsbD_bit source h]
    split <;> simp [*]

/-- No two sources share a bit: all but one keep theirs when a word is written back with the bit
of one source changed. -/
theorem getLsbD_switching (hsource : source.toNat < 1024) (hother : other.toNat < 1024)
    (words : UInt64 → UInt32) (value : Bool) :
    (if enableWord context other = enableWord context source then
      withBit source value (words (enableWord context source))
    else words (enableWord context other)).toBitVec.getLsbD (other.toNat % 32) =
      if other = source then value
      else (words (enableWord context other)).toBitVec.getLsbD (other.toNat % 32) := by
  have hindex : other.toNat % 32 < 32 := Nat.mod_lt _ (by decide)
  by_cases hword : enableWord context other = enableWord context source
  · rw [if_pos hword, getLsbD_withBit _ _ _ hindex, hword]
    by_cases hbit : other.toNat % 32 = source.toNat % 32
    · have hsame : other = source := eq_of_enableWord hother hsource hword hbit
      rw [if_pos hbit, if_pos hsame]
    · have hne : other ≠ source := fun hsame => hbit (by rw [hsame])
      rw [if_neg hbit, if_neg hne]
  · have hne : other ≠ source := fun hsame => hword (by rw [hsame])
    rw [if_neg hword, if_neg hne]

def setEnabled (context : PlicContext) (gates : Gateways) (source : UInt32) (value : Bool) :
    Gateways :=
  gates.store (enableWord context source)
    (withBit source value (gates.words (enableWord context source)))

theorem enabled_setEnabled (hsource : Plic.isExternal ⟨source⟩ = true)
    (hother : Plic.isExternal ⟨other⟩ = true) (value : Bool) :
    (gates.setEnabled context source value).enabled context other =
      if other = source then value else gates.enabled context other :=
  getLsbD_switching (lt_of_isExternal hsource) (lt_of_isExternal hother) gates.words value

/-- Whether no gateway has been opened since. -/
structure Follows (start now : Gateways) : Prop where
  grows : ∃ events, now.events = events ++ start.events ∧ ∀ event ∈ events, event.Fits now
  closed : ∀ source, start.closed source = true → now.closed source = true

/-- Whether the enable bits of sources that were closed have not changed, either. -/
structure Since (context : PlicContext) (start now : Gateways) : Prop extends
    Follows start now where
  enabled : ∀ source, Plic.isExternal ⟨source⟩ = true → start.closed source = true →
    now.enabled context source = start.enabled context source

variable {start middle now : Gateways}

theorem Follows.refl (gates : Gateways) : Follows gates gates :=
  ⟨⟨[], rfl, by simp⟩, fun _ h => h⟩

theorem Follows.fits (h : Follows middle now) {event : GateEvent} (hfits : event.Fits middle) :
    event.Fits now := by
  cases event with
  | claimed source => exact fun hsource => h.closed source (hfits hsource)
  | completed source accepted => exact hfits

theorem Follows.trans (hfirst : Follows start middle) (hsecond : Follows middle now) :
    Follows start now := by
  obtain ⟨early, hmiddle, hearly⟩ := hfirst.grows
  obtain ⟨late, hnow, hlate⟩ := hsecond.grows
  refine ⟨⟨late ++ early, ?_, fun event hmem => ?_⟩,
    fun source h => hsecond.closed source (hfirst.closed source h)⟩
  · rw [hnow, hmiddle, List.append_assoc]
  · rcases List.mem_append.mp hmem with hmem | hmem
    · exact hlate event hmem
    · exact hsecond.fits (hearly event hmem)

/-- One more event, after which all is closed that was so before. -/
theorem follows_event {event : GateEvent} (hevents : now.events = event :: middle.events)
    (hfits : event.Fits now)
    (hclosed : ∀ source, middle.closed source = true → now.closed source = true) :
    Follows middle now :=
  ⟨⟨[event], hevents, by simpa using hfits⟩, hclosed⟩

theorem Since.refl (context : PlicContext) (gates : Gateways) : Since context gates gates :=
  ⟨Follows.refl gates, fun _ _ _ => rfl⟩

theorem Since.trans (hfirst : Since context start middle) (hsecond : Since context middle now) :
    Since context start now :=
  ⟨hfirst.toFollows.trans hsecond.toFollows, fun source hsource h =>
    (hsecond.enabled source hsource (hfirst.closed source h)).trans
      (hfirst.enabled source hsource h)⟩

/-- Claims close gateways, and leave the enable bits alone. -/
theorem since_claiming (context : PlicContext) (gates : Gateways) (source : UInt32) :
    Since context gates (gates.claiming source) :=
  ⟨follows_event rfl (fun _ => by simp [claiming]) fun _ h => by simp [claiming, h],
    fun _ _ _ => rfl⟩

theorem since_idle (context : PlicContext) (gates : Gateways) :
    Since context gates { gates with events := .claimed 0 :: gates.events } :=
  ⟨follows_event rfl (fun h => absurd rfl h) fun _ h => h, fun _ _ _ => rfl⟩

theorem since_refused (context : PlicContext) (gates : Gateways) (source : UInt32) :
    Since context gates { gates with events := .completed source false :: gates.events } :=
  ⟨follows_event rfl rfl fun _ h => h, fun _ _ _ => rfl⟩

theorem Since.setEnabled (h : Since context start now) (hsource : Plic.isExternal ⟨source⟩ = true)
    (hopen : start.closed source = false) (value : Bool) :
    Since context start (now.setEnabled context source value) := by
  refine ⟨⟨h.grows, h.closed⟩, fun other hother hclosed => ?_⟩
  have hne : other ≠ source := by
    rintro rfl
    rw [hopen] at hclosed
    cases hclosed
  rw [enabled_setEnabled hsource hother, if_neg hne]
  exact h.enabled other hother hclosed

/-- What is left to be completed of a line and of what was left before. -/
def owing (irq : Irq) (sources : List UInt32) : List UInt32 :=
  if Plic.isExternal irq then irq.number :: sources else sources

/-- Between interrupts nothing more is left to be completed. -/
structure Rests (context : PlicContext) (start now : Gateways) : Prop extends
    Since context start now where
  owed : uncompleted now.events = uncompleted start.events

/-- A line was named. If it is external, its gateway was open and is closed. -/
structure Named (context : PlicContext) (start : Gateways) (irq : Irq) (now : Gateways) : Prop
    extends Since context start now where
  owed : uncompleted now.events = owing irq (uncompleted start.events)
  shut : Plic.isExternal irq = true → now.closed irq.number = true
  wasOpen : Plic.isExternal irq = true → start.closed irq.number = false

/-- It has been masked as well. -/
structure Serviced (context : PlicContext) (start : Gateways) (irq : Irq) (now : Gateways) : Prop
    extends Named context start irq now where
  masked : Plic.isExternal irq = true → now.enabled context irq.number = false

/-- It has been completed. -/
structure Ended (context : PlicContext) (start : Gateways) (irq : Irq) (now : Gateways) : Prop
    extends Rests context start now where
  wasOpen : Plic.isExternal irq = true → start.closed irq.number = false

def phases (context : PlicContext) : Phases (Gateways × HartState) where
  View := Gateways
  rests start board := Rests context start board.1
  named start irq board := Named context start irq board.1
  serviced start irq board := Serviced context start irq board.1
  ended start irq board := Ended context start irq board.1
  halts start board := Follows start board.1
  halting h := h.toFollows

section

variable {irq : Irq}

theorem Named.setEnabled (h : Named context start irq now)
    (hexternal : Plic.isExternal irq = true) :
    Serviced context start irq (now.setEnabled context irq.number false) where
  toSince := h.toSince.setEnabled hexternal (h.wasOpen hexternal) false
  owed := h.owed
  shut := h.shut
  wasOpen := h.wasOpen
  masked _ := by rw [enabled_setEnabled hexternal hexternal, if_pos rfl]

theorem Ended.setEnabled (h : Ended context start irq now)
    (hexternal : Plic.isExternal irq = true) :
    Rests context start (now.setEnabled context irq.number true) where
  toSince := h.toSince.setEnabled hexternal (h.wasOpen hexternal) true
  owed := h.owed

/-- The completion of a line that is masked is ignored. -/
theorem Serviced.complete (h : Serviced context start irq now)
    (hexternal : Plic.isExternal irq = true) :
    Ended context start irq (now.complete context irq.number) := by
  have hrefused : now.complete context irq.number =
      { now with events := .completed irq.number false :: now.events } :=
    if_neg (by rw [h.masked hexternal]; exact Bool.false_ne_true)
  have howed := h.owed
  rw [owing, if_pos hexternal] at howed
  rw [hrefused]
  refine ⟨⟨h.toSince.trans (since_refused context now irq.number), ?_⟩, h.wasOpen⟩
  rw [uncompleted, howed, List.erase_cons_head]

theorem Serviced.ended (h : Serviced context start irq now)
    (hlocal : Plic.isExternal irq = false) : Ended context start irq now := by
  have howed := h.owed
  rw [owing, hlocal] at howed
  exact ⟨⟨h.toSince, howed⟩, h.wasOpen⟩

theorem Rests.named (h : Rests context start now) (hlocal : Plic.isExternal irq = false) :
    Named context start irq now where
  toSince := h.toSince
  owed := by
    rw [owing, hlocal]
    exact h.owed
  shut hexternal := absurd hexternal (by simp [hlocal])
  wasOpen hexternal := absurd hexternal (by simp [hlocal])

def Claimed (context : PlicContext) (start : Gateways) (source : UInt32) (now : Gateways) : Prop :=
  if source = 0 then Rests context start now else Named context start ⟨source⟩ now

/-- A claim gives a line whose gateway was open, or nothing. -/
theorem Rests.claim (h : Rests context start now) :
    Claimed context start (now.claim context).1 (now.claim context).2 := by
  unfold Gateways.claim
  dsimp only
  split
  next hclaimable =>
    generalize now.offer now.events = source at hclaimable ⊢
    obtain ⟨⟨hexternal, -⟩, hopen⟩ :
        (Plic.isExternal ⟨source⟩ = true ∧ now.enabled context source = true) ∧
          now.closed source = false := by
      simpa [isClaimable] using hclaimable
    have hsource : source ≠ 0 := by
      rintro rfl
      cases hexternal
    rw [Claimed, if_neg hsource]
    refine ⟨h.toSince.trans (since_claiming context now source), ?_, fun _ => by simp [claiming],
      fun _ => ?_⟩
    · rw [claiming, uncompleted, if_neg hsource, h.owed, owing, if_pos hexternal]
    · exact Bool.eq_false_iff.mpr fun hclosed => by simp [h.closed source hclosed] at hopen
  next =>
    rw [Claimed, if_pos rfl]
    exact ⟨h.toSince.trans (since_idle context now), h.owed⟩

end

section

variable {halts before last : Gateways → Prop} {irq : Irq}
  (hhalts : ∀ gates, before gates → halts gates)

include hhalts

theorem drives_onHart (access : HartState → α × HartState) :
    Sustains (fun board => halts board.1) (fun board => before board.1)
      (onHart access : ServiceProgram ((Gateways × HartState) × τ) α) :=
  drives_onHardware (fun board => hhalts board.1) fun _ h => h

theorem drives_localMasked :
    Sustains (fun board => halts board.1) (fun board => before board.1)
      ((plic (τ := τ) context).localMasked.get) :=
  drives_onHart hhalts fun hart => (hart.masked, hart)

theorem drives_setLocal (value : Bool) (flag masked : UInt64) :
    Sustains (fun board => halts board.1) (fun board => before board.1)
      (if value then do
        (plic (τ := τ) context).localMasked.set (masked &&& ~~~flag)
        (plic context).hart.enable flag
      else do
        (plic context).localMasked.set (masked ||| flag)
        (plic context).hart.disable flag) := by
  have hset : ∀ next, Sustains (fun board => halts board.1) (fun board => before board.1)
      ((plic (τ := τ) context).localMasked.set next) :=
    fun next => drives_onHart hhalts fun hart => ((), { hart with masked := next })
  have henable : Sustains (fun board => halts board.1) (fun board => before board.1)
      ((plic (τ := τ) context).hart.enable flag) :=
    drives_onHart hhalts fun hart => ((), { hart with enables := hart.enables ||| flag })
  have hdisable : Sustains (fun board => halts board.1) (fun board => before board.1)
      ((plic (τ := τ) context).hart.disable flag) :=
    drives_onHart hhalts fun hart => ((), { hart with enables := hart.enables &&& ~~~flag })
  exact drives_ite (fun _ => (hset _).bind fun _ => henable)
    fun _ => (hset _).bind fun _ => hdisable

theorem drives_setEnabled (value : Bool)
    (hexternal : Plic.isExternal irq = true → ∀ gates, before gates →
      last (gates.setEnabled context irq.number value))
    (hlocal : Plic.isExternal irq = false → ∀ gates, before gates → last gates) :
    Drives (fun board => halts board.1) (fun board => before board.1) (fun _ board => last board.1)
      ((plic (τ := τ) context).setEnabled irq value) := by
  refine drives_ite (fun hsource => ?_) fun hsource => ?_
  · have hoffset : enableWord context irq.number ≠ claimRegister context :=
      enableWord_ne_claimRegister (lt_of_isExternal hsource)
    have hread : Drives (fun board => halts board.1) (fun board => before board.1)
        (fun word board => before board.1 ∧ board.1.words (enableWord context irq.number) = word)
        ((block context).wired.read32 (enableWord context irq.number) :
          ServiceProgram ((Gateways × HartState) × τ) UInt32) := by
      refine drives_onHardware (fun board => hhalts board.1) fun board h => ?_
      rw [read_other context board hoffset]
      exact ⟨h, rfl⟩
    refine hread.bind fun word => drives_onHardware (fun board h => hhalts board.1 h.1) ?_
    rintro board ⟨h, rfl⟩
    -- Nothing comes between the two accesses to the word.
    change last ((block context).write32 (enableWord context irq.number) _ board).2.1
    rw [write_other context board _ hoffset]
    exact hexternal hsource board.1 h
  · have hlast : ∀ board : Gateways × HartState, before board.1 → last board.1 :=
      fun board => hlocal (Bool.eq_false_iff.mpr hsource) board.1
    cases Plic.localFlag irq with
    | none => exact drives_pure hlast
    | some flag =>
      have hread : Sustains (fun board => halts board.1) (fun board => before board.1)
          ((plic (τ := τ) context).localMasked.get) :=
        drives_localMasked hhalts
      exact (hread.bind fun masked => drives_setLocal hhalts value flag masked).mono fun _ => hlast

end

theorem drives_claim (start : Gateways) :
    Drives ((phases context).halts start) (fun board => Rests context start board.1)
      (fun source board => Claimed context start source board.1)
      ((plic (τ := τ) context).registers.read32 (plic (τ := τ) context).claimRegister) := by
  refine drives_onHardware (fun _ h => h.toFollows) fun board h => ?_
  change Claimed context start ((block context).read32 (claimRegister context) board).1
    ((block context).read32 (claimRegister context) board).2.1
  rw [read_claim]
  exact h.claim

theorem drives_localPending (start : Gateways) (cause : RiscV.InterruptCause) :
    Drives ((phases context).halts start) ((phases context).rests start)
      ((phases context).asked start) ((plic (τ := τ) context).localPending cause) := by
  have hmasked : Sustains ((phases context).halts start) ((phases context).rests start)
      ((plic (τ := τ) context).isLocalMasked (Plic.localLine cause)) := by
    unfold Plic.isLocalMasked
    cases Plic.localFlag (Plic.localLine cause) with
    | none => exact drives_pure fun _ h => h
    | some flag =>
      have hread : Sustains ((phases context).halts start) ((phases context).rests start)
          ((plic (τ := τ) context).localMasked.get) :=
        drives_localMasked fun _ h => h.toFollows
      exact hread.bind fun masked => drives_pure fun _ h => h
  have hlocal : Plic.isExternal (Plic.localLine cause) = false := by cases cause <;> rfl
  refine hmasked.bind fun masked => drives_pure fun board h => ?_
  cases masked with
  | true => exact h
  | false => exact h.named hlocal

theorem drives_pending (start : Gateways) (vector : UInt64) :
    Drives ((phases context).halts start) ((phases context).rests start)
      ((phases context).asked start) ((plic (τ := τ) context).pending vector) := by
  have hnone : Drives ((phases context).halts start) ((phases context).rests start)
      ((phases context).asked start) (pure none : ServiceProgram ((Gateways × HartState) × τ) _) :=
    drives_pure fun _ h => h
  refine drives_ite (fun _ => hnone) fun _ => drives_ite (fun _ => ?_) fun _ => ?_
  · refine (drives_claim start).bind fun source => drives_pure fun board h => ?_
    unfold Claimed at h
    split at h
    next hsource =>
      rw [if_pos hsource]
      exact h
    next hsource =>
      rw [if_neg hsource]
      exact h
  · refine drives_ite (fun _ => drives_localPending start .timer) fun _ => ?_
    exact drives_ite (fun _ => drives_localPending start .software) fun _ => hnone

theorem drives_acknowledge (start : Gateways) (irq : Irq) :
    Sustains ((phases context).halts start) ((phases context).serviced start irq)
      ((plic (τ := τ) context).acknowledge irq) := by
  have hclear : Sustains ((phases context).halts start) ((phases context).serviced start irq)
      ((plic (τ := τ) context).hart.clearPending 0x2) :=
    drives_onHart (fun _ h => h.toFollows)
      fun hart => ((), { hart with pending := hart.pending &&& ~~~0x2 })
  exact drives_ite (fun _ => hclear) fun _ => drives_pure fun _ h => h

theorem drives_endOfInterrupt (start : Gateways) (irq : Irq) :
    Drives ((phases context).halts start) ((phases context).serviced start irq)
      (fun _ => (phases context).ended start irq)
      ((plic (τ := τ) context).endOfInterrupt irq) := by
  refine drives_ite (fun hexternal => ?_) fun hlocal => drives_pure fun _ h => ?_
  · refine drives_onHardware (fun _ h => h.toFollows) fun board h => ?_
    change Ended context start irq
      ((block context).write32 (claimRegister context) irq.number board).2.1
    rw [write_claim]
    exact Serviced.complete h hexternal
  · exact Serviced.ended h (Bool.eq_false_iff.mpr hlocal)

/-- The driver takes the gateways through the phases of an interrupt. -/
theorem gone_through (context : PlicContext) :
    (phases context).GoneThrough (plic (τ := τ) context).controller where
  pending := drives_pending
  triggerMode _ _ := drives_pure fun _ h => h
  mask start irq :=
    drives_setEnabled (fun _ h => h.toFollows) false (fun hexternal _ h => h.setEnabled hexternal)
      fun hlocal _ h => ⟨h, fun hexternal => absurd hexternal (by simp [hlocal])⟩
  acknowledge := drives_acknowledge
  endOfInterrupt := drives_endOfInterrupt
  unmask start irq :=
    drives_setEnabled (fun _ h => h.toFollows) true (fun hexternal _ h => h.setEnabled hexternal)
      fun _ _ h => h.toRests
  masked _ _ _ h := h.toRests
  nests start irq board h := by
    -- The gateway of the line is shut by now, and so its enable bit will not be touched.
    refine ⟨board.1, ⟨Since.refl context board.1, rfl⟩, fun later hlater => ?_, fun later hlater =>
      Follows.trans h.toFollows hlater⟩
    refine ⟨⟨Since.trans h.toSince hlater.toSince, hlater.owed.trans h.owed,
      fun hexternal => hlater.closed _ (h.shut hexternal), h.wasOpen⟩, fun hexternal => ?_⟩
    exact (hlater.enabled _ hexternal (h.shut hexternal)).trans (h.masked hexternal)

end Gateways

/-- In a whole run, with traps in each other as deep as they may be, every completion comes while
its source is not enabled, and is refused: no gateway that was closed is opened, and those of all
sources that are claimed stay closed. Unless the run is cut short, all that it has claimed is
completed in this way. -/
theorem completions_are_refused (kernel : Kernel τ) (context : PlicContext) (depth : Nat)
    (program : ServiceProgram τ α) (machine : Machine ((Gateways × HartState) × τ)) :
    let wired := kernel.wired (Gateways.plic context).controller
    let run := wired.runService depth program.beside machine.fresh
    let first := machine.world.1.1
    let last := run.machine.world.1.1
    (∃ events, last.events = events ++ first.events ∧ ∀ event ∈ events, event.Fits last) ∧
      (∀ source, first.closed source = true → last.closed source = true) ∧
      (Finishes run.result → uncompleted last.events = uncompleted first.events) := by
  intro wired run first last
  obtain ⟨hhalts, hrests⟩ := Phases.runService_leaves kernel (Gateways.gone_through context) depth
    program (⟨Gateways.Since.refl context first, rfl⟩ :
      (Gateways.phases context).rests first machine.world.1)
  exact ⟨hhalts.grows, hhalts.closed, fun hfinishes => (hrests hfinishes).owed⟩

def PlicContext.first : PlicContext := 0

/-- Gateways that offer source 5 once, which alone is enabled. -/
def Gateways.offering : Gateways where
  offer events := if events.isEmpty then 5 else 0
  words offset := if offset = Gateways.enableWord .first 5 then 32 else 0
  closed _ := false
  events := []

def Kernel.offered : Kernel Unit :=
  { Kernel.plain ⟨5⟩ (pure ()) with vectors := ⟨.riscv64, 0⟩ }

def Machine.offered : Machine ((Gateways × HartState) × Unit) :=
  .attached ⟨5⟩ ((.offering, {}), ())

def offeredRun : Kernel.Completion ((Gateways × HartState) × Unit) Unit :=
  (Kernel.offered.wired (Gateways.plic .first).controller).runService 2 (trapOf .riscv64 25).beside
    Machine.offered.fresh

/-- A source whose interrupt was handled is never offered again. -/
theorem handled_source_stays_closed :
    offeredRun.machine.world.1.1.events = [.completed 5 false, .claimed 5] ∧
      offeredRun.machine.world.1.1.closed 5 = true ∧
      uncompleted offeredRun.machine.world.1.1.events = [] := by
  have hreturned : offeredRun.result.isOk = true := by decide +kernel
  have hevents : offeredRun.machine.world.1.1.events = [.completed 5 false, .claimed 5] := by
    decide +kernel
  have hclosed : offeredRun.machine.world.1.1.closed 5 = true := by decide +kernel
  refine ⟨hevents, hclosed, ?_⟩
  unfold offeredRun at hreturned ⊢
  obtain ⟨-, -, hlast⟩ := completions_are_refused Kernel.offered .first 2 (trapOf .riscv64 25)
    Machine.offered
  exact hlast (finishes_of_isOk hreturned)

end TrapDispatch
