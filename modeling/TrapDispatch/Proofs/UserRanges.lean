import TrapDispatch.Proofs.CallChecks

/-!
# Ranges of user memory

The guard decides on a pointer and a length by their end points, with an addition that may wrap
around. What it decides is said here address by address, in unbounded numbers: a range is valid if
the thread may be given every address that it names. A valid range stays so in part, and under a
guard that admits more, and a window never holds more than what it was asked to.
-/

namespace TrapDispatch

/-- Whether a pointer and a length name an address: that of a byte in their range, or of the pointer
itself if there is none. Addresses are not counted modulo anything. -/
def Names (pointer length : UInt64) (address : Nat) : Prop :=
  if length = 0 then address = pointer.toNat
  else pointer.toNat ≤ address ∧ address < pointer.toNat + length.toNat

theorem names_pointer (pointer length : UInt64) : Names pointer length pointer.toNat := by
  unfold Names
  split
  next => rfl
  next hlength =>
    have hpos : 0 < length.toNat := UInt64.lt_iff_toNat_lt.mp (UInt64.pos_iff_ne_zero.mpr hlength)
    omega

theorem le_of_names {pointer length : UInt64} {address : Nat} (h : Names pointer length address) :
    pointer.toNat ≤ address := by
  unfold Names at h
  split at h
  · exact Nat.le_of_eq h.symm
  · exact h.1

namespace AddressGuard

/-- Whether a thread may be given an address: it is in the window, and below the top of user
memory. -/
def Admits (guard : AddressGuard) (address : Nat) : Prop :=
  guard.window.start.toNat ≤ address ∧ address < guard.window.stop.toNat ∧
    address < guard.userTop.toNat

/-- A guard allows a range exactly if it admits every address of it. -/
theorem allows_iff (guard : AddressGuard) (pointer length : UInt64) (requester : Privilege) :
    guard.Allows pointer length requester ↔ requester ≠ .monitor ∧ pointer ≠ 0 ∧
      ∀ address, Names pointer length address → guard.Admits address := by
  have hzero : length = 0 ↔ length.toNat = 0 := by
    rw [← UInt64.toNat_inj]
    rfl
  have hstop := guard.window.stop.toNat_lt
  constructor
  · intro h
    have hbelow := UInt64.lt_iff_toNat_lt.mp h.below
    have hstart := UInt64.le_iff_toNat_le.mp h.start
    have htop := h.top
    have hend := h.stop
    refine ⟨h.requester, h.nonzero, fun address hnames => ?_⟩
    unfold Names at hnames
    split at hnames
    next hempty =>
      have hinside := UInt64.lt_iff_toNat_lt.mp (h.inside hempty)
      rw [hnames]
      exact ⟨hstart, hinside, hbelow⟩
    next => exact ⟨by omega, by omega, by omega⟩
  · rintro ⟨hrequester, hnonzero, hadmits⟩
    obtain ⟨hstart, hinside, hbelow⟩ := hadmits _ (names_pointer pointer length)
    -- The last byte decides about the end of the range, and with it about wrapping around.
    have hlast : pointer.toNat + length.toNat ≤ guard.window.stop.toNat ∧
        pointer.toNat + length.toNat ≤ guard.userTop.toNat := by
      by_cases hempty : length = 0
      · have hlength := hzero.mp hempty
        omega
      · have hlength := mt hzero.mpr hempty
        have hnames : Names pointer length (pointer.toNat + length.toNat - 1) := by
          unfold Names
          rw [if_neg hempty]
          omega
        obtain ⟨-, hwindow, htop⟩ := hadmits _ hnames
        omega
    constructor
    case requester => exact hrequester
    case nonzero => exact hnonzero
    case wrap => exact Nat.lt_of_le_of_lt hlast.1 hstop
    case below => exact UInt64.lt_iff_toNat_lt.mpr hbelow
    case top => exact hlast.2
    case start => exact UInt64.le_iff_toNat_le.mpr hstart
    case stop => exact hlast.1
    case inside => exact fun _ => UInt64.lt_iff_toNat_lt.mpr hinside

theorem Allows.part {guard : AddressGuard} {pointer length part size : UInt64}
    {requester : Privilege}
    (h : guard.Allows pointer length requester)
    (hpart : ∀ address, Names part size address → Names pointer length address) :
    guard.Allows part size requester := by
  obtain ⟨hrequester, hnonzero, hadmits⟩ := (guard.allows_iff _ _ _).mp h
  have hstart := le_of_names (hpart _ (names_pointer part size))
  refine (guard.allows_iff _ _ _).mpr ⟨hrequester, ?_, fun address hnames =>
    hadmits address (hpart address hnames)⟩
  rintro rfl
  exact hnonzero (UInt64.toNat_inj.mp (Nat.le_zero.mp hstart))

theorem Allows.mono {guard wider : AddressGuard} {pointer length : UInt64} {requester : Privilege}
    (h : guard.Allows pointer length requester)
    (hwider : ∀ address, guard.Admits address → wider.Admits address) :
    wider.Allows pointer length requester := by
  obtain ⟨hrequester, hnonzero, hadmits⟩ := (guard.allows_iff _ _ _).mp h
  exact (wider.allows_iff _ _ _).mpr
    ⟨hrequester, hnonzero, fun address hnames => hwider address (hadmits address hnames)⟩

end AddressGuard

namespace UserRange

/-- A window between two addresses holds what is between them: nothing, if they are inverted. -/
theorem contains_between (start stop address : UInt64) :
    (between start stop).contains address = true ↔ start ≤ address ∧ address < stop := by
  rw [contains_iff]
  unfold between
  split
  next => rfl
  next hinverted =>
    rw [UInt64.not_le] at hinverted
    simp only [UInt64.lt_iff_toNat_lt, UInt64.le_iff_toNat_le] at hinverted ⊢
    omega

/-- A window of a length holds so many addresses, but for those past the end of memory, and the
last address of all. -/
theorem contains_ofLength (start length address : UInt64) :
    (ofLength start length).contains address = true ↔ start ≤ address ∧
      address.toNat < min (start.toNat + length.toNat) (UInt64.size - 1) := by
  have hsum : (start + length).toNat = (start.toNat + length.toNat) % UInt64.size :=
    UInt64.toNat_add start length
  have hlast : (0xFFFFFFFFFFFFFFFF : UInt64).toNat = UInt64.size - 1 := rfl
  have hstart : start.toNat < UInt64.size := start.toNat_lt
  have hlength : length.toNat < UInt64.size := length.toNat_lt
  unfold ofLength
  rw [contains_between]
  simp only [UInt64.lt_iff_toNat_lt, UInt64.le_iff_toNat_le]
  -- The sum is below its first part exactly if it wrapped around.
  split
  next hwrapped =>
    rw [hlast]
    unfold UInt64.size at *
    omega
  next hfits =>
    unfold UInt64.size at *
    omega

/-- Whether a window was asked to hold some addresses: those between two, or so many from one on. -/
inductive AskedFor : UserRange → (Nat → Prop) → Prop where
  | between (start stop : UInt64) :
      AskedFor (.between start stop) fun address => start.toNat ≤ address ∧ address < stop.toNat
  | ofLength (start length : UInt64) :
      AskedFor (.ofLength start length) fun address =>
        start.toNat ≤ address ∧ address < start.toNat + length.toNat

/-- A window holds no address that it was not asked to. -/
theorem AskedFor.of_contains {window : UserRange} {asked : Nat → Prop} (h : window.AskedFor asked)
    {address : UInt64} (hcontains : window.contains address = true) : asked address.toNat := by
  cases h with
  | between start stop =>
    obtain ⟨hstart, hstop⟩ := (contains_between start stop address).mp hcontains
    exact ⟨UInt64.le_iff_toNat_le.mp hstart, UInt64.lt_iff_toNat_lt.mp hstop⟩
  | ofLength start length =>
    obtain ⟨hstart, hstop⟩ := (contains_ofLength start length address).mp hcontains
    exact ⟨UInt64.le_iff_toNat_le.mp hstart, Nat.lt_of_lt_of_le hstop (Nat.min_le_left _ _)⟩

end UserRange

theorem AddressGuard.Admits.exists_word {guard : AddressGuard} {address : Nat}
    (h : guard.Admits address) :
    ∃ word : UInt64, word.toNat = address ∧ guard.window.contains word = true := by
  have hbound : address < UInt64.size := Nat.lt_trans h.2.1 guard.window.stop.toNat_lt
  have hword : (UInt64.ofNat address).toNat = address := UInt64.toNat_ofNat_of_lt hbound
  refine ⟨.ofNat address, hword, (guard.window.contains_iff _).mpr ⟨?_, ?_⟩⟩
  · rw [UInt64.le_iff_toNat_le, hword]
    exact h.1
  · rw [UInt64.lt_iff_toNat_lt, hword]
    exact h.2.1

/-- A range is valid for a requester other than the monitor if it does not start at null, and all
addresses that it names are in the window and below the top of user memory. So ranges within a
valid one are valid, and a valid range stays valid under a wider window and a higher top. A window
holds nothing but what it was asked to, whether the request made sense or not, and no range is
valid that goes beyond that. -/
theorem valid_ranges_are_admitted_throughout (guard : AddressGuard) (pointer length : UInt64)
    (requester : Privilege) :
    (guard.isValid pointer length requester = true ↔ requester ≠ .monitor ∧ pointer ≠ 0 ∧
      ∀ address, Names pointer length address → guard.Admits address) ∧
    (guard.isValid pointer length requester = true →
      (∀ part size, (∀ address, Names part size address → Names pointer length address) →
        guard.isValid part size requester = true) ∧
      ∀ wider : AddressGuard, wider.window.start ≤ guard.window.start →
        guard.window.stop ≤ wider.window.stop → guard.userTop ≤ wider.userTop →
        wider.isValid pointer length requester = true) ∧
    ∀ asked, guard.window.AskedFor asked →
      (∀ address, guard.window.contains address = true → asked address.toNat) ∧
      (guard.isValid pointer length requester = true →
        ∀ address, Names pointer length address → asked address) := by
  simp only [AddressGuard.isValid_iff]
  refine ⟨guard.allows_iff pointer length requester, fun hvalid => ⟨fun part size hpart => ?_,
    fun wider hstart hstop htop => ?_⟩, fun asked hasked => ⟨fun address => hasked.of_contains,
    fun hvalid address hnames => ?_⟩⟩
  · exact hvalid.part hpart
  · rw [UInt64.le_iff_toNat_le] at hstart hstop htop
    refine hvalid.mono fun address ⟨hfirst, hlast, hbelow⟩ => ⟨?_, ?_, ?_⟩
    · exact Nat.le_trans hstart hfirst
    · exact Nat.lt_of_lt_of_le hlast hstop
    · exact Nat.lt_of_lt_of_le hbelow htop
  · obtain ⟨-, -, hadmits⟩ := (guard.allows_iff _ _ _).mp hvalid
    obtain ⟨word, rfl, hcontains⟩ := (hadmits address hnames).exists_word
    exact hasked.of_contains hcontains

/-- A window that was asked to reach to the end of memory and beyond. -/
def boundlessGuard : AddressGuard :=
  ⟨.ofLength 0x1000 0xFFFFFFFFFFFFFFFF, Arch.userTop .x86_64⟩

/-- The last bytes of user memory are valid, and so is the last one alone. No byte past them is,
however far the window reaches. -/
theorem last_bytes_of_user_memory :
    boundlessGuard.isValid 0x00007FFFFFFFFFF8 8 .user = true ∧
      boundlessGuard.isValid 0x00007FFFFFFFFFFF 1 .user = true ∧
      boundlessGuard.isValid 0x00007FFFFFFFFFF8 9 .user = false := by
  have hvalid : boundlessGuard.isValid 0x00007FFFFFFFFFF8 8 .user = true := by decide
  obtain ⟨-, hparts, -⟩ :=
    valid_ranges_are_admitted_throughout boundlessGuard 0x00007FFFFFFFFFF8 8 .user
  have hpart : ∀ address, Names 0x00007FFFFFFFFFFF 1 address →
      Names 0x00007FFFFFFFFFF8 8 address := by
    rintro address ⟨hfirst, hend⟩
    have haddress : address = 0x00007FFFFFFFFFFF := Nat.le_antisymm (Nat.le_of_lt_succ hend) hfirst
    rw [haddress]
    unfold Names
    decide
  exact ⟨hvalid, (hparts hvalid).1 _ _ hpart, by decide⟩

end TrapDispatch
