import Mathlib.Data.List.Induction
import Mathlib.Data.List.Nodup
import TrapDispatch.Proofs.CallChecks

/-!
# Filling a call table

A call is admitted if it fits the argument registers, has a number of the table, and no
call of that number was admitted before it. A table that was filled one call after the
other holds those that were admitted, each at its number, and a refused one leaves no trace.
-/

namespace TrapDispatch
namespace SyscallTable

variable {σ : Type} {table : SyscallTable σ} {descriptor found : CallDescriptor σ}
  {earlier : List (CallDescriptor σ)} {number : UInt64}

def outcome (table : SyscallTable σ) (descriptor : CallDescriptor σ) : Except TableError Unit :=
  (table.insert descriptor).map fun _ => ()

/-- The table after an insertion, which may have been refused. -/
def offered (table : SyscallTable σ) (descriptor : CallDescriptor σ) : SyscallTable σ :=
  (table.insert descriptor).toOption.getD table

/-- What comes of each insertion, if calls are inserted into an empty table in this order. -/
def outcomes (descriptors : List (CallDescriptor σ)) : List (Except TableError Unit) :=
  (insertEach {} descriptors).1

def filled (descriptors : List (CallDescriptor σ)) : SyscallTable σ :=
  (insertEach {} descriptors).2

/-- The calls whose insertion succeeded, in the order of the insertions. -/
def admitted (descriptors : List (CallDescriptor σ)) : List (CallDescriptor σ) :=
  (descriptors.zip (outcomes descriptors)).filterMap fun attempt =>
    attempt.2.toOption.map fun _ => attempt.1

def IsFree (descriptors : List (CallDescriptor σ)) (number : UInt64) : Prop :=
  ∀ other ∈ admitted descriptors, other.shape.number ≠ number

theorem insertEach_singleton (table : SyscallTable σ) (descriptor : CallDescriptor σ) :
    table.insertEach [descriptor] = ([table.outcome descriptor], table.offered descriptor) := by
  unfold insertEach outcome offered
  cases table.insert descriptor <;> rfl

theorem insertEach_append (table : SyscallTable σ) (earlier later : List (CallDescriptor σ)) :
    table.insertEach (earlier ++ later) =
      ((table.insertEach earlier).1 ++ ((table.insertEach earlier).2.insertEach later).1,
        ((table.insertEach earlier).2.insertEach later).2) := by
  induction earlier generalizing table with
  | nil => rfl
  | cons descriptor rest ih =>
    rw [List.cons_append, insertEach, insertEach]
    cases table.insert descriptor with
    | ok next => simp [ih]
    | error why => simp [ih]

theorem outcomes_concat : outcomes (earlier ++ [descriptor]) =
    outcomes earlier ++ [(filled earlier).outcome descriptor] := by
  simp [outcomes, filled, insertEach_append, insertEach_singleton]

theorem filled_concat :
    filled (earlier ++ [descriptor]) = (filled earlier).offered descriptor := by
  simp [filled, insertEach_append, insertEach_singleton]

theorem length_outcomes (descriptors : List (CallDescriptor σ)) :
    (outcomes descriptors).length = descriptors.length := by
  induction descriptors using List.reverseRecOn with
  | nil => rfl
  | append_singleton earlier descriptor ih => simp [outcomes_concat, ih]

theorem admitted_concat : admitted (earlier ++ [descriptor]) = admitted earlier ++
    (((filled earlier).outcome descriptor).toOption.map fun _ => descriptor).toList := by
  unfold admitted
  rw [outcomes_concat, List.zip_append (length_outcomes earlier).symm, List.filterMap_append]
  cases (filled earlier).outcome descriptor <;> rfl

theorem outcome_of_unfit (h : ¬ descriptor.shape.Fits) :
    table.outcome descriptor = .error (.badArguments descriptor.shape.number) := by
  have hbad : argumentRegisters < descriptor.shape.width ∨
      descriptor.shape.arguments.length < descriptor.shape.required := by
    by_contra hfits
    rw [not_or, Nat.not_lt, Nat.not_lt] at hfits
    exact h ⟨hfits.1, hfits.2⟩
  simp only [outcome, SyscallTable.insert, if_pos hbad]
  rfl

theorem outcome_of_outside (h : descriptor.shape.Fits)
    (hnumber : maxSyscalls ≤ descriptor.shape.number.toNat) :
    table.outcome descriptor = .error (.numberOutOfRange descriptor.shape.number) := by
  have hfits : ¬ (argumentRegisters < descriptor.shape.width ∨
      descriptor.shape.arguments.length < descriptor.shape.required) :=
    not_or.mpr ⟨Nat.not_lt.mpr h.width, Nat.not_lt.mpr h.required⟩
  simp only [outcome, SyscallTable.insert, if_neg hfits, dif_neg (Nat.not_lt.mpr hnumber)]
  rfl

theorem outcome_of_inside (h : descriptor.shape.Fits)
    (hnumber : descriptor.shape.number.toNat < maxSyscalls) :
    table.outcome descriptor = if (table.lookup descriptor.shape.number).isSome then
      .error (.duplicate descriptor.shape.number) else .ok () := by
  have hfits : ¬ (argumentRegisters < descriptor.shape.width ∨
      descriptor.shape.arguments.length < descriptor.shape.required) :=
    not_or.mpr ⟨Nat.not_lt.mpr h.width, Nat.not_lt.mpr h.required⟩
  have hslot : table.lookup descriptor.shape.number =
      table.slots[descriptor.shape.number.toNat] := by
    rw [lookup, Vector.getElem?_eq_getElem hnumber]
    rfl
  simp only [outcome, SyscallTable.insert, if_neg hfits, dif_pos hnumber, hslot]
  split <;> rfl

theorem lookup_offered : (table.offered descriptor).lookup number =
    if table.outcome descriptor = .ok () ∧ descriptor.shape.number = number then some descriptor
    else table.lookup number := by
  unfold offered outcome
  cases hinsert : table.insert descriptor with
  | error why => simp [Except.map, Except.toOption]
  | ok next => simp [Except.map, Except.toOption, lookup_insert hinsert]

theorem offered_of_refused (h : table.outcome descriptor ≠ .ok ()) :
    table.offered descriptor = table := by
  unfold offered
  cases hinsert : table.insert descriptor with
  | error why => rfl
  | ok next => exact absurd (by rw [outcome, hinsert]; rfl) h

/-- Which of its checks decides an insertion. -/
theorem outcome_eq_iff (table : SyscallTable σ) (descriptor : CallDescriptor σ) :
    let number := descriptor.shape.number
    let result := table.outcome descriptor
    (result = .ok () ↔
      descriptor.shape.Fits ∧ number.toNat < maxSyscalls ∧ table.lookup number = none) ∧
    (result = .error (.badArguments number) ↔ ¬ descriptor.shape.Fits) ∧
    (result = .error (.numberOutOfRange number) ↔
      descriptor.shape.Fits ∧ maxSyscalls ≤ number.toNat) ∧
    (result = .error (.duplicate number) ↔
      descriptor.shape.Fits ∧ number.toNat < maxSyscalls ∧ ¬ table.lookup number = none) := by
  intro number result
  by_cases hfits : descriptor.shape.Fits
  · rcases Nat.lt_or_ge number.toNat maxSyscalls with hlt | hle
    · have hresult : result = if (table.lookup number).isSome then
          .error (.duplicate number) else .ok () := outcome_of_inside hfits hlt
      cases hlookup : table.lookup number <;> simp [hresult, hlookup, hfits, hlt]
    · have hresult : result = .error (.numberOutOfRange number) := outcome_of_outside hfits hle
      simp [hresult, hfits, hle, Nat.not_lt.mpr hle]
  · have hresult : result = .error (.badArguments number) := outcome_of_unfit hfits
    simp [hresult, hfits]

/-- Whether a table holds just these calls, each at a number of its own. -/
structure Holds (table : SyscallTable σ) (calls : List (CallDescriptor σ)) : Prop where
  lookup : ∀ number found,
    table.lookup number = some found ↔ found ∈ calls ∧ found.shape.number = number
  distinct : (calls.map fun found => found.shape.number).Nodup

namespace Holds

variable {calls : List (CallDescriptor σ)}

theorem lookup_eq_none (h : table.Holds calls) (number : UInt64) :
    table.lookup number = none ↔ ∀ other ∈ calls, other.shape.number ≠ number := by
  rw [Option.eq_none_iff_forall_ne_some]
  simp only [ne_eq, h.lookup, not_and]

/-- An insertion adds the call, if it is admitted. -/
theorem offered (h : table.Holds calls) (descriptor : CallDescriptor σ) :
    (table.offered descriptor).Holds
      (calls ++ ((table.outcome descriptor).toOption.map fun _ => descriptor).toList) := by
  by_cases hok : table.outcome descriptor = .ok ()
  · have hfree : ∀ other ∈ calls, other.shape.number ≠ descriptor.shape.number :=
      (h.lookup_eq_none _).mp ((outcome_eq_iff table descriptor).1.mp hok).2.2
    rw [hok]
    refine ⟨fun number found => ?_, ?_⟩
    · rw [lookup_offered]
      by_cases hnumber : descriptor.shape.number = number
      · subst hnumber
        rw [if_pos ⟨hok, rfl⟩]
        constructor
        · rintro ⟨⟩
          simp [Except.toOption]
        · rintro ⟨hmem, hfound⟩
          rcases List.mem_append.mp hmem with hmem | hmem
          · exact absurd hfound (hfree found hmem)
          · rw [List.mem_singleton.mp hmem]
      · rw [if_neg fun hboth => hnumber hboth.2, h.lookup]
        constructor
        · rintro ⟨hmem, hfound⟩
          exact ⟨List.mem_append_left _ hmem, hfound⟩
        · rintro ⟨hmem, hfound⟩
          rcases List.mem_append.mp hmem with hmem | hmem
          · exact ⟨hmem, hfound⟩
          · rw [List.mem_singleton.mp hmem] at hfound
            exact absurd hfound hnumber
    · have hnew : descriptor.shape.number ∉ calls.map fun found => found.shape.number := by
        simpa using hfree
      simpa [Except.toOption] using h.distinct.concat hnew
  · rw [offered_of_refused hok]
    cases houtcome : table.outcome descriptor with
    | ok => exact absurd houtcome hok
    | error why => simpa [Except.toOption] using h

theorem of_slot (h : table.Holds calls) {index : Nat}
    (hslot : table.slots[index]? = some (some found)) :
    found ∈ calls ∧ found.shape.number.toNat = index := by
  have hlt : index < maxSyscalls := (Vector.getElem?_eq_some_iff.mp hslot).1
  have hindex : (UInt64.ofNat index).toNat = index := by
    unfold maxSyscalls at hlt
    rw [UInt64.toNat_ofNat']
    omega
  have hlookup : table.lookup (UInt64.ofNat index) = some found := by
    rw [SyscallTable.lookup, hindex, hslot]
    rfl
  obtain ⟨hmem, hnumber⟩ := (h.lookup _ _).mp hlookup
  exact ⟨hmem, by rw [hnumber, hindex]⟩

theorem mem_toList (h : table.Holds calls) : found ∈ table.toList ↔ found ∈ calls := by
  have hslot : found ∈ table.toList ↔ ∃ index : Nat, table.slots[index]? = some (some found) := by
    simp [toList, Vector.mem_toList_iff, Vector.mem_iff_getElem?]
  rw [hslot]
  constructor
  · rintro ⟨index, hindex⟩
    exact (h.of_slot hindex).1
  · intro hmem
    have hlookup := (h.lookup found.shape.number found).mpr ⟨hmem, rfl⟩
    exact ⟨_, Option.join_eq_some_iff.mp hlookup⟩

theorem sorted (h : table.Holds calls) : table.toList.Pairwise fun first second =>
    first.shape.number < second.shape.number := by
  unfold toList
  rw [List.pairwise_filterMap, List.pairwise_iff_getElem]
  intro low high hlow hhigh hlt first hfirst second hsecond
  have hnumber : ∀ (index : Nat) (found : CallDescriptor σ)
      (hindex : index < table.slots.toList.length), id table.slots.toList[index] = some found →
      found.shape.number.toNat = index := by
    intro index found hindex hfound
    have hin : index < maxSyscalls := by simpa using hindex
    refine (h.of_slot ?_).2
    rw [Vector.getElem?_eq_getElem hin, ← hfound]
    rfl
  rw [UInt64.lt_iff_toNat_lt, hnumber low first hlow hfirst, hnumber high second hhigh hsecond]
  exact hlt

theorem perm (h : table.Holds calls) : table.toList.Perm calls := by
  have hlist : table.toList.Nodup := h.sorted.imp fun hlt heq => by simp [heq] at hlt
  have hcalls : calls.Nodup := h.distinct.of_map _
  exact (List.perm_ext_iff_of_nodup hlist hcalls).mpr fun found => h.mem_toList

end Holds

theorem holds_filled (past : List (CallDescriptor σ)) : (filled past).Holds (admitted past) := by
  induction past using List.reverseRecOn with
  | nil =>
    have hempty : ∀ number, (filled ([] : List (CallDescriptor σ))).lookup number = none :=
      lookup_empty
    exact ⟨fun number found => by simp [hempty, admitted], List.nodup_nil⟩
  | append_singleton past descriptor ih =>
    rw [filled_concat, admitted_concat]
    exact ih.offered descriptor

end SyscallTable

open SyscallTable

/-- Whatever calls were inserted into an empty table before, a call is admitted just if it fits
the argument registers, its number is one of the table, and no call of that number has been
admitted. Otherwise the first of these that fails is told, and the table stays as it was. At
any time the table holds the calls that were admitted, each at its number and nothing at the
others, and lists just these, in strictly increasing order of their numbers. -/
theorem table_holds_admitted_calls {σ : Type} (past : List (CallDescriptor σ))
    (descriptor : CallDescriptor σ) :
    let table := filled past
    let number := descriptor.shape.number
    let result := table.outcome descriptor
    outcomes (past ++ [descriptor]) = outcomes past ++ [result] ∧
    (result = .ok () ↔
      descriptor.shape.Fits ∧ number.toNat < maxSyscalls ∧ IsFree past number) ∧
    (result = .error (.badArguments number) ↔ ¬ descriptor.shape.Fits) ∧
    (result = .error (.numberOutOfRange number) ↔
      descriptor.shape.Fits ∧ maxSyscalls ≤ number.toNat) ∧
    (result = .error (.duplicate number) ↔
      descriptor.shape.Fits ∧ number.toNat < maxSyscalls ∧ ¬ IsFree past number) ∧
    (result ≠ .ok () → filled (past ++ [descriptor]) = table) ∧
    (∀ wanted found, table.lookup wanted = some found ↔
      found ∈ admitted past ∧ found.shape.number = wanted) ∧
    (∀ wanted, table.lookup wanted = none ↔ IsFree past wanted) ∧
    ((admitted past).map fun found => found.shape.number).Nodup ∧
    table.toList.Perm (admitted past) ∧
    table.toList.Pairwise fun first second => first.shape.number < second.shape.number := by
  intro table number result
  have hholds : table.Holds (admitted past) := holds_filled past
  have hkept : result ≠ .ok () → filled (past ++ [descriptor]) = table := fun h => by
    rw [filled_concat, offered_of_refused h]
  have hverdict := outcome_eq_iff table descriptor
  simp only [hholds.lookup_eq_none] at hverdict
  obtain ⟨hok, hbad, hrange, hduplicate⟩ := hverdict
  exact ⟨outcomes_concat, hok, hbad, hrange, hduplicate, hkept, hholds.lookup,
    hholds.lookup_eq_none, hholds.distinct, hholds.perm, hholds.sorted⟩

/-- A call that wants the number of another one. -/
def CallDescriptor.intruder : CallDescriptor Unit :=
  { shape := { number := 3, name := "intrude" }, handler := .getpid }

/-- The first call of a number stays. -/
theorem intruder_is_refused :
    outcomes [.yield, .intruder] = [.ok (), .error (.duplicate 3)] ∧
      (filled [.yield, .intruder]).lookup 3 = some .yield := by
  obtain ⟨houtcomes, -, -, -, hduplicate, hkept, hlookup, -⟩ :=
    table_holds_admitted_calls [.yield] CallDescriptor.intruder
  have hfits : CallDescriptor.intruder.shape.Fits := ⟨by decide, by decide⟩
  have hadmitted : CallDescriptor.yield ∈ admitted [CallDescriptor.yield (σ := Unit)] :=
    List.mem_singleton_self _
  have hrefused := hduplicate.mpr ⟨hfits, by decide, fun hfree => hfree _ hadmitted rfl⟩
  refine ⟨?_, ?_⟩
  · rw [hrefused] at houtcomes
    exact houtcomes
  · have hsame := hkept (by simp [hrefused])
    have hfound := (hlookup 3 .yield).mpr ⟨hadmitted, rfl⟩
    rw [← hsame] at hfound
    exact hfound

end TrapDispatch
