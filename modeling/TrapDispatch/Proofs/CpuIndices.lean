import Mathlib.Data.List.FinRange
import Mathlib.Data.UInt
import TrapDispatch.CpuIndex

/-!
# Indices in the order of first sight

A processor claims an index by its tag, and the tag of the last identifier is
that of a free index. The calls before fix a list of owners, the identifiers
that can claim in the order in which they were first seen; every reply and the
whole map follow from that list.
-/

namespace TrapDispatch
namespace CpuIndexMap

variable {map : CpuIndexMap} {owners past later : List UInt64} {id other : UInt64}

def answer (map : CpuIndexMap) (id : UInt64) : Option (Fin maxCpus) :=
  (map.indexOf id).map Prod.fst

def after (map : CpuIndexMap) (id : UInt64) : CpuIndexMap :=
  ((map.indexOf id).map Prod.snd).getD map

/-- The map after the identifiers have asked for their index, one after the
other, with no index claimed at first. -/
def asked (ids : List UInt64) : CpuIndexMap :=
  ids.foldl after {}

/-- The identifier whose tag is the tag of a free index. -/
def lastId : UInt64 := 0xffffffffffffffff

/-- The identifiers that can claim an index, in the order in which they are
first seen. -/
def firstSights (ids : List UInt64) : List UInt64 :=
  (ids.filter fun id => id ≠ lastId).eraseDups

/-- The tag of an index, if these identifiers claim the indices in this order. -/
def tagIn (owners : List UInt64) (index : Nat) : UInt64 :=
  (owners[index]?.map fun owner => owner + 1).getD 0

/-- Whether the indices are claimed by these identifiers, in this order. -/
structure OwnedBy (map : CpuIndexMap) (owners : List UInt64) : Prop where
  tag : ∀ index : Fin maxCpus, map.tags.get index = tagIn owners index
  claims : ∀ owner ∈ owners, owner ≠ lastId

theorem add_one_eq_zero_iff : id + 1 = 0 ↔ id = lastId := by
  unfold lastId
  constructor <;> intro h
  · exact (eq_sub_of_add_eq h).trans rfl
  · rw [h]
    rfl

theorem tagIn_of_getElem? {index : Nat} (h : owners[index]? = some id) :
    tagIn owners index = id + 1 := by
  simp [tagIn, h]

theorem tagIn_of_length_le {index : Nat} (h : owners.length ≤ index) : tagIn owners index = 0 := by
  simp [tagIn, List.getElem?_eq_none h]

theorem fits_tagIn_idxOf : fits id (tagIn owners (owners.idxOf id)) = true := by
  by_cases hid : id ∈ owners
  · simp [fits, tagIn_of_getElem? (List.getElem?_idxOf hid)]
  · simp [fits, tagIn_of_length_le (List.idxOf_eq_length_iff.mpr hid).ge]

theorem not_fits_tagIn {index : Nat} (howners : ∀ owner ∈ owners, owner ≠ lastId)
    (hindex : index < owners.idxOf id) : fits id (tagIn owners index) = false := by
  have hlt : index < owners.length := hindex.trans_le List.idxOf_le_length
  have hother : owners[index] ≠ id := by simpa using List.not_of_lt_findIdx hindex
  have hclaims : owners[index] + 1 ≠ 0 := fun h =>
    howners _ (List.getElem_mem hlt) (add_one_eq_zero_iff.mp h)
  rw [tagIn_of_getElem? (List.getElem?_eq_getElem hlt)]
  simp [fits, hclaims, hother]

/-- The owners after an identifier has asked, if all indices were there to claim. -/
def claim (owners : List UInt64) (id : UInt64) : List UInt64 :=
  if id ∈ owners ∨ id = lastId then owners else owners ++ [id]

theorem tagIn_claim (index : Nat) :
    tagIn (claim owners id) index =
      if index = owners.idxOf id then id + 1 else tagIn owners index := by
  unfold claim
  by_cases hmem : id ∈ owners
  · rw [if_pos (.inl hmem)]
    split
    · rename_i hplace
      rw [hplace, tagIn_of_getElem? (List.getElem?_idxOf hmem)]
    · rfl
  · have hplace : owners.idxOf id = owners.length := List.idxOf_eq_length_iff.mpr hmem
    by_cases hid : id = lastId
    · rw [if_pos (.inr hid)]
      split
      · rw [add_one_eq_zero_iff.mpr hid, tagIn_of_length_le (by omega)]
      · rfl
    · rw [if_neg (by simp [hmem, hid]), hplace]
      rcases Nat.lt_trichotomy index owners.length with hlt | heq | hgt
      · simp [tagIn, List.getElem?_append_left hlt, hlt.ne]
      · simp [tagIn, heq]
      · rw [if_neg (by omega), tagIn_of_length_le (by simp; omega), tagIn_of_length_le (by omega)]

namespace OwnedBy

theorem fits_tags (h : map.OwnedBy owners) (id : UInt64) (index : Fin maxCpus) :
    fits id (map.tags.get index) = fits id (tagIn owners index) := by
  rw [h.tag index]

theorem indexOf_of_lt (h : map.OwnedBy owners) (hplace : owners.idxOf id < maxCpus) :
    map.indexOf id = some (⟨owners.idxOf id, hplace⟩,
      { tags := map.tags.set (owners.idxOf id) (id + 1) hplace }) := by
  have hfind : ((List.finRange maxCpus).find? fun index => fits id map.tags[index]) =
      some ⟨owners.idxOf id, hplace⟩ := by
    refine List.find?_eq_some_iff_getElem.mpr ⟨?_, owners.idxOf id, by simpa using hplace, ?_, ?_⟩
    · exact (h.fits_tags id _).trans fits_tagIn_idxOf
    · simp
    · intro index hindex
      rw [List.getElem_finRange, Bool.not_eq_true']
      exact (h.fits_tags id _).trans (not_fits_tagIn h.claims hindex)
  simp only [indexOf, hfind]

theorem indexOf_of_le (h : map.OwnedBy owners) (hplace : maxCpus ≤ owners.idxOf id) :
    map.indexOf id = none := by
  have hfind : ((List.finRange maxCpus).find? fun index => fits id map.tags[index]) = none := by
    refine List.find?_eq_none.mpr fun index _ => ?_
    rw [Bool.not_eq_true]
    exact (h.fits_tags id index).trans (not_fits_tagIn h.claims (index.isLt.trans_le hplace))
  simp only [indexOf, hfind]

theorem answer_eq (h : map.OwnedBy owners) (id : UInt64) :
    (map.answer id).map Fin.val =
      if owners.idxOf id < maxCpus then some (owners.idxOf id) else none := by
  unfold answer
  rcases Nat.lt_or_ge (owners.idxOf id) maxCpus with hlt | hle
  · simp [h.indexOf_of_lt hlt, hlt]
  · simp [h.indexOf_of_le hle, hle.not_gt]

theorem after (h : map.OwnedBy owners) (id : UInt64) :
    (map.after id).OwnedBy (claim owners id) where
  tag index := by
    rw [tagIn_claim]
    unfold CpuIndexMap.after
    rcases Nat.lt_or_ge (owners.idxOf id) maxCpus with hlt | hle
    · rw [h.indexOf_of_lt hlt]
      change (map.tags.set (owners.idxOf id) (id + 1) hlt)[index.val] = _
      rw [Vector.getElem_set]
      simp only [eq_comm (a := index.val)]
      split
      · rfl
      · exact h.tag index
    · rw [h.indexOf_of_le hle, if_neg (index.isLt.trans_le hle).ne]
      exact h.tag index
  claims owner howner := by
    unfold claim at howner
    split at howner
    · exact h.claims owner howner
    · rename_i hid
      rcases List.mem_append.mp howner with howner | howner
      · exact h.claims owner howner
      · rw [List.mem_singleton.mp howner]
        exact fun hlast => hid (.inr hlast)

end OwnedBy

theorem mem_firstSights {ids : List UInt64} :
    id ∈ firstSights ids ↔ id ∈ ids ∧ id ≠ lastId := by
  simp [firstSights]

theorem firstSights_append : firstSights (past ++ later) =
    firstSights past ++ firstSights (later.filter fun id => id ∉ past) := by
  unfold firstSights
  rw [List.filter_append, List.eraseDups_append, List.filter_filter, List.removeAll,
    List.filter_filter]
  congr 2
  refine List.filter_congr fun id _ => ?_
  by_cases hid : id = lastId <;> simp [hid]

theorem firstSights_cons_self (hid : id ≠ lastId) :
    firstSights (id :: later) = id :: firstSights (later.filter fun other => other ≠ id) := by
  have hsingle : firstSights [id] = [id] := by simp [firstSights, hid, List.eraseDups_cons]
  have happend : firstSights ([id] ++ later) =
      firstSights [id] ++ firstSights (later.filter fun other => other ∉ [id]) :=
    firstSights_append
  simpa [hsingle] using happend

theorem firstSights_concat : firstSights (past ++ [id]) = claim (firstSights past) id := by
  have hnil : firstSights [] = [] := by simp [firstSights]
  unfold claim
  by_cases hid : id = lastId
  · simp [firstSights, hid]
  · by_cases hmem : id ∈ past <;>
      simp [firstSights_append, firstSights_cons_self, mem_firstSights, hmem, hid, hnil]

theorem nodup_firstSights (ids : List UInt64) : (firstSights ids).Nodup := by
  induction ids using List.reverseRecOn with
  | nil => simp [firstSights]
  | append_singleton past id ih =>
    rw [firstSights_concat, claim]
    split
    · exact ih
    · rename_i hid
      simpa using ih.concat fun hmem => hid (.inl hmem)

/-- The place of an identifier that can claim stays what it was when the
identifier asked first. -/
theorem idxOf_firstSights_append (hid : id ≠ lastId) :
    (firstSights (past ++ id :: later)).idxOf id = (firstSights past).idxOf id := by
  rw [firstSights_append]
  by_cases hmem : id ∈ past
  · exact List.idxOf_append_of_mem (mem_firstSights.mpr ⟨hmem, hid⟩)
  · have hfirst : id ∉ firstSights past := fun h => hmem (mem_firstSights.mp h).1
    rw [List.idxOf_append_of_notMem hfirst, List.idxOf_eq_length_iff.mpr hfirst]
    simp [hmem, firstSights_cons_self hid]

theorem asked_concat : asked (past ++ [id]) = (asked past).after id := by
  simp [asked]

/-- After any calls the indices are claimed in the order of first sight. -/
theorem asked_ownedBy (ids : List UInt64) : (asked ids).OwnedBy (firstSights ids) := by
  induction ids using List.reverseRecOn with
  | nil =>
    refine ⟨fun index => ?_, by simp [firstSights]⟩
    change (Vector.replicate maxCpus (0 : UInt64))[index.val] = _
    simp [tagIn, firstSights]
  | append_singleton past id ih =>
    rw [asked_concat, firstSights_concat]
    exact ih.after id

theorem answer_asked (ids : List UInt64) (id : UInt64) :
    ((asked ids).answer id).map Fin.val =
      if (firstSights ids).idxOf id < maxCpus then some ((firstSights ids).idxOf id) else none :=
  (asked_ownedBy ids).answer_eq id

theorem answer_asked_eq_some {index : Fin maxCpus} :
    (asked past).answer id = some index ↔ (firstSights past).idxOf id = index := by
  rw [← (Option.map_injective Fin.val_injective).eq_iff, answer_asked, Option.map_some]
  split
  · simp
  · simp only [reduceCtorEq, false_iff]
    omega

/-- An identifier that is refused is none of those that claimed the indices. -/
theorem answer_asked_eq_none : (asked past).answer id = none ↔
    maxCpus ≤ (firstSights past).length ∧ id ∉ (firstSights past).take maxCpus := by
  rw [← Option.map_eq_none_iff (f := Fin.val), answer_asked, ite_eq_right_iff]
  simp only [reduceCtorEq, imp_false, not_lt]
  by_cases hmem : id ∈ firstSights past
  · have hlt := List.idxOf_lt_length_of_mem hmem
    rw [List.mem_take_iff_idxOf_lt hmem]
    omega
  · have htake : id ∉ (firstSights past).take maxCpus := fun h => hmem (List.mem_of_mem_take h)
    simp [List.idxOf_eq_length_iff.mpr hmem, htake]

theorem OwnedBy.unique {map' : CpuIndexMap} (h : map.OwnedBy owners) (h' : map'.OwnedBy owners) :
    map = map' := by
  have htags : map.tags = map'.tags :=
    Vector.ext fun index hindex => (h.tag ⟨index, hindex⟩).trans (h'.tag ⟨index, hindex⟩).symm
  exact congrArg CpuIndexMap.mk htags

theorem after_lastId (ids : List UInt64) : (asked ids).after lastId = asked ids := by
  have hafter := (asked_ownedBy ids).after lastId
  rw [claim, if_pos (.inr rfl)] at hafter
  exact hafter.unique (asked_ownedBy ids)

end CpuIndexMap

open CpuIndexMap

/-- Whatever identifiers have asked before, an identifier that can claim is told
its place in the order of first sight, as long as there are that many indices.
It is told the same index ever after, and no other identifier is. Refused are
just those that do not come among the first to claim when all indices are
claimed. The last identifier changes nothing in the map and is told the first
index that is still free. -/
theorem indices_follow_first_sight (past : List UInt64) (id : UInt64) :
    (∀ place, (firstSights (past ++ [id]))[place]? = some id →
      ((asked past).answer id).map Fin.val = if place < maxCpus then some place else none) ∧
    (id ≠ lastId → ∀ index, (asked past).answer id = some index → ∀ later,
      (asked (past ++ id :: later)).answer id = some index ∧
      ∀ other, (asked (past ++ id :: later)).answer other = some index → other = id) ∧
    ((asked past).answer id = none ↔
      maxCpus ≤ (firstSights past).length ∧ id ∉ (firstSights past).take maxCpus) ∧
    (asked past).after lastId = asked past ∧
    ((asked past).answer lastId).map Fin.val =
      if (firstSights past).length < maxCpus then some (firstSights past).length else none := by
  refine ⟨fun place hplace => ?_, fun hid index hindex later => ?_, answer_asked_eq_none,
    after_lastId past, ?_⟩
  · have hmem : id ∈ firstSights (past ++ [id]) := List.mem_of_getElem? hplace
    have hid : id ≠ lastId := (mem_firstSights.mp hmem).2
    have hidxOf : (firstSights past).idxOf id = place := by
      have hbefore : (firstSights (past ++ [id])).idxOf id = (firstSights past).idxOf id :=
        idxOf_firstSights_append hid
      rw [← hbefore]
      have hsame := (List.getElem?_idxOf hmem).trans hplace.symm
      exact (List.getElem?_inj (List.idxOf_lt_length_of_mem hmem) (nodup_firstSights _)).mp hsame
    rw [answer_asked, hidxOf]
  · have hplace : (firstSights (past ++ id :: later)).idxOf id = (firstSights past).idxOf id :=
      idxOf_firstSights_append hid
    rw [answer_asked_eq_some.mp hindex] at hplace
    have hmem : id ∈ firstSights (past ++ id :: later) := mem_firstSights.mpr ⟨by simp, hid⟩
    refine ⟨answer_asked_eq_some.mpr hplace, fun other hother => ?_⟩
    exact ((List.idxOf_inj hmem).mp (hplace.trans (answer_asked_eq_some.mp hother).symm)).symm
  · have hfree : lastId ∉ firstSights past := fun h => (mem_firstSights.mp h).2 rfl
    rw [answer_asked, List.idxOf_eq_length_iff.mpr hfree]

/-- The last identifier and the next one to ask are told the same index. -/
theorem last_identifier_shares_index :
    ((asked []).answer lastId).map Fin.val = some 0 ∧
      ((asked [lastId]).answer 3).map Fin.val = some 0 := by
  obtain ⟨-, -, -, -, hlast⟩ := indices_follow_first_sight [] 3
  obtain ⟨hfirst, -⟩ := indices_follow_first_sight [lastId] 3
  have hthree : firstSights [lastId, 3] = [3] := by decide
  exact ⟨hlast, hfirst 0 (by simp [hthree])⟩

end TrapDispatch
