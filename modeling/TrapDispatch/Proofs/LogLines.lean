import TrapDispatch.Log.Line

/-!
# What a log line shows

A line shows the longest start of its text that leaves room for the newline and ends where a
character ends. How the text was split into pieces does not matter, and nothing of the line is
lost when it is read back.
-/

namespace TrapDispatch

/-- Whether a text starts another one, with at most `room` bytes and as many as can be. -/
structure LongestStart (room : Nat) (text start : String) : Prop where
  splits : ∃ rest, text = start ++ rest
  fits : start.utf8ByteSize ≤ room
  longest : ∀ other rest, text = other ++ rest → other.utf8ByteSize ≤ room →
    other.utf8ByteSize ≤ start.utf8ByteSize

/-- The text of a record as a line begins with it. -/
def Record.content (r : Record) : String :=
  "[" ++ r.level.tag ++ "] " ++ r.target ++ ": " ++ r.text

namespace LongestStart

variable {room : Nat} {text start : String}

theorem of_fits (h : text.utf8ByteSize ≤ room) : LongestStart room text text := by
  refine ⟨⟨"", String.append_empty.symm⟩, h, fun other rest hsplit _ => ?_⟩
  rw [hsplit, String.utf8ByteSize_append]
  omega

theorem eq_of_fits (h : LongestStart room text start) (hfits : text.utf8ByteSize ≤ room) :
    start = text := by
  obtain ⟨rest, hrest⟩ := h.splits
  have hlongest := h.longest text "" String.append_empty.symm hfits
  rw [hrest, String.utf8ByteSize_append] at hlongest
  have hempty : rest = "" := String.utf8ByteSize_eq_zero_iff.mp (by omega)
  rw [hrest, hempty, String.append_empty]

/-- A start that fits is the longest one if it does not with the character behind it. -/
theorem eq_of_cut {kept rest : String} {c : Char} (h : LongestStart room text start)
    (hsplit : text = kept ++ (String.singleton c ++ rest)) (hfits : kept.utf8ByteSize ≤ room)
    (hcut : room < kept.utf8ByteSize + c.utf8Size) : start = kept := by
  obtain ⟨other, hother⟩ := h.splits
  have hlists : kept.toList ++ c :: rest.toList = start.toList ++ other.toList := by
    rw [← String.toList_append, ← hother, hsplit]
    simp
  rcases List.append_eq_append_iff.mp hlists with ⟨more, hstart, hmore⟩ | ⟨less, hkept, -⟩
  · cases more with
    | nil => exact String.toList_inj.mp (hstart.trans (List.append_nil _))
    | cons d more =>
      have hsame : c = d := (List.cons.inj hmore).1
      have hsize : start = kept ++ (String.singleton c ++ String.ofList more) := by
        rw [← String.toList_inj, hstart, hsame]
        simp
      have hlonger := h.fits
      rw [hsize, String.utf8ByteSize_append, String.utf8ByteSize_append,
        String.utf8ByteSize_singleton] at hlonger
      omega
  · have hlonger := h.longest kept _ hsplit hfits
    have hsize : kept = start ++ String.ofList less := by
      rw [← String.toList_inj, hkept]
      simp
    rw [hsize, String.utf8ByteSize_append] at hlonger
    have hempty : String.ofList less = "" := String.utf8ByteSize_eq_zero_iff.mp (by omega)
    rw [hsize, hempty, String.append_empty]

end LongestStart

namespace LineBuffer

variable {text start : String} {room : Nat}

theorem exists_append_of_extract (h : start.toByteArray = text.toByteArray.extract 0 room) :
    ∃ rest, text = start ++ rest := by
  have hbytes : start.toList.utf8Encode ++ text.toByteArray.extract room text.toByteArray.size =
      text.toList.utf8Encode := by
    rw [String.utf8Encode_toList, String.utf8Encode_toList, h, ByteArray.extract_append_extract,
      Nat.zero_min, ByteArray.extract_zero_max_size]
  obtain ⟨rest, hrest⟩ := List.isPrefix_of_utf8Encode_append_eq_utf8Encode _ hbytes
  refine ⟨String.ofList rest, ?_⟩
  rw [← String.toList_inj, String.toList_append, String.toList_ofList, hrest]

theorem extract_min_size (bytes : ByteArray) (length : Nat) :
    bytes.extract 0 (min length bytes.size) = bytes.extract 0 length := by
  calc
    _ = (bytes.extract 0 bytes.size).extract 0 length := by
      rw [ByteArray.extract_extract, Nat.zero_add, Nat.zero_add]
    _ = _ := by rw [ByteArray.extract_zero_size]

theorem extract_of_size_le {bytes : ByteArray} {length : Nat} (h : bytes.size ≤ length) :
    bytes.extract 0 length = bytes := by
  have hmax : bytes.extract 0 (max length bytes.size) = bytes := ByteArray.extract_zero_max_size
  rwa [Nat.max_eq_left h] at hmax

/-- What is read back from the bytes of a text is its longest start that fits. -/
theorem longestStart_validStart (text : String) {capacity : Nat} (h : room ≤ capacity) :
    LongestStart room text (validStart (text.toByteArray.extract 0 capacity) room) := by
  induction room with
  | zero =>
    refine ⟨⟨text, String.empty_append.symm⟩, Nat.le_refl 0, fun other rest _ hfits => hfits⟩
  | succ room ih =>
    have hextract : (text.toByteArray.extract 0 capacity).extract 0 (room + 1) =
        text.toByteArray.extract 0 (room + 1) := by
      rw [ByteArray.extract_extract]
      congr 1
      omega
    rw [validStart, hextract]
    unfold String.fromUTF8?
    by_cases hvalid : (text.toByteArray.extract 0 (room + 1)).IsValidUTF8
    · rw [dif_pos hvalid]
      change LongestStart (room + 1) text (String.fromUTF8 _ hvalid)
      have hsize : (String.fromUTF8 _ hvalid).utf8ByteSize = min (room + 1) text.utf8ByteSize :=
        ByteArray.size_extract
      refine ⟨exists_append_of_extract rfl, by omega, fun other rest hsplit hfits => ?_⟩
      have hother : text.utf8ByteSize = other.utf8ByteSize + rest.utf8ByteSize := by
        rw [hsplit, String.utf8ByteSize_append]
      omega
    · rw [dif_neg hvalid]
      have hstart := ih (by omega)
      refine ⟨hstart.splits, Nat.le_succ_of_le hstart.fits, fun other rest hsplit hfits => ?_⟩
      -- A start of just this size would have been valid.
      have hne : other.utf8ByteSize ≠ room + 1 := by
        intro hsize
        refine hvalid ?_
        rw [hsplit, String.toByteArray_append, ByteArray.extract_append_eq_left hsize.symm]
        exact other.isValidUTF8
      exact hstart.longest other rest hsplit (by omega)

theorem validStart_self (text : String) :
    validStart text.toByteArray text.toByteArray.size = text := by
  have hlongest := longestStart_validStart text (Nat.le_refl text.toByteArray.size)
  rw [ByteArray.extract_zero_size] at hlongest
  exact hlongest.eq_of_fits (Nat.le_refl _)

def written (text : String) : LineBuffer :=
  { bytes := text.toByteArray.extract 0 lineCapacity }

theorem write_written (text piece : String) :
    (written text).write piece = written (text ++ piece) := by
  have hroom : lineCapacity - (text.toByteArray.extract 0 lineCapacity).size =
      lineCapacity - text.toByteArray.size := by
    rw [ByteArray.size_extract]
    omega
  refine congrArg LineBuffer.mk ?_
  calc
    _ = text.toByteArray.extract 0 lineCapacity ++ piece.toByteArray.extract 0
        (min (lineCapacity - text.toByteArray.size) piece.toByteArray.size) := by
      rw [← hroom]
      rfl
    _ = (text ++ piece).toByteArray.extract 0 lineCapacity := by
      rw [extract_min_size, String.toByteArray_append, ByteArray.extract_append, Nat.zero_sub]

/-- However a text is split, the same is written. -/
theorem foldl_write (pieces : List String) (text : String) :
    pieces.foldl write (written text) = written (text ++ String.join pieces) := by
  induction pieces generalizing text with
  | nil => simp
  | cons piece rest ih =>
    rw [List.foldl_cons, write_written, ih, String.join_cons, String.append_assoc]

theorem foldl_write_empty (pieces : List String) :
    pieces.foldl write {} = written (String.join pieces) := by
  have hempty : ({} : LineBuffer) = written "" := by
    simp [written, String.toByteArray_empty, extract_of_size_le]
  rw [hempty, foldl_write, String.empty_append]

theorem written_of_le (h : text.utf8ByteSize ≤ lineCapacity) :
    written text = { bytes := text.toByteArray } :=
  congrArg LineBuffer.mk (extract_of_size_le h)

/-- What is left of a full buffer, or of one that is not full, when it is finished. -/
theorem exists_finish_written (text : String) :
    ∃ kept, LongestStart (lineCapacity - 1) text kept ∧
      (written text).finish = written (kept ++ "\n") := by
  have hsize : (written text).bytes.size = min lineCapacity text.utf8ByteSize :=
    ByteArray.size_extract
  unfold finish makeRoom
  by_cases hfull : (written text).bytes.size = lineCapacity
  · have hkept : LongestStart (lineCapacity - 1) text
        (validStart (written text).bytes (lineCapacity - 1)) :=
      longestStart_validStart text (Nat.sub_le lineCapacity 1)
    have hfits := Nat.le_trans hkept.fits (Nat.sub_le lineCapacity 1)
    refine ⟨_, hkept, ?_⟩
    rw [if_pos hfull, ← write_written, written_of_le hfits]
    rfl
  · have hfits : text.utf8ByteSize ≤ lineCapacity - 1 := by omega
    exact ⟨text, .of_fits hfits, by rw [if_neg hfull, write_written]⟩

end LineBuffer

theorem Record.join_pieces (r : Record) : String.join r.pieces = r.content := by
  simp [Record.pieces, Record.content, String.join_cons, String.append_assoc]

open LineBuffer

/-- However the text of a record is split into pieces, the finished buffer has at most 256 bytes,
and all of them are read back: the longest start of the record's text that has at most 255 bytes
and ends with a character, and then a newline. A text of at most 255 bytes is there as a whole.
The line is the same for all ways to split the text. -/
theorem lines_keep_longest_start (r : Record) (pieces : List String)
    (hpieces : String.join pieces = r.content) :
    let buffer := (pieces.foldl LineBuffer.write {}).finish
    buffer.bytes.size ≤ lineCapacity ∧
    buffer.text.toByteArray = buffer.bytes ∧
    buffer.text = r.line ∧
    ∃ kept, buffer.text = kept ++ "\n" ∧ LongestStart (lineCapacity - 1) r.content kept ∧
      (r.content.utf8ByteSize ≤ lineCapacity - 1 → kept = r.content) := by
  intro buffer
  obtain ⟨kept, hkept, hfinish⟩ := exists_finish_written r.content
  have hbuffer : buffer = written (kept ++ "\n") := by
    rw [← hfinish, ← hpieces, ← foldl_write_empty]
  have hfits : (kept ++ "\n").utf8ByteSize ≤ lineCapacity := by
    have hcapacity : lineCapacity = lineCapacity - 1 + 1 := rfl
    rw [String.utf8ByteSize_append, hcapacity]
    exact Nat.add_le_add_right hkept.fits 1
  have hwritten : buffer = { bytes := (kept ++ "\n").toByteArray } := by
    rw [hbuffer, written_of_le hfits]
  have htext : buffer.text = kept ++ "\n" := by
    rw [hwritten]
    exact validStart_self (kept ++ "\n")
  have hline : r.line = buffer.text := by
    rw [Record.line, foldl_write_empty, r.join_pieces, hfinish, ← hbuffer]
  refine ⟨?_, ?_, hline.symm, kept, htext, hkept, hkept.eq_of_fits⟩
  · rw [hwritten]
    exact hfits
  · rw [htext, hwritten]

/-- A record whose message is that often the same character, which has three bytes. -/
def Record.repeating (times : Nat) : Record :=
  { level := .info, target := "t", text := String.ofList (List.replicate times '→') }

/-- A line that could end in the midst of a character ends before it. -/
theorem long_line_ends_between_characters :
    (Record.repeating 81).content.utf8ByteSize = lineCapacity - 2 ∧
      (Record.repeating 100).line = (Record.repeating 81).content ++ "\n" := by
  obtain ⟨-, -, hline, kept, htext, hlongest, -⟩ := lines_keep_longest_start (.repeating 100)
    (Record.repeating 100).pieces (Record.repeating 100).join_pieces
  have hsize : (Record.repeating 81).content.utf8ByteSize = lineCapacity - 2 := by
    decide +kernel
  have hsplit : (Record.repeating 100).content = (Record.repeating 81).content ++
      (String.singleton '→' ++ String.ofList (List.replicate 18 '→')) := by
    decide +kernel
  have hkept : kept = (Record.repeating 81).content :=
    hlongest.eq_of_cut hsplit (hsize ▸ by decide) (hsize ▸ by decide)
  exact ⟨hsize, by rw [← hline, htext, hkept]⟩

end TrapDispatch
