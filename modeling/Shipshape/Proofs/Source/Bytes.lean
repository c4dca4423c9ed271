import Shipshape.Proofs.Source.Line

/-!
# Lines as ranges of bytes

An offset counts bytes and a line is cut out of characters. Here both are said of the
bytes of a text alone: where the line of an offset begins and ends, which number it has,
and which column the offset is in.

* `Shipshape.Source.bytes` – the bytes of a run of characters in UTF-8;
* `Shipshape.Source.feed` – the byte that ends a line, which no other character has
  (`Shipshape.Source.feed_mem_utf8EncodeChar`);
* `Shipshape.Source.LineRange` – the bytes of the line that holds an offset, of which
  there is one range only (`Shipshape.Source.LineRange.unique`);
* `Shipshape.Source.locate_lineRange` – what is found for an offset, said in bytes.

## Offsets inside a character

A line of characters is turned into a range of bytes by
`Shipshape.Source.LineAt.lineRange`. The offset itself need not be where a character
begins. What makes this harmless is that a line feed is a character of one byte, and that
its byte occurs in no other character: the line feeds before an offset are the same, be
they counted as bytes or as characters.
-/

namespace Shipshape.Source

/-! ### Bytes -/

/-- The bytes of a run of characters in UTF-8. -/
def bytes (cs : List Char) : List UInt8 := cs.flatMap String.utf8EncodeChar

@[simp]
theorem length_bytes (cs : List Char) : (bytes cs).length = byteLength cs := by
  induction cs with
  | nil => rfl
  | cons c cs ih =>
    rw [bytes, List.flatMap_cons, List.length_append, String.length_utf8EncodeChar, byteLength]
    exact congrArg _ ih

theorem bytes_append (xs ys : List Char) : bytes (xs ++ ys) = bytes xs ++ bytes ys :=
  List.flatMap_append

/-- The bytes of a text are those of its characters. -/
theorem bytes_toList (s : String) : bytes s.toList = s.toByteArray.data.toList := by
  conv_rhs => rw [← String.ofList_toList (s := s), String.toByteArray_ofList, List.utf8Encode,
    List.data_toByteArray]
  rfl

/-- A byte of a piece of a text, counted from the front of the piece. -/
theorem getElem?_bytes_middle {front piece rest : List Char} {offset : Nat}
    (hstart : byteLength front ≤ offset) (hstop : offset < byteLength front + byteLength piece) :
    (bytes piece)[offset - byteLength front]? = (bytes (front ++ piece ++ rest))[offset]? := by
  rw [bytes_append, bytes_append, List.append_assoc,
    List.getElem?_append_right (by rwa [length_bytes]), length_bytes,
    List.getElem?_append_left (by rw [length_bytes]; omega)]

theorem byteLength_of_spaces {cs : List Char} (h : ∀ c ∈ cs, c = ' ') :
    byteLength cs = cs.length := by
  induction cs with
  | nil => rfl
  | cons c cs ih =>
    obtain ⟨rfl, hcs⟩ := List.forall_mem_cons.mp h
    rw [byteLength, ih hcs, List.length_cons, Nat.add_comm]
    rfl

theorem byteLength_eq_zero_iff {cs : List Char} : byteLength cs = 0 ↔ cs = [] := by
  cases cs with
  | nil => exact ⟨fun _ => rfl, fun _ => rfl⟩
  | cons c cs =>
    have hpos := c.utf8Size_pos
    simp only [byteLength, reduceCtorEq, iff_false]
    omega

/-! ### Line feeds among the bytes -/

/-- The byte that ends a line. -/
def feed : UInt8 := 10

/-- A character beyond the first 128 has no byte below 128. -/
theorem le_of_mem_utf8EncodeChar {c : Char} (hc : 127 < c.val.toNat) :
    ∀ b ∈ String.utf8EncodeChar c, 128 ≤ b.toNat := by
  rw [String.utf8EncodeChar, if_neg (by omega)]
  split_ifs <;>
    simp only [List.forall_mem_cons, UInt8.toNat_ofNat', List.not_mem_nil, false_imp_iff,
      implies_true, and_true] <;> omega

/-- **No other character has the byte of a line feed.** -/
theorem feed_mem_utf8EncodeChar {c : Char} (h : feed ∈ String.utf8EncodeChar c) : c = '\n' := by
  have hfeed : feed.toNat = 10 := rfl
  by_cases hc : 127 < c.val.toNat
  · have hlow := le_of_mem_utf8EncodeChar hc feed h
    omega
  · rw [String.utf8EncodeChar, if_pos (by omega), List.mem_singleton] at h
    have hval := congrArg UInt8.toNat h
    rw [UInt8.toNat_ofNat', hfeed] at hval
    refine Char.ext (UInt32.toNat_inj.mp ?_)
    change c.val.toNat = 10
    omega

/-- There are as many line feeds among the bytes as among the characters. -/
theorem count_bytes (cs : List Char) : (bytes cs).count feed = cs.count '\n' := by
  induction cs with
  | nil => rfl
  | cons c cs ih =>
    rw [bytes, List.flatMap_cons, List.count_append]
    change _ + (bytes cs).count feed = _
    by_cases hc : c = '\n'
    · subst hc
      rw [ih, List.count_cons_self, Nat.add_comm]
      rfl
    · rw [List.count_eq_zero_of_not_mem (mt feed_mem_utf8EncodeChar hc), ih, Nat.zero_add,
        List.count_cons_of_ne hc]

/-- Where a new line begins, the byte before is a line feed. -/
theorem EndsLine.getElem?_bytes {cs : List Char} (h : EndsLine cs) (rest : List UInt8) :
    byteLength cs = 0 ∨ (bytes cs ++ rest)[byteLength cs - 1]? = some feed := by
  rcases h with rfl | ⟨ds, rfl⟩
  · exact .inl rfl
  · refine .inr ?_
    have hlast : byteLength (ds ++ ['\n']) - 1 = (bytes ds).length := by
      rw [byteLength_append, length_bytes]
      rfl
    rw [hlast, bytes_append, List.append_assoc, List.getElem?_append_right (Nat.le_refl _),
      Nat.sub_self]
    rfl

/-- Inside a line of characters there is no byte of a line feed either, apart from its
last one. -/
theorem feed_notMem_dropLast_bytes {line : List Char} (h : '\n' ∉ line.dropLast) :
    feed ∉ (bytes line).dropLast := by
  rcases List.eq_nil_or_concat line with rfl | ⟨front, c, rfl⟩
  · simp [bytes]
  · rw [List.concat_eq_append, List.dropLast_concat] at h
    have hlast : feed ∉ (String.utf8EncodeChar c).dropLast := by
      intro hmem
      obtain rfl := feed_mem_utf8EncodeChar (List.dropLast_subset _ hmem)
      exact List.not_mem_nil hmem
    have hfront : feed ∉ bytes front := by
      rw [← List.count_eq_zero, count_bytes, List.count_eq_zero]
      exact h
    rw [List.concat_eq_append, bytes_append, List.dropLast_append_of_ne_nil (by simp [bytes]),
      List.mem_append, not_or]
    exact ⟨hfront, by simpa [bytes] using hlast⟩

/-! ### The bytes of a line -/

/-- **The bytes of the line that holds an offset**: they run from `start` up to, but not
including, `stop`. -/
structure LineRange (bs : List UInt8) (offset start stop : Nat) : Prop where
  /-- The line does not begin after the offset. -/
  start_le : start ≤ offset
  /-- The offset lies before the end of the line. -/
  lt_stop : offset < stop
  /-- The line lies inside the text. -/
  stop_le : stop ≤ bs.length
  /-- The line begins with the text or after a line feed. -/
  begins : start = 0 ∨ bs[start - 1]? = some feed
  /-- The line ends with the text or with a line feed. -/
  ends : stop = bs.length ∨ bs[stop - 1]? = some feed
  /-- No byte of the line but the last one is a line feed. -/
  clear : ∀ i, start ≤ i → i + 1 < stop → bs[i]? ≠ some feed

namespace LineRange

variable {bs : List UInt8} {offset start stop start' stop' : Nat}

theorem start_le_start (h : LineRange bs offset start stop)
    (h' : LineRange bs offset start' stop') : start' ≤ start := by
  have hstart := h'.start_le
  have hstop := h.lt_stop
  by_contra hlt
  -- The byte before the later start is a line feed inside the other line.
  exact h.clear (start' - 1) (by omega) (by omega) (h'.begins.resolve_left (by omega))

theorem stop_le_stop (h : LineRange bs offset start stop)
    (h' : LineRange bs offset start' stop') : stop' ≤ stop := by
  have hstart := h'.start_le
  have hstop := h.lt_stop
  have hlen := h'.stop_le
  by_contra hlt
  exact h'.clear (stop - 1) (by omega) (by omega) (h.ends.resolve_left (by omega))

/-- An offset lies in one line only. -/
theorem unique (h : LineRange bs offset start stop) (h' : LineRange bs offset start' stop') :
    start = start' ∧ stop = stop' :=
  ⟨Nat.le_antisymm (h'.start_le_start h) (h.start_le_start h'),
    Nat.le_antisymm (h'.stop_le_stop h) (h.stop_le_stop h')⟩

end LineRange

namespace LineAt

variable {text : List Char} {offset : Nat}

/-- Where the line of an offset ends. -/
def stop (l : LineAt text offset) : Nat := byteLength (l.before ++ l.line)

theorem stop_eq (l : LineAt text offset) :
    l.stop = byteLength l.before + byteLength l.line := byteLength_append ..

theorem bytes_eq (l : LineAt text offset) :
    bytes text = bytes l.before ++ bytes l.line ++ bytes l.after := by
  rw [← bytes_append, ← bytes_append, ← l.whole]

/-- The bytes of the line are those of its range. -/
theorem bytes_line (l : LineAt text offset) :
    bytes l.line = ((bytes text).take l.stop).drop (byteLength l.before) := by
  rw [l.bytes_eq, ← bytes_append, stop, ← length_bytes (l.before ++ l.line), List.take_left,
    bytes_append, ← length_bytes, List.drop_left]

theorem endsLine_stop (l : LineAt text offset) (h : EndsLine l.line) :
    EndsLine (l.before ++ l.line) := by
  obtain ⟨ds, hds⟩ := h.resolve_left l.line_ne_nil
  exact .inr ⟨l.before ++ ds, by rw [hds, List.append_assoc]⟩

/-- **The line of characters that holds an offset, in bytes.** -/
theorem lineRange (l : LineAt text offset) :
    LineRange (bytes text) offset (byteLength l.before) l.stop := by
  have hstop : offset < l.stop := l.stop_eq ▸ l.lt_stop
  have hlen : (bytes text).length = l.stop + byteLength l.after := by
    rw [l.bytes_eq, List.length_append, ← bytes_append, length_bytes, length_bytes, stop]
  refine ⟨l.start_le, hstop, by omega, ?_, ?_, ?_⟩
  · rw [l.bytes_eq, List.append_assoc]
    exact l.begins.getElem?_bytes _
  · refine l.ends.imp (fun hafter => ?_) fun hends => ?_
    · rw [hlen, hafter, byteLength, Nat.add_zero]
    · rw [l.bytes_eq, ← bytes_append]
      exact ((l.endsLine_stop hends).getElem?_bytes _).resolve_left fun hzero =>
        absurd hstop (by rw [stop, hzero]; exact Nat.not_lt_zero _)
  · intro i hstart hi hfeed
    rw [l.stop_eq] at hi
    -- The byte is one of the line, and not the last one.
    rw [l.whole, ← getElem?_bytes_middle hstart (by omega)] at hfeed
    refine feed_notMem_dropLast_bytes l.single
      (List.mem_of_getElem? (i := i - byteLength l.before) ?_)
    rw [List.getElem?_dropLast, if_pos (by rw [length_bytes]; omega), hfeed]

/-- **The line feeds before an offset** are those before its line. -/
theorem count_take (l : LineAt text offset) :
    ((bytes text).take offset).count feed = l.before.count '\n' := by
  have hstart := l.start_le
  have hstop := l.lt_stop
  have hcolumn : l.column = offset - byteLength l.before := rfl
  -- Of the line itself, only bytes in front of the last one come before the offset.
  have hinside : feed ∉ (bytes l.line).take l.column := by
    intro hmem
    refine feed_notMem_dropLast_bytes l.single ?_
    rw [List.dropLast_eq_take]
    exact List.take_subset_take_left _ (by rw [length_bytes]; omega) hmem
  rw [l.bytes_eq, List.append_assoc, List.take_append, length_bytes, List.take_of_length_le
    (by rw [length_bytes]; exact hstart), ← hcolumn, List.take_append_of_le_length
    (by rw [length_bytes]; omega), List.count_append, count_bytes,
    List.count_eq_zero_of_not_mem hinside, Nat.add_zero]

end LineAt

/-! ### What is found for an offset -/

theorem locateFrom_eq_none {number offset : Nat} {ls : List (List Char)}
    (h : byteLength ls.flatten ≤ offset) : locateFrom number ls offset = none := by
  induction ls generalizing number offset with
  | nil => rfl
  | cons l ls ih =>
    rw [List.flatten_cons, byteLength_append] at h
    rw [locateFrom, if_neg (by omega)]
    exact ih (by omega)

theorem locate_eq_none_iff {text : String} {offset : Nat} :
    locate text offset = none ↔ byteLength text.toList ≤ offset := by
  refine ⟨fun h => ?_, fun h => locateFrom_eq_none (by rwa [flatten_lines])⟩
  by_contra hinside
  obtain ⟨l⟩ := exists_lineAt (Nat.lt_of_not_le hinside)
  rw [locate_lineAt l] at h
  exact Option.some_ne_none _ h

/-- A text is given by its bytes. -/
theorem eq_of_bytes_toList {s t : String} (h : bytes s.toList = bytes t.toList) : s = t := by
  rw [bytes_toList, bytes_toList] at h
  exact String.toByteArray_inj.mp (ByteArray.ext (Array.toList_inj.mp h))

/-- **The line and column of a byte offset, in bytes.** Nothing is found exactly for the
offsets at or beyond the end of the text. For every other offset there is one line that
holds it: from just after the last line feed before the offset, or the start of the text,
up to and including the first line feed at or after it, or the end of the text. What is
found is this line, with a number that is one more than the line feeds before the offset,
and with the bytes from its start to the offset as the column, of which there are fewer
than the line has. The offset may be that of a line feed, and it may lie inside a
character. -/
theorem locate_lineRange (text : String) (offset : Nat) :
    let bs := text.toByteArray.data.toList
    (locate text offset = none ↔ bs.length ≤ offset) ∧
      ∀ place : Location, locate text offset = some place ↔ ∃ start stop,
        LineRange bs offset start stop ∧
        place.line = 1 + (bs.take offset).count feed ∧
        place.text.toByteArray.data.toList = (bs.take stop).drop start ∧
        place.column = offset - start ∧
        place.column < place.text.utf8ByteSize := by
  intro bs
  have hbs : bs = bytes text.toList := (bytes_toList text).symm
  have hlen : bs.length = byteLength text.toList := by rw [hbs, length_bytes]
  refine ⟨hlen ▸ locate_eq_none_iff, fun place => ?_⟩
  simp only [← bytes_toList]
  by_cases hinside : offset < byteLength text.toList
  · obtain ⟨l⟩ := exists_lineAt hinside
    have hstart := l.start_le
    have hstop := l.lt_stop
    rw [locate_lineAt l, Option.some_inj, hbs]
    constructor
    · rintro rfl
      refine ⟨_, _, l.lineRange, ?_, ?_, rfl, ?_⟩
      · rw [l.count_take, LineAt.number, Nat.add_comm]
      · rw [String.toList_ofList, l.bytes_line]
      · change offset - byteLength l.before < _
        rw [← byteLength_ofList]
        omega
    · rintro ⟨start, stop, hrange, hline, htext, hcolumn, -⟩
      obtain ⟨rfl, rfl⟩ := hrange.unique l.lineRange
      rw [l.count_take, Nat.add_comm] at hline
      rw [← l.bytes_line, ← String.toList_ofList (l := l.line)] at htext
      obtain ⟨line, found, column⟩ := place
      rw [Location.mk.injEq]
      exact ⟨hline.symm, (eq_of_bytes_toList htext).symm, hcolumn.symm⟩
  · rw [locate_eq_none_iff.mpr (Nat.le_of_not_lt hinside)]
    constructor
    · intro hnone
      cases hnone
    · rintro ⟨start, stop, hrange, -⟩
      exact absurd (Nat.lt_of_lt_of_le hrange.lt_stop hrange.stop_le) (by omega)

-- The second byte of a letter, in a line after an empty one.
example : locate "a\n\né\nb" 4 = some ⟨3, "é\n", 1⟩ := by decide +kernel

end Shipshape.Source
