import Mathlib.Data.List.TakeWhile
import Shipshape.Diagnostic.Report
import Shipshape.Proofs.Source.Bytes

/-!
# The mark of a report

A report ends with two rows: a line of the text with its number, and below it a mark
after some dashes. The line is shown without the white space at its ends, and the dashes
count bytes.

* `Shipshape.Display` – a line cut into what is shown of it and the white space around;
* `Shipshape.Diagnostic.lines_report` – the last two rows of a report;
* `Shipshape.Diagnostic.report_mark` – where the mark stands: the bars of the two rows
  are one above the other, and the dashes are as many as the bytes shown before the
  place, and one more for each byte at the front of the line that is hidden but is not
  among its leading plain spaces;
* `Shipshape.Diagnostic.tabbed_mark` – a tab is enough for the mark to be off.

## Two ways to strip a line

A line loses its white space in two steps, first the plain spaces at the front and then
white space of any kind at both ends. Only the first step is taken off the column. That
is the right number exactly where the second finds nothing at the front, which is the
last part of `Shipshape.Diagnostic.report_mark`.
-/

namespace Shipshape

open Source

/-! ### What is shown of a line -/

/-- **A line cut into what is shown of it** and the white space around. -/
structure Display (line : List Char) where
  /-- The white space at the front. -/
  lead : List Char
  /-- What is shown. -/
  text : List Char
  /-- The white space at the end, with the line feed. -/
  trail : List Char
  /-- The three make up the line. -/
  whole : line = lead ++ text ++ trail
  /-- Only white space is left out at the front. -/
  lead_blank : ∀ c ∈ lead, Text.isBlank c = true
  /-- Only white space is left out at the end. -/
  trail_blank : ∀ c ∈ trail, Text.isBlank c = true
  /-- All the white space at the front is left out. -/
  first : ∀ c ∈ text.head?, Text.isBlank c = false
  /-- All the white space at the end is left out. -/
  last : ∀ c ∈ text.getLast?, Text.isBlank c = false

/-- That what is shown does not begin or end blank, as a test. -/
theorem forall_mem_of_all_not {cs : Option Char} (h : cs.all (!Text.isBlank ·) = true) :
    ∀ c ∈ cs, Text.isBlank c = false := by
  simpa [Option.all_eq_true] using h

theorem dropWhile_of_head {p : Char → Bool} {cs : List Char} (h : ∀ c ∈ cs.head?, p c = false) :
    cs.dropWhile p = cs := by
  cases cs with
  | nil => rfl
  | cons c cs => rw [List.dropWhile_cons_of_neg (by simp [h c rfl])]

theorem head_dropWhile {p : Char → Bool} {cs : List Char} :
    ∀ c ∈ (cs.dropWhile p).head?, p c = false := by
  intro c hc
  have hnot := List.head?_dropWhile_not p cs
  rw [Option.mem_def.mp hc] at hnot
  exact hnot

theorem drop_takeWhile (p : Char → Bool) (cs : List Char) :
    cs.drop (cs.takeWhile p).length = cs.dropWhile p := by
  conv_lhs => arg 2; rw [← List.takeWhile_append_dropWhile (p := p) (l := cs)]
  exact List.drop_left

theorem eq_of_mem_spaces {c : Char} {cs : List Char} (h : c ∈ cs.takeWhile (· == ' ')) :
    c = ' ' :=
  beq_iff_eq.mp (List.mem_takeWhile_imp (p := (· == ' ')) h)

/-- Every line can be cut. -/
theorem exists_display (line : List Char) : Nonempty (Display line) := by
  -- What is left after the front is cut off, and then its end read backwards.
  set rest := line.dropWhile Text.isBlank with hrest
  set text := (rest.reverse.dropWhile Text.isBlank).reverse with htext
  set trail := (rest.reverse.takeWhile Text.isBlank).reverse with htrail
  have hsplit : rest = text ++ trail := by
    rw [htext, htrail, ← List.reverse_append, List.takeWhile_append_dropWhile, List.reverse_reverse]
  refine ⟨⟨line.takeWhile Text.isBlank, text, trail, ?_, fun c => List.mem_takeWhile_imp,
    fun c hc => List.mem_takeWhile_imp (List.mem_reverse.mp hc), fun c hc => ?_, fun c hc => ?_⟩⟩
  · rw [List.append_assoc, ← hsplit, List.takeWhile_append_dropWhile]
  · have hhead : ∀ c ∈ rest.head?, Text.isBlank c = false := head_dropWhile
    refine hhead c ?_
    rw [hsplit, List.head?_append, Option.mem_def.mp hc]
    rfl
  · rw [htext, List.getLast?_reverse] at hc
    exact head_dropWhile c hc

theorem Text.trim_display {line : List Char} (cut : Display line) : Text.trim line = cut.text := by
  have hback : (cut.text ++ cut.trail).reverse.dropWhile Text.isBlank = cut.text.reverse := by
    rw [List.reverse_append, List.dropWhile_append_of_pos]
    · refine dropWhile_of_head fun c hc => cut.last c ?_
      rwa [List.head?_reverse] at hc
    · exact fun c hc => cut.trail_blank c (List.mem_reverse.mp hc)
  have hfront : line.dropWhile Text.isBlank = (cut.text ++ cut.trail).dropWhile Text.isBlank := by
    conv_lhs => rw [cut.whole, List.append_assoc]
    exact List.dropWhile_append_of_pos cut.lead_blank
  rw [Text.trim, hfront]
  by_cases hnil : cut.text = []
  · rw [hnil, List.nil_append, List.dropWhile_eq_nil_iff.mpr cut.trail_blank]
    rfl
  · have hstart : (cut.text ++ cut.trail).dropWhile Text.isBlank = cut.text ++ cut.trail := by
      refine dropWhile_of_head fun c hc => cut.first c ?_
      rwa [List.head?_append_of_ne_nil _ hnil] at hc
    rw [hstart, hback, List.reverse_reverse]

namespace Diagnostic

theorem shown_display {line : List Char} (cut : Display line) : shown line = cut.text := by
  rw [← Text.trim_display cut, shown, indent, drop_takeWhile, Text.trim, Text.trim]
  -- The plain spaces at the front are white space, so to strip them first changes nothing.
  congr 3
  conv_rhs => rw [← List.takeWhile_append_dropWhile (p := (· == ' ')) (l := line)]
  refine (List.dropWhile_append_of_pos fun c hc => ?_).symm
  obtain rfl : c = ' ' := eq_of_mem_spaces hc
  rfl

/-- The plain spaces that a line begins with all lie at its hidden front. -/
theorem indent_display {line : List Char} (cut : Display line) (hshown : cut.text ≠ []) :
    indent line = (cut.lead.takeWhile (· == ' ')).length := by
  obtain ⟨c, rest, htext⟩ := List.exists_cons_of_ne_nil hshown
  have hc : (c == ' ') = false := by
    rw [beq_eq_false_iff_ne]
    rintro rfl
    exact absurd (cut.first ' ' (by rw [htext]; rfl)) (by decide)
  conv_lhs => rw [indent, cut.whole, htext, List.append_assoc, List.takeWhile_append]
  split
  · next hall =>
    rw [List.cons_append, List.takeWhile_cons_of_neg (by simp [hc]), List.append_nil, ← hall]
  · rfl

/-- **The dashes before the mark**: the bytes shown before the place, and the bytes of
the hidden front that come after its plain spaces. -/
theorem dashes_display {line : List Char} (cut : Display line) (column : Nat)
    (hstart : byteLength cut.lead ≤ column)
    (hstop : column < byteLength cut.lead + byteLength cut.text) :
    dashes line column =
      column - byteLength cut.lead + byteLength (cut.lead.dropWhile (· == ' ')) := by
  have hshown : cut.text ≠ [] := by
    intro hnil
    rw [hnil, byteLength] at hstop
    omega
  have hspaces : byteLength (cut.lead.takeWhile (· == ' ')) = indent line := by
    rw [indent_display cut hshown]
    exact byteLength_of_spaces fun c hc => eq_of_mem_spaces hc
  have hlead : indent line + byteLength (cut.lead.dropWhile (· == ' ')) = byteLength cut.lead := by
    rw [← hspaces, ← byteLength_append, List.takeWhile_append_dropWhile]
  rw [dashes]
  omega

/-- No line feed is shown. -/
theorem feed_notMem_display {line : List Char} (cut : Display line) (h : '\n' ∉ line.dropLast) :
    '\n' ∉ cut.text := by
  intro hmem
  -- A line feed can only end the line, but what is shown does not end with white space.
  obtain ⟨front, rest, htext, -⟩ := List.eq_append_cons_of_mem hmem
  have hline : line = cut.lead ++ front ++ '\n' :: (rest ++ cut.trail) := by
    conv_lhs => rw [cut.whole, htext]
    simp
  have hend : rest ++ cut.trail = [] := by
    by_contra hne
    refine h ?_
    rw [hline, List.dropLast_append_of_ne_nil (by simp), List.dropLast_cons_of_ne_nil hne]
    simp
  rw [(List.append_eq_nil_iff.mp hend).1] at htext
  exact absurd (cut.last '\n' (by rw [htext]; simp)) (by decide)

/-! ### The rows of a report -/

/-- A line of a text after its number. -/
def numberedRow (number : Nat) (text : List Char) : List Char :=
  (toString number).toList ++ ' ' :: '|' :: ' ' :: text

/-- A mark after some dashes, in the row below a line with the given number. -/
def markedRow (number dashes : Nat) : List Char :=
  List.replicate ((toString number).length + 1) ' ' ++
    '|' :: ' ' :: (List.replicate dashes '-' ++ ['^'])

theorem isDigit_of_mem_toString {number : Nat} {c : Char} (h : c ∈ (toString number).toList) :
    c.isDigit = true := by
  rw [Nat.toString_eq_repr, Nat.toList_repr] at h
  exact Nat.isDigit_of_mem_toDigits (by decide) (by decide) h

theorem excerpt_toList (place : Location) : ∃ bar : List Char, (excerpt place).toList =
    bar ++ '\n' :: (numberedRow place.line (shown place.text.toList) ++
      '\n' :: (markedRow place.line (dashes place.text.toList place.column) ++ ['\n'])) := by
  refine ⟨(margin (toString place.line).length).toList, ?_⟩
  simp [excerpt, margin, numberedRow, markedRow]

theorem lines_row {row : List Char} (h : '\n' ∉ row) : lines (row ++ ['\n']) = [row ++ ['\n']] :=
  lines_of_single (by simp) (by simpa using h)

/-- **The last two rows of a report** about a place: the line and the mark. -/
theorem lines_report {d : Diagnostic} {source : String} (file : String) {place : Location}
    (hplace : d.place? source = some place) (hshown : '\n' ∉ shown place.text.toList) :
    ∃ earlier, lines (d.report source file).toList = earlier ++
      [numberedRow place.line (shown place.text.toList) ++ ['\n'],
        markedRow place.line (dashes place.text.toList place.column) ++ ['\n']] := by
  obtain ⟨bar, hexcerpt⟩ := excerpt_toList place
  have hnumbered : '\n' ∉ numberedRow place.line (shown place.text.toList) := by
    rw [numberedRow, List.mem_append, not_or]
    refine ⟨fun hmem => absurd (isDigit_of_mem_toString hmem) (by decide), ?_⟩
    simpa using hshown
  have hmarked : '\n' ∉ markedRow place.line (dashes place.text.toList place.column) := by
    simp [markedRow, List.mem_replicate]
  refine ⟨lines ((d.headline file).toList ++ bar ++ ['\n']), ?_⟩
  rw [report, hplace]
  simp only [String.toList_append, hexcerpt]
  rw [← List.append_assoc, lines_append_feed, lines_append_feed (numberedRow _ _),
    lines_row hnumbered, lines_row hmarked]
  rfl

/-- The bars of the two rows are one above the other. -/
theorem idxOf_bar (number dashes : Nat) (text : List Char) :
    (numberedRow number text).idxOf '|' = (markedRow number dashes).idxOf '|' := by
  have hdigits : '|' ∉ (toString number).toList :=
    fun hmem => absurd (isDigit_of_mem_toString hmem) (by decide)
  rw [numberedRow, markedRow, List.idxOf_append_of_notMem hdigits,
    List.idxOf_append_of_notMem (by simp [List.mem_replicate]), List.length_replicate,
    String.length_toList]
  rfl

/-! ### Where the mark stands -/

/-- The offset in the text of the first byte that is shown of a line. -/
def shownFrom {text : List Char} {offset : Nat} (l : LineAt text offset) (cut : Display l.line) :
    Nat :=
  byteLength (l.before ++ cut.lead)

/-- **Where the mark of a report stands.** Let a diagnostic have a position inside a
text, at a byte that is shown of its line. The report ends with the line, as it is shown
after its number, and a row with a mark below it. The bars of both rows are in one
column. The byte of the position is shown after as many bytes as it lies behind the
first shown one; the dashes before the mark count these, and in addition the bytes of the
hidden front that do not belong to its leading plain spaces. So the mark stands below the
byte of the position exactly if there is nothing but plain spaces in front of the
line. -/
theorem report_mark {d : Diagnostic} {source : String} (file : String) {pos : Position}
    (hpos : d.position = some pos) (hnull : pos.isNull = false)
    (hinside : pos.offset < source.utf8ByteSize) :
    (∃ l : LineAt source.toList pos.offset, Nonempty (Display l.line)) ∧
      ∀ (l : LineAt source.toList pos.offset) (cut : Display l.line),
        shownFrom l cut ≤ pos.offset → pos.offset < shownFrom l cut + byteLength cut.text →
        ∃ earlier dashes, lines (d.report source file).toList = earlier ++
            [numberedRow l.number cut.text ++ ['\n'], markedRow l.number dashes ++ ['\n']] ∧
          (numberedRow l.number cut.text).idxOf '|' = (markedRow l.number dashes).idxOf '|' ∧
          (bytes cut.text)[pos.offset - shownFrom l cut]? =
            source.toByteArray.data.toList[pos.offset]? ∧
          dashes = pos.offset - shownFrom l cut + byteLength (cut.lead.dropWhile (· == ' ')) ∧
          (dashes = pos.offset - shownFrom l cut ↔ ∀ c ∈ cut.lead, c = ' ') := by
  constructor
  · rw [← byteLength_toList] at hinside
    obtain ⟨l⟩ := exists_lineAt hinside
    exact ⟨l, exists_display l.line⟩
  · intro l cut hstart hstop
    have hplace : d.place? source = some ⟨l.number, String.ofList l.line, l.column⟩ := by
      rw [place?, hpos]
      simp only [hnull, Bool.false_eq_true, if_false]
      exact locate_lineAt l
    have hshown : shown (String.ofList l.line).toList = cut.text := by
      rw [String.toList_ofList, shown_display cut]
    obtain ⟨earlier, hlines⟩ := lines_report file hplace
      (by rw [hshown]; exact feed_notMem_display cut l.single)
    rw [hshown, String.toList_ofList] at hlines
    -- Columns count from the front of the line, offsets from the front of the text.
    have hfront : shownFrom l cut = byteLength l.before + byteLength cut.lead :=
      byteLength_append ..
    have hcolumn : l.column = pos.offset - byteLength l.before := rfl
    have hdashes := dashes_display cut l.column (by omega) (by omega)
    refine ⟨earlier, dashes l.line l.column, hlines, idxOf_bar .., ?_, ?_, ?_⟩
    · have hwhole : source.toList = l.before ++ cut.lead ++ cut.text ++ (cut.trail ++ l.after) :=
        calc source.toList = l.before ++ l.line ++ l.after := l.whole
          _ = l.before ++ (cut.lead ++ cut.text ++ cut.trail) ++ l.after :=
            congrArg (fun line => l.before ++ line ++ l.after) cut.whole
          _ = l.before ++ cut.lead ++ cut.text ++ (cut.trail ++ l.after) := by
            simp only [List.append_assoc]
      rw [← bytes_toList]
      exact (getElem?_bytes_middle hstart hstop).trans
        (congrArg (fun cs => (bytes cs)[pos.offset]?) hwhole.symm)
    · omega
    · have hzero : byteLength (cut.lead.dropWhile (· == ' ')) = 0 ↔ ∀ c ∈ cut.lead, c = ' ' := by
        rw [byteLength_eq_zero_iff, List.dropWhile_eq_nil_iff]
        simp
      rw [← hzero]
      omega

/-- The second line of a text, with an offset behind a letter of two bytes. -/
def heave : LineAt "ahoy\n  é = 3 \n".toList 10 where
  before := "ahoy\n".toList
  line := "  é = 3 \n".toList
  after := []
  whole := by decide +kernel
  begins := .inr ⟨"ahoy".toList, by decide +kernel⟩
  single := by decide +kernel
  ends := .inl rfl
  start_le := by decide +kernel
  lt_stop := by decide +kernel

/-- What is shown of that line. -/
def heaveShown : Display heave.line where
  lead := [' ', ' ']
  text := "é = 3".toList
  trail := [' ', '\n']
  whole := by decide +kernel
  lead_blank := List.all_eq_true.mp (by decide +kernel)
  trail_blank := List.all_eq_true.mp (by decide +kernel)
  first := forall_mem_of_all_not (by decide +kernel)
  last := forall_mem_of_all_not (by decide +kernel)

/-- Behind plain spaces only, the mark stands below the byte of the position. -/
theorem heave_mark : let d : Diagnostic := ⟨.breakOutsideLoop, some ⟨10, "crew.pirate"⟩⟩
    ∃ earlier dashes, lines (d.report "ahoy\n  é = 3 \n" "crew.pirate").toList = earlier ++
        [numberedRow 2 "é = 3".toList ++ ['\n'], markedRow 2 dashes ++ ['\n']] ∧
      (numberedRow 2 "é = 3".toList).idxOf '|' = (markedRow 2 dashes).idxOf '|' ∧
      (bytes "é = 3".toList)[3]? = "ahoy\n  é = 3 \n".toByteArray.data.toList[10]? ∧
      dashes = 3 := by
  intro d
  obtain ⟨-, hmark⟩ := report_mark (d := d) "crew.pirate" rfl (by decide +kernel)
    (by decide +kernel : 10 < "ahoy\n  é = 3 \n".utf8ByteSize)
  obtain ⟨earlier, dashes, hlines, hbars, hbyte, hdashes, -⟩ :=
    hmark heave heaveShown (by decide +kernel) (by decide +kernel)
  exact ⟨earlier, dashes, hlines, hbars, hbyte, hdashes⟩

/-- A line that a tab begins. -/
def tabbed : LineAt "\tbreak".toList 1 where
  before := []
  line := "\tbreak".toList
  after := []
  whole := rfl
  begins := .inl rfl
  single := by decide +kernel
  ends := .inl rfl
  start_le := by decide +kernel
  lt_stop := by decide +kernel

/-- What is shown of that line. -/
def tabbedShown : Display tabbed.line where
  lead := ['\t']
  text := "break".toList
  trail := []
  whole := by decide +kernel
  lead_blank := List.all_eq_true.mp (by decide +kernel)
  trail_blank := List.all_eq_true.mp (by decide +kernel)
  first := forall_mem_of_all_not (by decide +kernel)
  last := forall_mem_of_all_not (by decide +kernel)

/-- Behind a tab, the mark does not stand below the byte of the position. -/
theorem tabbed_mark : ¬∀ (d : Diagnostic) (source file : String) (pos : Position),
    d.position = some pos → pos.isNull = false → pos.offset < source.utf8ByteSize →
      ∀ (l : LineAt source.toList pos.offset) (cut : Display l.line),
        shownFrom l cut ≤ pos.offset → pos.offset < shownFrom l cut + byteLength cut.text →
        ∃ earlier dashes, lines (d.report source file).toList = earlier ++
            [numberedRow l.number cut.text ++ ['\n'], markedRow l.number dashes ++ ['\n']] ∧
          (numberedRow l.number cut.text).idxOf '|' = (markedRow l.number dashes).idxOf '|' ∧
          (bytes cut.text)[dashes]? = source.toByteArray.data.toList[pos.offset]? ∧
          dashes = pos.offset - shownFrom l cut := by
  intro hall
  obtain ⟨earlier, dashes, hlines, -, -, hdashes⟩ :=
    hall ⟨.breakOutsideLoop, some ⟨1, "crew.pirate"⟩⟩ "\tbreak" "crew.pirate" ⟨1, "crew.pirate"⟩
      rfl (by decide +kernel) (by decide +kernel) tabbed tabbedShown (by decide +kernel)
      (by decide +kernel)
  obtain rfl : dashes = 0 := hdashes
  have hlast := congrArg List.getLast? hlines
  rw [List.getLast?_append_of_ne_nil _ (by simp)] at hlast
  revert hlast
  decide +kernel

end Diagnostic

end Shipshape
