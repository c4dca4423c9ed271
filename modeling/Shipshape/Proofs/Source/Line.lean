import Mathlib.Data.List.Basic
import Shipshape.Source.Line

/-!
# The line that holds a byte

What the line and the column of a byte offset are, said without counting through the
text: a text is cut into what stands before a line, the line, and what stands after it.

* `Shipshape.Source.EndsLine` – nothing follows but a new line;
* `Shipshape.Source.LineAt` – a line of a text that holds a byte offset, with its number
  and the column of the offset;
* `Shipshape.Source.exists_lineAt` – every offset inside a text lies in a line;
* `Shipshape.Source.locate_lineAt` – that line is the one which
  `Shipshape.Source.locate` finds.

The two halves together pin the search down. The first is by recursion on the text, the
second by how a cut into lines goes on after a line feed
(`Shipshape.Source.EndsLine.lines_append`).
-/

namespace Shipshape.Source

/-! ### Cutting into lines -/

/-- A run of characters after which a new line begins: it is empty, or a line feed ends
it. -/
def EndsLine (cs : List Char) : Prop := cs = [] ∨ ∃ ds, cs = ds ++ ['\n']

theorem EndsLine.cons {cs : List Char} (h : EndsLine cs) (hne : cs ≠ []) (c : Char) :
    EndsLine (c :: cs) := by
  obtain ⟨ds, rfl⟩ := h.resolve_left hne
  exact .inr ⟨c :: ds, rfl⟩

theorem EndsLine.tail {c : Char} {cs : List Char} (h : EndsLine (c :: cs)) :
    EndsLine cs ∧ (cs = [] → c = '\n') := by
  obtain ⟨ds, hds⟩ := h.resolve_left (List.cons_ne_nil _ _)
  cases ds with
  | nil =>
    obtain ⟨hc, rfl⟩ := List.cons.inj hds
    exact ⟨.inl rfl, fun _ => hc⟩
  | cons d ds =>
    obtain ⟨-, rfl⟩ := List.cons.inj hds
    exact ⟨.inr ⟨ds, rfl⟩, fun hnil => absurd hnil (by simp)⟩

theorem lines_ne_nil {cs : List Char} (h : cs ≠ []) : lines cs ≠ [] := by
  intro hnil
  have hflat := flatten_lines cs
  rw [hnil] at hflat
  exact h hflat.symm

/-- The cut into lines begins anew after a line feed. -/
theorem lines_append_feed (xs ys : List Char) :
    lines (xs ++ '\n' :: ys) = lines (xs ++ ['\n']) ++ lines ys := by
  induction xs with
  | nil => simp [lines]
  | cons c cs ih =>
    rw [List.cons_append, List.cons_append, lines, lines]
    split
    · rw [ih, List.cons_append]
    · -- The first line of the rest takes one more character, on both sides.
      have hne : lines (cs ++ ['\n']) ≠ [] := lines_ne_nil (by simp)
      obtain ⟨line, rest, hlines⟩ := List.exists_cons_of_ne_nil hne
      rw [ih, hlines, List.cons_append, List.cons_append]

/-- **Lines before and after** a place where a new line begins. -/
theorem EndsLine.lines_append {xs : List Char} (h : EndsLine xs) (ys : List Char) :
    lines (xs ++ ys) = lines xs ++ lines ys := by
  rcases h with rfl | ⟨ds, rfl⟩
  · rfl
  · rw [List.append_assoc]
    exact lines_append_feed ds ys

/-- One line, with or without its line feed. -/
theorem lines_of_single {line : List Char} (hne : line ≠ []) (h : '\n' ∉ line.dropLast) :
    lines line = [line] := by
  induction line with
  | nil => exact absurd rfl hne
  | cons c cs ih =>
    by_cases hcs : cs = []
    · subst hcs
      simp [lines]
    · rw [List.dropLast_cons_of_ne_nil hcs, List.mem_cons, not_or] at h
      rw [lines, if_neg (Ne.symm h.1), ih hcs h.2]

/-- There are as many lines as line feeds, where a new line begins. -/
theorem EndsLine.length_lines {cs : List Char} (h : EndsLine cs) :
    (lines cs).length = cs.count '\n' := by
  induction cs with
  | nil => rfl
  | cons c cs ih =>
    obtain ⟨hcs, hlast⟩ := h.tail
    have hlen := ih hcs
    rw [lines]
    split
    · next hc => rw [hc, List.count_cons_self, List.length_cons, hlen]
    · next hc =>
      obtain ⟨line, rest, hlines⟩ := List.exists_cons_of_ne_nil (lines_ne_nil (mt hlast hc))
      rw [List.count_cons_of_ne hc, ← hlen, hlines]
      rfl

/-! ### The line of an offset -/

/-- **A line of a text that holds a byte offset**, with what stands before and after
it. -/
structure LineAt (text : List Char) (offset : Nat) where
  /-- What stands before the line. -/
  before : List Char
  /-- The line, with the line feed that ends it. -/
  line : List Char
  /-- What stands after the line. -/
  after : List Char
  /-- The three make up the text. -/
  whole : text = before ++ line ++ after
  /-- A line begins here. -/
  begins : EndsLine before
  /-- No line feed lies inside the line. -/
  single : '\n' ∉ line.dropLast
  /-- The line goes on up to a line feed or to the end of the text. -/
  ends : after = [] ∨ EndsLine line
  /-- The line does not begin after the offset. -/
  start_le : byteLength before ≤ offset
  /-- The offset lies before the end of the line. -/
  lt_stop : offset < byteLength before + byteLength line

namespace LineAt

variable {text : List Char} {offset : Nat}

/-- The number of the line, from one. -/
def number (l : LineAt text offset) : Nat := l.before.count '\n' + 1

/-- The bytes of the line before the offset. -/
def column (l : LineAt text offset) : Nat := offset - byteLength l.before

theorem line_ne_nil (l : LineAt text offset) : l.line ≠ [] := by
  intro hnil
  have hstart := l.start_le
  have hstop := l.lt_stop
  rw [hnil, byteLength] at hstop
  omega

/-- The lines of the text are those before, the line itself, and those after. -/
theorem lines_eq (l : LineAt text offset) :
    lines text = lines l.before ++ l.line :: lines l.after := by
  have hline : lines l.line = [l.line] := lines_of_single l.line_ne_nil l.single
  conv_lhs => rw [l.whole, List.append_assoc, l.begins.lines_append]
  rcases l.ends with hafter | hends
  · rw [hafter, List.append_nil, hline]
    rfl
  · rw [hends.lines_append, hline]
    rfl

end LineAt

/-- A character before a line, or before what stands before the line, leaves the line
where it is. -/
theorem LineAt.exists_cons {cs : List Char} {offset : Nat} (l : LineAt cs offset) (c : Char) :
    Nonempty (LineAt (c :: cs) (c.utf8Size + offset)) := by
  have hline := l.line_ne_nil
  obtain ⟨before, line, after, rfl, hbegins, hsingle, hends, hstart, hstop⟩ := l
  have hstart : byteLength (c :: before) ≤ c.utf8Size + offset := Nat.add_le_add_left hstart _
  have hstop : c.utf8Size + offset < byteLength (c :: before) + byteLength line := by
    rw [byteLength]
    omega
  by_cases hc : before = [] ∧ c ≠ '\n'
  · -- The character belongs to the line itself.
    obtain ⟨rfl, hc⟩ := hc
    refine ⟨⟨[], c :: line, after, rfl, .inl rfl, ?_, ?_, Nat.zero_le _, ?_⟩⟩
    · rw [List.dropLast_cons_of_ne_nil hline, List.mem_cons, not_or]
      exact ⟨hc.symm, hsingle⟩
    · exact hends.imp_right fun hends => hends.cons hline c
    · simpa [byteLength] using hstop
  · refine ⟨⟨c :: before, line, after, rfl, ?_, hsingle, hends, hstart, hstop⟩⟩
    by_cases hbefore : before = []
    · obtain rfl : c = '\n' := by
        by_contra hne
        exact hc ⟨hbefore, hne⟩
      exact .inr ⟨[], by rw [hbefore]; rfl⟩
    · exact hbegins.cons hbefore c

/-- A text that is not empty begins with a line. -/
theorem exists_firstLine (c : Char) (cs : List Char) : ∃ line after, cs = line ++ after ∧
    '\n' ∉ (c :: line).dropLast ∧ (after = [] ∨ EndsLine (c :: line)) := by
  induction cs generalizing c with
  | nil => exact ⟨[], [], rfl, by simp, .inl rfl⟩
  | cons d ds ih =>
    by_cases hc : c = '\n'
    · exact ⟨[], d :: ds, rfl, by simp, .inr (.inr ⟨[], by rw [hc]; rfl⟩)⟩
    · obtain ⟨line, after, rfl, hsingle, hends⟩ := ih d
      refine ⟨d :: line, after, rfl, ?_, hends.imp_right fun hends => hends.cons (by simp) c⟩
      rw [List.dropLast_cons_of_ne_nil (by simp), List.mem_cons, not_or]
      exact ⟨Ne.symm hc, hsingle⟩

/-- The first line of a text holds every offset up to the end of the first
character. -/
theorem exists_lineAt_first {c : Char} {cs : List Char} {offset : Nat} (h : offset < c.utf8Size) :
    Nonempty (LineAt (c :: cs) offset) := by
  obtain ⟨line, after, rfl, hsingle, hends⟩ := exists_firstLine c cs
  refine ⟨⟨[], c :: line, after, rfl, .inl rfl, hsingle, hends, Nat.zero_le _, ?_⟩⟩
  simp only [byteLength]
  omega

/-- **Every offset inside a text lies in a line of it.** -/
theorem exists_lineAt {text : List Char} {offset : Nat} (h : offset < byteLength text) :
    Nonempty (LineAt text offset) := by
  induction text generalizing offset with
  | nil => exact absurd h (Nat.not_lt_zero _)
  | cons c cs ih =>
    rw [byteLength] at h
    by_cases hfirst : offset < c.utf8Size
    · exact exists_lineAt_first hfirst
    · obtain ⟨rest, rfl⟩ := Nat.exists_eq_add_of_le (Nat.le_of_not_lt hfirst)
      obtain ⟨l⟩ := ih (Nat.lt_of_add_lt_add_left h)
      exact l.exists_cons c

/-- Lines before the offset are passed over. -/
theorem locateFrom_append {number offset : Nat} {earlier : List (List Char)} {line : List Char}
    {later : List (List Char)} (hstart : byteLength earlier.flatten ≤ offset)
    (hstop : offset < byteLength earlier.flatten + byteLength line) :
    locateFrom number (earlier ++ line :: later) offset =
      some ⟨number + earlier.length, String.ofList line, offset - byteLength earlier.flatten⟩ := by
  induction earlier generalizing number offset with
  | nil =>
    rw [List.flatten_nil, byteLength, Nat.zero_add] at hstop
    rw [List.nil_append, locateFrom, if_pos hstop]
    rfl
  | cons e earlier ih =>
    rw [List.flatten_cons, byteLength_append] at hstart hstop
    rw [List.cons_append, locateFrom, if_neg (by omega), ih (by omega) (by omega),
      List.flatten_cons, byteLength_append, List.length_cons, Nat.sub_sub]
    congr 2
    omega

/-- **The line of an offset is the one that is found.** -/
theorem locate_lineAt {text : String} {offset : Nat} (l : LineAt text.toList offset) :
    locate text offset = some ⟨l.number, String.ofList l.line, l.column⟩ := by
  have hstart := l.start_le
  have hstop := l.lt_stop
  rw [← flatten_lines l.before] at hstart hstop
  rw [locate, l.lines_eq, locateFrom_append hstart hstop, l.begins.length_lines, flatten_lines,
    LineAt.number, LineAt.column, Nat.add_comm 1]

end Shipshape.Source
