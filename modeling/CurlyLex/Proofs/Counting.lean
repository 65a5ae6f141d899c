import CurlyLex.Cursor
import Mathlib.Algebra.Group.Nat.Defs
import Mathlib.Data.List.DropRight

/-!
# Positions count

A position is kept by two counters in words of 32 bits.  As long as the text before it has fewer than
`2 ^ 32 - 1` characters, neither counter has wrapped, and the position is what one finds by counting:
one line more than there are line feeds, and one column more than there are characters after the
last of them.

* `Position.Marks` — a position counts the text before it.
* `Position.Counts` — counting one more character wraps no counter.
* `Position.marks_after`, `Position.counts_after` — both hold after a text that is not too long.
* `Position.Marks.unique` — a text has only one position.
* `utf8ByteSize_ofList` — byte lengths are those of strings.
-/

namespace CurlyLex

namespace Position

/-- The line is one more than the line feeds before the position, and the column is one more than
the characters after the last of them. -/
structure Marks (position : Position) (before : List Char) : Prop where
  line : position.line.toNat = 1 + before.count '\n'
  column : position.column.toNat = 1 + (before.rtakeWhile fun c => c != '\n').length

/-- Counting one more character wraps no counter. -/
def Counts (position : Position) (c : Char) : Prop :=
  if c = '\n' then position.line.toNat + 1 < 2 ^ 32 else position.column.toNat + 1 < 2 ^ 32

/-- A text has only one position after it. -/
theorem Marks.unique {first second : Position} {before : List Char} (h₁ : first.Marks before)
    (h₂ : second.Marks before) : first = second := by
  have hline : first.line = second.line := UInt32.toNat_inj.1 (h₁.line.trans h₂.line.symm)
  have hcolumn : first.column = second.column :=
    UInt32.toNat_inj.1 (h₁.column.trans h₂.column.symm)
  obtain ⟨line₁, column₁⟩ := first
  obtain ⟨line₂, column₂⟩ := second
  obtain rfl : line₁ = line₂ := hline
  obtain rfl : column₁ = column₂ := hcolumn
  rfl

theorem toNat_add_one {n : UInt32} (h : n.toNat + 1 < 2 ^ 32) : (n + 1).toNat = n.toNat + 1 := by
  rw [UInt32.toNat_add, show (1 : UInt32).toNat = 1 from rfl]
  exact Nat.mod_eq_of_lt h

/-- A counter counts the next character when it does not wrap. -/
theorem Marks.next {position : Position} {before : List Char} {c : Char}
    (h : position.Marks before) (hcounts : position.Counts c) :
    (position.next c).Marks (before ++ [c]) := by
  by_cases hc : c = '\n'
  · subst hc
    have hwrap : position.line.toNat + 1 < 2 ^ 32 := hcounts
    refine ⟨?_, ?_⟩
    · show (position.line + 1).toNat = _
      rw [toNat_add_one hwrap, h.line, List.count_append, List.count_singleton_self]
      omega
    · show (1 : UInt32).toNat = _
      rw [List.rtakeWhile_concat_neg _ _ _ (by simp)]
      rfl
  · rw [Counts, if_neg hc] at hcounts
    rw [Position.next, if_neg hc]
    refine ⟨?_, ?_⟩
    · show position.line.toNat = _
      rw [h.line, List.count_append, List.count_singleton, if_neg (by simpa using hc)]
      rfl
    · show (position.column + 1).toNat = _
      rw [toNat_add_one hcounts, h.column, List.rtakeWhile_concat_pos _ _ _ (by simpa using hc),
        List.length_append]
      rfl

/-- A position that counts a text that is not too long can count one more character. -/
theorem Marks.counts {position : Position} {before : List Char} (h : position.Marks before)
    (hshort : before.length + 1 < 2 ^ 32 - 1) (c : Char) : position.Counts c := by
  have hline : before.count '\n' ≤ before.length := List.count_le_length
  have hcolumn : (before.rtakeWhile fun c => c != '\n').length ≤ before.length :=
    (List.rtakeWhile_suffix _ _).length_le
  rw [Counts, h.line, h.column]
  split <;> omega

/-- **The position after a text counts it.** -/
theorem marks_after {text : List Char} (hshort : text.length < 2 ^ 32 - 1) :
    (start.after text).Marks text := by
  induction text using List.reverseRecOn with
  | nil => exact ⟨rfl, rfl⟩
  | append_singleton text c ih =>
    rw [List.length_append, List.length_singleton] at hshort
    have hmarks := ih (by omega)
    rw [after_append]
    exact hmarks.next (hmarks.counts hshort c)

/-- **No counter wraps on the way through a text.** -/
theorem counts_after {text front : List Char} {c : Char} (hshort : text.length < 2 ^ 32 - 1)
    (hfront : front ++ [c] <+: text) : (start.after front).Counts c := by
  have hlength := hfront.length_le
  rw [List.length_append, List.length_singleton] at hlength
  exact (marks_after (by omega)).counts (by omega) c

end Position

/-- The byte length of a text is that of its string. -/
theorem utf8ByteSize_ofList (text : List Char) :
    (String.ofList text).utf8ByteSize = byteLength text := by
  induction text with
  | nil => rfl
  | cons c text ih =>
    rw [String.ofList_cons, String.utf8ByteSize_append, String.utf8ByteSize_singleton, ih,
      byteLength_cons]

end CurlyLex
