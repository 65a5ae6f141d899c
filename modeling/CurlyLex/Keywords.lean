import CurlyLex.Kind

/-!
# Keyword tables

A keyword table gives some words a kind.  Any kind may be given, that of the end of the input
included; a word that is entered twice keeps the later kind.

* `Keywords` — the table, with `insert`, `ofList`, `kind?` and `size`.
* `Keywords.reserved` — the table of the six keywords.
-/

namespace CurlyLex

/-- Words with the kinds they are read as; no word is entered twice. -/
structure Keywords where
  /-- The words and their kinds, the latest entry first. -/
  entries : List (String × Kind)
  /-- No two entries share a word. -/
  distinct : entries.Pairwise fun a b => a.1 ≠ b.1

namespace Keywords

/-- The table without words. -/
def empty : Keywords := ⟨[], .nil⟩

/-- Enter a word, in place of an earlier entry of the same word. -/
def insert (table : Keywords) (word : String) (kind : Kind) : Keywords where
  entries := (word, kind) :: table.entries.filter fun entry => entry.1 != word
  distinct := by
    refine List.pairwise_cons.2 ⟨fun entry member => ?_, table.distinct.filter _⟩
    have other : entry.1 ≠ word := by simpa using (List.mem_filter.1 member).2
    exact other.symm

/-- Enter the words of a list from left to right. -/
def ofList (entries : List (String × Kind)) : Keywords :=
  entries.foldl (fun table entry => table.insert entry.1 entry.2) empty

/-- The kind of a word, if the table has it. -/
def kind? (table : Keywords) (word : String) : Option Kind :=
  table.entries.lookup word

/-- How many words the table has. -/
def size (table : Keywords) : Nat :=
  table.entries.length

/-- The keywords of the language. -/
def reserved : Keywords :=
  ofList (Keyword.all.map fun keyword => (keyword.spelling, .keyword keyword))

theorem lookup_filter_ne {word other : String} (different : other ≠ word)
    (entries : List (String × Kind)) :
    (entries.filter fun entry => entry.1 != word).lookup other = entries.lookup other := by
  induction entries with
  | nil => rfl
  | cons entry entries ih =>
    obtain ⟨name, kind⟩ := entry
    by_cases same : name = word
    · have skip : (other == name) = false := by rw [same]; simpa using different
      rw [List.filter_cons_of_neg (by simp [same]), ih, List.lookup_cons, skip]
    · rw [List.filter_cons_of_pos (by simpa using same), List.lookup_cons, List.lookup_cons, ih]

/-- The latest entry of a word counts, and other words keep their kinds. -/
theorem kind?_insert (table : Keywords) (word other : String) (kind : Kind) :
    (table.insert word kind).kind? other =
      if other = word then some kind else table.kind? other := by
  rw [kind?, insert, List.lookup_cons]
  by_cases same : other = word
  · simp [same]
  · have skip : (other == word) = false := by simpa using same
    rw [if_neg same, skip]
    exact lookup_filter_ne same table.entries

end Keywords

end CurlyLex
