import CurlyLex.Proofs.CursorReading
import CurlyLex.Proofs.Streaming

/-!
# The sequence of readings

Asked for one reading after another, a scanner delivers a sequence that does not end: readings may be
taken behind an error and behind the end of the input.  Scans and streams take stretches of this
sequence, because every reading starts where the one before it left the cursor.

* `Scanner.afterReads`, `Scanner.nthRead` — the scanner after so many readings, and the reading that
  it then delivers.
* `stretch`, `Block` — readings in a row of a sequence, and a row that ends with the last reading of
  a scan.
* `Scanner.Proceeds.eq_stretch` — what a scanner takes is a stretch.
* `Scanner.block_scan` — what a scan takes is a block.
* `Delivers`, `delivers_gather` — what is returned of a block.
-/

namespace CurlyLex

namespace Scanner

/-- The scanner after so many single readings. -/
def afterReads (scanner : Scanner) : Nat → Scanner
  | 0 => scanner
  | n + 1 => (scanner.afterReads n).read.2

/-- The single reading that so many others precede. -/
def nthRead (scanner : Scanner) (n : Nat) : Reading :=
  (scanner.afterReads n).read.1

variable (scanner : Scanner)

@[simp]
theorem source_afterReads (n : Nat) : (scanner.afterReads n).source = scanner.source := by
  induction n with
  | zero => rfl
  | succ n ih => exact ih

@[simp]
theorem keywords_afterReads (n : Nat) : (scanner.afterReads n).keywords = scanner.keywords := by
  induction n with
  | zero => rfl
  | succ n ih => exact ih

theorem cursor_afterReads_succ (n : Nat) :
    (scanner.afterReads (n + 1)).cursor = (scanner.nthRead n).cursor := rfl

theorem nthRead_eq_read (n : Nat) :
    scanner.nthRead n = (scanner.afterReads n).cursor.read scanner.keywords := by
  rw [← scanner.keywords_afterReads n]
  rfl

end Scanner

/-! ### Stretches -/

/-- So many readings in a row of a sequence. -/
def stretch (sequence : Nat → Reading) (first count : Nat) : List Reading :=
  (List.range' first count).map sequence

theorem stretch_succ (sequence : Nat → Reading) (first count : Nat) :
    stretch sequence first (count + 1) = sequence first :: stretch sequence (first + 1) count := rfl

theorem stretch_succ_last (sequence : Nat → Reading) (first count : Nat) :
    stretch sequence first (count + 1) =
      stretch sequence first count ++ [sequence (first + count)] := by
  rw [stretch, stretch, List.range'_1_concat, List.map_append]
  rfl

/-- The last of so many readings in a row is the only one with which a scan ends. -/
structure Block (sequence : Nat → Reading) (first count : Nat) : Prop where
  pos : 0 < count
  more : ∀ i, i + 1 < count → (sequence (first + i)).isLast = false
  last : (sequence (first + (count - 1))).isLast = true

/-- **Consecutive readings are a stretch** of the sequence to which their cursor belongs. -/
theorem Cursor.Consecutive.eq_stretch {cursor : Cursor} {readings : List Reading}
    {scanner : Scanner} (h : cursor.Consecutive scanner.keywords readings) {first : Nat}
    (hcursor : cursor = (scanner.afterReads first).cursor) :
    readings = stretch scanner.nthRead first readings.length ∧
      cursor.past readings = (scanner.afterReads (first + readings.length)).cursor ∧
      ∀ i, i + 1 < readings.length → (scanner.nthRead (first + i)).isLast = false := by
  induction h generalizing first with
  | nil => exact ⟨rfl, hcursor, by simp⟩
  | @cons cursor readings hlast _ ih =>
    have hread : cursor.read scanner.keywords = scanner.nthRead first := by
      rw [hcursor, scanner.nthRead_eq_read]
    rw [hread] at hlast ih ⊢
    obtain ⟨hreadings, hpast, hmore⟩ := ih (scanner.cursor_afterReads_succ first).symm
    refine ⟨?_, ?_, ?_⟩
    · rw [List.length_cons, stretch_succ, ← hreadings]
    · rw [List.length_cons, Nat.add_comm readings.length, ← Nat.add_assoc]
      exact hpast
    · intro i hi
      cases i with
      | zero =>
        -- the first is not the last, because others follow it
        cases hfirst : (scanner.nthRead first).isLast with
        | false => rfl
        | true =>
          rw [hlast hfirst] at hi
          simp at hi
      | succ i =>
        rw [Nat.add_comm i, ← Nat.add_assoc]
        exact hmore i (Nat.lt_of_succ_lt_succ hi)

/-- **What a scanner takes is a stretch** of the sequence of any scanner from which it has come. -/
theorem Scanner.Proceeds.eq_stretch {scanner later : Scanner} {readings : List Reading}
    (h : scanner.Proceeds readings later) (fresh : Scanner) (first : Nat)
    (hcursor : scanner.cursor = (fresh.afterReads first).cursor)
    (hkeywords : scanner.keywords = fresh.keywords) :
    readings = stretch fresh.nthRead first readings.length ∧
      later.cursor = (fresh.afterReads (first + readings.length)).cursor ∧
      ∀ i, i + 1 < readings.length → (fresh.nthRead (first + i)).isLast = false := by
  have hconsecutive := h.consecutive
  rw [hkeywords] at hconsecutive
  rw [h.cursor]
  exact hconsecutive.eq_stretch hcursor

/-! ### Blocks -/

/-- The readings of a scan that ends with `last` are a block. -/
theorem Block.of_stretch {sequence : Nat → Reading} {first : Nat} {front : List Reading}
    {last : Reading} (h : front ++ [last] = stretch sequence first (front ++ [last]).length)
    (hmore : ∀ i, i + 1 < (front ++ [last]).length → (sequence (first + i)).isLast = false)
    (hlast : last.isLast = true) : Block sequence first (front ++ [last]).length := by
  have hlength : (front ++ [last]).length = front.length + 1 := by simp
  refine ⟨by omega, hmore, ?_⟩
  rw [hlength, stretch_succ_last] at h
  obtain ⟨-, hsame⟩ := List.append_inj' h rfl
  rw [hlength, Nat.add_sub_cancel, ← (List.cons_eq_cons.1 hsame).1]
  exact hlast

/-- **What a scan takes is a block.** -/
theorem Scanner.block_scan (scanner fresh : Scanner) (first : Nat)
    (hcursor : scanner.cursor = (fresh.afterReads first).cursor)
    (hkeywords : scanner.keywords = fresh.keywords) :
    Block fresh.nthRead first scanner.scan.1.length := by
  obtain ⟨hreadings, -, hmore⟩ := scanner.proceeds_scan.eq_stretch fresh first hcursor hkeywords
  obtain ⟨front, last, hscan, -, hlast⟩ := scanner.cursor.exists_last scanner.keywords
  have hsame : scanner.scan.1 = front ++ [last] := hscan
  rw [hsame] at hreadings hmore ⊢
  exact .of_stretch hreadings hmore hlast

/-- What is returned of the readings of a scan: all of their tokens, or the error with which they
end and nothing else. -/
inductive Delivers : List Reading → Except LexicalError (List Token) → Prop
  | tokens {readings : List Reading} {tokens : List Token} :
      readings.map Reading.outcome = tokens.map .ok → Delivers readings (.ok tokens)
  | error {front : List Reading} {last : Reading} {error : LexicalError} :
      last.outcome = .error error → Delivers (front ++ [last]) (.error error)

/-- Readings with which no scan ends have tokens. -/
theorem exists_tokens {readings : List Reading}
    (h : ∀ reading ∈ readings, reading.isLast = false) :
    ∃ tokens : List Token, readings.map Reading.outcome = tokens.map .ok := by
  induction readings with
  | nil => exact ⟨[], rfl⟩
  | cons reading readings ih =>
    obtain ⟨tokens, htokens⟩ := ih fun other hother => h other (List.mem_cons_of_mem _ hother)
    obtain ⟨token, htoken, -⟩ := reading.isLast_eq_false_iff.1 (h reading List.mem_cons_self)
    exact ⟨token :: tokens, by rw [List.map_cons, List.map_cons, htoken, htokens]⟩

/-- The readings of a block have tokens, up to the last. -/
theorem Block.exists_front {sequence : Nat → Reading} {first count : Nat}
    (h : Block sequence first count) :
    ∃ n, ∃ tokens : List Token, count = n + 1 ∧
      (stretch sequence first n).map Reading.outcome = tokens.map .ok := by
  obtain ⟨n, rfl⟩ : ∃ n, count = n + 1 := ⟨count - 1, by have := h.pos; omega⟩
  have hfront : ∀ reading ∈ stretch sequence first n, reading.isLast = false := by
    intro reading hreading
    obtain ⟨position, hposition, rfl⟩ := List.mem_map.1 hreading
    obtain ⟨i, hi, rfl⟩ := List.mem_range'.1 hposition
    rw [Nat.one_mul]
    exact h.more i (by omega)
  obtain ⟨tokens, htokens⟩ := exists_tokens hfront
  exact ⟨n, tokens, rfl, htokens⟩

/-- **What is gathered of a block is delivered**: its tokens, or its error. -/
theorem delivers_gather {sequence : Nat → Reading} {first count : Nat}
    (h : Block sequence first count) :
    Delivers (stretch sequence first count) (gather (stretch sequence first count)) := by
  obtain ⟨n, tokens, rfl, htokens⟩ := h.exists_front
  rw [stretch_succ_last]
  cases houtcome : (sequence (first + n)).outcome with
  | ok token =>
    have hall : (stretch sequence first n ++ [sequence (first + n)]).map Reading.outcome =
        (tokens ++ [token]).map .ok := by
      rw [List.map_append, List.map_append, htokens, List.map_singleton, houtcome]
      rfl
    rw [gather_ok hall]
    exact .tokens hall
  | error error =>
    have hall : (stretch sequence first n ++ [sequence (first + n)]).map Reading.outcome =
        tokens.map .ok ++ [.error error] := by
      rw [List.map_append, htokens, List.map_singleton, houtcome]
    rw [gather_error hall]
    exact .error houtcome

/-- A block of which an error is gathered has tokens, and then this error. -/
theorem Block.exists_discarded {sequence : Nat → Reading} {first count : Nat}
    (h : Block sequence first count) {error : LexicalError}
    (herror : gather (stretch sequence first count) = .error error) :
    ∃ tokens : List Token, (stretch sequence first count).map Reading.outcome =
      tokens.map .ok ++ [.error error] := by
  obtain ⟨n, tokens, rfl, htokens⟩ := h.exists_front
  have hdelivers := delivers_gather h
  rw [herror, stretch_succ_last] at hdelivers
  generalize hreadings : stretch sequence first n ++ [sequence (first + n)] = readings at hdelivers
  cases hdelivers with
  | error houtcome =>
    obtain ⟨-, hlast⟩ := List.append_inj' hreadings rfl
    refine ⟨tokens, ?_⟩
    rw [stretch_succ_last, List.map_append, htokens, hlast, List.map_singleton, houtcome]

/-- Only one thing is delivered of some readings. -/
theorem Delivers.unique {readings : List Reading} {result other : Except LexicalError (List Token)}
    (h : Delivers readings result) (h' : Delivers readings other) : result = other := by
  have hno : ∀ {front : List Reading} {last : Reading} {error : LexicalError} {tokens : List Token},
      last.outcome = .error error → (front ++ [last]).map Reading.outcome ≠ tokens.map .ok := by
    intro front last error tokens houtcome htokens
    have hmem : last.outcome ∈ tokens.map Except.ok := by
      rw [← htokens]
      exact List.mem_map_of_mem (by simp)
    obtain ⟨token, -, htoken⟩ := List.mem_map.1 hmem
    rw [houtcome] at htoken
    simp at htoken
  cases h with
  | @tokens _ tokens htokens =>
    generalize readings = taken at htokens h'
    cases h' with
    | tokens htokens' =>
      have hinjective : Function.Injective (Except.ok (ε := LexicalError) (α := Token)) :=
        fun _ _ heq => Except.ok.inj heq
      rw [hinjective.list_map (htokens.symm.trans htokens')]
    | error houtcome => exact absurd htokens (hno houtcome)
  | @error front last error houtcome =>
    generalize htaken : front ++ [last] = taken at h'
    cases h' with
    | tokens htokens => exact absurd (htaken ▸ htokens) (hno houtcome)
    | error houtcome' =>
      obtain ⟨-, hlast⟩ := List.append_inj' htaken rfl
      obtain rfl := (List.cons_eq_cons.1 hlast).1
      rw [Except.error.inj (houtcome.symm.trans houtcome')]

end CurlyLex
