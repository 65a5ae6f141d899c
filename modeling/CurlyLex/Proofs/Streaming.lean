import CurlyLex.Proofs.Bench
import Mathlib.Data.List.Basic

/-!
# Streams and scans

A scan takes readings until one is the last, and returns the tokens together.  A stream delivers the
same readings one at a time, and remembers with a flag that the last has been delivered.  So the
stream of an unfinished scanner, collected, is its scan, wherever the scanner stands and whichever
words end its input.  A finished stream delivers nothing, and stays finished whatever is read or
scanned in between.

* `Reading.isLast_iff`, `Reading.isLast_eq_false_iff` — what the last reading is, and what the others
  are.
* `Scanner.collect` — collecting a stream, up to the first error; `Scanner.collect_eq` — the stream
  ends there anyway.
* `Scanner.drain_of_unfinished` — the rest of a stream is a scan.
* `Scanner.take_eq_take_drain`, `Scanner.take_of_length_le` — the items of a stream one by one.
* `Scanner.Streams` — tokens that do not end the input, one last item, and nothing more.
* `Bench.finished_run` — finished streams stay finished.
* `Bench.stream_eq_scan` — streams against scans.
-/

namespace CurlyLex

/-! ### The last reading -/

/-- The last reading is an error or a token that ends the input. -/
theorem Reading.isLast_iff (reading : Reading) :
    reading.isLast = true ↔ (∃ error, reading.outcome = .error error) ∨
      ∃ token, reading.outcome = .ok token ∧ token.kind = .endOfInput := by
  rw [isLast]
  cases reading.outcome with
  | ok token => simp [Token.isFinal]
  | error error => simp

/-- The others are tokens that do not end the input. -/
theorem Reading.isLast_eq_false_iff (reading : Reading) :
    reading.isLast = false ↔
      ∃ token, reading.outcome = .ok token ∧ token.kind ≠ .endOfInput := by
  rw [isLast]
  cases reading.outcome with
  | ok token => simp [Token.isFinal]
  | error error => simp

/-- **A scan has a last reading, and only one.** -/
theorem Cursor.exists_last (keywords : Keywords) (cursor : Cursor) :
    ∃ front last, cursor.readings keywords = front ++ [last] ∧
      (∀ reading ∈ front, reading.isLast = false) ∧ last.isLast = true := by
  -- on what is left to be read
  induction hlen : cursor.rest.length using Nat.strongRecOn generalizing cursor with
  | _ n ih =>
    subst hlen
    rw [readings_eq]
    cases hlast : (cursor.read keywords).isLast with
    | true => exact ⟨[], _, rfl, by simp, hlast⟩
    | false =>
      obtain ⟨front, last, hreadings, hfront, hend⟩ := ih _ (cursor.rest_read_lt keywords hlast) _ rfl
      refine ⟨cursor.read keywords :: front, last, ?_, ?_, hend⟩
      · rw [hreadings]
        rfl
      · intro reading hreading
        rcases List.mem_cons.1 hreading with rfl | hmem
        · exact hlast
        · exact hfront reading hmem

namespace Scanner

/-! ### The items of a stream -/

variable {scanner : Scanner}

theorem next?_of_unfinished (h : scanner.finished = false) :
    scanner.next? = some (scanner.cursor.read scanner.keywords,
      { scanner with
        cursor := (scanner.cursor.read scanner.keywords).cursor
        finished := (scanner.cursor.read scanner.keywords).isLast }) := by
  rw [next?_eq, if_neg (by simp [h])]

/-- **The rest of an unfinished stream is a scan**, after which the stream is finished. -/
theorem drain_of_unfinished (scanner : Scanner) (h : scanner.finished = false) :
    scanner.drain = (scanner.scan.1, { scanner.scan.2 with finished := true }) := by
  -- on what is left to be read
  induction hlen : scanner.cursor.rest.length using Nat.strongRecOn generalizing scanner with
  | _ n ih =>
    subst hlen
    rw [drain_eq, next?_of_unfinished h, scan, Cursor.readings_eq]
    cases hlast : (scanner.cursor.read scanner.keywords).isLast with
    | true =>
      simp only [drain_of_finished]
      rfl
    | false =>
      have hless := scanner.cursor.rest_read_lt scanner.keywords hlast
      simp only [ih _ hless ⟨_, _, _, false⟩ rfl rfl]
      rfl

/-- A finished stream has been drained. -/
theorem finished_drain (scanner : Scanner) : scanner.drain.2.finished = true := by
  cases hfinished : scanner.finished with
  | true =>
    rw [drain_of_finished hfinished]
    exact hfinished
  | false => rw [drain_of_unfinished scanner hfinished]

/-- Items that are taken are the first of those that are left. -/
theorem take_eq_take_drain (n : Nat) (scanner : Scanner) :
    (scanner.take n).1 = scanner.drain.1.take n := by
  induction n generalizing scanner with
  | zero => rfl
  | succ n ih =>
    rw [take_succ, drain_eq]
    cases scanner.next? with
    | none => rfl
    | some delivered =>
      obtain ⟨reading, later⟩ := delivered
      exact congrArg (List.cons reading) (ih later)

/-- When no more items are left than are taken, the stream is drained. -/
theorem take_of_length_le {n : Nat} (h : scanner.drain.1.length ≤ n) :
    scanner.take n = scanner.drain := by
  induction n generalizing scanner with
  | zero =>
    rw [drain_eq] at h ⊢
    cases hnext : scanner.next? with
    | none => rfl
    | some delivered =>
      rw [hnext] at h
      simp at h
  | succ n ih =>
    rw [drain_eq] at h ⊢
    rw [take_succ]
    cases hnext : scanner.next? with
    | none => rfl
    | some delivered =>
      obtain ⟨reading, later⟩ := delivered
      rw [hnext] at h
      have hlater := ih (Nat.le_of_succ_le_succ h)
      simp only [hlater]

/-! ### Collecting a stream -/

/-- Collect a stream: its tokens, or its first error, behind which nothing is asked for. -/
def collect (scanner : Scanner) : Except LexicalError (List Token) × Scanner :=
  let (tokens, later, _) := scanner.collectItems (.start .info)
  (tokens, later)

/-- **A stream that is collected is drained**, because it ends with its first error. -/
theorem collect_eq (scanner : Scanner) :
    scanner.collect = (gather scanner.drain.1, scanner.drain.2) := by
  rw [collect, collectItems_eq]

/-- A stream delivers tokens that do not end the input, and then one last item, an error or a token
that does.  These are the readings of a scan, in order, and asked for so many items it delivers the
outcomes of as many.  Asked for more, the stream delivers nothing and stays as it is. -/
structure Streams (scanner : Scanner) (front : List Reading) (last : Reading) : Prop where
  readings : scanner.scan.1 = front ++ [last]
  items : ∀ n, (scanner.take n).1 = (front ++ [last]).take n
  delivered : ∀ n journal,
    (scanner.takeItems n journal).1 = ((front ++ [last]).take n).map Reading.outcome
  more : ∀ reading ∈ front, ∃ token, reading.outcome = .ok token ∧ token.kind ≠ .endOfInput
  ending : (∃ error, last.outcome = .error error) ∨
    ∃ token, last.outcome = .ok token ∧ token.kind = .endOfInput
  ended : ∀ n, front.length < n →
    (scanner.take n).2 = scanner.collect.2 ∧ (scanner.take n).2.next? = none

/-- **The stream of an unfinished scanner has one last item.** -/
theorem exists_streams (h : scanner.finished = false) : ∃ front last, scanner.Streams front last := by
  obtain ⟨front, last, hreadings, hfront, hlast⟩ := scanner.cursor.exists_last scanner.keywords
  have hdrain : scanner.drain.1 = front ++ [last] := by
    rw [drain_of_unfinished _ h]
    exact hreadings
  have hitems : ∀ n, (scanner.take n).1 = (front ++ [last]).take n := by
    intro n
    rw [take_eq_take_drain, hdrain]
  refine ⟨front, last, ⟨hreadings, hitems, ?_, ?_, last.isLast_iff.1 hlast, ?_⟩⟩
  · intro n journal
    rw [takeItems_eq, hitems]
  · exact fun reading hreading => reading.isLast_eq_false_iff.1 (hfront reading hreading)
  · intro n hn
    have hlength : scanner.drain.1.length ≤ n := by
      rw [hdrain, List.length_append]
      exact hn
    rw [take_of_length_le hlength, collect_eq]
    exact ⟨rfl, next?_of_finished scanner.finished_drain⟩

end Scanner

/-! ### Finished streams -/

namespace Bench

/-- A finished stream stays finished in every move, unless the move goes back to a copy. -/
theorem finished_move {bench : Bench} {move : Move} (h : bench.scanner.finished = true)
    (hforth : ∀ index, move ≠ .restore index) : (bench.move move).2.scanner.finished = true := by
  cases move with
  | read => exact h
  | next =>
    rw [Bench.move, Scanner.next?_of_finished h]
    exact h
  | scan => exact h
  | collect => exact bench.scanner.finished_drain
  | take count =>
    show (bench.scanner.take count).2.finished = true
    rw [Scanner.take_of_finished h]
    exact h
  | copy => exact h
  | restore index => exact absurd rfl (hforth index)

/-- **A finished stream stays finished**, whatever is done but going back. -/
theorem finished_run {bench : Bench} {moves : List Move} (h : bench.scanner.finished = true)
    (hforth : ∀ index, .restore index ∉ moves) : (bench.run moves).scanner.finished = true := by
  induction moves generalizing bench with
  | nil => exact h
  | cons move moves ih =>
    have hmove : ∀ index, move ≠ .restore index :=
      fun index heq => hforth index (heq ▸ List.mem_cons_self)
    exact ih (finished_move h hmove) fun index hmem => hforth index (List.mem_cons_of_mem move hmem)

/-- **Streams and scans agree.**  While the stream of a scanner is unfinished, collecting it returns
what a scan returns and leaves the cursor where the scan leaves it, and it has one last item.  Once it
is finished it delivers nothing and moves nothing, whatever is done in between but going back to a
copy. -/
theorem stream_eq_scan (bench : Bench) :
    (bench.scanner.finished = false →
      bench.scanner.collect =
        (gather (bench.move .collect).1, (bench.move .collect).2.scanner) ∧
      bench.scanner.scanned = (gather (bench.move .scan).1, (bench.move .scan).2.scanner) ∧
      gather (bench.move .collect).1 = gather (bench.move .scan).1 ∧
      (bench.move .collect).2.scanner.cursor = (bench.move .scan).2.scanner.cursor ∧
      ∃ front last, bench.scanner.Streams front last) ∧
    (bench.scanner.finished = true → ∀ moves, (∀ index, .restore index ∉ moves) →
      (bench.run moves).move .next = ([], bench.run moves)) := by
  refine ⟨?_, ?_⟩
  · intro h
    have hdrain := bench.scanner.drain_of_unfinished h
    refine ⟨bench.scanner.collect_eq, bench.scanner.scanned_eq, ?_, ?_, Scanner.exists_streams h⟩
    · exact congrArg (fun drained => gather drained.1) hdrain
    · exact congrArg (fun drained => drained.2.cursor) hdrain
  · intro h moves hforth
    rw [move, Scanner.next?_of_finished (finished_run h hforth)]

/-- A stream that is collected in the middle of a source, up to a word that ends the input; and the
finished stream, after a reading behind that word. -/
theorem stream_eq_scan_stop :
    ((ofSource "a stop b" (.ofList [("stop", .endOfInput)])).run [.read]).scanner.collect.1 =
        .ok [⟨.endOfInput, some "stop", ⟨1, 3⟩⟩] ∧
      ((ofSource "a stop b" (.ofList [("stop", .endOfInput)])).run [.read, .collect, .read]).move
          .next =
        ([], (ofSource "a stop b" (.ofList [("stop", .endOfInput)])).run
          [.read, .collect, .read]) := by
  refine ⟨?_, ?_⟩
  · have hscan : gather (((ofSource "a stop b" (.ofList [("stop", .endOfInput)])).run
        [.read]).move .scan).1 = .ok [⟨.endOfInput, some "stop", ⟨1, 3⟩⟩] := by decide +kernel
    obtain ⟨hcollect, -, hsame, -⟩ := (stream_eq_scan ((ofSource "a stop b"
      (.ofList [("stop", .endOfInput)])).run [.read])).1 rfl
    rw [hcollect]
    exact hsame.trans hscan
  · have hfinished : ((ofSource "a stop b" (.ofList [("stop", .endOfInput)])).run
        [.read, .collect]).scanner.finished = true := Scanner.finished_drain _
    exact (stream_eq_scan _).2 hfinished [.read] (by simp)

end Bench

end CurlyLex
