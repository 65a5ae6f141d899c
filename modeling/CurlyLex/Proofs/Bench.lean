import CurlyLex.Proofs.SessionReadings

/-!
# What is done with a scanner

Single readings, scans and the stream all take readings one after another, each from the cursor that
the one before it left.  They differ in when they stop and in what they do to the flag of the stream.
A bench holds a scanner and any number of copies of it, to each of which the work may go back.

* `Cursor.Consecutive` — readings one after another; only the last of them may be an error or a
  final token.
* `Scanner.Proceeds` — a scanner takes consecutive readings and stands behind them.
* `Scanner.proceeds_read`, `proceeds_next?`, `proceeds_scan`, `proceeds_take`, `proceeds_drain` — so
  does every operation.
* `Move`, `Bench` — what can be done, and with what.
* `Bench.move`, `Bench.run` — one move, and moves one after another.
* `Bench.proceeds_move` — every move proceeds, unless it goes back to a copy.
* `Bench.run_keeps` — so what every operation keeps holds after any moves.
* `Bench.Holds`, `Session.exists_moves` — what a session does, moves do.
-/

namespace CurlyLex

/-! ### Readings in a row -/

/-- Readings one after another, each from where the one before it left the cursor.  Only the last may
be an error or a final token. -/
inductive Cursor.Consecutive (keywords : Keywords) : Cursor → List Reading → Prop
  | nil {cursor : Cursor} : Consecutive keywords cursor []
  | cons {cursor : Cursor} {readings : List Reading} :
      ((cursor.read keywords).isLast = true → readings = []) →
      Consecutive keywords (cursor.read keywords).cursor readings →
      Consecutive keywords cursor (cursor.read keywords :: readings)

/-- The readings of a scan are consecutive. -/
theorem Cursor.consecutive_readings (keywords : Keywords) (cursor : Cursor) :
    cursor.Consecutive keywords (cursor.readings keywords) := by
  -- on what is left to be read
  induction hlen : cursor.rest.length using Nat.strongRecOn generalizing cursor with
  | _ n ih =>
    subst hlen
    rw [readings_eq]
    cases hlast : (cursor.read keywords).isLast with
    | true => exact .cons (fun _ => rfl) .nil
    | false =>
      have hless := cursor.rest_read_lt keywords hlast
      apply Consecutive.cons
      · intro h
        rw [hlast] at h
        simp at h
      · exact ih _ hless _ rfl

namespace Scanner

/-- A scanner takes consecutive readings and then stands behind them. -/
structure Proceeds (scanner : Scanner) (readings : List Reading) (later : Scanner) : Prop where
  source : later.source = scanner.source
  keywords : later.keywords = scanner.keywords
  consecutive : scanner.cursor.Consecutive scanner.keywords readings
  cursor : later.cursor = scanner.cursor.past readings

/-- Doing nothing takes no readings. -/
theorem Proceeds.refl (scanner : Scanner) : scanner.Proceeds [] scanner :=
  ⟨rfl, rfl, .nil, rfl⟩

theorem proceeds_read (scanner : Scanner) :
    scanner.Proceeds [scanner.read.1] scanner.read.2 :=
  ⟨rfl, rfl, .cons (fun _ => rfl) .nil, rfl⟩

theorem proceeds_scan (scanner : Scanner) : scanner.Proceeds scanner.scan.1 scanner.scan.2 :=
  ⟨rfl, rfl, scanner.cursor.consecutive_readings scanner.keywords, rfl⟩

theorem proceeds_next? {scanner later : Scanner} {reading : Reading}
    (h : scanner.next? = some (reading, later)) : scanner.Proceeds [reading] later := by
  obtain ⟨rfl, rfl⟩ := next?_eq_some h
  exact ⟨rfl, rfl, .cons (fun _ => rfl) .nil, rfl⟩

/-- A reading of the stream in front of others, which there are only when it is not the last. -/
theorem Proceeds.cons {scanner later last : Scanner} {reading : Reading} {readings : List Reading}
    (hnext : scanner.next? = some (reading, later)) (h : later.Proceeds readings last)
    (hfinished : later.finished = true → readings = []) :
    scanner.Proceeds (reading :: readings) last := by
  obtain ⟨rfl, rfl⟩ := next?_eq_some hnext
  exact ⟨h.source, h.keywords, .cons hfinished h.consecutive, h.cursor⟩

theorem take_of_finished {scanner : Scanner} (h : scanner.finished = true) (n : Nat) :
    scanner.take n = ([], scanner) := by
  cases n with
  | zero => exact take_zero scanner
  | succ n => rw [take_succ, next?_of_finished h]

theorem proceeds_take (n : Nat) (scanner : Scanner) :
    scanner.Proceeds (scanner.take n).1 (scanner.take n).2 := by
  induction n generalizing scanner with
  | zero => exact .refl scanner
  | succ n ih =>
    rw [take_succ]
    cases hnext : scanner.next? with
    | none => exact .refl scanner
    | some delivered =>
      obtain ⟨reading, later⟩ := delivered
      apply (ih later).cons hnext
      intro hfinished
      rw [take_of_finished hfinished]

theorem proceeds_drain (scanner : Scanner) :
    scanner.Proceeds scanner.drain.1 scanner.drain.2 := by
  -- on the bound of the readings that are still to come
  induction hbound : scanner.remaining using Nat.strongRecOn generalizing scanner with
  | _ n ih =>
    subst hbound
    rw [drain_eq]
    cases hnext : scanner.next? with
    | none => exact .refl scanner
    | some delivered =>
      obtain ⟨reading, later⟩ := delivered
      have hfewer := remaining_lt_of_next? hnext
      apply (ih _ hfewer later rfl).cons hnext
      intro hfinished
      rw [drain_of_finished hfinished]

end Scanner

/-! ### Benches -/

/-- What can be done with a scanner and its copies. -/
inductive Move where
  /-- Take one reading. -/
  | read
  /-- Take the next reading of the stream. -/
  | next
  /-- Scan to the end. -/
  | scan
  /-- Take the rest of the stream. -/
  | collect
  /-- Take at most so many readings of the stream. -/
  | take (count : Nat)
  /-- Keep a copy of the scanner as it is. -/
  | copy
  /-- Go back to a copy; when there is none of this number, stay. -/
  | restore (index : Nat)

/-- A scanner, and the copies that were kept of it. -/
structure Bench where
  /-- The scanner in use. -/
  scanner : Scanner
  /-- The copies, in the order in which they were made. -/
  copies : List Scanner

namespace Bench

/-- A fresh scanner without copies. -/
def ofSource (source : String) (keywords : Keywords) : Bench :=
  ⟨.ofSource source keywords, []⟩

/-- One move: the readings that are taken, and the bench to go on with. -/
def move (bench : Bench) : Move → List Reading × Bench
  | .read =>
    let (reading, scanner) := bench.scanner.read
    ([reading], { bench with scanner })
  | .next =>
    match bench.scanner.next? with
    | none => ([], bench)
    | some (reading, scanner) => ([reading], { bench with scanner })
  | .scan =>
    let (readings, scanner) := bench.scanner.scan
    (readings, { bench with scanner })
  | .collect =>
    let (readings, scanner) := bench.scanner.drain
    (readings, { bench with scanner })
  | .take count =>
    let (readings, scanner) := bench.scanner.take count
    (readings, { bench with scanner })
  | .copy => ([], { bench with copies := bench.copies ++ [bench.scanner] })
  | .restore index => ([], { bench with scanner := bench.copies[index]?.getD bench.scanner })

/-- The bench after some moves. -/
def run (bench : Bench) (moves : List Move) : Bench :=
  moves.foldl (fun bench move => (bench.move move).2) bench

@[simp]
theorem run_cons (bench : Bench) (move : Move) (moves : List Move) :
    bench.run (move :: moves) = (bench.move move).2.run moves := rfl

theorem run_append (bench : Bench) (first second : List Move) :
    bench.run (first ++ second) = (bench.run first).run second :=
  List.foldl_append

/-- **Every move takes consecutive readings and leaves the scanner behind them**, unless it goes back
to a copy. -/
theorem proceeds_move (bench : Bench) {move : Move} (h : ∀ index, move ≠ .restore index) :
    bench.scanner.Proceeds (bench.move move).1 (bench.move move).2.scanner := by
  cases move with
  | read => exact bench.scanner.proceeds_read
  | next =>
    rw [Bench.move]
    cases hnext : bench.scanner.next? with
    | none => exact .refl bench.scanner
    | some delivered => exact Scanner.proceeds_next? hnext
  | scan => exact bench.scanner.proceeds_scan
  | collect => exact bench.scanner.proceeds_drain
  | take count => exact bench.scanner.proceeds_take count
  | copy => exact .refl bench.scanner
  | restore index => exact absurd rfl (h index)

/-- Going back takes no readings, and leaves the scanner in use or one of the copies. -/
theorem move_restore (bench : Bench) (index : Nat) :
    (bench.move (.restore index)).1 = [] ∧
      ((bench.move (.restore index)).2.scanner = bench.scanner ∨
        (bench.move (.restore index)).2.scanner ∈ bench.copies) := by
  refine ⟨rfl, ?_⟩
  show bench.copies[index]?.getD bench.scanner = bench.scanner ∨
    bench.copies[index]?.getD bench.scanner ∈ bench.copies
  cases hcopy : bench.copies[index]? with
  | none => exact .inl rfl
  | some copy => exact .inr (List.mem_of_getElem? hcopy)

/-- After a move there is at most one more copy, of the scanner that was in use. -/
theorem mem_copies_move {bench : Bench} {move : Move} {copy : Scanner}
    (h : copy ∈ (bench.move move).2.copies) : copy ∈ bench.copies ∨ copy = bench.scanner := by
  cases move with
  | copy =>
    rw [Bench.move, List.mem_append, List.mem_singleton] at h
    exact h
  | next =>
    rw [Bench.move] at h
    split at h <;> exact .inl h
  | _ => exact .inl h

/-- **What every operation of a scanner keeps holds of every scanner of a bench**, whatever is done
with it. -/
theorem run_keeps (property : Scanner → Prop) (bench : Bench)
    (hkeeps : ∀ scanner later readings, scanner.Proceeds readings later →
      property scanner → property later)
    (hscanner : property bench.scanner) (hcopies : ∀ copy ∈ bench.copies, property copy)
    (moves : List Move) :
    property (bench.run moves).scanner ∧ ∀ copy ∈ (bench.run moves).copies, property copy := by
  induction moves generalizing bench with
  | nil => exact ⟨hscanner, hcopies⟩
  | cons move moves ih =>
    rw [run_cons]
    apply ih
    · by_cases hback : ∃ index, move = .restore index
      · obtain ⟨index, rfl⟩ := hback
        rcases (bench.move_restore index).2 with hsame | hcopy
        · rw [hsame]
          exact hscanner
        · exact hcopies _ hcopy
      · have hforth : ∀ index, move ≠ .restore index := fun index hmove => hback ⟨index, hmove⟩
        exact hkeeps _ _ _ (bench.proceeds_move hforth) hscanner
    · intro copy hcopy
      rcases mem_copies_move hcopy with hold | rfl
      · exact hcopies copy hold
      · exact hscanner

/-- Until the work goes back to a copy, it is enough that the scanner in use has it. -/
theorem run_forth_keeps (property : Scanner → Prop) (bench : Bench)
    (hkeeps : ∀ scanner later readings, scanner.Proceeds readings later →
      property scanner → property later)
    (hscanner : property bench.scanner) {moves : List Move}
    (hforth : ∀ index, .restore index ∉ moves) : property (bench.run moves).scanner := by
  induction moves generalizing bench with
  | nil => exact hscanner
  | cons move moves ih =>
    have hmove : ∀ index, move ≠ .restore index :=
      fun index heq => hforth index (heq ▸ List.mem_cons_self)
    have hmoves : ∀ index, .restore index ∉ moves :=
      fun index hmem => hforth index (List.mem_cons_of_mem move hmem)
    exact ih _ (hkeeps _ _ _ (bench.proceeds_move hmove) hscanner) hmoves

/-- The keyword table stays the same. -/
theorem keywords_run (source : String) (keywords : Keywords) (moves : List Move) :
    ((ofSource source keywords).run moves).scanner.keywords = keywords := by
  have hkept := run_keeps (fun scanner => scanner.keywords = keywords) (ofSource source keywords)
    (fun _ _ _ hproceeds h => hproceeds.keywords.trans h) rfl (by simp [ofSource]) moves
  exact hkept.1

/-! ### Sessions -/

/-- A bench holds a session when it has the same scanner in use, and the remembered scanner among its
copies. -/
structure Holds (bench : Bench) (session : Session) : Prop where
  scanner : bench.scanner = session.scanner
  saved : session.saved ∈ bench.copies

/-- What a session does for a request, some moves do: one for each request but the one that does
nothing. -/
theorem Holds.answer {bench : Bench} {session : Session} (h : bench.Holds session)
    (request : Request) : ∃ moves, (bench.run moves).Holds (session.answer request).session := by
  obtain ⟨scanner, copies⟩ := bench
  obtain rfl : scanner = session.scanner := h.scanner
  have hsaved : session.saved ∈ copies := h.saved
  rw [Session.answer_eq]
  cases request with
  | read => exact ⟨[.read], rfl, hsaved⟩
  | next =>
    refine ⟨[.next], ?_⟩
    rw [run_cons, move, Session.deed]
    cases session.scanner.next? with
    | none => exact ⟨rfl, hsaved⟩
    | some delivered => exact ⟨rfl, hsaved⟩
  | scan => exact ⟨[.scan], rfl, hsaved⟩
  | collect => exact ⟨[.collect], rfl, hsaved⟩
  | take count => exact ⟨[.take count], rfl, hsaved⟩
  | observe => exact ⟨[], rfl, hsaved⟩
  | save =>
    refine ⟨[.copy], rfl, ?_⟩
    show session.scanner ∈ copies ++ [session.scanner]
    exact List.mem_append_right copies (List.mem_singleton.2 rfl)
  | restore =>
    obtain ⟨index, hindex⟩ := List.mem_iff_getElem?.1 hsaved
    refine ⟨[.restore index], ?_, hsaved⟩
    show copies[index]?.getD session.scanner = session.saved
    rw [hindex, Option.getD_some]

/-- What a session does for requests one after another, some moves do. -/
theorem Holds.run {bench : Bench} {session : Session} (h : bench.Holds session)
    (requests : List Request) :
    ∀ answer ∈ session.run requests, ∃ moves, (bench.run moves).Holds answer.session := by
  induction requests generalizing bench session with
  | nil => simp [Session.run, Session.runIn]
  | cons request requests ih =>
    intro answer hanswer
    obtain ⟨moves, hmoves⟩ := h.answer request
    rw [Session.run_cons, List.mem_cons] at hanswer
    rcases hanswer with rfl | hanswer
    · exact ⟨moves, hmoves⟩
    · obtain ⟨others, hothers⟩ := ih hmoves answer hanswer
      refine ⟨moves ++ others, ?_⟩
      rw [run_append]
      exact hothers

end Bench

/-- **Every state of a session is that of a bench after some moves.** -/
theorem Session.exists_moves (source : String) (keywords : Keywords) (requests : List Request) :
    ∀ answer ∈ (Session.ofSource source keywords).run requests,
      ∃ moves, ((Bench.ofSource source keywords).run moves).Holds answer.session := by
  intro answer hanswer
  have hstart : ((Bench.ofSource source keywords).run [.copy]).Holds
      (Session.ofSource source keywords) :=
    ⟨rfl, List.mem_singleton.2 rfl⟩
  obtain ⟨moves, hmoves⟩ := hstart.run requests answer hanswer
  exact ⟨.copy :: moves, hmoves⟩

end CurlyLex
