import CurlyLex.LexicalError
import CurlyLex.Proofs.PrintedTokens

/-!
# Messages of errors can be told apart

A message shows the characters that are at fault between two marks, and whatever these characters are,
they cannot be mistaken for the end of the quotation or for something else.  Each written form can be
read back from the front of a text, so a quotation ends at one place only and is the quotation of one
text only.  What comes before it tells the faults apart, and what comes behind it is the position.
Everything is shown by characters that can be printed, so a message stays on one line.

* `Text.hexValue_toDigits` — a number in base sixteen can be read back.
* `Text.Written` — the forms in which a character is written; `Text.unescape?` — reads one of them, and
  `Text.Written.unescape?_append` — gives the character back.
* `Text.quote_append_injective` — a quotation at the front of a text is known with all that is behind.
* `Text.printable_of_mem_quote` — it has only printable characters.
* `Fault.detail_append_injective` — so a fault is known by its words.
* `LexicalError.message_unambiguous` — an error is known by its message, which is a single line.
-/

namespace CurlyLex

namespace Text

/-! ### Base sixteen -/

/-- The value of a digit, in base sixteen. -/
def digitValue (c : Char) : Nat :=
  if c.isDigit then c.toNat - '0'.toNat else c.toNat - 'a'.toNat + 10

/-- The value of some digits, the first of which counts most. -/
def hexValue (digits : List Char) : Nat :=
  digits.foldl (fun n c => 16 * n + digitValue c) 0

theorem digitValue_digitChar : ∀ d < 16, digitValue (Nat.digitChar d) = d := by
  decide

theorem hexValue_concat (digits : List Char) (c : Char) :
    hexValue (digits ++ [c]) = 16 * hexValue digits + digitValue c := by
  rw [hexValue, List.foldl_append]
  rfl

/-- **The digits of a number have its value.** -/
theorem hexValue_toDigits (n : Nat) : hexValue (Nat.toDigits 16 n) = n := by
  -- on the number: all digits but the last are those of a sixteenth of it
  induction n using Nat.strongRecOn with
  | _ n ih =>
    by_cases hn : n < 16
    · rw [Nat.toDigits_of_lt_base hn]
      show 16 * 0 + digitValue n.digitChar = n
      rw [digitValue_digitChar n hn, Nat.mul_zero, Nat.zero_add]
    · have hlast := digitValue_digitChar (n % 16) (Nat.mod_lt n (by decide))
      rw [Nat.toDigits_of_base_le (by decide) (by omega), hexValue_concat, ih (n / 16) (by omega),
        hlast, Nat.div_add_mod]

/-- Whatever the base is, there are only its digits in a number. -/
theorem exists_digit_of_mem_toDigits {base n : Nat} {c : Char} (hbase : 1 < base)
    (h : c ∈ Nat.toDigits base n) : ∃ d < base, c = Nat.digitChar d := by
  induction n using Nat.strongRecOn with
  | _ n ih =>
    by_cases hn : n < base
    · rw [Nat.toDigits_of_lt_base hn] at h
      exact ⟨n, hn, List.mem_singleton.1 h⟩
    · rw [Nat.toDigits_of_base_le hbase (by omega)] at h
      rcases List.mem_append.1 h with hfront | hlast
      · exact ih (n / base) (Nat.div_lt_self (by omega) hbase) hfront
      · exact ⟨n % base, Nat.mod_lt n (by omega), List.mem_singleton.1 hlast⟩

/-! ### Written forms -/

/-- The two marks between which texts are quoted. -/
def IsMark (mark : Char) : Prop :=
  mark = '\x22' ∨ mark = '\x27'

/-- The character that a letter behind a backslash stands for. -/
def meant (c : Char) : Char :=
  if c = '0' then '\x00'
  else if c = 't' then '\t'
  else if c = 'n' then '\n'
  else if c = 'r' then '\r'
  else c

/-- Read one character from its written form at the front of a text, and leave what is behind. -/
def unescape? : List Char → Option (Char × List Char)
  | [] => none
  | '\\' :: 'u' :: _ :: text =>
    some (.ofNat (hexValue (text.takeWhile (· != '\x7d'))), (text.dropWhile (· != '\x7d')).drop 1)
  | '\\' :: c :: text => some (meant c, text)
  | c :: text => some (c, text)

/-- The forms in which a character is written.  A letter behind a backslash stands for another character,
the mark and the backslash take a backslash, and of the others those that cannot be printed are written
by number. -/
inductive Written (mark : Char) : Char → List Char → Prop
  | letter (letter : Char) :
      letter ∈ ['0', 't', 'n', 'r'] → Written mark (meant letter) ['\\', letter]
  | itself {c : Char} : c = '\\' ∨ c = mark → Written mark c ['\\', c]
  | number (c : Char) : Written mark c (numericEscape c)
  | plain {c : Char} :
      c ≠ '\\' → c ≠ mark → isUnprintable c = false → Written mark c [c]

/-- **Every character is written in one of the forms.** -/
theorem written_escape (mark c : Char) : Written mark c (escape mark c) := by
  rw [escape]
  split
  · next h => rw [h]; exact .letter '0' (by decide)
  split
  · next h => rw [h]; exact .letter 't' (by decide)
  split
  · next h => rw [h]; exact .letter 'n' (by decide)
  split
  · next h => rw [h]; exact .letter 'r' (by decide)
  split
  · next h => exact .itself h
  split
  · exact .number c
  · next hplain hprintable =>
    obtain ⟨hslash, hmark⟩ := not_or.1 hplain
    exact .plain hslash hmark (Bool.eq_false_iff.2 hprintable)

namespace Written

variable {mark c : Char} {form : List Char}

theorem unescape?_number (c : Char) (text : List Char) :
    unescape? (numericEscape c ++ text) = some (c, text) := by
  have hdigits : ∀ d ∈ Nat.toDigits 16 c.toNat, (d != '\x7d') = true := by
    intro d hd
    obtain ⟨n, hn, rfl⟩ := exists_digit_of_mem_toDigits (by decide) hd
    have hall : ∀ n < 16, (Nat.digitChar n != '\x7d') = true := by decide
    exact hall n hn
  have hform : numericEscape c ++ text =
      '\\' :: 'u' :: '\x7b' :: (Nat.toDigits 16 c.toNat ++ '\x7d' :: text) := by
    simp [numericEscape]
  rw [hform, unescape?, List.takeWhile_append_of_pos hdigits, List.dropWhile_append_of_pos hdigits]
  simp [hexValue_toDigits]

/-- **A written form is read back as the character it stands for**, whatever comes behind it. -/
theorem unescape?_append (h : Written mark c form) (hmark : IsMark mark) (text : List Char) :
    unescape? (form ++ text) = some (c, text) := by
  cases h with
  | letter letter hletter =>
    simp only [List.mem_cons, List.not_mem_nil, or_false] at hletter
    rcases hletter with rfl | rfl | rfl | rfl <;> rfl
  | itself hc =>
    rcases hc with rfl | rfl
    · rfl
    · rcases hmark with rfl | rfl <;> rfl
  | number c => exact unescape?_number c text
  | plain hslash _ _ =>
    rw [List.singleton_append, unescape?]
    · intro rest behind hc
      exact absurd hc hslash
    · intro d rest hc
      exact absurd hc hslash

/-- No written form begins with the mark. -/
theorem append_ne (h : Written mark c form) (hmark : IsMark mark) (text rest : List Char) :
    form ++ text ≠ mark :: rest := by
  intro heq
  have hhead := congrArg List.head? heq
  have hslash : '\\' ≠ mark := by rcases hmark with rfl | rfl <;> decide
  cases h with
  | letter _ _ => exact hslash (Option.some.inj hhead)
  | itself _ => exact hslash (Option.some.inj hhead)
  | number _ => exact hslash (Option.some.inj hhead)
  | plain _ hother _ => exact hother (Option.some.inj hhead)

end Written

/-! ### Quotations -/

/-- Behind the opening mark, the text and what is behind the quotation are known. -/
theorem flatMap_escape_injective {mark : Char} (hmark : IsMark mark)
    {first second behind₁ behind₂ : List Char}
    (h : first.flatMap (escape mark) ++ mark :: behind₁ =
      second.flatMap (escape mark) ++ mark :: behind₂) : first = second ∧ behind₁ = behind₂ := by
  induction first generalizing second with
  | nil =>
    cases second with
    | nil => exact ⟨rfl, (List.cons_eq_cons.1 h).2⟩
    | cons d second =>
      rw [List.flatMap_cons, List.append_assoc] at h
      exact absurd h.symm ((written_escape mark d).append_ne hmark _ _)
  | cons c first ih =>
    cases second with
    | nil =>
      rw [List.flatMap_cons, List.append_assoc] at h
      exact absurd h ((written_escape mark c).append_ne hmark _ _)
    | cons d second =>
      -- the first character is read off on both sides, and the rest follows from the rest
      rw [List.flatMap_cons, List.flatMap_cons, List.append_assoc, List.append_assoc] at h
      have hread := (written_escape mark c).unescape?_append hmark
        (first.flatMap (escape mark) ++ mark :: behind₁)
      rw [h, (written_escape mark d).unescape?_append hmark] at hread
      obtain ⟨rfl, hrest⟩ := Prod.mk.inj (Option.some.inj hread)
      obtain ⟨rfl, rfl⟩ := ih hrest.symm
      exact ⟨rfl, rfl⟩

/-- **A quotation at the front of a text is the quotation of one text only**, and ends at one place. -/
theorem quote_append_injective {mark : Char} (hmark : IsMark mark)
    {first second behind₁ behind₂ : List Char}
    (h : quote mark first ++ behind₁ = quote mark second ++ behind₂) :
    first = second ∧ behind₁ = behind₂ := by
  simp only [quote, List.cons_append, List.append_assoc, List.nil_append] at h
  exact flatMap_escape_injective hmark (List.cons_eq_cons.1 h).2

/-! ### What can be printed -/

/-- Is this one of the characters of ASCII from the space to the tilde? -/
def isVisible (c : Char) : Bool :=
  decide (0x20 ≤ c.toNat) && decide (c.toNat ≤ 0x7e)

/-- No range of the table comes between the space and the tilde. -/
theorem printable_of_isVisible {c : Char} (h : isVisible c) : isUnprintable c = false := by
  have hranges : ∀ range ∈ unprintable.ranges, range.2 < 0x20 ∨ 0x7e < range.1 := by
    decide +kernel
  simp only [isVisible, Bool.and_eq_true, decide_eq_true_eq] at h
  rw [isUnprintable, CodeRanges.covers, List.any_eq_false]
  intro range hrange
  have hrange := hranges range hrange
  simp only [Bool.and_eq_true, decide_eq_true_eq]
  omega

theorem printable_of_mem {text : List Char} (h : text.all isVisible = true) {c : Char}
    (hc : c ∈ text) : isUnprintable c = false :=
  printable_of_isVisible (List.all_eq_true.1 h c hc)

theorem isVisible_digitChar : ∀ d < 16, isVisible (Nat.digitChar d) := by
  decide

theorem printable_of_mem_decimal {n : Nat} {c : Char} (h : c ∈ (decimal n).toList) :
    isUnprintable c = false := by
  rw [decimal, String.toList_ofList] at h
  obtain ⟨d, hd, rfl⟩ := exists_digit_of_mem_toDigits (by decide) h
  exact printable_of_isVisible (isVisible_digitChar d (by omega))

/-- **A written form has only printable characters.** -/
theorem Written.printable {mark c d : Char} {form : List Char} (h : Written mark c form)
    (hmark : IsMark mark) (hd : d ∈ form) : isUnprintable d = false := by
  cases h with
  | letter letter hletter =>
    simp only [List.mem_cons, List.not_mem_nil, or_false] at hletter
    rcases hletter with rfl | rfl | rfl | rfl <;> exact printable_of_mem (by decide) hd
  | itself hc =>
    rcases hc with rfl | rfl
    · exact printable_of_mem (by decide) hd
    · rcases hmark with rfl | rfl <;> exact printable_of_mem (by decide) hd
  | number c =>
    rw [numericEscape] at hd
    rcases List.mem_append.1 hd with hfront | hclose
    · rcases List.mem_append.1 hfront with hopen | hdigit
      · exact printable_of_mem (by decide) hopen
      · obtain ⟨n, hn, rfl⟩ := exists_digit_of_mem_toDigits (by decide) hdigit
        exact printable_of_isVisible (isVisible_digitChar n hn)
    · exact printable_of_mem (by decide) hclose
  | plain _ _ hprintable =>
    rw [List.mem_singleton.1 hd]
    exact hprintable

/-- So has a quotation. -/
theorem printable_of_mem_quote {mark : Char} (hmark : IsMark mark) {text : List Char} {c : Char}
    (h : c ∈ quote mark text) : isUnprintable c = false := by
  have hself : isUnprintable mark = false := by
    apply printable_of_isVisible
    rcases hmark with rfl | rfl <;> decide
  rw [quote, List.mem_cons, List.mem_append, List.mem_flatMap, List.mem_singleton] at h
  rcases h with rfl | ⟨d, -, hd⟩ | rfl
  · exact hself
  · exact (written_escape mark d).printable hmark hd
  · exact hself

end Text

/-! ### Faults in words -/

namespace Fault

/-- The words for a fault, up to the quotation. -/
def words : Fault → String
  | unterminatedComment => "unterminated block comment"
  | malformedExponent _ => "malformed exponent in "
  | unrecognizedCharacter _ => "unrecognized character "

/-- What is quoted behind the words, if there is anything to be shown. -/
def quotation : Fault → List Char
  | unterminatedComment => []
  | malformedExponent literal => Text.quote '\x22' literal.toList
  | unrecognizedCharacter c => Text.quote '\x27' [c]

theorem toList_detail (fault : Fault) :
    fault.detail.toList = fault.words.toList ++ fault.quotation := by
  cases fault with
  | unterminatedComment =>
    show "unterminated block comment".toList = "unterminated block comment".toList ++ []
    rw [List.append_nil]
  | malformedExponent literal =>
    have hquote : (Text.quoteString literal).toList = Text.quote '\x22' literal.toList :=
      String.toList_ofList
    show ("malformed exponent in " ++ Text.quoteString literal).toList =
      "malformed exponent in ".toList ++ Text.quote '\x22' literal.toList
    rw [String.toList_append, hquote]
  | unrecognizedCharacter c =>
    have hquote : (Text.quoteChar c).toList = Text.quote '\x27' [c] := String.toList_ofList
    show ("unrecognized character " ++ Text.quoteChar c).toList =
      "unrecognized character ".toList ++ Text.quote '\x27' [c]
    rw [String.toList_append, hquote]

/-- The third letter of the words, which no other fault has. -/
def letter : Fault → Char
  | unterminatedComment => 't'
  | malformedExponent _ => 'l'
  | unrecognizedCharacter _ => 'r'

theorem getElem?_words (fault : Fault) (behind : List Char) :
    (fault.words.toList ++ behind)[2]? = some fault.letter := by
  cases fault with
  | unterminatedComment => rw [words]; rfl
  | malformedExponent literal => rw [words]; rfl
  | unrecognizedCharacter c => rw [words]; rfl

/-- **A fault is known by its words**, with all that is behind them. -/
theorem detail_append_injective {first second : Fault} {behind₁ behind₂ : List Char}
    (h : first.detail.toList ++ behind₁ = second.detail.toList ++ behind₂) :
    first = second ∧ behind₁ = behind₂ := by
  rw [toList_detail, toList_detail, List.append_assoc, List.append_assoc] at h
  have hletter : first.letter = second.letter := by
    have hthird := congrArg (fun text => text[2]?) h
    rw [getElem?_words, getElem?_words] at hthird
    exact Option.some.inj hthird
  -- the words are the same, so what is behind them is
  cases first with
  | unterminatedComment =>
    cases second with
    | unterminatedComment => exact ⟨rfl, List.append_cancel_left h⟩
    | _ => simp [letter] at hletter
  | malformedExponent literal =>
    cases second with
    | malformedExponent other =>
      obtain ⟨htext, hbehind⟩ :=
        Text.quote_append_injective (.inl rfl) (List.append_cancel_left h)
      exact ⟨congrArg malformedExponent (String.toList_inj.1 htext), hbehind⟩
    | _ => simp [letter] at hletter
  | unrecognizedCharacter c =>
    cases second with
    | unrecognizedCharacter d =>
      obtain ⟨htext, hbehind⟩ :=
        Text.quote_append_injective (.inr rfl) (List.append_cancel_left h)
      exact ⟨congrArg unrecognizedCharacter (List.cons_eq_cons.1 htext).1, hbehind⟩
    | _ => simp [letter] at hletter

theorem printable_of_mem_words {fault : Fault} {c : Char} (h : c ∈ fault.words.toList) :
    Text.isUnprintable c = false := by
  refine Text.printable_of_mem ?_ h
  cases fault with
  | unterminatedComment => rw [words]; decide
  | malformedExponent literal => rw [words]; decide
  | unrecognizedCharacter d => rw [words]; decide

/-- **What is said of a fault can be printed**, whatever characters are at fault. -/
theorem printable_of_mem_detail {fault : Fault} {c : Char} (h : c ∈ fault.detail.toList) :
    Text.isUnprintable c = false := by
  rw [toList_detail] at h
  rcases List.mem_append.1 h with hwords | hquoted
  · exact printable_of_mem_words hwords
  · cases fault with
    | unterminatedComment => simp [quotation] at hquoted
    | malformedExponent literal => exact Text.printable_of_mem_quote (.inl rfl) hquoted
    | unrecognizedCharacter d => exact Text.printable_of_mem_quote (.inr rfl) hquoted

end Fault

/-! ### Messages -/

theorem Position.printable_of_mem_toText {position : Position} {c : Char}
    (h : c ∈ position.toText.toList) : Text.isUnprintable c = false := by
  rw [toText, String.toList_append, String.toList_append] at h
  rcases List.mem_append.1 h with hfront | hcolumn
  · rcases List.mem_append.1 hfront with hline | hcolon
    · exact Text.printable_of_mem_decimal hline
    · exact Text.printable_of_mem (by decide) hcolon
  · exact Text.printable_of_mem_decimal hcolumn

namespace LexicalError

theorem toList_message (error : LexicalError) :
    error.message.toList =
      error.fault.detail.toList ++ (" at ".toList ++ error.position.toText.toList) := by
  rw [message, String.toList_append, String.toList_append, List.append_assoc]

/-- A message can be printed. -/
theorem printable_of_mem_message {error : LexicalError} {c : Char} (h : c ∈ error.message.toList) :
    Text.isUnprintable c = false := by
  rw [toList_message] at h
  rcases List.mem_append.1 h with hdetail | hplace
  · exact Fault.printable_of_mem_detail hdetail
  rcases List.mem_append.1 hplace with hwords | hposition
  · exact Text.printable_of_mem (by decide) hwords
  · exact Position.printable_of_mem_toText hposition

/-- No two errors have the same message. -/
theorem message_injective : Function.Injective message := by
  intro first second h
  have hlists := congrArg String.toList h
  rw [toList_message, toList_message] at hlists
  obtain ⟨hfault, hplace⟩ := Fault.detail_append_injective hlists
  have htext := String.toList_inj.1 (List.append_cancel_left hplace)
  have hposition := Position.toText_injective htext
  obtain ⟨fault, position⟩ := first
  obtain ⟨fault', position'⟩ := second
  obtain rfl : fault = fault' := hfault
  obtain rfl : position = position' := hposition
  rfl

/-- **An error is known by its message, which is a single line**, whatever the characters at fault are
and wherever the error is reported. -/
theorem message_unambiguous :
    (∀ first second : LexicalError, first.message = second.message → first = second) ∧
    ∀ error : LexicalError, '\n' ∉ error.message.toList ∧ '\r' ∉ error.message.toList := by
  refine ⟨fun first second h => message_injective h, ?_⟩
  intro error
  have hfeed : Text.isUnprintable '\n' = true := by decide +kernel
  have hreturn : Text.isUnprintable '\r' = true := by decide +kernel
  refine ⟨?_, ?_⟩
  · intro hmem
    rw [printable_of_mem_message hmem] at hfeed
    exact absurd hfeed (by decide)
  · intro hmem
    rw [printable_of_mem_message hmem] at hreturn
    exact absurd hreturn (by decide)

/-- A literal with a mark, a position of its own and a line feed is the only one with its message. -/
theorem message_unambiguous_quoted :
    (∀ other : LexicalError, other.message = "malformed exponent in \"1e\\\" at 1:2\\n\" at 3:4" →
      other = ⟨.malformedExponent "1e\" at 1:2\n", ⟨3, 4⟩⟩) ∧
    '\n' ∉ (⟨.malformedExponent "1e\" at 1:2\n", ⟨3, 4⟩⟩ : LexicalError).message.toList := by
  have hmessage : (⟨.malformedExponent "1e\" at 1:2\n", ⟨3, 4⟩⟩ : LexicalError).message =
      "malformed exponent in \"1e\\\" at 1:2\\n\" at 3:4" := by
    decide +kernel
  refine ⟨?_, (message_unambiguous.2 _).1⟩
  intro other hother
  exact message_unambiguous.1 other _ (hother.trans hmessage.symm)

end LexicalError

end CurlyLex
