import CurlyLex.Command
import CurlyLex.Proofs.Decomposition

/-!
# Printed tokens can be told apart

A token is printed with its text as it is, whatever characters are in it.  It can still be told from
every other token: the first tab ends the name of its kind, in which there is no tab, the last tab begins
its position, in which there is none either, and a mark behind the first tab shows that there is a text.
A listing has no such places to go by, because a text may have line feeds in it; but no token of a
source does, since there is no blank in a lexeme, so a listing can be cut into its tokens at the line
feeds.

* `Text.decimal_injective`, `Position.toText_injective`, `Kind.name_injective` — the parts of a token.
* `Text.eq_of_first`, `Text.eq_of_last` — texts that are cut at a character.
* `Token.toText_injective` — tokens that print the same are the same.
* `Token.OnOneLine`, `Command.listing_injective` — so are tokens on one line each with the same listing.
* `Token.onOneLine_of_tokenize` — the tokens of a source are on one line each.
* `Command.printed_injective` — what is printed can be read in one way only.
-/

namespace CurlyLex

/-! ### Texts that are cut at a character -/

namespace Text

/-- The first place of a character cuts a text in one way only. -/
theorem eq_of_first {c : Char} {front₁ front₂ back₁ back₂ : List Char} (h₁ : c ∉ front₁)
    (h₂ : c ∉ front₂) (h : front₁ ++ c :: back₁ = front₂ ++ c :: back₂) :
    front₁ = front₂ ∧ back₁ = back₂ := by
  have htake : ∀ front back : List Char, c ∉ front →
      (front ++ c :: back).takeWhile (· != c) = front := by
    intro front back hfront
    have hother : ∀ d ∈ front, (d != c) = true := by
      intro d hd
      simpa using fun heq : d = c => hfront (heq ▸ hd)
    rw [List.takeWhile_append_of_pos hother, List.takeWhile_cons_of_neg (by simp), List.append_nil]
  have hfront := congrArg (List.takeWhile (· != c)) h
  rw [htake _ _ h₁, htake _ _ h₂] at hfront
  subst hfront
  exact ⟨rfl, (List.cons_eq_cons.1 (List.append_cancel_left h)).2⟩

/-- So does the last. -/
theorem eq_of_last {c : Char} {front₁ front₂ back₁ back₂ : List Char} (h₁ : c ∉ back₁)
    (h₂ : c ∉ back₂) (h : front₁ ++ c :: back₁ = front₂ ++ c :: back₂) :
    front₁ = front₂ ∧ back₁ = back₂ := by
  have hreverse := congrArg List.reverse h
  simp only [List.reverse_append, List.reverse_cons, List.append_assoc, List.singleton_append]
    at hreverse
  obtain ⟨hback, hfront⟩ := eq_of_first (by simpa using h₁) (by simpa using h₂) hreverse
  exact ⟨List.reverse_injective hfront, List.reverse_injective hback⟩

end Text

/-! ### The parts of a token -/

/-- **Positions that are written the same are the same**: there is no colon in a number. -/
theorem Position.toText_injective {first second : Position} (h : first.toText = second.toText) :
    first = second := by
  obtain ⟨line₁, column₁⟩ := first
  obtain ⟨line₂, column₂⟩ := second
  have hcolon : ∀ n, ':' ∉ (Text.decimal n).toList := Text.not_mem_decimal (by decide)
  have hlists := congrArg String.toList h
  simp only [toText, String.toList_append, List.append_assoc] at hlists
  obtain ⟨hline, hcolumn⟩ := Text.eq_of_first (hcolon _) (hcolon _) hlists
  obtain rfl := UInt32.toNat_inj.1 (Text.decimal_injective (String.toList_inj.1 hline))
  obtain rfl := UInt32.toNat_inj.1 (Text.decimal_injective (String.toList_inj.1 hcolumn))
  rfl

/-- A position is written with digits and a colon. -/
theorem Position.not_mem_toText {c : Char} (hdigit : ¬ c.isDigit) (hcolon : c ≠ ':')
    (position : Position) : c ∉ position.toText.toList := by
  simp only [toText, String.toList_append, List.mem_append, not_or]
  exact ⟨⟨Text.not_mem_decimal hdigit _, by simpa using hcolon⟩, Text.not_mem_decimal hdigit _⟩

namespace Kind

/-- The kind with the name of a kind is that kind. -/
theorem ofName?_name (kind : Kind) : ofName? kind.name = some kind := by
  cases kind with
  | keyword k => cases k <;> decide
  | identifier => decide
  | literal l => cases l <;> decide
  | symbol s => cases s <;> decide
  | endOfInput => decide

/-- **No two kinds have the same name.** -/
theorem name_injective {first second : Kind} (h : first.name = second.name) : first = second := by
  have hsame := ofName?_name second
  rw [← h, ofName?_name first] at hsame
  exact Option.some.inj hsame

/-- Names are made of capital letters and underscores. -/
theorem isUpper_of_mem_name {kind : Kind} {c : Char} (h : c ∈ kind.name.toList) :
    c.isUpper ∨ c = '_' := by
  have hall : kind.name.toList.all (fun d => d.isUpper || d == '_') = true := by
    cases kind with
    | keyword k => cases k <;> decide
    | identifier => decide
    | literal l => cases l <;> decide
    | symbol s => cases s <;> decide
    | endOfInput => decide
  simpa using List.all_eq_true.1 hall c h

end Kind

/-! ### One token -/

namespace Token

/-- The position of a token as it is printed. -/
def place (token : Token) : List Char :=
  '(' :: (token.position.toText.toList ++ [')'])

/-- What is printed of a token behind its name and a tab. -/
def behindName (token : Token) : List Char :=
  match token.text with
  | some text => ('"' :: (text.toList ++ ['"'])) ++ '\t' :: token.place
  | none => token.place

theorem toList_toText (token : Token) :
    token.toText.toList = token.kind.name.toList ++ '\t' :: token.behindName := by
  obtain ⟨kind, text, position⟩ := token
  cases text with
  | none => simp [toText, behindName, place]
  | some text => simp [toText, behindName, place]

theorem tab_notMem_place (token : Token) : '\t' ∉ token.place := by
  have hnone := token.position.not_mem_toText (c := '\t') (by decide) (by decide)
  simp [place, hnone]

theorem place_injective {first second : Token} (h : first.place = second.place) :
    first.position = second.position := by
  have hinner := List.append_cancel_right (List.cons_eq_cons.1 h).2
  exact Position.toText_injective (String.toList_inj.1 hinner)

/-- The text and the position can be told from what is printed behind the name. -/
theorem behindName_injective {first second : Token} (h : first.behindName = second.behindName) :
    first.text = second.text ∧ first.position = second.position := by
  have htab₁ := first.tab_notMem_place
  have htab₂ := second.tab_notMem_place
  obtain ⟨kind₁, text₁, position₁⟩ := first
  obtain ⟨kind₂, text₂, position₂⟩ := second
  cases text₁ with
  | none =>
    cases text₂ with
    | none => exact ⟨rfl, place_injective h⟩
    | some text₂ => simp [behindName, place] at h
  | some text₁ =>
    cases text₂ with
    | none => simp [behindName, place] at h
    | some text₂ =>
      obtain ⟨hquoted, hplace⟩ := Text.eq_of_last htab₁ htab₂ h
      have htext := List.append_cancel_right (List.cons_eq_cons.1 hquoted).2
      exact ⟨congrArg some (String.toList_inj.1 htext), place_injective hplace⟩

/-- **Tokens that print the same are the same**, whatever their texts are. -/
theorem toText_injective {first second : Token} (h : first.toText = second.toText) :
    first = second := by
  have hlists := congrArg String.toList h
  rw [toList_toText, toList_toText] at hlists
  have htab : ∀ kind : Kind, '\t' ∉ kind.name.toList :=
    fun kind hmem => absurd (Kind.isUpper_of_mem_name hmem) (by decide)
  obtain ⟨hname, hbehind⟩ := Text.eq_of_first (htab _) (htab _) hlists
  obtain ⟨htext, hposition⟩ := behindName_injective hbehind
  have hkind := Kind.name_injective (String.toList_inj.1 hname)
  obtain ⟨kind, text, position⟩ := first
  obtain ⟨kind', text', position'⟩ := second
  obtain rfl : kind = kind' := hkind
  obtain rfl : text = text' := htext
  obtain rfl : position = position' := hposition
  rfl

/-! ### Listings -/

/-- There is no line feed in what is printed of a token. -/
def OnOneLine (token : Token) : Prop :=
  '\n' ∉ token.toText.toList

/-- Only the text of a token can have a line feed in it. -/
theorem onOneLine_iff (token : Token) :
    token.OnOneLine ↔ ∀ text, token.text = some text → '\n' ∉ text.toList := by
  have hname : '\n' ∉ token.kind.name.toList :=
    fun hmem => absurd (Kind.isUpper_of_mem_name hmem) (by decide)
  have hplace : '\n' ∉ token.place := by
    have hnone := token.position.not_mem_toText (c := '\n') (by decide) (by decide)
    simp [place, hnone]
  rw [OnOneLine, toList_toText, behindName]
  cases token.text with
  | none => simp [hname, hplace]
  | some text => simp [hname, hplace]

end Token

namespace Command

theorem toList_listing_cons (token : Token) (tokens : List Token) :
    (listing (token :: tokens)).toList = token.toText.toList ++ '\n' :: (listing tokens).toList := by
  simp [listing]

/-- **Tokens on one line each can be told from their listing.** -/
theorem listing_injective {first second : List Token} (h₁ : ∀ token ∈ first, token.OnOneLine)
    (h₂ : ∀ token ∈ second, token.OnOneLine) (h : listing first = listing second) :
    first = second := by
  induction first generalizing second with
  | nil =>
    cases second with
    | nil => rfl
    | cons token second =>
      have hlists := congrArg String.toList h
      rw [toList_listing_cons] at hlists
      simp [listing] at hlists
  | cons token first ih =>
    cases second with
    | nil =>
      have hlists := congrArg String.toList h
      rw [toList_listing_cons] at hlists
      simp [listing] at hlists
    | cons other second =>
      obtain ⟨htoken, hfirst⟩ := List.forall_mem_cons.1 h₁
      obtain ⟨hother, hsecond⟩ := List.forall_mem_cons.1 h₂
      have hlists := congrArg String.toList h
      rw [toList_listing_cons, toList_listing_cons] at hlists
      obtain ⟨hline, hrest⟩ := Text.eq_of_first htoken hother hlists
      obtain rfl := Token.toText_injective (String.toList_inj.1 hline)
      rw [ih hfirst hsecond (String.toList_inj.1 hrest)]

end Command

/-! ### The tokens of a source -/

/-- The texts of the tokens of a chain are lexemes. -/
theorem Chain.isLexeme_of_mem {pieces : List Piece} {rest : List Char} (h : Chain pieces rest)
    {position : Position} {token : Token} (htoken : token ∈ Piece.tokens position pieces) :
    ∃ lexeme, token.text = some (String.ofList lexeme) ∧ IsLexeme lexeme := by
  induction h generalizing position with
  | nil => simp [Piece.tokens] at htoken
  | @cons piece pieces rest hlexeme _ _ _ ih =>
    rw [Piece.tokens] at htoken
    rcases List.mem_cons.1 htoken with rfl | hlater
    · exact ⟨piece.text, rfl, hlexeme.longest.holds⟩
    · exact ih hlater

/-- **The tokens of a source are on one line each**: there is no blank in a lexeme. -/
theorem Token.onOneLine_of_tokenize {source : String} {tokens : List Token}
    (h : tokenize source = .ok tokens) : ∀ token ∈ tokens, token.OnOneLine := by
  intro token htoken
  rw [onOneLine_iff]
  intro text htext
  obtain ⟨lead, pieces, hcut, rfl⟩ := Cut.exists_of_ok h
  rcases List.mem_append.1 htoken with hpiece | hend
  · obtain ⟨lexeme, hlexeme, hshape⟩ := hcut.chain.isLexeme_of_mem hpiece
    obtain rfl := Option.some.inj (hlexeme.symm.trans htext)
    rw [String.toList_ofList]
    exact fun hfeed => hshape.not_isBlank hfeed (by decide)
  · obtain rfl := List.mem_singleton.1 hend
    simp at htext

theorem Command.stdout_scanSource {source : String} {tokens : List Token}
    (h : tokenize source = .ok tokens) (file : String) :
    (scanSource source file).stdout = listing tokens := by
  rw [scanSource, h]

/-- **What is printed can be read in one way only.**  Any two tokens that print the same are the same,
whatever kinds, texts and positions they have; and two sources without errors for which the command
prints the same have the same tokens. -/
theorem Command.printed_injective :
    (∀ first second : Token, first.toText = second.toText → first = second) ∧
    ∀ source₁ source₂ file₁ file₂ tokens₁ tokens₂,
      tokenize source₁ = .ok tokens₁ → tokenize source₂ = .ok tokens₂ →
      (scanSource source₁ file₁).stdout = (scanSource source₂ file₂).stdout → tokens₁ = tokens₂ := by
  refine ⟨fun first second h => Token.toText_injective h, ?_⟩
  intro source₁ source₂ file₁ file₂ tokens₁ tokens₂ h₁ h₂ h
  rw [stdout_scanSource h₁, stdout_scanSource h₂] at h
  exact listing_injective (Token.onOneLine_of_tokenize h₁) (Token.onOneLine_of_tokenize h₂) h

/-- A comment in one source, and as many blanks in the other. -/
theorem Command.printed_injective_comment :
    ∃ tokens₁ tokens₂, tokenize "a/**/b" = .ok tokens₁ ∧ tokenize "a    b" = .ok tokens₂ ∧
      (scanSource "a/**/b" "x.c").stdout = (scanSource "a    b" "y.c").stdout ∧
      tokens₁ = tokens₂ := by
  have h₁ : tokenize "a/**/b" = .ok [⟨.identifier, some "a", ⟨1, 1⟩⟩,
      ⟨.identifier, some "b", ⟨1, 6⟩⟩, ⟨.endOfInput, none, ⟨1, 7⟩⟩] := by decide +kernel
  have h₂ : tokenize "a    b" = .ok [⟨.identifier, some "a", ⟨1, 1⟩⟩,
      ⟨.identifier, some "b", ⟨1, 6⟩⟩, ⟨.endOfInput, none, ⟨1, 7⟩⟩] := by decide +kernel
  have hsame : (scanSource "a/**/b" "x.c").stdout = (scanSource "a    b" "y.c").stdout := by
    decide +kernel
  exact ⟨_, _, h₁, h₂, hsame, printed_injective.2 _ _ "x.c" "y.c" _ _ h₁ h₂ hsame⟩

end CurlyLex
