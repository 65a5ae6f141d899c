/-!
# Kinds of tokens

A token is a keyword, an identifier, a literal, a symbol, or the mark of the end of the input.  Each
kind has a fixed name that readers of the printed tokens match on.

* `Keyword`, `Literal`, `Symbol` — the closed families, with spellings where the text is fixed.
* `Kind` — the kind of a token, with `Kind.name`, `Kind.isKeyword` and `Kind.isLiteral`.
* `Kind.ofName?` — the kind with a given name.
-/

namespace CurlyLex

/-! ### The families -/

/-- The words with a meaning of their own. -/
inductive Keyword where
  | ifWord
  | elseWord
  | intWord
  | returnWord
  | forWord
  | whileWord
deriving DecidableEq

/-- The two kinds of numbers. -/
inductive Literal where
  /-- Digits only. -/
  | integer
  /-- A number with a fraction or an exponent. -/
  | floating
deriving DecidableEq

/-- Operators and punctuation. -/
inductive Symbol where
  | equal
  | notEqual
  | lessEqual
  | greaterEqual
  | assign
  | less
  | greater
  | plus
  | minus
  | star
  | slash
  | percent
  | openParen
  | closeParen
  | openBrace
  | closeBrace
  | openBracket
  | closeBracket
  | semicolon
  | comma
  | dot
deriving DecidableEq

/-- The kind of a token. -/
inductive Kind where
  | keyword (keyword : Keyword)
  | identifier
  | literal (literal : Literal)
  | symbol (symbol : Symbol)
  | endOfInput
deriving DecidableEq

/-! ### Spellings -/

namespace Keyword

/-- Every keyword. -/
def all : List Keyword :=
  [ifWord, elseWord, intWord, returnWord, forWord, whileWord]

/-- How a keyword is written. -/
def spelling : Keyword → String
  | ifWord => "if"
  | elseWord => "else"
  | intWord => "int"
  | returnWord => "return"
  | forWord => "for"
  | whileWord => "while"

end Keyword

namespace Symbol

/-- Every symbol, the two-character ones first. -/
def all : List Symbol :=
  [equal, notEqual, lessEqual, greaterEqual, assign, less, greater, plus, minus, star, slash,
    percent, openParen, closeParen, openBrace, closeBrace, openBracket, closeBracket, semicolon,
    comma, dot]

/-- How a symbol is written. -/
def spelling : Symbol → List Char
  | equal => ['=', '=']
  | notEqual => ['!', '=']
  | lessEqual => ['<', '=']
  | greaterEqual => ['>', '=']
  | assign => ['=']
  | less => ['<']
  | greater => ['>']
  | plus => ['+']
  | minus => ['-']
  | star => ['*']
  | slash => ['/']
  | percent => ['%']
  | openParen => ['(']
  | closeParen => [')']
  | openBrace => ['\x7b']
  | closeBrace => ['\x7d']
  | openBracket => ['[']
  | closeBracket => [']']
  | semicolon => [';']
  | comma => [',']
  | dot => ['.']

/-- The symbol at the front of a text.  Two-character symbols are tried first, so the longest symbol
is found. -/
def read? (text : List Char) : Option Symbol :=
  all.find? fun symbol => symbol.spelling.isPrefixOf text

end Symbol

/-! ### Names -/

/-- The name of a keyword's kind. -/
def Keyword.name : Keyword → String
  | ifWord => "IF"
  | elseWord => "ELSE"
  | intWord => "INT"
  | returnWord => "RETURN"
  | forWord => "FOR"
  | whileWord => "WHILE"

/-- The name of a literal's kind. -/
def Literal.name : Literal → String
  | integer => "INT_LIT"
  | floating => "FLOAT_LIT"

/-- The name of a symbol's kind. -/
def Symbol.name : Symbol → String
  | equal => "EQ"
  | notEqual => "NE"
  | lessEqual => "LE"
  | greaterEqual => "GE"
  | assign => "ASSIGN"
  | less => "LT"
  | greater => "GT"
  | plus => "PLUS"
  | minus => "MINUS"
  | star => "STAR"
  | slash => "SLASH"
  | percent => "MOD"
  | openParen => "LPAREN"
  | closeParen => "RPAREN"
  | openBrace => "LBRACE"
  | closeBrace => "RBRACE"
  | openBracket => "LBRACKET"
  | closeBracket => "RBRACKET"
  | semicolon => "SEMI"
  | comma => "COMMA"
  | dot => "DOT"

namespace Kind

/-- The fixed name of a kind. -/
def name : Kind → String
  | keyword k => k.name
  | identifier => "ID"
  | literal l => l.name
  | symbol s => s.name
  | endOfInput => "EOF"

/-- Is this the kind of a keyword? -/
def isKeyword : Kind → Bool
  | keyword _ => true
  | _ => false

/-- Is this the kind of a number? -/
def isLiteral : Kind → Bool
  | literal _ => true
  | _ => false

/-- Every kind. -/
def all : List Kind :=
  Keyword.all.map keyword ++ [identifier, literal .integer, literal .floating]
    ++ Symbol.all.map symbol ++ [endOfInput]

/-- The kind with a given name. -/
def ofName? (name : String) : Option Kind :=
  all.find? fun kind => kind.name == name

end Kind

end CurlyLex
