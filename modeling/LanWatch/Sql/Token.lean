namespace LanWatch.Sql

/-!
# The words of SQL

How a database takes a statement apart before it looks at its meaning. What matters most are the
texts: where one opens and closes, and what it says. A text opens at a single quote. In it a
backslash escapes the next character and two quotes in a row stand for one; it closes at the next
other quote.

Comments, other kinds of quotes and operators that no statement here needs are not understood: a
text that holds them outside of its literals has no words.

* `Literal`, `Token` — values that are written out, and the words of a statement;
* `State` — where the reader stands between two characters;
* `State.continue?`, `State.ended?`, `begin?` — a character belongs to the word begun, or ends it
    and may begin another one;
* `tokens?` — the words of a text;
* `Token.shape` — a word without the value of a literal.
-/

/-! ### Words -/

/-- A value that is written out. -/
inductive Literal where
  | text (s : String)
  /-- A number, as it is written. -/
  | number (s : String)
  | null
  deriving DecidableEq

/-- A word of a statement. -/
inductive Token where
  | literal (value : Literal)
  /-- A keyword or a name. -/
  | word (name : String)
  | mark (c : Char)
  deriving DecidableEq

namespace Token

/-- The word that an unquoted stretch of letters is. -/
def ofWord (cs : List Char) : Token :=
  if String.ofList cs = "NULL" then literal .null else word (String.ofList cs)

/-- A word without the value of a literal: nothing is left of a literal. -/
def shape : Token → Option Token
  | literal _ => none
  | t => some t

end Token

/-! ### Characters -/

/-- The character that opens and closes a text. -/
def quote : Char := '\x27'

/-- The character may stand in a keyword or a name. -/
def inWord (c : Char) : Bool :=
  c.isAlphanum || c == '_'

/-- The character may stand in a number, after its sign. -/
def inNumber (c : Char) : Bool :=
  c.isDigit || c == '.'

/-- The character is a word by itself. -/
def isMark (c : Char) : Bool :=
  c == '(' || c == ')' || c == ',' || c == '=' || c == '|' || c == ';'

/-- The character keeps two words apart. -/
def separates (c : Char) : Bool :=
  c.isWhitespace || isMark c

/-- What an escaped character stands for: mostly for itself. -/
def unescape (c : Char) : List Char :=
  match c with
  | '0' => ['\x00']
  | 'b' => ['\x08']
  | 'n' => ['\n']
  | 'r' => ['\x0d']
  | 't' => ['\t']
  | 'Z' => ['\x1a']
  | '%' => ['\\', '%']
  | '_' => ['\\', '_']
  | c => [c]

/-! ### Reading words -/

/-- Where the reader stands between two characters, with what it has read of a word. -/
inductive State where
  | between
  | word (cs : List Char)
  /-- After a minus sign. -/
  | sign
  | number (cs : List Char)
  /-- Inside a text. -/
  | inside (cs : List Char)
  /-- Inside a text, after a backslash. -/
  | escaped (cs : List Char)
  /-- After a quote, which closes the text unless another one follows. -/
  | closing (cs : List Char)
  deriving DecidableEq

/-- The next state, if the character belongs to the word begun. -/
def State.continue? (st : State) (c : Char) : Option State :=
  match st with
  | between => none
  | word cs => if inWord c then some (word (cs ++ [c])) else none
  | sign => if c.isDigit then some (number ['-', c]) else none
  | number cs => if inNumber c then some (number (cs ++ [c])) else none
  | inside cs =>
    if c = '\\' then some (escaped cs)
    else if c = quote then some (closing cs)
    else some (inside (cs ++ [c]))
  | escaped cs => some (inside (cs ++ unescape c))
  | closing cs => if c = quote then some (inside (cs ++ [quote])) else none

/-- The word begun, if it may end here. -/
def State.ended? : State → Option (List Token)
  | between => some []
  | word cs => some [.ofWord cs]
  | number cs => some [.literal (.number (String.ofList cs))]
  | closing cs => some [.literal (.text (String.ofList cs))]
  | sign | inside _ | escaped _ => none

/-- What a character between words begins: it is a word by itself, or the first one of a word. -/
def begin? (c : Char) : Option (List Token × State) :=
  if c.isWhitespace then some ([], .between)
  else if isMark c then some ([.mark c], .between)
  else if c = quote then some ([], .inside [])
  else if c = '-' then some ([], .sign)
  else if c.isDigit then some ([], .number [c])
  else if inWord c then some ([], .word [c])
  else none

/-- The words of a text that is read from a given state. Where one word ends, the next may begin
    only if something keeps the two apart. -/
def tokensFrom? (st : State) : List Char → Option (List Token)
  | [] => st.ended?
  | c :: cs =>
    match st.continue? c with
    | some st => tokensFrom? st cs
    | none =>
      if st = .between ∨ separates c then
        match st.ended?, begin? c with
        | some ts, some (us, st) => (tokensFrom? st cs).map (ts ++ us ++ ·)
        | _, _ => none
      else none

/-- The words of a text. -/
def tokens? (text : String) : Option (List Token) :=
  tokensFrom? .between text.toList

end LanWatch.Sql
