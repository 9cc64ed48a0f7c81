import LanWatch.Sql.Token

namespace LanWatch.Sql

/-!
# Statements

What a database makes of the words of a text: one statement after another, each of which inserts a
row or, if its key is there already, updates it.

* `Expr`, `Assignment` — what columns are set to;
* `Statement` — a statement;
* `listed?` — items with commas between them;
* `statement?`, `statements?` — the next statement, and all statements of a list of words;
* `read?` — the statements of a text.
-/

/-- What a column can be set to. -/
inductive Expr where
  | literal (value : Literal)
  | call (function : String) (argument : Literal)
  /-- The bits of a column together with those of a value. -/
  | bitOr (column : String) (value : Literal)
  deriving DecidableEq

/-- A column is set to a value. -/
structure Assignment where
  column : String
  value : Expr
  deriving DecidableEq

/-- A statement that inserts a row, or updates the one that is there. -/
structure Statement where
  table : String
  columns : List String
  /-- The values of a new row, in the order of the columns. -/
  values : List Expr
  /-- What changes in a row that is there. -/
  updates : List Assignment
  deriving DecidableEq

/-- The value that a statement lists for a column: the one in the same place. -/
def Statement.valueOf? (st : Statement) (column : String) : Option Expr :=
  (st.columns.zip st.values).lookup column

/-! ### Reading -/

/-- Reads items with commas between them, up to the mark that ends the list. An item that takes no
    words is refused. -/
def listed? {α : Type} (item? : List Token → Option (α × List Token)) (stop : Char)
    (ts : List Token) : Option (List α × List Token) :=
  match item? ts with
  | some (a, .mark c :: rest) =>
    if c = stop then some ([a], rest)
    else if c = ',' then
      if rest.length < ts.length then
        (listed? item? stop rest).map fun (as, rest) => (a :: as, rest)
      else none
    else none
  | _ => none
termination_by ts.length

/-- A name. -/
def name? : List Token → Option (String × List Token)
  | .word name :: ts => some (name, ts)
  | _ => none

/-- What a column is set to. -/
def expr? : List Token → Option (Expr × List Token)
  | .literal value :: ts => some (.literal value, ts)
  | .word function :: .mark '(' :: .literal argument :: .mark ')' :: ts =>
    some (.call function argument, ts)
  | .word column :: .mark '|' :: .literal value :: ts => some (.bitOr column value, ts)
  | _ => none

/-- A column, and what it is set to. -/
def assignment? : List Token → Option (Assignment × List Token)
  | .word column :: .mark '=' :: ts => (expr? ts).map fun (value, ts) => (⟨column, value⟩, ts)
  | _ => none

/-- The next statement. -/
def statement? : List Token → Option (Statement × List Token)
  | .word "INSERT" :: .word "INTO" :: .word table :: .mark '(' :: ts => do
    match ← listed? name? ')' ts with
    | (columns, .word "VALUES" :: .mark '(' :: ts) =>
      match ← listed? expr? ')' ts with
      | (values, .word "ON" :: .word "DUPLICATE" :: .word "KEY" :: .word "UPDATE" :: ts) =>
        let (updates, ts) ← listed? assignment? ';' ts
        some (⟨table, columns, values, updates⟩, ts)
      | _ => none
    | _ => none
  | _ => none

/-- The statements of a list of words. -/
def statements? (ts : List Token) : Option (List Statement) :=
  if ts.isEmpty then some []
  else match statement? ts with
    | some (st, rest) =>
      if rest.length < ts.length then (statements? rest).map (st :: ·) else none
    | none => none
termination_by ts.length

/-- The statements of a text. -/
def read? (text : String) : Option (List Statement) :=
  (tokens? text).bind statements?

end LanWatch.Sql
