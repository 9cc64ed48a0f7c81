import LanWatch.Sql.Statement
import LanWatch.Text.Digits

namespace LanWatch.Sql

/-!
# Tables

What a database does with statements, one after another. A statement inserts its row, unless it
conflicts with a row of the table: both have the same in each column of the unique key. Then that
row is changed instead. Nothing is the same as `NULL`, so a row with `NULL` in its key conflicts
with none.

What the functions of the database give is not told here: it is part of the database.

* `Cell`, `Row` — what a table holds;
* `Expr.eval?`, `assignAll?` — what expressions give, and what assignments make of a row;
* `Row.conflicts` — two rows have the same key;
* `Database`, `Database.execute?` — a database with one table, and what a statement makes of that;
* `Database.run?` — what a list of texts makes of an empty table.
-/

/-! ### Rows -/

/-- What a row holds in a column. -/
inductive Cell where
  | null
  | text (s : String)
  | number (n : Nat)
  /-- A moment in time, which is not told further. -/
  | moment (name : String)
  deriving DecidableEq

/-- What a literal stands for. Only numbers without sign and point are understood. -/
def Literal.cell? : Literal → Option Cell
  | text s => some (.text s)
  | number s => (Text.decimalNumber? s.toList).map .number
  | null => some .null

/-- A row: what it holds in each column. -/
abbrev Row := String → Cell

namespace Row

/-- A row that holds nothing. -/
def blank : Row := fun _ => .null

/-- Sets a column. -/
def set (row : Row) (column : String) (value : Cell) : Row :=
  fun c => if c = column then value else row c

/-- Two rows hold the same in all of these columns, and `NULL` in none of them. -/
def conflicts (key : List String) (old new : Row) : Bool :=
  key.all fun column => old column == new column && old column != .null

end Row

/-! ### Expressions -/

/-- What an expression gives, if it is understood. The bits of `NULL` are `NULL`. -/
def Expr.eval? (call : String → Literal → Cell) (row : Row) : Expr → Option Cell
  | literal value => value.cell?
  | Expr.call function argument => some (call function argument)
  | bitOr column value =>
    match row column, value.cell? with
    | .number m, some (.number n) => some (.number (m ||| n))
    | .null, some (.number _) => some .null
    | _, _ => none

/-- Assignments are made one after another, each with what the ones before have left. -/
def assignAll? (call : String → Literal → Cell) (row : Row) : List Assignment → Option Row
  | [] => some row
  | a :: as =>
    (a.value.eval? call row).bind fun value => assignAll? call (row.set a.column value) as

/-- The row that a statement lists. -/
def Statement.row? (call : String → Literal → Cell) (st : Statement) : Option Row :=
  if st.columns.length = st.values.length then
    assignAll? call .blank (List.zipWith Assignment.mk st.columns st.values)
  else none

/-! ### The table -/

/-- A database with one table. -/
structure Database where
  /-- The name of the table. -/
  table : String
  /-- The columns of its unique key. -/
  key : List String
  /-- What the functions of the database give. -/
  call : String → Literal → Cell

namespace Database

/-- No two rows have the same key. -/
def Keyed (db : Database) (rows : List Row) : Prop :=
  rows.Pairwise fun row row' => Row.conflicts db.key row row' = false

instance (db : Database) (rows : List Row) : Decidable (db.Keyed rows) :=
  inferInstanceAs (Decidable (rows.Pairwise fun row row' =>
    Row.conflicts db.key row row' = false))

/-- Changes the first row that conflicts with a new one, or else appends the new one. -/
def upsert? (db : Database) (new : Row) (change? : Row → Option Row) :
    List Row → Option (List Row)
  | [] => some [new]
  | row :: rows =>
    if Row.conflicts db.key row new then (change? row).map (· :: rows)
    else (upsert? db new change? rows).map (row :: ·)

/-- What a statement makes of the table. It is refused if two rows would have the same key. -/
def execute? (db : Database) (rows : List Row) (st : Statement) : Option (List Row) :=
  if st.table = db.table then do
    let new ← st.row? db.call
    let rows ← db.upsert? new (assignAll? db.call · st.updates) rows
    if db.Keyed rows then some rows else none
  else none

/-- What the statements of a text make of the table. -/
def executeText? (db : Database) (rows : List Row) (text : String) : Option (List Row) :=
  (read? text).bind (·.foldlM db.execute? rows)

/-- What texts make of an empty table, one after another. -/
def run? (db : Database) (texts : List String) : Option (List Row) :=
  texts.foldlM db.executeText? []

end Database

end LanWatch.Sql
