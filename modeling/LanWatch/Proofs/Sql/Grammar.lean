import LanWatch.Proofs.Sql.Reading
import LanWatch.Sql.Statement

namespace LanWatch

/-!
# The meaning of an upsert statement

The words of a statement that is written by `Upsert.render` are those of one statement, which says
what was to be written.

* `Sql.listed?_intercalate` — a list is read item by item;
* `SqlValue.expr`, `SqlUpdate.assignment`, `Upsert.statement` — what each part of a statement means;
* `Upsert.statements?_tokens` — this is what the words mean, and nothing is left of them;
* `Upsert.read?_render` — so it is what the text means.
-/

namespace Sql

theorem listed?_intercalate {α β : Type} (item? : List Token → Option (α × List Token))
    {stop : Char} (hstop : stop ≠ ',') (words : β → List Token) (value : β → α) {bs : List β}
    (hread : ∀ b ∈ bs, ∀ rest, item? (words b ++ rest) = some (value b, rest)) (hne : bs ≠ [])
    (rest : List Token) :
    listed? item? stop (List.intercalate [.mark ','] (bs.map words) ++ .mark stop :: rest) =
      some (bs.map value, rest) := by
  -- By induction on the items: what one item leaves starts with a comma or with the end of the
  -- list.
  induction bs with
  | nil => exact absurd rfl hne
  | cons b bs ih =>
    cases bs with
    | nil =>
      rw [List.map_singleton, List.intercalate_singleton, listed?, hread b (by simp)]
      simp
    | cons b' bs =>
      have hnext := ih (fun b hb => hread b (by simp [hb])) (by simp)
      rw [List.map_cons] at hnext
      rw [List.map_cons, List.map_cons, List.intercalate_cons_cons, List.append_assoc,
        List.append_assoc, listed?, hread b (by simp)]
      have hother : ¬ ',' = stop := fun h => hstop h.symm
      simp only [List.singleton_append, hother, if_false, if_true, hnext]
      rw [if_pos]
      · rfl
      · simp only [List.length_append, List.length_cons]
        omega

end Sql

open Sql

/-- What a value means. -/
def SqlValue.expr : SqlValue → Expr
  | text s => .literal (.text s)
  | number n => .literal (.number (Text.decimal n))
  | null => .literal .null
  | unixTime t => .call "FROM_UNIXTIME" (.number t.text)

/-- A value is parsed from its tokens, and what follows is left. -/
theorem SqlValue.expr?_tokens (v : SqlValue) (rest : List Token) :
    expr? (v.tokens ++ rest) = some (v.expr, rest) := by
  cases v <;> rfl

/-- What an update means. -/
def SqlUpdate.assignment : SqlUpdate → Assignment
  | assign column value => ⟨column, value.expr⟩
  | addBits column bits => ⟨column, .bitOr column (.number (Text.decimal bits))⟩

/-- An assignment is parsed from its tokens, and what follows is left. -/
theorem SqlUpdate.assignment?_tokens (a : SqlUpdate) (rest : List Token) :
    assignment? (a.tokens ++ rest) = some (a.assignment, rest) := by
  cases a with
  | assign column value =>
    show (expr? (value.tokens ++ rest)).map _ = _
    rw [value.expr?_tokens]
    rfl
  | addBits column bits => rfl

namespace Upsert

/-- What a statement means. -/
def statement (u : Upsert) : Statement where
  table := "arpdata"
  columns := u.row.map (·.1)
  values := u.row.map (·.2.expr)
  updates := u.updates.map SqlUpdate.assignment

/-- The statement is parsed up to the mark that ends it. -/
theorem statement?_body {u : Upsert} (hrow : u.row ≠ []) (hupdates : u.updates ≠ [])
    (rest : List Token) : statement? (u.body ++ .mark ';' :: rest) = some (u.statement, rest) := by
  have hclose : ')' ≠ ',' := by decide
  have hend : ';' ≠ ',' := by decide
  have hcolumns := fun rest => listed?_intercalate name? hclose
    (fun field : String × SqlValue => [.word field.1]) (fun field => field.1)
    (fun _ _ _ => rfl) hrow rest
  have hvalues := fun rest => listed?_intercalate expr? hclose
    (fun field : String × SqlValue => field.2.tokens) (fun field => field.2.expr)
    (fun field _ => field.2.expr?_tokens) hrow rest
  have hchanges := listed?_intercalate assignment? hend SqlUpdate.tokens SqlUpdate.assignment
    (fun a _ => a.assignment?_tokens) hupdates rest
  simp only [body, List.append_assoc, List.cons_append, List.nil_append, statement?, hcolumns,
    hvalues, hchanges, Option.bind_eq_bind, Option.bind_some, statement]

/-- The words of one statement mean this statement and nothing else. -/
theorem statements?_tokens {u : Upsert} (hrow : u.row ≠ []) (hupdates : u.updates ≠ []) :
    statements? u.tokens = some [u.statement] := by
  have hbody := statement?_body hrow hupdates []
  have hshorter : 0 < (u.body ++ [Token.mark ';']).length := by simp
  rw [statements?, tokens, hbody, if_neg (by simp)]
  simp only [List.length_nil, hshorter, if_true]
  simp [statements?]

/-- A text that is written for a statement is read as this statement. -/
theorem read?_render {u : Upsert} (hrow : u.row ≠ []) (hupdates : u.updates ≠ [])
    (hcolumns : ∀ field ∈ u.row, isName field.1 = true)
    (hchanged : ∀ a ∈ u.updates, isName a.column = true) : read? u.render = some [u.statement] := by
  rw [read?, tokens?_render hrow hupdates hcolumns hchanged, Option.bind_some,
    statements?_tokens hrow hupdates]

end Upsert

end LanWatch
