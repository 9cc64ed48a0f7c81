namespace LanWatch.Text

/-!
# Similar words

How much two words look alike, as the Jaro similarity measures it: letters match if they are equal
and not far apart, and matched letters in another order count against the words.

* `matchLetters` — the letters of two words that match, each word's in its own order;
* `similarity` — a number from zero to one;
* `mostSimilar?` — the word that looks most like a given one.
-/

/-- The first position from `low` to before `high` with the letter `c` that is not taken, where `i`
    is the position of the first letter in the list. -/
def findFree (c : Char) (low high : Nat) (taken : List Nat) (i : Nat) : List Char → Option Nat
  | [] => none
  | d :: ds =>
    if low ≤ i ∧ i < high ∧ c = d ∧ i ∉ taken then some i
    else findFree c low high taken (i + 1) ds

/-- The letters of the first word that match, from position `i` on, and the positions in `word`
    that they take. -/
def matchFrom (reach : Nat) (word : List Char) (i : Nat) (taken : List Nat) :
    List Char → List Char × List Nat
  | [] => ([], taken)
  | c :: cs =>
    match findFree c (i - reach) (i + reach + 1) taken 0 word with
    | some j =>
      let (matched, taken) := matchFrom reach word (i + 1) (j :: taken) cs
      (c :: matched, taken)
    | none => matchFrom reach word (i + 1) taken cs

/-- The letters of two words that match, each word's in its own order. -/
def matchLetters (a b : List Char) : List Char × List Char :=
  let reach := max a.length b.length / 2 - 1
  let (matched, taken) := matchFrom reach b 0 [] a
  (matched, (b.zipIdx.filter fun (_, j) => j ∈ taken).map (·.1))

/-- How much two words look alike, from zero to one. -/
def similarity (a b : String) : Float :=
  let (fromA, fromB) := matchLetters a.toList b.toList
  let matched := fromA.length
  let displaced := (fromA.zip fromB).countP fun (c, d) => c != d
  if a.isEmpty && b.isEmpty then 1.0
  else if matched = 0 then 0.0
  else
    let m := Float.ofNat matched
    (m / Float.ofNat a.length + m / Float.ofNat b.length +
      Float.ofNat (matched - displaced / 2) / m) / 3.0

/-- Of two candidates the one with the higher number, and of two equal ones the later. -/
def closer (best : Option (Float × String)) (c : Float × String) : Option (Float × String) :=
  match best with
  | some b => if c.1 < b.1 then some b else some c
  | none => some c

/-- The candidate that looks most like a word, of those that look enough like it. -/
def mostSimilar? (word : String) (candidates : List String) : Option String :=
  let rated := candidates.map fun c => (similarity word c, c)
  ((rated.filter fun (rate, _) => 0.7 < rate).foldl closer none).map (·.2)

end LanWatch.Text
