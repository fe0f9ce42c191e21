import BindingGen.Double.Basic

/-!
# Similarity of words

How much two words have in common: the characters that both hold at about the same place, less
those that stand in another order. Nothing in common counts 0, and equal words 1.
-/

namespace BindingGen.Text

/-- How far apart two equal characters may stand to match. -/
def matchRange (a b : List Char) : Nat := max a.length b.length / 2 - 1

/-- The first place in a window of `b` that holds `c` and is not taken. -/
def matchPlace? (b : List Char) (taken : List Nat) (c : Char) (start stop : Nat) : Option Nat :=
  (List.range (min b.length stop)).find? fun j =>
    start ≤ j && b[j]? == some c && !taken.contains j

/-- The matching characters of `a` with their places in `b`. -/
def matchesFrom (range : Nat) (b : List Char) (taken : List Nat) :
    Nat → List Char → List (Char × Nat)
  | _, [] => []
  | i, c :: rest =>
    match matchPlace? b taken c (i - range) (i + range + 1) with
    | some j => (c, j) :: matchesFrom range b (j :: taken) (i + 1) rest
    | none => matchesFrom range b taken (i + 1) rest

/-- Half of the matching characters that stand in another order. -/
def transpositions (b : List Char) (found : List (Char × Nat)) : Nat :=
  let places := found.map Prod.snd
  let inOrder := (b.zipIdx.filter fun (_, j) => places.contains j).map Prod.fst
  ((found.map Prod.fst).zip inOrder).countP (fun (c, d) => c != d) / 2

/-- The mean of the matching shares of both words and of the share in order, rounded at each step. -/
def similarity? (a b : List Char) : Option Double := do
  let found := matchesFrom (matchRange a b) b [] 0 a
  let m := found.length
  if m = 0 then return .zero false
  let shares ←
    (← Double.ofQuotient? false m a.length).add? (← Double.ofQuotient? false m b.length)
  let inOrder ← Double.ofQuotient? false (m - transpositions b found) m
  (← shares.add? inOrder).div? (← Double.ofNat? 3)

/-- Words are similar above seven tenths. -/
def isSimilar (score : Double) : Bool :=
  (Double.ofDecimal? false 7 (-1)).any fun limit => score.compareTo limit = .gt

/-- The word that is most similar to `word`, of several the last. -/
def mostSimilar? (word : String) (candidates : List String) : Option String :=
  let scored := candidates.filterMap fun candidate =>
    (similarity? word.toList candidate.toList).map (·, candidate)
  let best := (scored.filter fun (score, _) => isSimilar score).foldl
    (fun best (score, candidate) =>
      match best with
      | some (held, _) => if held.compareTo score = .gt then best else some (score, candidate)
      | none => some (score, candidate)) (none : Option (Double × String))
  best.map Prod.snd

end BindingGen.Text
