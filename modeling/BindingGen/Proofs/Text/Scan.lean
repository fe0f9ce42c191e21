import BindingGen.Proofs.Text.Trim
import BindingGen.Text.Scan

/-!
# What scanners take

One rule for each scanner, from what its parts take of the text. A scanner that is repeated takes
all the words of a list, if each is read in front of what the others leave.
-/

namespace BindingGen.Text.Scan

variable {α β : Type} {scan first second : Scan α} {text rest : List Char}

/-! ## Sequences and choices -/

theorem bind_of_some {next : α → Scan β} {a : α} (h : scan text = some (a, rest)) :
    (scan >>= next) text = next a rest := by
  change scan text >>= (fun read => next read.1 read.2) = _
  rw [h]
  rfl

theorem bind_of_none {next : α → Scan β} (h : scan text = none) : (scan >>= next) text = none := by
  change scan text >>= (fun read => next read.1 read.2) = none
  rw [h]
  rfl

theorem map_of_some {f : α → β} {a : α} (h : scan text = some (a, rest)) :
    (f <$> scan) text = some (f a, rest) := by
  change scan text >>= (fun read => pure (f read.1, read.2)) = _
  rw [h]
  rfl

theorem map_of_none {f : α → β} (h : scan text = none) : (f <$> scan) text = none := by
  change scan text >>= (fun read => pure (f read.1, read.2)) = _
  rw [h]
  rfl

theorem orElse_of_some {read : α × List Char} (h : first text = some read) :
    (first <|> second) text = some read := by
  change (first text <|> second text) = _
  rw [h]
  rfl

theorem orElse_of_none (h : first text = none) : (first <|> second) text = second text := by
  change (first text <|> second text) = _
  rw [h]
  rfl

theorem orElse_bind_none {next : α → Scan β} (hfirst : (first >>= next) text = none)
    (hsecond : (second >>= next) text = none) : ((first <|> second) >>= next) text = none := by
  cases h : first text with
  | some read =>
    rw [bind_of_some h] at hfirst
    rw [bind_of_some (orElse_of_some h), hfirst]
  | none =>
    cases hread : second text with
    | none => exact bind_of_none ((orElse_of_none h).trans hread)
    | some read =>
      rw [bind_of_some hread] at hsecond
      rw [bind_of_some ((orElse_of_none h).trans hread), hsecond]

/-! ## Fixed texts -/

theorem exactly_append (expected rest : List Char) :
    exactly expected (expected ++ rest) = some ((), rest) := by
  rw [exactly, afterPrefix?_append]
  rfl

theorem exactly_cons (c : Char) (rest : List Char) : exactly [c] (c :: rest) = some ((), rest) :=
  exactly_append [c] rest

theorem exactly_of_ne {c d : Char} (h : c ≠ d) (expected rest : List Char) :
    exactly (c :: expected) (d :: rest) = none := by
  rw [exactly, afterPrefix?, if_neg h]
  rfl

theorem flag_of_none {expected : List Char} (h : exactly expected text = none) :
    flag expected text = some (false, text) := by
  rw [flag, orElse_of_none (bind_of_none h)]
  rfl

theorem optional?_of_none (h : scan text = none) : optional? scan text = some (none, text) := by
  rw [optional?, orElse_of_none (map_of_none h)]
  rfl

theorem notAhead_of_none (h : scan text = none) : notAhead scan text = some ((), text) := by
  rw [notAhead, h]

theorem notAhead_of_some {read : α × List Char} (h : scan text = some read) :
    notAhead scan text = none := by
  rw [notAhead, h]

/-! ## Runs -/

variable {p : Char → Bool} {word : List Char}

/-- A text that goes on with no character of a class. -/
def Leaves (p : Char → Bool) (rest : List Char) : Prop := ∀ c ∈ rest.head?, p c = false

theorem leaves_cons {c : Char} (h : p c = false) (rest : List Char) : Leaves p (c :: rest) := by
  intro d hd
  cases hd
  exact h

theorem run_append (hword : word.all p = true) (hrest : Leaves p rest) :
    run p (word ++ rest) = some (word, rest) := by
  have hall : ∀ c ∈ word, p c = true := List.all_eq_true.mp hword
  rw [run, List.takeWhile_append_of_pos hall, List.dropWhile_append_of_pos hall]
  cases rest with
  | nil => simp
  | cons c rest =>
    have hc := hrest c rfl
    simp [hc]

theorem run_of_leaves (hrest : Leaves p rest) : run p rest = some ([], rest) := by
  rw [← List.nil_append rest]
  exact run_append rfl hrest

theorem someRun_append (hne : word ≠ []) (hword : word.all p = true) (hrest : Leaves p rest) :
    someRun p (word ++ rest) = some (word, rest) := by
  rw [someRun, bind_of_some (run_append hword hrest), if_neg (by simpa using hne)]
  rfl

theorem someRun_of_leaves (hrest : Leaves p rest) : someRun p rest = none := by
  rw [someRun, bind_of_some (run_of_leaves hrest)]
  rfl

/-- What is left behind a run is as long as what the run did not take. -/
theorem written_append {front : List Char} {a : α} (h : scan (front ++ rest) = some (a, rest)) :
    written scan (front ++ rest) = some ((a, front), rest) := by
  rw [written, h]
  simp

/-! ## Repetition -/

/-- The words of a list are read by a scanner, each in front of what is left. -/
inductive ReadsAll (scan : Scan α) : List α → List Char → List Char → Prop where
  | nil {rest : List Char} (h : scan rest = none) : ReadsAll scan [] rest rest
  | cons {a : α} {found : List α} {text behind rest : List Char} (h : scan text = some (a, behind))
      (hshorter : behind.length < text.length) (hbehind : ReadsAll scan found behind rest) :
      ReadsAll scan (a :: found) text rest

theorem ReadsAll.manyWithin_eq {found : List α} (h : ReadsAll scan found text rest) {fuel : Nat}
    (hfuel : text.length ≤ fuel) : manyWithin scan fuel text = some (found, rest) := by
  induction h generalizing fuel with
  | nil h =>
    cases fuel with
    | zero => rfl
    | succ fuel =>
      rw [manyWithin, orElse_of_none (bind_of_none h)]
      rfl
  | cons h hshorter _ ih =>
    cases fuel with
    | zero => omega
    | succ fuel =>
      rw [manyWithin]
      apply orElse_of_some
      rw [bind_of_some h, bind_of_some (ih (by omega))]
      rfl

theorem ReadsAll.many_eq {found : List α} (h : ReadsAll scan found text rest) :
    many scan text = some (found, rest) := h.manyWithin_eq (Nat.le_refl _)

theorem ReadsAll.many1_eq {a : α} {found : List α} (h : ReadsAll scan (a :: found) text rest) :
    many1 scan text = some (a :: found, rest) := by
  rw [many1, bind_of_some h.many_eq]
  rfl

theorem many_of_none (h : scan text = none) : many scan text = some ([], text) :=
  (ReadsAll.nil h).many_eq

theorem many1_of_none (h : scan text = none) : many1 scan text = none := by
  rw [many1, bind_of_some (many_of_none h)]
  rfl

end BindingGen.Text.Scan
