import BindingGen.Proofs.Template.Key

/-!
# Written arguments

An argument that a tag writes behind a blank, and what the grammar reads of it. A call is read with
all the arguments that it is written with.
-/

namespace BindingGen.Template

open Grammar Text.Scan

/-! ## Arguments -/

/-- An argument without a key as it is written: read whole, whatever may follow it. -/
structure Word where
  text : List Char
  param : Param
  starts : ∃ c tail, text = c :: tail ∧ isSpace c = false ∧ c ≠ '='
  reads : ∀ rest, Ends rest → arg (' ' :: (text ++ rest)) = some ((none, param), rest)

/-- A literal is an argument that is worth a value, in any spelling. -/
structure Literal where
  word : Word
  value : Json
  param_eq : word.param = .literal value

variable {text rest : List Char} {source : Param} {c : Char}

theorem exists_start (hkey : isIdentifier text = true ∨ text.head? = some '"') :
    ∃ c tail, text = c :: tail ∧ isSpace c = false ∧ c ≠ '=' := by
  rcases hkey with hname | hquote
  · obtain ⟨c, tail, rfl, hc⟩ := exists_symbol hname
    exact ⟨c, tail, rfl, isSpace_of_isSymbol hc, (ne_of_isSymbol hc (by decide)).symm⟩
  · obtain ⟨tail, rfl⟩ := List.head?_eq_some_iff.mp hquote
    exact ⟨_, tail, rfl, by decide, by decide⟩

theorem arg_of_param (hkey : isIdentifier text = true ∨ text.head? = some '"') (hrest : Ends rest)
    (h : param (text ++ rest) = some (source, rest)) :
    arg (' ' :: (text ++ rest)) = some ((none, source), rest) := by
  obtain ⟨c, tail, rfl, hspace, _⟩ := exists_start hkey
  have hnokey : (do let key ← identifier; skip; exactly ['=']; skip; return (some key, ← param) :
      Text.Scan (Option String × Param)) (c :: tail ++ rest) = none := by
    rcases hkey with hkey | hkey
    · obtain ⟨behind, hskip, hequals⟩ := hrest.exists_skip
      rw [bind_of_some (identifier_append hkey hrest.leaves_symbol), bind_of_some hskip]
      exact bind_of_none hequals
    · cases hkey
      exact bind_of_none (identifier_of_leaves (leaves_cons (by decide) _))
  rw [arg, argOf, List.cons_append, bind_of_some (skip_blank hspace _), ← List.cons_append,
    orElse_of_none hnokey, bind_of_some h]
  rfl

def Word.ofParam (text : List Char) (source : Param)
    (hkey : isIdentifier text = true ∨ text.head? = some '"')
    (h : ∀ rest, Ends rest → Grammar.param (text ++ rest) = some (source, rest)) : Word where
  text := text
  param := source
  starts := exists_start hkey
  reads rest hrest := arg_of_param hkey hrest (h rest hrest)

/-- A key is an argument that looks up the member of its name. -/
def Word.ofKey (key : String) (h : IsKey key) : Word :=
  .ofParam key.toList (.path (Scopes.fieldPath key 0 key)) (.inl h.symbols)
    fun _ hrest => h.param_eq hrest

/-! ## Lists of arguments -/

def argText (words : List Word) : List Char := words.flatMap fun word => ' ' :: word.text

theorem argText_cons (word : Word) (words : List Word) :
    argText (word :: words) = ' ' :: (word.text ++ argText words) := rfl

def readArgs (words : List Word) : Args := words.map fun word => (none, word.param)

theorem firstInvalidArg_readArgs {words : List Word}
    (h : ∀ word ∈ words, word.param.firstInvalid = none) :
    firstInvalidArg (readArgs words) = none := by
  induction words with
  | nil => rfl
  | cons word words ih =>
    change word.param.firstInvalid.or (firstInvalidArg (readArgs words)) = none
    rw [h word List.mem_cons_self, ih fun other hother => h other (List.mem_cons_of_mem _ hother)]
    rfl

def tagEnd (rest : List Char) : List Char := '\x7d' :: '\x7d' :: rest

theorem ends_argText (words : List Word) (rest : List Char) :
    Ends (argText words ++ tagEnd rest) := by
  cases words with
  | nil => exact .tag rest
  | cons word words =>
    obtain ⟨c, tail, htext, hspace, hequals⟩ := word.starts
    rw [argText_cons, htext]
    exact .blank hspace hequals _

theorem arg_tagEnd (rest : List Char) : arg (tagEnd rest) = none := rfl

/-- **Arguments are read as they are written**, up to the end of their tag. -/
theorem readsAll_argText (words : List Word) (rest : List Char) :
    ReadsAll arg (readArgs words) (argText words ++ tagEnd rest) (tagEnd rest) := by
  induction words with
  | nil => exact .nil (arg_tagEnd rest)
  | cons word words ih =>
    have hread := word.reads _ (ends_argText words rest)
    rw [argText_cons, List.cons_append, List.append_assoc]
    refine .cons hread ?_ ih
    simp only [List.length_cons, List.length_append]
    omega

/-! ## Calls -/

variable {name : String}

theorem identifier_name (hname : isIdentifier name.toList = true) (words : List Word)
    (rest : List Char) :
    identifier (name.toList ++ (argText words ++ tagEnd rest)) =
      some (name, argText words ++ tagEnd rest) := by
  rw [identifier_append hname (ends_argText words rest).leaves_symbol, String.ofList_toList]

theorem call_eq (hname : isIdentifier name.toList = true) (words : List Word) (rest : List Char) :
    call (name.toList ++ (argText words ++ tagEnd rest)) =
      some (⟨name, readArgs words, []⟩, tagEnd rest) := by
  have hnames : (do skip; blockNames : Text.Scan (List String)) (tagEnd rest) = none := rfl
  rw [call, bind_of_some (identifier_name hname words rest),
    bind_of_some (readsAll_argText words rest).many_eq, bind_of_some (optional?_of_none hnames)]
  rfl

theorem output_call_eq (hname : isIdentifier name.toList = true) {words : List Word}
    (hwords : words ≠ []) (rest : List Char) :
    output (name.toList ++ (argText words ++ tagEnd rest)) =
      some (.inl ⟨name, readArgs words, []⟩, tagEnd rest) := by
  obtain ⟨word, words, rfl⟩ := List.exists_cons_of_ne_nil hwords
  rw [output]
  apply orElse_of_some
  rw [bind_of_some (identifier_name hname (word :: words) rest),
    bind_of_some (readsAll_argText (word :: words) rest).many1_eq]
  rfl

theorem output_key_eq {key : String} (h : IsKey key) (rest : List Char) :
    output (key.toList ++ tagEnd rest) =
      some (.inr (.path (Scopes.fieldPath key 0 key)), tagEnd rest) := by
  have hcall : (do return .inl ⟨← identifier, ← many1 arg, []⟩ : Text.Scan (Call ⊕ Param))
      (key.toList ++ tagEnd rest) = none := by
    have hname : identifier (key.toList ++ tagEnd rest) = some (key, tagEnd rest) :=
      identifier_name h.symbols [] rest
    rw [bind_of_some hname]
    exact bind_of_none (many1_of_none (arg_tagEnd rest))
  have hsub : subexpression (key.toList ++ tagEnd rest) = none :=
    bind_of_none (h.exactly_sign '(' (by decide) _ _)
  rw [output, orElse_of_none hcall]
  apply map_of_some
  rw [output.lone, orElse_of_none hsub]
  exact map_of_some (h.path_eq (.tag rest))

end BindingGen.Template
