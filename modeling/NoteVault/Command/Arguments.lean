import NoteVault.Text.Basic

/-!
# Options and arguments

The words of a command line are options and arguments. An option begins with two dashes
and a name, or one dash and a letter. If it takes a value, that follows in the next word,
or in the same word after an equals sign, or directly after the letter. A word of two
dashes ends the options; a single dash is an argument.

Options that stand after an argument belong to it unless they may be mixed.
-/

namespace NoteVault

/-- An option that a command knows. -/
structure OptionForm where
  /-- The name, with its two dashes. -/
  name : Text
  /-- The letter, if it has one. -/
  letter : Option Char := none
  /-- A value belongs to it. -/
  takesValue : Bool := false

/-- An option as it was found in a word. -/
inductive OptionUse where
  /-- With its value, if it takes one. -/
  | complete (name value : Text)
  /-- Its value is the next word. -/
  | awaitsValue (name : Text)

/-- Options with their values, and arguments. -/
structure Arguments where
  /-- The options in their order. -/
  options : List (Text × Text) := []
  /-- The arguments in their order. -/
  positional : List Text := []

namespace Arguments

/-- The value of an option; the last one counts. -/
def value? (a : Arguments) (name : Text) : Option Text := a.options.reverse.lookup name

/-- Whether an option was given. -/
def has (a : Arguments) (name : Text) : Bool := (a.value? name).isSome

/-- The use of an option that has a form, where `attached` is the value in the same
word. -/
def useForm (form : OptionForm) (attached : Option Text) : Option OptionUse :=
  match form.takesValue, attached with
  | true, some value => some (.complete form.name value)
  | true, none => some (.awaitsValue form.name)
  | false, some _ => none
  | false, none => some (.complete form.name [])

/-- What a word that begins with a dash is. -/
def useOf? (forms : List OptionForm) (word : Text) : Option OptionUse :=
  let name := word.takeWhile (· != '=')
  match forms.find? (·.name = name) with
  | some form =>
    useForm form (if name.length < word.length then some (word.drop (name.length + 1)) else none)
  | none =>
    match word with
    | '-' :: '-' :: _ => none
    | '-' :: letter :: more =>
      match forms.find? (·.letter = some letter) with
      | some form => useForm form (if more.isEmpty then none else some more)
      | none => none
    | _ => none

/-- An option put in front. -/
def withOption (name value : Text) (a : Arguments) : Arguments :=
  { a with options := (name, value) :: a.options }

/-- The options and arguments of a command line, if every option is known. Unless
`mixed`, everything from the first argument on is an argument. -/
def read? (forms : List OptionForm) (mixed : Bool) : List Text → Option Arguments
  | [] => some {}
  | word :: words =>
    if word = ['-', '-'] then some { positional := words }
    else if word.head? = some '-' && 1 < word.length then
      match useOf? forms word, words with
      | none, _ => none
      | some (.complete name value), words => (read? forms mixed words).map (withOption name value)
      | some (.awaitsValue _), [] => none
      | some (.awaitsValue name), value :: words =>
        (read? forms mixed words).map (withOption name value)
    else if mixed then
      (read? forms mixed words).map fun a => { a with positional := word :: a.positional }
    else some { positional := word :: words }

end Arguments
end NoteVault
