import GradedQuery.Decimal.Numeral

/-!
# Options and operands

The arguments of a command are options, which start with hyphens, and operands.  Options may come
anywhere; behind `--` there are only operands.  Which options there are, and what values they take,
is described by a table (`OptionForm`).
-/

namespace GradedQuery.CommandLine

/-- What values an option takes. -/
inductive ValueForm where
  /-- None. -/
  | flag
  /-- A path, which is not empty. -/
  | path
  /-- A natural of 64 bits. -/
  | natural
  /-- Names between commas; the option may be repeated. -/
  | names
  deriving DecidableEq

/-- An option that a command knows. -/
structure OptionForm where
  long : String
  short : Option Char
  value : ValueForm

/-- Why the arguments are not carried out as a command. -/
inductive Stop where
  /-- Help is asked for. -/
  | help
  /-- The version is asked for. -/
  | version
  /-- The arguments make no sense. -/
  | misuse (message : String)
  deriving DecidableEq, Repr

/-- What has been read of the arguments of a command. -/
structure Given where
  /-- The options in their order, with the values. -/
  options : List (String × String) := []
  operands : List String := []

namespace Given

/-- Whether an option is given. -/
def has (given : Given) (name : String) : Bool := given.options.any (·.1 = name)

/-- The values of an option in their order. -/
def values (given : Given) (name : String) : List String :=
  (given.options.filter (·.1 = name)).map (·.2)

end Given

/-- The natural of 64 bits that an argument denotes; a plus sign may stand in front. -/
def natural64? (s : String) : Option Nat :=
  let digits := match s.toList with
    | '+' :: rest => rest
    | cs => cs
  (Decimal.natural? 10 digits).filter (· < Decimal.wordCount)

/-- Whether an option takes a value of this text. -/
def ValueForm.accepts (form : ValueForm) (value : String) : Bool :=
  match form with
  | .flag | .names => true
  | .path => !value.isEmpty
  | .natural => (natural64? value).isSome

/-- Whether an argument has the form of an option.  A single hyphen has not. -/
def isOption (arg : String) : Bool :=
  match arg.toList with
  | '-' :: _ :: _ => true
  | _ => false

/-- Refuses the arguments. -/
def misuse {α : Type} (message : String) : Except Stop α := .error (.misuse message)

/-- Adds an option.  All but the lists of names may be given only once. -/
def Given.add (given : Given) (form : OptionForm) (value : String) : Except Stop Given :=
  if form.value ≠ .names ∧ given.has form.long then
    misuse ("the option '--" ++ form.long ++ "' cannot be used multiple times")
  else if form.value.accepts value then
    .ok { given with options := given.options ++ [(form.long, value)] }
  else misuse ("invalid value '" ++ value ++ "' for '--" ++ form.long ++ "'")

/-- The outcome of reading an argument: done, or an option that still needs its value. -/
inductive Partly where
  | done (given : Given)
  | needsValue (given : Given) (form : OptionForm)

/-- Reads an option by its long name, without the hyphens; a value may follow an equals sign. -/
def readLong (forms : List OptionForm) (given : Given) (body : String) : Except Stop Partly :=
  let name := String.ofList (body.toList.takeWhile (· ≠ '='))
  let value? := match body.toList.dropWhile (· ≠ '=') with
    | _ :: value => some (String.ofList value)
    | [] => none
  match forms.find? (·.long = name), value? with
  | some form, some value =>
    if form.value = .flag then misuse ("unexpected value for '--" ++ name ++ "'")
    else (given.add form value).map .done
  | some form, none =>
    if form.value = .flag then (given.add form "").map .done else .ok (.needsValue given form)
  | none, none =>
    if name = "help" then .error .help
    else if name = "version" then .error .version
    else misuse ("unexpected argument '--" ++ name ++ "'")
  | none, some _ => misuse ("unexpected argument '--" ++ name ++ "'")

/-- Reads options by their letters, without the hyphen.  The first one that takes a value takes the
rest of the letters. -/
def readShort (forms : List OptionForm) (given : Given) : List Char → Except Stop Partly
  | [] => .ok (.done given)
  | c :: rest =>
    match forms.find? (·.short = some c) with
    | some form =>
      if form.value = .flag then do
        let given ← given.add form ""
        readShort forms given rest
      else match rest with
        | [] => .ok (.needsValue given form)
        | '=' :: value => (given.add form (String.ofList value)).map .done
        | value => (given.add form (String.ofList value)).map .done
    | none =>
      if c = 'h' then .error .help
      else if c = 'V' then .error .version
      else misuse ("unexpected argument '-" ++ String.singleton c ++ "'")

/-- Reads an argument that has the form of an option. -/
def readOption (forms : List OptionForm) (given : Given) (arg : String) : Except Stop Partly :=
  match arg.toList with
  | '-' :: '-' :: body => readLong forms given (String.ofList body)
  | _ :: letters => readShort forms given letters
  | [] => .ok (.done given)

/-- Adds operands, as long as there are no more than `most`. -/
def Given.addOperands (given : Given) (most : Option Nat) (args : List String) :
    Except Stop Given :=
  let operands := given.operands ++ args
  match operands.drop (most.getD operands.length) with
  | [] => .ok { given with operands }
  | extra :: _ => misuse ("unexpected argument '" ++ extra ++ "'")

/-- Reads the arguments of a command up to the name of a command below it, which is given together
with the arguments behind it. -/
def readArguments (forms : List OptionForm) (commands : List String) (most : Option Nat)
    (given : Given) : List String → Except Stop (Given × Option (String × List String))
  | [] => .ok (given, none)
  | arg :: rest =>
    if arg = "--" then do
      let given ← given.addOperands most rest
      return (given, none)
    else if isOption arg then
      match readOption forms given arg with
      | .error e => .error e
      | .ok (.done given) => readArguments forms commands most given rest
      | .ok (.needsValue given form) =>
        match rest with
        | [] => misuse ("a value is required for '--" ++ form.long ++ "'")
        | value :: rest =>
          if isOption value then misuse ("a value is required for '--" ++ form.long ++ "'")
          else match given.add form value with
            | .error e => .error e
            | .ok given => readArguments forms commands most given rest
    else if commands.contains arg then .ok (given, some (arg, rest))
    else match given.addOperands most [arg] with
      | .error e => .error e
      | .ok given => readArguments forms commands most given rest

end GradedQuery.CommandLine
