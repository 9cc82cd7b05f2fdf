import ShareCheck.Text.Search

set_option autoImplicit false

namespace ShareCheck.CommandLine

inductive UsageError
  | displayHelp
  | displayHelpOnMissing
  | displayVersion
  | unknownArgument
  | invalidSubcommand
  | missingSubcommand
  | argumentConflict
  | invalidValue
  | valueValidation
  | tooManyValues
deriving DecidableEq, Repr

def UsageError.name : UsageError → String
  | displayHelp => "DisplayHelp"
  | displayHelpOnMissing => "DisplayHelpOnMissingArgumentOrSubcommand"
  | displayVersion => "DisplayVersion"
  | unknownArgument => "UnknownArgument"
  | invalidSubcommand => "InvalidSubcommand"
  | missingSubcommand => "MissingSubcommand"
  | argumentConflict => "ArgumentConflict"
  | invalidValue => "InvalidValue"
  | valueValidation => "ValueValidation"
  | tooManyValues => "TooManyValues"

inductive OptionKind
  | help
  | version
  | flag
  | text
  | path
  | number
  | texts
  /-- Text as often as it is given, each time cut at blanks. -/
  | words
deriving DecidableEq, Repr

structure Opt where
  name : String
  short : Option Char := none
  kind : OptionKind
  standIn : Option String := none
deriving DecidableEq, Repr

namespace Opt

def takesValue (o : Opt) : Bool :=
  match o.kind with
  | .help | .version | .flag => false
  | _ => true

def repeats (o : Opt) : Bool := o.kind == .texts || o.kind == .words

def cut (o : Opt) (value : String) : List String :=
  if o.kind = .words then (value.toList.splitOn ' ').map String.ofList else [value]

end Opt

def number? (value : String) : Option Nat :=
  let digits := match value.toList with
    | '+' :: digits => digits
    | digits => digits
  if digits.isEmpty || !digits.all Char.isDigit then none
  else
    let n := digits.foldl (fun n c => 10 * n + (c.toNat - '0'.toNat)) 0
    if n < Nat.pow 2 64 then some n else none

def Opt.validate (o : Opt) (value : String) : Except UsageError Unit :=
  match o.kind with
  | .path => if value.isEmpty then .error .invalidValue else .ok ()
  | .number => if (number? value).isSome then .ok () else .error .valueValidation
  | _ => .ok ()

/-- Where a value comes from; a later source counts for more. -/
inductive Source
  | environment
  | commandLine
deriving DecidableEq, Repr

structure Given where
  option : Opt
  source : Source
  values : List String
deriving Repr

structure Level where
  given : List Given := []
  pending : Option (Opt × List String) := none
deriving Repr, Inhabited

namespace Level

def find? (l : Level) (o : Opt) : Option Given := l.given.find? fun g => g.option.name == o.name

def store (l : Level) (o : Opt) (source : Source) (values : List String) : Level :=
  match l.find? o with
  | none => { l with given := l.given ++ [⟨o, source, values⟩] }
  | some _ =>
    { l with given := l.given.map fun g =>
        if g.option.name == o.name then { g with values := g.values ++ values } else g }

def accept (l : Level) (o : Opt) (source : Source) (values : List String) :
    Except UsageError Level :=
  -- An option with its values. Only some options may be given twice.
  match o.kind with
  | .help => .error .displayHelp
  | .version => .error .displayVersion
  | _ =>
    if o.takesValue && values.isEmpty then .error .invalidValue
    else if (l.find? o).isSome && !o.repeats then .error .argumentConflict
    else do
      let values := values.flatMap o.cut
      values.forM o.validate
      pure (l.store o source values)

def resolve (l : Level) : Except UsageError Level :=
  match l.pending with
  | none => .ok l
  | some (o, values) => { l with pending := none }.accept o .commandLine values

def give (l : Level) (o : Opt) (values : List String) : Except UsageError Level := do
  (← l.resolve).accept o .commandLine values

def await (l : Level) (o : Opt) : Except UsageError Level := do
  pure { ← l.resolve with pending := some (o, []) }

def isAwaiting (l : Level) : Bool :=
  match l.pending with
  | some (_, []) => true
  | _ => false

def fromEnvironment (env : String → Option String) (l : Level) :
    List Opt → Except UsageError Level
  -- Options that were not given on the command line take the values of their variables.
  | [] => .ok l
  | o :: rest =>
    match l.find? o, o.standIn.bind env with
    | none, some value => do fromEnvironment env (← l.accept o .environment [value]) rest
    | _, _ => fromEnvironment env l rest

def long (options : List Opt) (l : Level) (word : List Char) : Except UsageError Level :=
  let (name, value) : List Char × Option String :=
    match Text.splitOnce '=' word with
    | some (name, value) => (name, some (String.ofList value))
    | none => (word, none)
  match options.find? fun o => o.name.toList == name with
  | none => .error .unknownArgument
  | some o =>
    match o.takesValue, value with
    | true, some value => l.give o [value]
    | true, none => l.await o
    | false, some _ => .error .tooManyValues
    | false, none => l.give o []

/-- Letters of options without values may follow one another; the rest of the word is the value of
the first that takes one. -/
def short (options : List Opt) (l : Level) : List Char → Except UsageError Level
  | [] => .ok l
  | c :: rest =>
    match options.find? fun o => o.short == some c with
    | none => .error .unknownArgument
    | some o =>
      if o.takesValue then
        match rest with
        | [] => l.await o
        | '=' :: value => l.give o [String.ofList value]
        | value => l.give o [String.ofList value]
      else do short options (← l.give o []) rest

def unexpected (commands : List String) (afterDashes : Bool) (word : String) : UsageError :=
  -- A word that is no option and no value. After two dashes all words are such words.
  if commands.isEmpty || (afterDashes && commands.contains word) then .unknownArgument
  else .invalidSubcommand

def read (options : List Opt) (commands : List String) (afterDashes : Bool) (l : Level) :
    List String → Except UsageError (Level × Option (String × List String))
  | [] => .ok (l, none)
  | word :: rest =>
    if afterDashes then .error (unexpected commands afterDashes word)
    else if !l.isAwaiting && commands.contains word then .ok (l, some (word, rest))
    else match word.toList with
      | ['-', '-'] => read options commands true l rest
      | '-' :: '-' :: name => do read options commands false (← long options l name) rest
      | '-' :: c :: letters => do
        read options commands false (← short options l (c :: letters)) rest
      | _ =>
        match l.pending with
        | some (o, []) =>
          read options commands false { l with pending := some (o, [word]) } rest
        | _ => .error (unexpected commands afterDashes word)

def finish (options : List Opt) (env : String → Option String) (l : Level) :
    Except UsageError Level := do
  fromEnvironment env (← l.resolve) options

end Level

def chosen (outer inner : Level) (o : Opt) : Option Given :=
  match outer.find? o, inner.find? o with
  | some a, some b =>
    if a.source = .commandLine && b.source = .environment then some a else some b
  | a, b => b <|> a

end ShareCheck.CommandLine
