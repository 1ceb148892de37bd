import AutomatonChart.CommandLine.Command

/-! # Reading arguments

A subcommand and its options, each given at most once as `--name value` or `--name=value`. A value
that follows its option as a word of its own is taken up only when the next option or the end is
reached, so a word that does not belong there is reported first.
-/
namespace AutomatonChart.Arguments

inductive OptionName where
  | input
  | serviceUrl
  | outDir
  | format
deriving DecidableEq, Repr

def OptionName.text : OptionName → String
  | .input => "--input"
  | .serviceUrl => "--service-url"
  | .outDir => "--out-dir"
  | .format => "--format"

inductive Verb where
  | minimize
  | compile
deriving DecidableEq, Repr

def Verb.name : Verb → String
  | .minimize => "minimize"
  | .compile => "compile"

def Verb.all : List Verb := [.minimize, .compile]

def Verb.ofName? (s : String) : Option Verb := Verb.all.find? (·.name = s)

def helpName : String := "help"

def isSubcommand (s : String) : Bool := s = helpName || (Verb.ofName? s).isSome

def Verb.options : Verb → List OptionName
  | .minimize => [.input, .serviceUrl, .outDir, .format]
  | .compile => [.input]

inductive Word where
  | plain (text : String)
  | option (name : OptionName) (value : Option String)
  | help
  | helpWithValue
  | escape
  | unknown
deriving DecidableEq, Repr

def cutValue (word : String) : String × Option String :=
  let cs := word.toList
  let name := cs.takeWhile (· ≠ '=')
  (String.ofList name, (cs.drop name.length).tail?.map String.ofList)

/-- A lone dash is a plain word, and so is the empty one. -/
def classify (options : List OptionName) (word : String) : Word :=
  match word.toList with
  | ['-', '-'] => .escape
  | '-' :: '-' :: _ =>
    let (name, value) := cutValue word
    if name = "--help" then if value.isSome then .helpWithValue else .help
    else match options.find? (·.text = name) with
      | some o => .option o value
      | none => .unknown
  | ['-'] => .plain word
  | '-' :: 'h' :: _ => .help
  | '-' :: _ => .unknown
  | _ => .plain word

abbrev Given := List (OptionName × String)

def isValidValue : OptionName → String → Bool
  | .outDir, value => !value.isEmpty
  | .format, value => (OutputFormat.ofText? value).isSome
  | _, _ => true

/-- Takes up an option: its value must be there, it must not have been given before, and the value
must be one that it accepts. -/
def accept (given : Given) (name : OptionName) (value : Option String) : Except Refusal Given :=
  match value with
  | none => .error .invalidValue
  | some v =>
    if (given.lookup name).isSome then .error .argumentConflict
    else if isValidValue name v then .ok (given ++ [(name, v)])
    else .error .invalidValue

/-- An option whose value, if any came, has not been taken up yet. -/
abbrev Pending := Option (OptionName × Option String)

def settle (given : Given) : Pending → Except Refusal Given
  | none => .ok given
  | some (name, value) => accept given name value

def readOptions (options : List OptionName) (given : Given) (pending : Pending) :
    List String → Except Refusal Given
  | [] => settle given pending
  | word :: rest =>
    match classify options word with
    | .unknown => .error .unknownArgument
    | .helpWithValue => .error .unneededValue
    | .escape => if rest.isEmpty then settle given pending else .error .unknownArgument
    | .help => do
      let _ ← settle given pending
      .error .help
    | .option name none => do
      let given ← settle given pending
      readOptions options given (some (name, none)) rest
    | .option name (some value) => do
      let given ← settle given pending
      let given ← accept given name (some value)
      readOptions options given none rest
    | .plain text =>
      match pending with
      | some (name, none) => readOptions options given (some (name, some text)) rest
      | _ => .error .unknownArgument

/-- The output directory of the command line, or that of the environment, which must not be
empty. -/
def outDir (env : Environment) (given : Given) : Except Refusal (Option Path) :=
  match given.lookup .outDir, env "DFAVIZ_OUT_DIR" with
  | some dir, _ => .ok (some (Path.ofText dir))
  | none, none => .ok none
  | none, some dir => if dir = [] then .error .invalidValue else .ok (some ⟨dir⟩)

def format (env : Environment) (given : Given) : Except Refusal OutputFormat :=
  let chosen := match given.lookup .format, env "DFAVIZ_FORMAT" with
    | some name, _ => some (some name)
    | none, some bytes => some (Utf8.decode? bytes)
    | none, none => none
  match chosen with
  | none => .ok .mmd
  | some name =>
    match name.bind OutputFormat.ofText? with
    | some f => .ok f
    | none => .error .invalidValue

def inputOf (given : Given) : String := (given.lookup .input).getD "-"

def command (env : Environment) (verb : Verb) (given : Given) : Except Refusal Command :=
  match verb with
  | .compile => .ok (.compile (inputOf given))
  | .minimize => do
    let dir ← outDir env given
    let f ← format env given
    pure (.minimize
      { input := inputOf given
        serviceUrl := given.lookup .serviceUrl
        outDir := dir
        format := f })

/-- Names after `help` say what help is wanted for; only the first can have one. -/
def readHelp : List String → Refusal
  | [] => .help
  | [name] => if isSubcommand name then .help else .invalidSubcommand
  | _ => .invalidSubcommand

def parse (env : Environment) : List String → Except Refusal Command
  | [] => .error .missingSubcommand
  | word :: rest =>
    match classify [] word with
    | .help => .error .help
    | .helpWithValue => .error .unneededValue
    | .escape => match rest with
      | [] => .error .missingSubcommand
      | next :: _ => .error (if isSubcommand next then .unknownArgument else .invalidSubcommand)
    | .plain name =>
      if name = helpName then .error (readHelp rest)
      else match Verb.ofName? name with
        | none => .error .invalidSubcommand
        | some verb => do
          let given ← readOptions verb.options [] none rest
          command env verb given
    | _ => .error .unknownArgument

end AutomatonChart.Arguments
