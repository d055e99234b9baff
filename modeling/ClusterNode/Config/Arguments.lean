import ClusterNode.Config.Basic

/-!
Arguments: the words of a command line, and the values of an environment for what they leave open.
An option is a word that begins with two dashes; its value is the rest of the word after an equals
sign, or else the next word. A value is looked at when the next option comes or the words end, so an
unknown word right after a value is told first.
-/

set_option autoImplicit false

namespace ClusterNode

inductive Arguments.Stop where
  | usage (e : UsageError)
  /-- An explanation of the options is asked for. -/
  | help
  /-- The version of the program is asked for. -/
  | version
deriving DecidableEq, Repr

/-- The arguments that have been read: the configuration so far, the settings that were given, and
an option that has not been looked at yet, with its value if that has come. -/
structure Arguments where
  config : Config
  given : List Setting
  unsettled : Option (Setting × Option String)
deriving DecidableEq, Repr

namespace Arguments

def empty : Arguments := ⟨.default, [], none⟩

inductive Word where
  | long (name : String) (value : Option String)
  | short (letter : Char)
  | divider
  | plain
deriving DecidableEq, Repr

def cutAtEquals (text : List Char) : String × Option String :=
  (String.ofList (text.takeWhile (· ≠ '=')),
    match text.dropWhile (· ≠ '=') with
    | _ :: value => some (String.ofList value)
    | [] => none)

def Word.ofString (word : String) : Word :=
  match word.toList with
  | ['-', '-'] => .divider
  | '-' :: '-' :: text =>
    let (name, value) := cutAtEquals text
    .long name value
  | '-' :: letter :: _ => .short letter
  | _ => .plain

def give (a : Arguments) (s : Setting) (value : String) : Except Stop Arguments :=
  if s ∈ a.given then .error (.usage .repeatedOption)
  else
    match a.config.set s value with
    | .ok config => .ok ⟨config, s :: a.given, none⟩
    | .error e => .error (.usage e)

def settle (a : Arguments) : Except Stop Arguments :=
  match a.unsettled with
  | none => .ok a
  | some (_, none) => .error (.usage .notAWord)
  | some (s, some value) => a.give s value

/-- Stops for a reason of its own, unless the option before gives another. -/
def stop (a : Arguments) (reason : Stop) : Except Stop Arguments :=
  a.settle.bind fun _ => .error reason

def ask (a : Arguments) (reason : Stop) : Option String → Except Stop Arguments
  | none => a.stop reason
  | some _ => .error (.usage .unwantedValue)

def option (a : Arguments) (name : String) (value : Option String) : Except Stop Arguments :=
  match Setting.ofName? name with
  | some s =>
    a.settle.bind fun a =>
      match value with
      | some value => a.give s value
      | none => .ok { a with unsettled := some (s, none) }
  | none =>
    if name = "help" then a.ask .help value
    else if name = "version" then a.ask .version value
    else .error (.usage .unknownArgument)

def word (a : Arguments) (text : String) : Except Stop Arguments :=
  match Word.ofString text with
  | .long name value => a.option name value
  | .short 'h' => a.stop .help
  | .short 'V' => a.stop .version
  | .short _ | .divider => .error (.usage .unknownArgument)
  | .plain =>
    match a.unsettled with
    | some (s, none) => .ok { a with unsettled := some (s, some text) }
    -- Where no value is missing, a plain word has no meaning.
    | _ => .error (.usage .unknownArgument)

/-- Reads the words of a command line. Two dashes alone end the options, and nothing may follow. -/
def words (a : Arguments) : List String → Except Stop Arguments
  | [] => a.settle
  | text :: rest =>
    if Word.ofString text = .divider then
      if rest.isEmpty then a.settle else .error (.usage .unknownArgument)
    else (a.word text).bind fun a => a.words rest

abbrev Environment := String → Option String

/-- Gives a setting the value of its variable, unless it has been given one. -/
def consult (env : Environment) (a : Arguments) (s : Setting) : Except Stop Arguments :=
  if s ∈ a.given then .ok a
  else
    match env s.variableName with
    | some value => a.give s value
    | none => .ok a

def read (words : List String) (env : Environment) : Except Stop Config := do
  let a ← empty.words words
  let a ← Setting.all.foldlM (consult env) a
  return a.config

end Arguments

end ClusterNode
