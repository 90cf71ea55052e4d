namespace TypeSchema.Command

inductive Action where
  | classify (expressions : List String) (openApi : Bool)
  | definitions (expressions : List String) (output : Option String)
  deriving DecidableEq, Repr

structure Invocation where
  registry : Option String
  verbosity : Nat
  action : Action
  deriving DecidableEq, Repr

/-- Why there is nothing to run. -/
inductive Refusal where
  | usage
  | help
  | version
  deriving DecidableEq, Repr

inductive CommandName where
  | classify
  | definitions
  deriving DecidableEq, Repr

/-- A command-line word by its form. -/
inductive Word where
  | escape
  | long (name : List Char) (value : Option String)
  | short (letters : List Char)
  | plain
  deriving DecidableEq, Repr

def Word.ofString (s : String) : Word :=
  match s.toList with
  | ['-', '-'] => .escape
  | '-' :: '-' :: cs =>
    if '=' ∈ cs then
      .long (cs.takeWhile (· ≠ '=')) (some (String.ofList ((cs.dropWhile (· ≠ '=')).drop 1)))
    else .long cs none
  | '-' :: c :: cs => .short (c :: cs)
  | _ => .plain

/-- What the words before the command, or those behind it, have set. -/
structure Level where
  registry : Option String
  verbosity : Nat
  openApi : Bool
  output : Option String
  expressions : List String

def Level.none : Level := ⟨Option.none, 0, false, Option.none, []⟩

/-- The value of an option, behind its equals sign or in the next word. It is not empty, and a
word of an option's form is no value. -/
def optionValue (value : Option String) (rest : List String) :
    Except Refusal (String × List String) :=
  match value, rest with
  | some v, rest => if v.isEmpty then .error .usage else .ok (v, rest)
  | none, v :: rest =>
    if v.isEmpty || Word.ofString v ≠ .plain then .error .usage else .ok (v, rest)
  | none, [] => .error .usage

/-- Letters behind one dash: only `v` may be repeated. -/
def shortOptions (command : Option CommandName) : Level → List Char → Except Refusal Level
  | l, [] => .ok l
  | l, c :: cs =>
    if c = 'v' then shortOptions command { l with verbosity := l.verbosity + 1 } cs
    else if c = 'h' then .error .help
    else if c = 'V' && command.isNone then .error .version
    else .error .usage

/-- An option by name, with the words behind it. None but `verbose` may be given twice. -/
def longOption (command : Option CommandName) (l : Level) (name : String) (value : Option String)
    (rest : List String) : Except Refusal (Level × List String) :=
  match name with
  | "registry" => do
    let (v, rest) ← optionValue value rest
    if l.registry.isSome then .error .usage else return ({ l with registry := some v }, rest)
  | "verbose" =>
    if value.isSome then .error .usage
    else .ok ({ l with verbosity := l.verbosity + 1 }, rest)
  | "help" => if value.isSome then .error .usage else .error .help
  | "version" =>
    if value.isSome || command.isSome then .error .usage else .error .version
  | "openapi" =>
    if value.isSome || l.openApi || command ≠ some .classify then .error .usage
    else .ok ({ l with openApi := true }, rest)
  | "output" =>
    if command ≠ some .definitions then .error .usage
    else do
      let (v, rest) ← optionValue value rest
      if l.output.isSome then .error .usage else return ({ l with output := some v }, rest)
  | _ => .error .usage

def commandName? (s : String) : Option CommandName :=
  match s with
  | "classify" => some .classify
  | "definitions" => some .definitions
  | _ => none

/-- The words of one level: before the command, up to its name, or behind it, to the end. Each
turn uses up a word. -/
def readLevel (command : Option CommandName) :
    Nat → Level → List String → Except Refusal (Level × Option (CommandName × List String))
  | 0, l, _ => .ok (l, none)
  | _ + 1, l, [] => .ok (l, none)
  | turns + 1, l, s :: rest =>
    match Word.ofString s with
    | .escape =>
      if command.isNone && !rest.isEmpty then .error .usage
      else .ok ({ l with expressions := l.expressions ++ rest }, none)
    | .long name value => do
      let (l, rest) ← longOption command l (String.ofList name) value rest
      readLevel command turns l rest
    | .short letters => do
      let l ← shortOptions command l letters
      readLevel command turns l rest
    | .plain =>
      if command.isSome then
        readLevel command turns { l with expressions := l.expressions ++ [s] } rest
      else
        match commandName? s with
        | some name => .ok (l, some (name, rest))
        | none => if s = "help" then .error .help else .error .usage

/-- The registry of one level: the option, or else the environment, which may not be empty. -/
def levelRegistry (environment : Option String) (l : Level) : Except Refusal (Option String) :=
  match l.registry, environment with
  | some path, _ => .ok (some path)
  | none, some "" => .error .usage
  | none, env => .ok env

/-- An option behind the command counts before one in front of it, and either before the
environment. -/
def chosenRegistry (environment : Option String) (outer inner : Level) :
    Except Refusal (Option String) := do
  let before ← levelRegistry environment outer
  let behind ← levelRegistry environment inner
  return if inner.registry.isSome then behind else before

def actionOf (name : CommandName) (l : Level) : Action :=
  match name with
  | .classify => .classify l.expressions l.openApi
  | .definitions => .definitions l.expressions l.output

/-- A command needs an expression. -/
def Invocation.ofWords (environment : Option String) (words : List String) :
    Except Refusal Invocation := do
  match ← readLevel none words.length .none words with
  | (_, none) => .error .usage
  | (outer, some (name, words)) =>
    let (inner, _) ← readLevel (some name) words.length .none words
    if inner.expressions.isEmpty then .error .usage
    let registry ← chosenRegistry environment outer inner
    return ⟨registry, outer.verbosity + inner.verbosity, actionOf name inner⟩

end TypeSchema.Command
