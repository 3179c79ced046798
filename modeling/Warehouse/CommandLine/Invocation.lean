/-!
What the arguments of a command line ask for. Options that concern every command stand before its name;
the options of a command may stand anywhere behind it, up to a lone `--`, behind which every argument is
an operand. No option is given twice, a path is never empty, and the first thing wrong with the
arguments, or the first wish for help, decides.
-/

namespace Warehouse.CommandLine

/-- What a command is asked to do. -/
inductive Request where
  | markdown (dialect : String) (modules : List String) (separate : Bool)
      (vocabulary : Option String)
  | ddl (dialect : String) (modules : List String) (schema vocabulary : Option String)
  | dialects
  deriving DecidableEq, Repr

/-- What a command line asks for. -/
inductive Invocation where
  | request (r : Request)
  | help
  | version
  deriving DecidableEq, Repr

/-- Why a command line is not understood. -/
inductive Misuse where
  | missing
  | unexpected (argument : String)
  | repeated (option : String)
  | valueMissing (option : String)
  | pathEmpty
  deriving DecidableEq, Repr

/-- An argument by its form. -/
inductive Argument where
  | operand (text : String)
  | option (name : String) (value : Option String)
  | letters (flags : List Char)
  | separator
  deriving DecidableEq, Repr

/-- An option without its dashes: its name, and its value behind an equals sign. -/
def longOption (cs : List Char) : Argument :=
  let name := String.ofList (cs.takeWhile (· != '='))
  match cs.dropWhile (· != '=') with
  | [] => .option name none
  | _ :: value => .option name (some (String.ofList value))

/-- An argument by its form. A single dash is an operand. -/
def Argument.ofString (s : String) : Argument :=
  match s.toList with
  | ['-', '-'] => .separator
  | '-' :: '-' :: rest => longOption rest
  | '-' :: c :: rest => .letters (c :: rest)
  | _ => .operand s

/-- What an option takes. -/
inductive OptionKind where
  | flag
  | text
  | path
  deriving DecidableEq, Repr

/-- What has been read of a command's arguments. -/
structure Given where
  options : List (String × String) := []
  operands : List String := []
  deriving DecidableEq, Repr

/-- Whether a flag is given. -/
def Given.flag (g : Given) (name : String) : Bool := (g.options.lookup name).isSome

/-- The value of an option. -/
def Given.value? (g : Given) (name : String) : Option String := g.options.lookup name

/-- Reading arguments ends in what was read, or in a wish for help. -/
inductive Reading where
  | given (g : Given)
  | help
  deriving DecidableEq, Repr

/-- The arguments with one more option. -/
def Given.addOption (g : Given) (kind : OptionKind) (name value : String) : Except Misuse Given :=
  if g.flag name then .error (.repeated name)
  else if kind = .path && value = "" then .error .pathEmpty
  else .ok { g with options := (name, value) :: g.options }

/-- The arguments with one more operand. The first names a dialect, the others are paths. -/
def Given.addOperand (g : Given) (operand : String) : Except Misuse Given :=
  if operand = "" && !g.operands.isEmpty then .error .pathEmpty
  else .ok { g with operands := g.operands ++ [operand] }

/-- The value that an option takes from the arguments behind it, and what is left of these. -/
def nextValue (name : String) : List String → Except Misuse (String × List String)
  | [] => .error (.valueMissing name)
  | next :: rest =>
    match Argument.ofString next with
    | .operand value => .ok (value, rest)
    | _ => .error (.valueMissing name)

/-- The value of an option, from its own argument or from those behind it, and what is left of these. A
flag has the empty value. -/
def takeValue (kind : OptionKind) (name : String) (value : Option String) (rest : List String) :
    Except Misuse (String × List String) :=
  match kind, value with
  | .flag, none => .ok ("", rest)
  | .flag, some value => .error (.unexpected value)
  | _, some value => .ok (value, rest)
  | _, none => nextValue name rest

/-- An option takes at most one of the arguments behind it. -/
theorem length_nextValue {name value : String} {rest left : List String}
    (h : nextValue name rest = .ok (value, left)) : left.length ≤ rest.length := by
  unfold nextValue at h
  split at h
  · cases h
  · split at h <;> cases h
    exact Nat.le_succ _

/-- What is left behind an option is no longer than what stood there. -/
theorem length_takeValue {kind : OptionKind} {name v : String} {value : Option String}
    {rest left : List String} (h : takeValue kind name value rest = .ok (v, left)) :
    left.length ≤ rest.length := by
  unfold takeValue at h
  split at h
  · cases h
    exact Nat.le_refl _
  · cases h
  · cases h
    exact Nat.le_refl _
  · exact length_nextValue h

/-- Reads the arguments of a command with these options. -/
def readArguments (options : List (String × OptionKind)) (hasOperands : Bool) (g : Given) :
    List String → Except Misuse Reading
  | [] => .ok (.given g)
  | a :: rest =>
    match Argument.ofString a with
    | .separator =>
      if hasOperands then (rest.foldlM Given.addOperand g).map .given
      else
        match rest with
        | [] => .ok (.given g)
        | next :: _ => .error (.unexpected next)
    | .letters flags => if flags.head? = some 'h' then .ok .help else .error (.unexpected a)
    | .operand text =>
      if hasOperands then
        match g.addOperand text with
        | .ok g => readArguments options hasOperands g rest
        | .error e => .error e
      else .error (.unexpected text)
    | .option "help" none => .ok .help
    | .option name value =>
      match options.lookup name with
      | none => .error (.unexpected a)
      | some kind =>
        match _h : takeValue kind name value rest with
        | .ok (value, left) =>
          match g.addOption kind name value with
          | .ok g => readArguments options hasOperands g left
          | .error e => .error e
        | .error e => .error e
termination_by args => args.length
decreasing_by
  · simp
  · have := length_takeValue _h
    simp only [List.length_cons]
    omega

/-- The options of a command, and whether it has operands. -/
def commandForm? : String → Option (List (String × OptionKind) × Bool)
  | "markdown" => some ([("ns", .flag), ("vocabulary", .path)], true)
  | "ddl" => some ([("schema", .text), ("vocabulary", .path)], true)
  | "dialects" => some ([], false)
  | _ => none

/-- The request of a command whose arguments have been read. -/
def requestOf (command : String) (g : Given) : Except Misuse Invocation :=
  match command, g.operands with
  | "dialects", _ => .ok (.request .dialects)
  | "markdown", dialect :: m :: ms =>
    .ok (.request (.markdown dialect (m :: ms) (g.flag "ns") (g.value? "vocabulary")))
  | "ddl", dialect :: m :: ms =>
    .ok (.request (.ddl dialect (m :: ms) (g.value? "schema") (g.value? "vocabulary")))
  | _, _ => .error .missing

/-- What the command `help` asks for. It may name one command. -/
def helpOn : List String → Except Misuse Invocation
  | [] => .ok .help
  | [command] =>
    if command = "help" || (commandForm? command).isSome then .ok .help
    else .error (.unexpected command)
  | _ :: next :: _ => .error (.unexpected next)

/-- What a command with these arguments asks for. -/
def commandOf (command : String) (args : List String) : Except Misuse Invocation :=
  if command = "help" then helpOn args
  else
    match commandForm? command with
    | none => .error (.unexpected command)
    | some (options, hasOperands) =>
      match readArguments options hasOperands {} args with
      | .ok (.given g) => requestOf command g
      | .ok .help => .ok .help
      | .error e => .error e

/-- The options that stand before a command. They only say how to log. -/
def globalOptions : List (String × OptionKind) := [("log-format", .text), ("verbosity", .text)]

/-- Reads the arguments up to the name of the command, given the options read before. -/
def readGlobal (g : Given) : List String → Except Misuse Invocation
  | [] => .error .missing
  | a :: rest =>
    match Argument.ofString a with
    | .separator => .error .missing
    | .letters ('h' :: _) => .ok .help
    | .letters ('V' :: _) => .ok .version
    | .letters _ => .error (.unexpected a)
    | .operand command => commandOf command rest
    | .option "help" none => .ok .help
    | .option "version" none => .ok .version
    | .option name value =>
      match globalOptions.lookup name with
      | none => .error (.unexpected a)
      | some kind =>
        match _h : takeValue kind name value rest with
        | .ok (value, left) =>
          match g.addOption kind name value with
          | .ok g => readGlobal g left
          | .error e => .error e
        | .error e => .error e
termination_by args => args.length
decreasing_by
  have := length_takeValue _h
  simp only [List.length_cons]
  omega

/-- What the arguments ask for. -/
def Invocation.ofArguments (args : List String) : Except Misuse Invocation := readGlobal {} args

end Warehouse.CommandLine
