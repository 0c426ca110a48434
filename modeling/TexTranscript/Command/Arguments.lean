import TexTranscript.Sink
import TexTranscript.FilePath

/-!
# Command-line arguments

The program has one command, `parse`, with options that take a value (`--tool X` or
`--tool=X`), flags that take none, and the path of a transcript; a lone hyphen is the
standard input. After `--` nothing is an option any more. Each option, each flag and
the path may be given once, and names are not abbreviated.

Arguments are looked at from left to right, and the first thing that is wrong, or the
first wish for help, decides.

## Main definitions

* `Arguments` – what a `parse` command was told.
* `Request` – what the program was asked to do.
* `Request.ofArguments` – reads the command line.
* `Arguments.master` – the master document, given or guessed.
-/

namespace TexTranscript

/-- **What a `parse` command was told**, where it was told anything. -/
structure Arguments where
  tool? : Option Tool := none
  master? : Option Text := none
  verbose : Bool := false
  watch : Bool := false
  format? : Option Format := none
  marks? : Option Text := none
  config? : Option Text := none
  log? : Option Text := none
deriving Repr, DecidableEq, Inhabited

/-- What help is about. -/
inductive Topic where
  | program
  | parse
  | help
deriving Repr, DecidableEq, Inhabited

/-- **What the program was asked to do.** -/
inductive Request where
  | parse (args : Arguments)
  | help (topic : Topic)
  /-- The command line makes no sense. -/
  | misuse
deriving Repr, DecidableEq, Inhabited

namespace Arguments

/-- The standard input, as a path. -/
def standardInput : Text := ['-']

/-- The tool whose transcript it is. -/
def tool (a : Arguments) : Tool := a.tool?.getD .latexmk

/-- The path of the transcript. -/
def log (a : Arguments) : Text := a.log?.getD standardInput

/-- The transcript is read from the standard input. -/
def fromStandardInput (a : Arguments) : Bool := FilePath.same a.log standardInput

/-- **The master document.** If it is not given, the transcript of a file bears its
name; where there is no name, TeX has called it `texput`. -/
def master (a : Arguments) : Text :=
  match a.master? with
  | some master => master
  | none =>
    match FilePath.stem? a.log with
    | some stem => if a.fromStandardInput then "texput.tex".toList else stem ++ ".tex".toList
    | none => "texput.tex".toList

/-- Fills a field that is still empty. -/
def once {α : Type} (old : Option α) (new : Option α) : Option (Option α) :=
  match old, new with
  | none, some a => some (some a)
  | _, _ => none

/-- A path, which is not empty. -/
def path? (t : Text) : Option Text := if t = [] then none else some t

/-- The arguments with one more option; `none` when there is no such option, when it
cannot take the value, or when it was given before. -/
def setOption (a : Arguments) (name value : Text) : Option Arguments :=
  match String.ofList name with
  | "tool" => do return { a with tool? := ← once a.tool? (Tool.ofName? (String.ofList value)) }
  | "master" => do return { a with master? := ← once a.master? (some value) }
  | "format" => do
    return { a with format? := ← once a.format? (Format.ofName? (String.ofList value)) }
  | "marks" => do return { a with marks? := ← once a.marks? (path? value) }
  | "config" => do return { a with config? := ← once a.config? (path? value) }
  | _ => none

/-- The arguments with one more flag. -/
def setFlag (a : Arguments) (name : Text) : Option Arguments :=
  match String.ofList name with
  | "verbose" => if a.verbose then none else some { a with verbose := true }
  | "watch" => if a.watch then none else some { a with watch := true }
  | _ => none

/-- The arguments with the path of the transcript. -/
def setLog (a : Arguments) (path : Text) : Option Arguments := do
  return { a with log? := ← once a.log? (path? path) }

/-- Reads what can only be paths. -/
def readPaths (a : Arguments) : List Text → Request
  | [] => .parse a
  | path :: rest =>
    match a.setLog path with
    | some a => readPaths a rest
    | none => .misuse

/-- What a single argument looks like. -/
inductive Shape where
  /-- A path, or the value of the option before. -/
  | value
  /-- `--name`. -/
  | named (name : Text)
  /-- `--name=value`. -/
  | joined (name value : Text)
  /-- `--`. -/
  | paths
  | help
  | unknown
deriving Repr, DecidableEq

/-- What an argument looks like. -/
def shape : Text → Shape
  | ['-', '-'] => .paths
  | '-' :: '-' :: name =>
    match name.dropWhile (· ≠ '=') with
    | _ :: value => .joined (name.takeWhile (· ≠ '=')) value
    | [] => if name = "help".toList then .help else .named name
  | '-' :: 'h' :: _ => .help
  | '-' :: _ :: _ => .unknown
  | _ => .value

/-- Reads what follows `parse`. The name is that of an option which still has to get its
value. -/
def read (a : Arguments) : Option Text → List Text → Request
  | none, [] => .parse a
  | some _, [] => .misuse
  | some name, arg :: rest =>
    match shape arg, a.setOption name arg with
    | .value, some a => read a none rest
    | _, _ => .misuse
  | none, arg :: rest =>
    match shape arg with
    | .value =>
      match a.setLog arg with
      | some a => read a none rest
      | none => .misuse
    | .named name =>
      match a.setFlag name with
      | some a => read a none rest
      | none => read a (some name) rest
    | .joined name value =>
      match a.setOption name value with
      | some a => read a none rest
      | none => .misuse
    | .paths => a.readPaths rest
    | .help => .help .parse
    | .unknown => .misuse

end Arguments

/-- **Reads the command line.** -/
def Request.ofArguments : List Text → Request
  | [] => .misuse
  | command :: rest =>
    match String.ofList command, rest with
    | "parse", _ => Arguments.read {} none rest
    | "--help", _ => .help .program
    | "help", [] => .help .program
    | "help", [topic] =>
      match String.ofList topic with
      | "parse" => .help .parse
      | "help" => .help .help
      | _ => .misuse
    | _, _ =>
      match command with
      | '-' :: 'h' :: _ => .help .program
      | _ => .misuse

end TexTranscript
