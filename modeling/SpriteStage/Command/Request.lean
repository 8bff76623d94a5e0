import SpriteStage.Command.Option
import SpriteStage.Decimal.Reading
/-!
Requests: what the arguments of the program ask for. The first argument that is no option names the
command; if it names none, it is the file of a run.
-/

namespace SpriteStage.Command

structure RunRequest where
  file : String := ""
  check : Bool := false
  dump : Bool := false
  listSprites : Bool := false
  limit : Nat := 60000
  realtime : Bool := false
  quiet : Bool := false

structure TrialRequest where
  path : String := ""
  categories : List String := []
  listCategories : Bool := false

inductive Task where
  | run (request : RunRequest)
  | trials (request : TrialRequest)

structure Request where
  task : Task
  plain : Bool

structure Draft (α : Type) where
  details : α
  plain : Bool := false
  operand : Option String := none
  limited : Bool := false

namespace Draft

def flag {α : Type} (read : α → Bool) (write : α → α) : Effect (Draft α) :=
  .flag fun d => if read d.details then none else some { d with details := write d.details }

def noColor {α : Type} : CommandOption (Draft α) :=
  ⟨"no-color", none, .flag fun d => if d.plain then none else some { d with plain := true }⟩

def help {σ : Type} : CommandOption σ := ⟨"help", some 'h', .stop .help⟩

def takeOperand {α : Type} (argument : String) (d : Draft α) : Except Stop (Draft α) :=
  match d.operand with
  | none => .ok { d with operand := some argument }
  | some _ => .error (.misuse (.unexpected argument))

def operandOr {α : Type} (d : Draft α) (name : String) : Except Stop String :=
  match d.operand with
  | some argument => .ok argument
  | none => .error (.misuse (.missingOperand name))

end Draft

def natural? (value : String) : Option Nat :=
  let digits := match value.toList with
    | '+' :: cs => cs
    | cs => cs
  let n := Decimal.digitsValue 10 digits
  if !digits.isEmpty && digits.all Char.isDigit && n < UInt64.size then some n else none

namespace RunRequest

def setLimit (value : String) (d : Draft RunRequest) : Except Misuse (Draft RunRequest) :=
  if d.limited then .error (.repeated "limit-ms")
  else match natural? value with
    | some n => .ok { d with details := { d.details with limit := n }, limited := true }
    | none => .error (.badNumber "limit-ms" value)

def grammar : Grammar (Draft RunRequest) where
  options :=
    [Draft.noColor, Draft.help,
     ⟨"check", none, Draft.flag check fun r => { r with check := true }⟩,
     ⟨"dump", none, Draft.flag dump fun r => { r with dump := true }⟩,
     ⟨"list-sprites", none, Draft.flag listSprites fun r => { r with listSprites := true }⟩,
     ⟨"limit-ms", none, .valued setLimit⟩,
     ⟨"realtime", none, Draft.flag realtime fun r => { r with realtime := true }⟩,
     ⟨"quiet", some 'q', Draft.flag quiet fun r => { r with quiet := true }⟩]
  operand := Draft.takeOperand

def read (plain : Bool) (arguments : List String) : Except Stop Request := do
  let d ← grammar.read arguments ⟨⟨{}, false, none, false⟩, none⟩
  let file ← d.operandOr "FILE"
  pure ⟨.run { d.details with file := file }, plain || d.plain⟩

end RunRequest

namespace TrialRequest

def addCategory (value : String) (d : Draft TrialRequest) : Except Misuse (Draft TrialRequest) :=
  .ok { d with details := { d.details with categories := d.details.categories ++ [value] } }

def grammar : Grammar (Draft TrialRequest) where
  options :=
    [Draft.noColor, Draft.help,
     ⟨"category", some 'c', .valued addCategory⟩,
     ⟨"list-categories", none,
      Draft.flag listCategories fun r => { r with listCategories := true }⟩]
  operand := Draft.takeOperand

def read (plain : Bool) (arguments : List String) : Except Stop Request := do
  let d ← grammar.read arguments ⟨⟨{}, false, none, false⟩, none⟩
  let path ← d.operandOr "PATH"
  pure ⟨.trials { d.details with path := path }, plain || d.plain⟩

end TrialRequest

def commandNames : List String := ["run", "test", "help"]

def readHelp : List String → Stop
  | [] => .help
  | [name] => if commandNames.contains name then .help else .misuse (.unknownCommand name)
  | name :: other :: _ =>
    .misuse (.unknownCommand (if commandNames.contains name then other else name))

def readCommand (plain : Bool) (name : String) (arguments : List String) : Except Stop Request :=
  if name = "run" then RunRequest.read plain arguments
  else if name = "test" then TrialRequest.read plain arguments
  else if name = "help" then .error (readHelp arguments)
  else .error (.misuse (.unknownCommand name))

namespace Request

def grammar : Grammar (Draft Unit) where
  options := [Draft.noColor, Draft.help, ⟨"version", some 'V', .stop .version⟩]
  operand := fun argument _ => .error (.misuse (.unexpected argument))

def readFrom (d : Draft Unit) : List String → Except Stop Request
  | [] => .error (.misuse .missingCommand)
  | argument :: rest =>
    match Argument.of argument with
    | .plain => readCommand d.plain argument rest
    | _ => do readFrom (← grammar.step argument d).draft rest

def isWord (argument : String) : Bool := argument.toList.head? ≠ some '-'

/-- Arguments that name a command: the command to run a file may be left out. -/
def withCommand (arguments : List String) : List String :=
  let options := arguments.takeWhile fun a => !isWord a
  match arguments.dropWhile fun a => !isWord a with
  | [] => options
  | word :: rest =>
    if commandNames.contains word then options ++ word :: rest else options ++ "run" :: word :: rest

def read (arguments : List String) : Except Stop Request :=
  readFrom ⟨(), false, none, false⟩ (withCommand arguments)

end Request

end SpriteStage.Command
