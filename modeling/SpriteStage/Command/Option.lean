/-!
Options of a command line. A list of options describes what a command accepts; reading arguments goes
from left to right, and whatever ends the reading early does so at its place.
-/

namespace SpriteStage.Command

inductive Misuse where
  | missingCommand
  | unknownCommand (name : String)
  | unexpected (argument : String)
  | repeated (option : String)
  | missingValue (option : String)
  | badNumber (option value : String)
  | missingOperand (name : String)

def Misuse.message : Misuse → String
  | missingCommand => "a command is required"
  | unknownCommand name => s!"unrecognized subcommand '{name}'"
  | unexpected argument => s!"unexpected argument '{argument}' found"
  | repeated option => s!"the argument '--{option}' cannot be used multiple times"
  | missingValue option => s!"a value is required for '--{option}' but none was supplied"
  | badNumber option value => s!"invalid value '{value}' for '--{option}'"
  | missingOperand name => s!"the following required arguments were not provided: <{name}>"

inductive Stop where
  | help
  | version
  | misuse (misuse : Misuse)

inductive Effect (σ : Type) where
  | flag (set : σ → Option σ)
  | valued (set : String → σ → Except Misuse σ)
  | stop (reason : Stop)

structure CommandOption (σ : Type) where
  long : String
  short : Option Char := none
  effect : Effect σ

structure Grammar (σ : Type) where
  options : List (CommandOption σ)
  operand : String → σ → Except Stop σ

inductive Argument where
  | long (name : String) (value : Option String)
  | letters (letters : List Char)
  | plain

def Argument.of (argument : String) : Argument :=
  match argument.toList with
  | '-' :: '-' :: c :: cs =>
    let name := (c :: cs).takeWhile (· ≠ '=')
    match (c :: cs).dropWhile (· ≠ '=') with
    | _ :: value => .long (String.ofList name) (some (String.ofList value))
    | [] => .long (String.ofList name) none
  | ['-', '-'] => .long "" none
  | '-' :: c :: cs => .letters (c :: cs)
  | _ => .plain

structure Progress (σ : Type) where
  draft : σ
  waiting : Option (CommandOption σ) := none

namespace CommandOption

variable {σ : Type}

def give (o : CommandOption σ) (value : String) (draft : σ) : Except Stop (Progress σ) :=
  match o.effect with
  | .valued set => ((set value draft).mapError .misuse).map fun d => ⟨d, none⟩
  | _ => .error (.misuse (.unexpected value))

def take (o : CommandOption σ) (draft : σ) : Except Stop (Progress σ) :=
  match o.effect with
  | .flag set =>
    match set draft with
    | some d => .ok ⟨d, none⟩
    | none => .error (.misuse (.repeated o.long))
  | .valued _ => .ok ⟨draft, some o⟩
  | .stop reason => .error reason

def takesValue (o : CommandOption σ) : Bool :=
  match o.effect with
  | .valued _ => true
  | _ => false

end CommandOption

namespace Grammar

variable {σ : Type} (g : Grammar σ)

/-- Reads letters that share one dash. What follows the letter of an option with a value is that
value, an equals sign before it aside. -/
def letters : List Char → σ → Except Stop (Progress σ)
  | [], draft => .ok ⟨draft, none⟩
  | c :: cs, draft =>
    match g.options.find? fun o => o.short = some c with
    | none => .error (.misuse (.unexpected ("-" ++ String.singleton c)))
    | some o =>
      if o.takesValue && !cs.isEmpty then
        o.give (String.ofList (if cs.head? = some '=' then cs.drop 1 else cs)) draft
      else do
        let progress ← o.take draft
        if progress.waiting.isSome then pure progress else letters cs progress.draft

def step (argument : String) (draft : σ) : Except Stop (Progress σ) :=
  match Argument.of argument with
  | .plain => (g.operand argument draft).map fun d => ⟨d, none⟩
  | .letters cs => g.letters cs draft
  | .long name value =>
    match g.options.find? fun o => o.long = name, value with
    | none, _ => .error (.misuse (.unexpected argument))
    | some o, some v => o.give v draft
    | some o, none => o.take draft

def read : List String → Progress σ → Except Stop σ
  | [], ⟨draft, none⟩ => .ok draft
  | [], ⟨_, some o⟩ => .error (.misuse (.missingValue o.long))
  | argument :: rest, ⟨draft, some o⟩ =>
    match Argument.of argument with
    | .plain => do read rest (← o.give argument draft)
    | _ => .error (.misuse (.missingValue o.long))
  | argument :: rest, ⟨draft, none⟩ =>
    if argument = "--" then rest.foldlM (fun d a => g.operand a d) draft
    else do read rest (← g.step argument draft)

end Grammar

end SpriteStage.Command
