/-
Reading the arguments of a command line.

An argument is an option, if it begins with a hyphen and is longer than that, or else a word.  A
bare pair of hyphens makes words of all arguments behind it.  Arguments are read from left to right
and change the settings one after the other, so that of two faults the first one counts.
-/
import NetDraft.Text.Join

namespace NetDraft

/-- Why there is nothing to run. -/
inductive Stop where
  | rejected
  /-- The version is asked for. -/
  | version
  /-- Instructions are asked for. -/
  | help
deriving DecidableEq, Repr

/-- An argument that is an option. -/
inductive OptionText where
  | long (name : List Char) (value : Option (List Char))
  /-- Several letters; behind the letter of an option that takes a value stands the value. -/
  | letters (letters : List Char)

/-- One argument. -/
inductive Argument where
  | word (text : String)
  /-- All arguments behind it are words. -/
  | endOfOptions
  | option (text : OptionText)

/-- The name and the value of a long option. -/
def OptionText.ofLong (cs : List Char) : OptionText :=
  match cs.dropWhile (· ≠ '=') with
  | _ :: value => .long (cs.takeWhile (· ≠ '=')) (some value)
  | [] => .long cs none

/-- The argument that a text is. -/
def Argument.ofText (text : String) : Argument :=
  match text.toList with
  | ['-', '-'] => .endOfOptions
  | '-' :: '-' :: rest => .option (.ofLong rest)
  | '-' :: first :: rest => .option (.letters (first :: rest))
  | _ => .word text

/-! ### Options and their effects -/

/-- An option that waits for its value. -/
structure Pending (σ : Type) where
  /-- Whether the value may be a negative number. -/
  mayBeNegative : Bool
  set : String → σ → Except Stop σ

/-- Whether an argument can be the value of the option in front of it. -/
def Pending.admits {σ : Type} (p : Pending σ) (text : String) : Bool :=
  match Argument.ofText text with
  | .word _ => true
  | .option (.letters letters) => p.mayBeNegative && letters.all Char.isDigit
  | _ => false

/-- What an option does to the settings. -/
inductive Effect (σ : Type) where
  | flag (set : σ → Except Stop σ)
  | value (pending : Pending σ)

/-- The names of an option and what it does. -/
structure Switch (σ : Type) where
  letter : Option Char
  name : String
  effect : Effect σ

/-- The options that are known, and what words do. -/
structure Grammar (σ : Type) where
  switches : List (Switch σ)
  /-- What a word does to the settings; if nothing, the first word ends the reading. -/
  onWord : Option (String → σ → Except Stop σ)

namespace Grammar

variable {σ : Type} (g : Grammar σ)

/-- The effect of the option with a long name. -/
def named? (name : List Char) : Option (Effect σ) :=
  (g.switches.find? fun s => s.name.toList == name).map (·.effect)

/-- The effect of the option with a letter. -/
def lettered? (letter : Char) : Option (Effect σ) :=
  (g.switches.find? fun s => s.letter == some letter).map (·.effect)

/-- Reads an option by its long name.  A value that does not stand behind it is still to come. -/
def readLong (name : List Char) (value : Option (List Char)) (s : σ) :
    Except Stop (σ × Option (Pending σ)) :=
  match g.named? name, value with
  | some (.flag set), none => do return (← set s, none)
  | some (.value p), some value => do return (← p.set (String.ofList value) s, none)
  | some (.value p), none => .ok (s, some p)
  | _, _ => .error .rejected

/-- Reads options by their letters.  An equals sign in front of a value does not belong to it. -/
def readLetters : List Char → σ → Except Stop (σ × Option (Pending σ))
  | [], s => .ok (s, none)
  | letter :: rest, s =>
    match g.lettered? letter, rest with
    | some (.flag set), _ => do readLetters rest (← set s)
    | some (.value p), [] => .ok (s, some p)
    | some (.value p), '=' :: value => do return (← p.set (String.ofList value) s, none)
    | some (.value p), value => do return (← p.set (String.ofList value) s, none)
    | none, _ => .error .rejected

/-- Reads an option. -/
def readOption (s : σ) : OptionText → Except Stop (σ × Option (Pending σ))
  | .long name value => g.readLong name value s
  | .letters letters => g.readLetters letters s

/-- Reads arguments, up to the first word if words do nothing. -/
def read : List String → σ → Except Stop (σ × List String)
  | [], s => .ok (s, [])
  | argument :: rest, s =>
    match Argument.ofText argument, g.onWord with
    | .word _, none => .ok (s, argument :: rest)
    | .word text, some set => do read rest (← set text s)
    | .endOfOptions, none => .error .rejected
    | .endOfOptions, some set => do return (← rest.foldlM (fun s text => set text s) s, [])
    | .option text, _ => do
      let (s, pending) ← g.readOption s text
      match pending, rest with
      | none, rest => read rest s
      | some p, value :: rest =>
        if p.admits value then read rest (← p.set value s) else .error .rejected
      | some _, [] => .error .rejected

end Grammar

/-! ### Settings -/

namespace Stop

/-- A setting that may be made once. -/
def once {α : Type} (before : Option α) (value : α) : Except Stop (Option α) :=
  if before.isSome then .error .rejected else .ok (some value)

/-- A setting that has to be made. -/
def required {α : Type} : Option α → Except Stop α
  | some value => .ok value
  | none => .error .rejected

/-- The path that a text is, which may not be empty. -/
def path (text : String) : Except Stop String :=
  if text.isEmpty then .error .rejected else .ok text

end Stop

/-- The option that asks for instructions. -/
def helpSwitch {σ : Type} : Switch σ := ⟨some 'h', "help", .flag fun _ => .error .help⟩

end NetDraft
