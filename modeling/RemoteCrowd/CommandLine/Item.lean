import RemoteCrowd.Text.Numeral

/-!
Command lines, item by item. An option has a long name behind two dashes, and may have a
short one behind a single dash. Its value is the rest of the argument, or the next argument
if that does not look like an option itself. Behind a lone double dash everything is an
operand. What is no item is misuse, and ends the command line.
-/

namespace RemoteCrowd.CommandLine

/-- An option that is known. -/
structure Switch where
  long : String
  short : Option Char := none
  /-- Whether a value belongs to it. -/
  valued : Bool := true
deriving DecidableEq, Inhabited

/-- One thing that is said on a command line. -/
inductive Item where
  | flag (long : String)
  | option (long value : String)
  | operand (text : String)
  | misuse
deriving DecidableEq, Inhabited

/-- Whether an argument is taken for an option. A lone dash is not. -/
def looksLikeSwitch (argument : String) : Bool :=
  match argument.toList with
  | '-' :: _ :: _ => true
  | _ => false

/-- An option whose value is the next argument. -/
def detachedValue (long : String) : List String → List Item × List String
  | [] => ([.misuse], [])
  | value :: rest =>
    if looksLikeSwitch value then ([.misuse], []) else ([.option long value], rest)

/-- An option by its long name, and the arguments behind it. -/
def longItem (known : List Switch) (text : List Char) (rest : List String) :
    List Item × List String :=
  let name := String.ofList (text.takeWhile (· ≠ '='))
  match known.find? fun switch => switch.long == name, text.dropWhile (· ≠ '=') with
  | none, _ => ([.misuse], [])
  | some switch, _ :: value =>
    if switch.valued then ([.option name (String.ofList value)], rest) else ([.misuse], [])
  | some switch, [] =>
    if switch.valued then detachedValue name rest else ([.flag name], rest)

/-- Options by their short names, and the arguments behind them. Flags may share one dash
with each other, and with a last option that has a value. -/
def shortItems (known : List Switch) : List Char → List String → List Item × List String
  | [], rest => ([], rest)
  | short :: more, rest =>
    match known.find? fun switch => switch.short == some short with
    | none => ([.misuse], [])
    | some switch =>
      if switch.valued then
        match more with
        | [] => detachedValue switch.long rest
        | '=' :: value => ([.option switch.long (String.ofList value)], rest)
        | value => ([.option switch.long (String.ofList value)], rest)
      else
        let later := shortItems known more rest
        (.flag switch.long :: later.1, later.2)

/-- What an argument says, together with a next one that belongs to it. -/
def itemsOf (known : List Switch) (argument : String) (rest : List String) :
    List Item × List String :=
  match argument.toList with
  | '-' :: '-' :: text => longItem known text rest
  | '-' :: short :: more => shortItems known (short :: more) rest
  | _ => ([.operand argument], rest)

private theorem length_detachedValue (long : String) (rest : List String) :
    (detachedValue long rest).2.length ≤ rest.length := by
  cases rest with
  | nil => simp [detachedValue]
  | cons value rest =>
    simp only [detachedValue]
    split <;> simp

private theorem length_shortItems (known : List Switch) (shorts : List Char)
    (rest : List String) : (shortItems known shorts rest).2.length ≤ rest.length := by
  induction shorts with
  | nil => simp [shortItems]
  | cons short more ih =>
    unfold shortItems
    split
    · simp
    · split
      · split
        · exact length_detachedValue ..
        · exact Nat.le_refl _
        · exact Nat.le_refl _
      · exact ih

theorem length_itemsOf (known : List Switch) (argument : String) (rest : List String) :
    (itemsOf known argument rest).2.length ≤ rest.length := by
  unfold itemsOf
  split
  · unfold longItem
    simp only
    split
    · simp
    · split <;> simp
    · split
      · exact length_detachedValue ..
      · exact Nat.le_refl _
  · exact length_shortItems ..
  · exact Nat.le_refl _

/-- What a command line says. Where a command name is expected, the first operand and what
follows it are left for the command. -/
def items (known : List Switch) (expectsCommand : Bool) :
    List String → List Item × List String
  | [] => ([], [])
  | argument :: rest =>
    if argument = "--" then (rest.map Item.operand, [])
    else if expectsCommand && !looksLikeSwitch argument then ([], argument :: rest)
    else
      let later := items known expectsCommand (itemsOf known argument rest).2
      ((itemsOf known argument rest).1 ++ later.1, later.2)
termination_by arguments => arguments.length
decreasing_by
  have shorter := length_itemsOf known argument rest
  simp only [List.length_cons]
  omega

/-- Why a command line starts no program. -/
inductive Refusal where
  | help
  | version
  | misuse
deriving DecidableEq, Inhabited

/-- Each item in turn fills the settings, or refuses the command line. -/
def fill {σ : Type} (take : σ → Item → Except Refusal σ) (said : List Item) (settings : σ) :
    Except Refusal σ :=
  said.foldlM take settings

/-- The switch that asks for help. -/
def helpSwitch : Switch := ⟨"help", some 'h', false⟩

/-- The switch that asks for the version. -/
def versionSwitch : Switch := ⟨"version", some 'V', false⟩

/-- A setting that may be given once. -/
def once {α : Type} (present : Option α) (value? : Option α) : Except Refusal (Option α) :=
  match present, value? with
  | none, some value => .ok (some value)
  | _, _ => .error .misuse

/-- A path, which is never empty. -/
def path? (text : String) : Option String :=
  if text = "" then none else some text

/-- A byte. A sign is allowed. -/
def byte? (text : String) : Option UInt8 := do
  let value ← Text.integer? text
  if 0 ≤ value ∧ value < 256 then some (UInt8.ofNat value.toNat) else none

/-- A whole number below `2 ^ 32`. A sign is allowed. -/
def word? (text : String) : Option Nat := do
  let value ← Text.integer? text
  if 0 ≤ value ∧ value < UInt32.size then some value.toNat else none

/-- A whole number below `2 ^ 64`. -/
def longWord? (text : String) : Option Nat :=
  Text.naturalBelow? UInt64.size text

/-- How a program ended, and what it printed. -/
structure Exit where
  code : UInt32
  output : String := ""
  complaint : String := ""
deriving DecidableEq, Inhabited

/-- The exit of a program that was not started. -/
def Refusal.exit (name version : String) : Refusal → Exit
  | help => { code := 0 }
  | .version => { code := 0, output := name ++ " " ++ version ++ "\n" }
  | misuse => { code := 2 }

end RemoteCrowd.CommandLine
