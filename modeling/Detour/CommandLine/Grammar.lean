import Detour.Table
import Detour.Text.Quoted

/-!
# Command line grammars

A command line is read by a grammar of options and one positional argument. Options may be
shortened, joined behind one dash, and given a value after an equals sign; two dashes end them.
Positional arguments are taken where they first fit, and what fits nowhere is left over.

## Main definitions

* `Grammar.parse` — the values on a command line, or why it is not carried out.
-/
namespace Detour.CommandLine

open Text

/-- What an option does. -/
inductive Effect
  | store (key : Text)
  | set (key : Text)
  | help
  | version
  deriving DecidableEq, Repr

def Effect.takesValue : Effect → Bool
  | .store _ => true
  | _ => false

structure Switch where
  names : List Text
  effect : Effect
  deriving DecidableEq, Repr

/-- What a positional argument takes: one argument, one and all that follow up to the next option,
or one and all that follows. -/
inductive Arity
  | one
  | several
  | remainder
  deriving DecidableEq, Repr

structure Positional where
  name : Text
  arity : Arity
  choices : List Text := []
  required : Bool := true
  deriving DecidableEq, Repr

structure Grammar where
  program : Text
  usage : Text
  details : Text
  switches : List Switch
  positional : Positional

/-- Why a command line is not carried out: something is shown instead, or it is faulty. -/
inductive Stop
  | shown (text : Text)
  | faulty (text : Text)
  deriving DecidableEq, Repr

/-- The values on a command line. -/
structure Values where
  stored : Table Text Text := []
  set : List Text := []
  positional : Option (List Text) := none
  left : List Text := []
  deriving Repr

/-- What stands in one argument with the name of its switch, joined to it or behind an equals sign.
Behind one letter it may be further letters. -/
inductive Attachment
  | value (text : Text)
  | joined (text : Text)
  deriving DecidableEq, Repr

def Attachment.of (name text : Text) : Attachment :=
  match name with
  | 45 :: 45 :: _ => .value text
  | _ => .joined text

/-- What an argument is taken for. -/
inductive Mark
  | argument
  | dashes
  | switch (switch : Option Switch) (attached : Option Attachment)
  deriving DecidableEq, Repr

def Mark.isSwitch : Mark → Bool
  | .switch .. => true
  | _ => false

structure Token where
  text : Text
  mark : Mark
  deriving DecidableEq, Repr

namespace Grammar

def help (g : Grammar) : Text := g.usage ++ g.details

def fault (g : Grammar) (message : Text) : Stop :=
  .faulty (g.usage ++ g.program ++ ": error: " ++ message ++ "\n")

def switchFault (g : Grammar) (s : Switch) (message : Text) : Stop :=
  g.fault ("argument " ++ joinWith [47] s.names ++ ": " ++ message)

/-! ## Marks -/

/-- The names of all switches, each with its switch. -/
def named (g : Grammar) : Table Text Switch :=
  g.switches.flatMap fun s => s.names.map fun n => (n, s)

/-- A dash and digits with at most one point, after which digits follow. -/
def isNegativeNumber (t : Text) : Bool :=
  match t with
  | 45 :: r =>
    let isDecimal (c : CodePoint) : Bool := (decimalValue? c).isSome
    let r := if r.getLast? = some 10 then r.dropLast else r
    let fraction := (r.dropWhile isDecimal).drop 1
    (!r.isEmpty && r.all isDecimal) ||
      ((r.dropWhile isDecimal).head? = some 46 && !fraction.isEmpty && fraction.all isDecimal)
  | _ => false

/-- The text before the first equals sign, and the text after it. -/
def splitValue (t : Text) : Text × Option Text :=
  match cut? 61 t with
  | none => (t, none)
  | some (name, value) => (name, some value)

/-- The switches that a shortened name, or a letter with something joined to it, may stand for. -/
def candidates (g : Grammar) (t : Text) : List (Text × Switch × Option Attachment) :=
  match t with
  | 45 :: 45 :: _ =>
    let (start, value) := splitValue t
    (g.named.filter fun (n, _) => start.isPrefixOf n).map fun (n, s) =>
      (n, s, value.map .value)
  | _ =>
    (g.named.filter fun (n, _) => n = t.take 2 || t.isPrefixOf n).map fun (n, s) =>
      (n, s, if n = t.take 2 then some (.joined (t.drop 2)) else none)

/-- What a text with a dash in front is taken for if it is no switch. -/
def unknownMark (t : Text) : Mark :=
  if isNegativeNumber t || t.contains 32 then .argument else .switch none none

def markByCandidates (g : Grammar) (t : Text) : Except Stop Mark :=
  match g.candidates t with
  | [] => .ok (unknownMark t)
  | [(_, s, attached)] => .ok (.switch (some s) attached)
  | several => .error (g.fault ("ambiguous option: " ++ t ++ " could match " ++
      joinWith ", " (several.map (·.1))))

def markOf (g : Grammar) (t : Text) : Except Stop Mark :=
  if t.head? ≠ some 45 then .ok .argument
  else match g.named.get? t with
    | some s => .ok (.switch (some s) none)
    | none =>
      if t.length = 1 then .ok .argument
      else match splitValue t with
        | (_, none) => g.markByCandidates t
        | (name, some value) =>
          match g.named.get? name with
          | some s => .ok (.switch (some s) (some (.of name value)))
          | none => g.markByCandidates t

/-- Behind two dashes everything is an argument. -/
def tokens (g : Grammar) : List Text → Except Stop (List Token)
  | [] => .ok []
  | t :: rest =>
    if t = [45, 45] then .ok (⟨t, .dashes⟩ :: rest.map fun r => ⟨r, .argument⟩)
    else do
      let mark ← g.markOf t
      let more ← tokens g rest
      return ⟨t, mark⟩ :: more

/-! ## Switches -/

/-- Carries out a switch with the value that belongs to it. Two dashes are the empty value. -/
def apply (g : Grammar) (v : Values) (s : Switch) (value : Text) : Except Stop Values :=
  match s.effect with
  | .help => .error (.shown g.help)
  | .version => .error (.shown (g.program ++ " 0.1.0\n"))
  | .set key => .ok { v with set := key :: v.set }
  | .store key =>
    let value := if value = [45, 45] then [] else value
    .ok { v with stored := Table.put key value v.stored }

def applyAll (g : Grammar) (v : Values) : List (Switch × Text) → Except Stop Values
  | [] => .ok v
  | (s, value) :: rest => do applyAll g (← g.apply v s value) rest

def ignored (g : Grammar) (s : Switch) (value : Text) : Stop :=
  g.switchFault s ("ignored explicit argument " ++ quoted value)

/-- The switches that one argument stands for, each with its value, and the rest. -/
structure Gathered where
  found : List (Switch × Text)
  rest : List Token

/-- A switch whose value, if it takes one, is the next argument. -/
def withNext (g : Grammar) (s : Switch) (rest : List Token) : Except Stop Gathered :=
  if s.effect.takesValue then
    match rest with
    | ⟨t, .argument⟩ :: rest => .ok { found := [(s, t)], rest }
    | _ => .error (g.switchFault s "expected one argument")
  else .ok { found := [(s, [])], rest }

def withValue (g : Grammar) (s : Switch) (value : Text) (rest : List Token) :
    Except Stop Gathered :=
  if s.effect.takesValue then .ok { found := [(s, value)], rest }
  else .error (g.ignored s value)

/-- A switch with what is attached to its letter: its value, or the letters of further switches. -/
def withJoined (g : Grammar) (s : Switch) (rest : List Token) : Text → Except Stop Gathered
  | [] => g.withValue s [] rest
  | c :: more =>
    if s.effect.takesValue then .ok { found := [(s, c :: more)], rest }
    else match g.named.get? [45, c] with
      | none => .error (g.ignored s (c :: more))
      | some next => do
        let r ← if more.isEmpty then g.withNext next rest else withJoined g next rest more
        return { r with found := (s, []) :: r.found }

def gather (g : Grammar) (s : Switch) (attached : Option Attachment) (rest : List Token) :
    Except Stop Gathered :=
  match attached with
  | none => g.withNext s rest
  | some (.value value) => g.withValue s value rest
  | some (.joined more) => g.withJoined s rest more

/-! ## Positional arguments -/

/-- The number of tokens that a positional argument takes. -/
def takes (a : Arity) (ts : List Token) : Nat :=
  let isDashes (t : Token) : Bool := t.mark == .dashes
  let lead := (ts.takeWhile isDashes).length
  match ts.drop lead with
  | ⟨_, .argument⟩ :: more =>
    lead + 1 + (match a with
      | .one => (more.takeWhile isDashes).length
      | .several => (more.takeWhile fun t => !t.mark.isSwitch).length
      | .remainder => more.length)
  | _ => 0

def choiceFault (g : Grammar) (value : Text) : Stop :=
  g.fault ("argument " ++ g.positional.name ++ ": invalid choice: " ++ quoted value ++
    " (choose from " ++ joinWith ", " (g.positional.choices.map quoted) ++ ")")

/-- The first two dashes are no argument unless the remainder is taken. -/
def argumentTexts (g : Grammar) (ts : List Token) : List Text :=
  let texts := ts.map (·.text)
  if g.positional.arity = .remainder then texts else texts.erase [45, 45]

/-- Takes the positional argument, once. -/
def takePositional (g : Grammar) (v : Values) (ts : List Token) :
    Except Stop (Values × List Token) :=
  let n := if v.positional.isSome then 0 else takes g.positional.arity ts
  if n = 0 then .ok (v, ts)
  else
    let texts := g.argumentTexts (ts.take n)
    let first := texts.headD []
    if !g.positional.choices.isEmpty && !g.positional.choices.contains first then
      .error (g.choiceFault first)
    else .ok ({ v with positional := some texts }, ts.drop n)

/-- Leaves texts over. -/
def leave (v : Values) (texts : List Text) : Values := { v with left := v.left ++ texts }

/-! ## The whole line -/

/-- A switch with all that it takes, and the rest. -/
def takeSwitch (g : Grammar) (v : Values) (text : Text) (mark : Mark) (rest : List Token) :
    Except Stop (Values × List Token) :=
  match mark with
  | .switch (some s) attached => do
    let r ← g.gather s attached rest
    return (← g.applyAll v r.found, r.rest)
  | _ => .ok (leave v [text], rest)

/-- A round takes at least one token, so their number bounds the rounds. -/
def rounds (g : Grammar) : Nat → Values → List Token → Except Stop Values
  | 0, v, ts => .ok (leave v (ts.map (·.text)))
  | n + 1, v, ts =>
    if !ts.any (·.mark.isSwitch) then do
      let (v, rest) ← g.takePositional v ts
      return leave v (rest.map (·.text))
    else match ts with
      | [] => .ok v
      | t :: rest =>
        if t.mark.isSwitch then do
          let (v, rest) ← g.takeSwitch v t.text t.mark rest
          rounds g n v rest
        else do
          let (v, rest) ← g.takePositional v ts
          if rest.length < ts.length then rounds g n v rest
          else
            let passed := ts.takeWhile fun t => !t.mark.isSwitch
            rounds g n (leave v (passed.map (·.text))) (ts.drop passed.length)

def parse (g : Grammar) (arguments : List Text) : Except Stop Values := do
  let ts ← g.tokens arguments
  let v ← g.rounds (ts.length + 1) {} ts
  if v.positional.isNone && g.positional.required then
    .error (g.fault ("the following arguments are required: " ++ g.positional.name))
  else return v

end Grammar
end Detour.CommandLine
