import FormatConformance.Engine.Basic
import FormatConformance.Text.Search

/-!
Engines with rules. A rule singles out calls by their kind, their text or their grammar and says
how the answer of a base engine is changed for them; the first rule that applies is used.
-/

namespace FormatConformance

structure Trigger where
  kind : CallKind
  text : Option Text := none
  contains : Option Text := none
  parser : Option (Option String) := none

structure Rule where
  trigger : Trigger
  error : Option String := none
  output : Option Text := none
  replace : Option (Text × Text) := none
  before : Text := []
  after : Text := []
  cursor : Option (Option Nat) := none
  tree : Option Json := none

namespace Trigger

def applies (t : Trigger) (call : Call) : Bool :=
  t.kind == call.kind && t.text.all (· == call.text) &&
    t.contains.all (fun part => Text.occurs part call.text) &&
    t.parser.all (fun name => name == call.options.parser.map Grammar.name)

end Trigger

namespace Rule

def applyTo (rule : Rule) (text : Text) : Text :=
  let replaced := match rule.replace with
    | some (pattern, new) => Text.replaceAll pattern new text
    | none => text
  rule.before ++ replaced ++ rule.after

def format (rule : Rule) (base : Engine) (text : Text) (options : Options) :
    Except Rejection Formatted := do
  match rule.error with
  | some message => .error ⟨message⟩
  | none =>
    let answer ← match rule.output with
      | some output => .ok ⟨output, none⟩
      | none => base.format text options
    return ⟨rule.applyTo answer.text, rule.cursor.getD answer.cursor⟩

def parse (rule : Rule) (base : Engine) (text : Text) (options : Options) :
    Except Rejection Json :=
  match rule.error with
  | some message => .error ⟨message⟩
  | none =>
    match rule.tree with
    | some tree => .ok tree
    | none => base.parse text options

end Rule

namespace Engine

def failing : Engine where
  format _ _ := .error ⟨"engine failure"⟩
  parse _ _ := .error ⟨"engine failure"⟩

def ruled (base : Engine) (rules : List Rule) : Engine where
  format text options :=
    match rules.find? fun rule => rule.trigger.applies ⟨.format, text, options⟩ with
    | some rule => rule.format base text options
    | none => base.format text options
  parse text options :=
    match rules.find? fun rule => rule.trigger.applies ⟨.parse, text, options⟩ with
    | some rule => rule.parse base text options
    | none => base.parse text options

end Engine

end FormatConformance
