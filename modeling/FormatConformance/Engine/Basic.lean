import FormatConformance.Options

/-!
Formatting engines. An engine is a pair of functions of a text and options. `Logged` carries a
result together with the calls that were made for it, in their order.
-/

namespace FormatConformance

structure Rejection where
  message : String
  deriving DecidableEq, Repr

structure Formatted where
  text : Text
  cursor : Option Nat
  deriving DecidableEq, Repr

structure Engine where
  format : Text → Options → Except Rejection Formatted
  parse : Text → Options → Except Rejection Json

inductive CallKind where
  | format
  | parse
  deriving DecidableEq, Repr

def CallKind.name : CallKind → String
  | format => "format"
  | parse => "parse"

structure Call where
  kind : CallKind
  text : Text
  options : Options

structure Logged (α : Type) where
  value : α
  calls : List Call

namespace Logged

variable {α β : Type}

def pure (a : α) : Logged α := ⟨a, []⟩

def bind (x : Logged α) (f : α → Logged β) : Logged β :=
  ⟨(f x.value).value, x.calls ++ (f x.value).calls⟩

instance : Monad Logged where
  pure := pure
  bind := bind

def map (f : α → β) (x : Logged α) : Logged β := ⟨f x.value, x.calls⟩

def gather (xs : List (Logged (List α))) : Logged (List α) :=
  ⟨xs.flatMap value, xs.flatMap calls⟩

@[simp] theorem pure_value (a : α) : (Pure.pure a : Logged α).value = a := rfl

@[simp] theorem pure_calls (a : α) : (Pure.pure a : Logged α).calls = [] := rfl

@[simp] theorem bind_value (x : Logged α) (f : α → Logged β) :
    (x >>= f).value = (f x.value).value := rfl

@[simp] theorem bind_calls (x : Logged α) (f : α → Logged β) :
    (x >>= f).calls = x.calls ++ (f x.value).calls := rfl

@[simp] theorem map_value (f : α → β) (x : Logged α) : (x.map f).value = f x.value := rfl

@[simp] theorem map_calls (f : α → β) (x : Logged α) : (x.map f).calls = x.calls := rfl

theorem ext {x y : Logged α} (value : x.value = y.value) (calls : x.calls = y.calls) : x = y := by
  cases x; cases y; simp_all

instance : LawfulMonad Logged := LawfulMonad.mk' Logged
  (fun x => ext rfl (List.append_nil x.calls))
  (fun _ _ => rfl)
  (fun _ _ _ => ext rfl (List.append_assoc _ _ _))

end Logged

namespace Engine

def callFormat (engine : Engine) (text : Text) (options : Options) :
    Logged (Except Rejection Formatted) :=
  ⟨engine.format text options, [⟨.format, text, options⟩]⟩

def callParse (engine : Engine) (text : Text) (options : Options) :
    Logged (Except Rejection Json) :=
  ⟨engine.parse text options, [⟨.parse, text, options⟩]⟩

def echo : Engine where
  format text options := .ok ⟨text, options.offsets.cursor⟩
  parse text _ := .ok (.string (Text.asString text))

end Engine

end FormatConformance
