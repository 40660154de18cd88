/-! # Log records

A record has a severity, the part of the program it comes from, a message, and named values. A
computation that reports on its way returns its records with its value, in order.
-/

namespace EntityDiagram

inductive Level where
  | error
  | warn
  | info
  | debug
  | trace
  deriving DecidableEq, Repr

namespace Level

def name : Level → String
  | error => "ERROR"
  | warn => "WARN"
  | info => "INFO"
  | debug => "DEBUG"
  | trace => "TRACE"

/-- The larger, the more detailed. -/
def detail : Level → Nat
  | error => 1
  | warn => 2
  | info => 3
  | debug => 4
  | trace => 5

end Level

inductive Origin where
  | program
  | reading
  | drawing
  | exporting
  | layout
  | command
  | configuration
  deriving DecidableEq, Repr

namespace Origin

def name : Origin → String
  | program => "erdraft"
  | reading => "erdraft_parser"
  | drawing => "erdraft::structure"
  | exporting => "erdraft::export"
  | layout => "erdraft::export::graphviz"
  | command => "erdraft_cli"
  | configuration => "erdraft_cli::config"

end Origin

structure Record where
  level : Level
  origin : Origin
  message : String
  fields : List (String × String) := []
  deriving DecidableEq, Repr

structure Logged (α : Type) where
  value : α
  log : List Record

namespace Logged

def say (record : Record) : Logged Unit := ⟨(), [record]⟩

def bind {α β : Type} (first : Logged α) (next : α → Logged β) : Logged β :=
  let second := next first.value
  ⟨second.value, first.log ++ second.log⟩

instance : Monad Logged where
  pure value := ⟨value, []⟩
  bind := Logged.bind

@[simp] theorem value_pure {α : Type} (a : α) : (pure a : Logged α).value = a := rfl

@[simp] theorem log_pure {α : Type} (a : α) : (pure a : Logged α).log = [] := rfl

@[simp] theorem value_bind {α β : Type} (first : Logged α) (next : α → Logged β) :
    (first >>= next).value = (next first.value).value := rfl

@[simp] theorem log_bind {α β : Type} (first : Logged α) (next : α → Logged β) :
    (first >>= next).log = first.log ++ (next first.value).log := rfl

end Logged

end EntityDiagram
