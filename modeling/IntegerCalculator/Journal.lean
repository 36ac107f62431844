import IntegerCalculator.Text.Display

/-! The journal: records that a computation leaves on its way, each with a level
and the part of the program that wrote it. A logged computation is a value with
the records written so far, the oldest first; no record ever changes a value. -/

namespace IntegerCalculator

inductive Level where
  | error
  | warn
  | info
  | debug
  | trace
  deriving DecidableEq, Repr

namespace Level

def all : List Level := [error, warn, info, debug, trace]

def name : Level → Text
  | error => "ERROR".toList
  | warn => "WARN".toList
  | info => "INFO".toList
  | debug => "DEBUG".toList
  | trace => "TRACE".toList

def verbosity (l : Level) : Nat := all.idxOf l + 1

end Level

inductive Source where
  | program
  | terminal
  | panel
  | calculation
  deriving DecidableEq, Repr

def Source.path : Source → Text
  | .program => "calculatrice_entiere::natif".toList
  | .terminal => "calculatrice_entiere::console".toList
  | .panel => "calculatrice_entiere::app::vue".toList
  | .calculation => "calculatrice_entiere::noyau::eval".toList

structure Record where
  level : Level
  source : Source
  text : Text
  deriving DecidableEq, Repr

/-- The record as one line, the level padded to five characters, without what would
command a display. -/
def Record.line (r : Record) : Text :=
  Text.plain ('[' :: r.level.name ++ List.replicate (5 - r.level.name.length) ' ' ++
    ' ' :: r.source.path ++ "] ".toList ++ r.text)

structure Logged (α : Type) where
  value : α
  records : List Record := []

namespace Logged

def pure {α : Type} (a : α) : Logged α := ⟨a, []⟩

def bind {α β : Type} (x : Logged α) (f : α → Logged β) : Logged β :=
  ⟨(f x.value).value, x.records ++ (f x.value).records⟩

instance : Monad Logged where
  pure := Logged.pure
  bind := Logged.bind

@[simp] theorem pure_value {α : Type} (a : α) : (Pure.pure a : Logged α).value = a := rfl

@[simp] theorem pure_records {α : Type} (a : α) : (Pure.pure a : Logged α).records = [] := rfl

@[simp] theorem bind_value {α β : Type} (x : Logged α) (f : α → Logged β) :
    (x >>= f).value = (f x.value).value := rfl

@[simp] theorem bind_records {α β : Type} (x : Logged α) (f : α → Logged β) :
    (x >>= f).records = x.records ++ (f x.value).records := rfl

theorem id_map {α : Type} (x : Logged α) : id <$> x = x := by
  cases x
  simp [Functor.map, Logged.bind, Logged.pure]

theorem bind_assoc {α β γ : Type} (x : Logged α) (f : α → Logged β) (g : β → Logged γ) :
    x >>= f >>= g = x >>= fun a => f a >>= g := by
  simp [Bind.bind, Logged.bind, List.append_assoc]

instance : LawfulMonad Logged := LawfulMonad.mk' Logged id_map (fun _ _ => rfl) bind_assoc

end Logged

def record (r : Record) : Logged Unit := ⟨(), [r]⟩

end IntegerCalculator
