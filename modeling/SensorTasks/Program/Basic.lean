import SensorTasks.Program.Command

/-!
Programs: trees of commands, each followed by a program for every answer. A program that runs alone
is carried out from its root to a leaf; several programs take turns, one command at a time.
-/

namespace SensorTasks

inductive Program (α : Type) where
  | done (a : α)
  | call (c : Command) (next : c.Answer → Program α)

namespace Program

variable {α β : Type}

protected def bind : Program α → (α → Program β) → Program β
  | done a, f => f a
  | call c next, f => call c fun answer => (next answer).bind f

instance : Monad Program where
  pure := done
  bind := Program.bind

/-- The program of one command. -/
def perform (c : Command) : Program c.Answer := call c done

/-- Runs a program alone. -/
def run : Program α → World → α × World
  | done a, w => (a, w)
  | call c next, w => (next (c.run w).1).run (c.run w).2

@[simp] theorem run_done (a : α) (w : World) : (done a).run w = (a, w) := rfl

@[simp] theorem run_call (c : Command) (next : c.Answer → Program α) (w : World) :
    (call c next).run w = (next (c.run w).1).run (c.run w).2 := rfl

@[simp] theorem run_pure (a : α) (w : World) : (pure a : Program α).run w = (a, w) := rfl

theorem run_bind' (p : Program α) (f : α → Program β) (w : World) :
    (p.bind f).run w = (f (p.run w).1).run (p.run w).2 := by
  induction p generalizing w with
  | done a => rfl
  | call c next ih => exact ih _ _

@[simp] theorem run_bind (p : Program α) (f : α → Program β) (w : World) :
    (p >>= f).run w = (f (p.run w).1).run (p.run w).2 :=
  run_bind' p f w

/-! ### Taking turns -/

/-- Carries out the first command of a program; nothing if it is at its end. -/
def advance? : Program α → World → Option (Program α × World)
  | done _, _ => none
  | call c next, w => some (next (c.run w).1, (c.run w).2)

/-- One of several programs carries out its next command. -/
inductive Step : List (Program α) × World → List (Program α) × World → Prop where
  | mk {before after : List (Program α)} {p p' : Program α} {w w' : World}
      (h : p.advance? w = some (p', w')) :
      Step (before ++ p :: after, w) (before ++ p' :: after, w')

/-- Any number of steps. -/
inductive Steps : List (Program α) × World → List (Program α) × World → Prop where
  | refl (s : List (Program α) × World) : Steps s s
  | tail {s t u : List (Program α) × World} (hs : Steps s t) (h : Step t u) : Steps s u

end Program

/-! ### Programs that may fail -/

/-- A program that ends with a value or an error. -/
abbrev Action (ε α : Type) := ExceptT ε Program α

namespace Action

variable {ε ε' α : Type}

/-- The action of one command that cannot fail. -/
def perform (c : Command) : Action ε c.Answer := ExceptT.lift (Program.perform c)

/-- An action with its error seen as another one. -/
def mapError (f : ε → ε') (a : Action ε α) : Action ε' α := ExceptT.adapt f a

/-- The outcome of an action that is decided already. -/
def ofExcept (e : Except ε α) : Action ε α := ExceptT.mk (pure e)

/-- Fails unless there is a value. -/
def orFail (e : ε) : Option α → Action ε α
  | some a => pure a
  | none => throw e

/-- The new id of one reserved number. -/
def freshId : Action ε String := do
  let n ← perform (.reserve 1)
  return FreshId.text n

/-! ### Commands on the ledger that may fail -/

open Ledger

def createTask (t : Task) : Action LedgerError Unit := Program.perform (.createTask t)

def updateTask (id : TaskId) (p : TaskPatch) : Action LedgerError Task :=
  Program.perform (.updateTask id p)

def updateFile (id : FileId) (p : FilePatch) : Action LedgerError File :=
  Program.perform (.updateFile id p)

def createSensor (s : Sensor) : Action LedgerError Unit := Program.perform (.createSensor s)

def createGroup (g : Group) : Action LedgerError Unit := Program.perform (.createGroup g)

def addMembers (id : GroupId) (sensors : List SensorId) (groups : List GroupId) :
    Action LedgerError Group :=
  Program.perform (.addMembers id sensors groups)

end Action

end SensorTasks
