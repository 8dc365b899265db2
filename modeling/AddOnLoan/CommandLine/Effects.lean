import AddOnLoan.CommandLine.Error

namespace AddOnLoan

/-- What a run does outside of itself. Each effect may fail, and what was done before stays done. -/
inductive Effect where
  /-- Opens a file, which is empty then. -/
  | openFile (path : Text)
  /-- Writes behind what a file holds already. -/
  | write (path : Text) (text : String)
  /-- Writes to standard output. -/
  | say (text : Text)
  deriving DecidableEq, Repr

structure Remains where
  stdout : Text := ""
  stderr : Text := ""
  files : List (Text × String) := []
  deriving DecidableEq, Repr

namespace Remains

def after (r : Remains) : Effect → Remains
  | .openFile path => { r with files := r.files.filter (·.1 != path) ++ [(path, "")] }
  | .write path text =>
    { r with files := r.files.map fun (p, s) => if p = path then (p, s ++ text) else (p, s) }
  | .say text => { r with stdout := r.stdout ++ text }

/-- What is left behind by an effect that fails after so many characters. A file that cannot be
opened stays what it was. -/
def broken (r : Remains) (kept : Nat) : Effect → Remains
  | .openFile _ => r
  | .write path text => r.after (.write path (.ofList (text.toList.take kept)))
  | .say text => r.after (.say (.ofPoints (text.points.take kept)))

end Remains

/-- Where effects fail: what goes wrong with one behind what is there already, and after how many of
its characters. -/
abbrev Faults := Remains → Effect → Option (Fault × Nat)

inductive Stop where
  /-- A command says why it cannot do its work. -/
  | reported (e : CommandError)
  | fault (f : Fault)
  deriving DecidableEq

def Stop.exitCode : Stop → Nat
  | reported e => e.exitCode
  | fault _ => 1

/-- A part of a run: its result, and what is left behind after it where it fails as well. -/
def Action (α : Type) : Type := Remains → Except Stop α × Remains

namespace Action

protected def pure (a : α) : Action α := fun r => (.ok a, r)

protected def bind (x : Action α) (next : α → Action β) : Action β := fun r =>
  match x r with
  | (.ok a, r') => next a r'
  | (.error stop, r') => (.error stop, r')

instance : Monad Action where
  pure := Action.pure
  bind := Action.bind

instance : MonadLift (Except CommandError) Action :=
  ⟨fun outcome r => (outcome.mapError .reported, r)⟩

def log (lines : List Text) : Action Unit :=
  fun r => (.ok (), { r with stderr := r.stderr ++ .ofLines lines })

def perform (faults : Faults) (effect : Effect) : Action Unit := fun r =>
  match faults r effect with
  | none => (.ok (), r.after effect)
  | some (fault, kept) => (.error (.fault fault), r.broken kept effect)

def performAll (faults : Faults) : List Effect → Action Unit
  | [] => pure ()
  | effect :: rest => do
    perform faults effect
    performAll faults rest

end Action
end AddOnLoan
