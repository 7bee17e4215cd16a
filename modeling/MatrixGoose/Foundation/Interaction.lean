import Mathlib.Data.List.Basic

/-!
# Interacting programs

A program performs operations and goes on with what they reply; an environment chooses
the replies from everything that has been exchanged so far.  A loop is unrolled a number
of times and then cut off, so that what two loops exchange is compared for every number
of rounds.
-/

namespace Foundation

inductive Program (Op : Type) (Reply : Op -> Type) (Value : Type)
  | done (value : Value)
  | perform (op : Op) (next : Reply op -> Program Op Reply Value)
  /-- A loop that is not unrolled any further. -/
  | cut

namespace Program

variable {Op : Type} {Reply : Op -> Type} {Value Result State : Type}

protected def bind (program : Program Op Reply Value)
    (next : Value -> Program Op Reply Result) : Program Op Reply Result :=
  match program with
  | done value => next value
  | perform op rest => perform op fun reply => (rest reply).bind next
  | cut => cut

instance : Monad (Program Op Reply) where
  pure := done
  bind := Program.bind

def call (op : Op) : Program Op Reply (Reply op) :=
  perform op done

inductive Round (State Value : Type)
  | again (s : State)
  | leave (value : Value)

def Round.mapLeave (f : Value -> Result) : Round State Value -> Round State Result
  | Round.again s => Round.again s
  | Round.leave value => Round.leave (f value)

/-- A loop of at most so many rounds. -/
def loop (body : State -> Program Op Reply (Round State Value)) :
    Nat -> State -> Program Op Reply Value
  | 0, _ => cut
  | rounds + 1, s =>
      (body s).bind fun round =>
        match round with
        | Round.again s => loop body rounds s
        | Round.leave value => done value

/-!
# Running a program
-/

abbrev Exchange (Op : Type) (Reply : Op -> Type) :=
  (op : Op) × Reply op

abbrev Environment (Op : Type) (Reply : Op -> Type) :=
  List (Exchange Op Reply) -> (op : Op) -> Reply op

/-- Everything exchanged, and the value if the program gets to its end. -/
def run (environment : Environment Op Reply) (program : Program Op Reply Value)
    (seen : List (Exchange Op Reply)) : List (Exchange Op Reply) × Option Value :=
  match program with
  | done value => (seen, some value)
  | perform op next =>
      (next (environment seen op)).run environment (seen ++ [⟨op, environment seen op⟩])
  | cut => (seen, none)

/-!
# Laws
-/

theorem bind_assoc (program : Program Op Reply Value)
    (next : Value -> Program Op Reply Result) {Last : Type}
    (last : Result -> Program Op Reply Last) :
    (program.bind next).bind last = program.bind fun value => (next value).bind last := by
  induction program with
  | done value => rfl
  | perform op rest ih =>
      show perform op _ = perform op _
      congr 1
      funext reply
      exact ih reply
  | cut => rfl

protected def map (f : Value -> Result) (program : Program Op Reply Value) :
    Program Op Reply Result :=
  program.bind fun value => done (f value)

theorem run_map (environment : Environment Op Reply) (f : Value -> Result)
    (program : Program Op Reply Value) (seen : List (Exchange Op Reply)) :
    (program.map f).run environment seen =
      ((program.run environment seen).1, (program.run environment seen).2.map f) := by
  induction program generalizing seen with
  | done value => rfl
  | perform op next ih => exact ih _ _
  | cut => rfl

theorem bind_again_eq_map {Input : Type} (f : Value -> Result)
    (program : Program Op Reply Input) (next : Input -> State) :
    (program.bind fun input => done (Round.again (next input))) =
      (program.bind fun input => done (Round.again (next input))).map (Round.mapLeave f) :=
  (bind_assoc program (fun input => done (Round.again (next input)))
    (fun round => done (round.mapLeave f))).symm

/-- Two loops whose rounds differ in the value they leave with differ in their values
only. -/
theorem loop_map (f : Value -> Result)
    {body : State -> Program Op Reply (Round State Value)}
    {body' : State -> Program Op Reply (Round State Result)}
    (hbody : forall s, body' s = (body s).map (Round.mapLeave f)) (rounds : Nat)
    (s : State) : loop body' rounds s = (loop body rounds s).map f := by
  induction rounds generalizing s with
  | zero => rfl
  | succ rounds ih =>
      unfold Program.map
      rw [loop, loop, hbody, Program.map, bind_assoc, bind_assoc]
      congr 1
      funext round
      cases round with
      | again s => exact ih s
      | leave value => rfl

end Program

end Foundation
