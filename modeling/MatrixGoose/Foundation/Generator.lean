import MatrixGoose.Foundation.Interaction

/-!
# Loops that hand items on

A loop that works, hands an item to a callback and prepares for its next round can be
turned into a generator, which works whenever an item is asked for.  The generator prepares
before it works again, and so the two differ only in where they are cut off.
-/

namespace Foundation

namespace Program

variable {Op : Type} {Reply : Op -> Type} {Value Result State Item Paused : Type}

/-!
# Programs that are cut off earlier
-/

/-- The first program is the second one, cut off earlier. -/
inductive CutOf : Program Op Reply Value -> Program Op Reply Value -> Prop
  | cut (program : Program Op Reply Value) : CutOf cut program
  | done (value : Value) : CutOf (done value) (done value)
  | perform (op : Op) {next next' : Reply op -> Program Op Reply Value}
      (hnext : forall reply, CutOf (next reply) (next' reply)) :
      CutOf (perform op next) (perform op next')

theorem CutOf.refl (program : Program Op Reply Value) : CutOf program program := by
  induction program with
  | done value => exact CutOf.done value
  | perform op next ih => exact CutOf.perform op ih
  | cut => exact CutOf.cut _

theorem CutOf.bind {program program' : Program Op Reply Value}
    {next next' : Value -> Program Op Reply Result} (h : CutOf program program')
    (hnext : forall value, CutOf (next value) (next' value)) :
    CutOf (program.bind next) (program'.bind next') := by
  induction h with
  | cut program => exact CutOf.cut _
  | done value => exact hnext value
  | perform op _ ih => exact CutOf.perform op ih

theorem seen_isPrefixOf_run (environment : Environment Op Reply)
    (program : Program Op Reply Value) (seen : List (Exchange Op Reply)) :
    seen <+: (program.run environment seen).1 := by
  induction program generalizing seen with
  | done value => exact List.prefix_rfl
  | perform op next ih => exact (List.prefix_append seen _).trans (ih _ _)
  | cut => exact List.prefix_rfl

/-- What a program that is cut off earlier exchanges is where the other one begins; if it
gets to its end, then the other one does the same. -/
theorem CutOf.run {program program' : Program Op Reply Value} (h : CutOf program program')
    (environment : Environment Op Reply) (seen : List (Exchange Op Reply)) :
    (program.run environment seen).1 <+: (program'.run environment seen).1 ∧
      forall value, (program.run environment seen).2 = some value ->
        program'.run environment seen = program.run environment seen := by
  induction h generalizing seen with
  | cut program =>
      constructor
      · exact seen_isPrefixOf_run environment program seen
      · intro value hvalue
        cases hvalue
  | done value => exact ⟨List.prefix_rfl, fun _ _ => rfl⟩
  | perform op _ ih => exact ih _ _

theorem run_bind (environment : Environment Op Reply) (program : Program Op Reply Value)
    (next : Value -> Program Op Reply Result) (seen : List (Exchange Op Reply)) :
    (program.bind next).run environment seen =
      match program.run environment seen with
      | (seen, some value) => (next value).run environment seen
      | (seen, none) => (seen, none) := by
  induction program generalizing seen with
  | done value => rfl
  | perform op rest ih => exact ih _ _
  | cut => rfl

/-!
# Programs that avoid an operation
-/

inductive Avoids (p : Op -> Prop) : Program Op Reply Value -> Prop
  | done (value : Value) : Avoids p (done value)
  | perform {op : Op} {next : Reply op -> Program Op Reply Value} (hop : ¬ p op)
      (hnext : forall reply, Avoids p (next reply)) : Avoids p (perform op next)
  | cut : Avoids p cut

theorem Avoids.run {p : Op -> Prop} {program : Program Op Reply Value} (h : Avoids p program)
    (environment : Environment Op Reply) (seen : List (Exchange Op Reply)) :
    exists more, (program.run environment seen).1 = seen ++ more ∧
      forall exchange, exchange ∈ more -> ¬ p exchange.1 := by
  induction h generalizing seen with
  | done value => exact ⟨[], (List.append_nil seen).symm, nofun⟩
  | cut => exact ⟨[], (List.append_nil seen).symm, nofun⟩
  | @perform op next hop _ ih =>
      rcases ih (environment seen op) (seen ++ [⟨op, environment seen op⟩]) with
        ⟨more, hmore, havoid⟩
      refine ⟨⟨op, environment seen op⟩ :: more, ?_, ?_⟩
      · rw [Program.run, hmore]
        simp
      · intro exchange hmem
        rcases List.mem_cons.mp hmem with heq | hrest
        · rw [heq]
          exact hop
        · exact havoid exchange hrest

/-!
# Pushing and pulling
-/

section Generators

variable (work : State -> Program Op Reply (Item × Paused))
variable (prepare : Paused -> Program Op Reply State)
variable (callback : Item -> Program Op Reply (Option Value))

/-- A round of a loop that leaves with the value of the callback if it has one. -/
def pushRound (s : State) : Program Op Reply (Round State Value) :=
  (work s).bind fun (item, paused) =>
    (callback item).bind fun value =>
      match value with
      | some value => done (Round.leave value)
      | none => (prepare paused).bind fun s => done (Round.again s)

/-- Where a generator is when it is asked for its next item. -/
inductive GeneratorState (State Paused : Type)
  | start (s : State)
  | resume (paused : Paused)

def generate : GeneratorState State Paused -> Program Op Reply (Item × Paused)
  | GeneratorState.start s => work s
  | GeneratorState.resume paused => (prepare paused).bind work

def pullRound (s : GeneratorState State Paused) :
    Program Op Reply (Round (GeneratorState State Paused) Value) :=
  (generate work prepare s).bind fun (item, paused) =>
    (callback item).bind fun value =>
      match value with
      | some value => done (Round.leave value)
      | none => done (Round.again (GeneratorState.resume paused))

variable {work prepare callback}

theorem loop_pullRound_resume (rounds : Nat) (paused : Paused) :
    loop (pullRound work prepare callback) (rounds + 1) (GeneratorState.resume paused) =
      (prepare paused).bind fun s =>
        loop (pullRound work prepare callback) (rounds + 1) (GeneratorState.start s) := by
  unfold loop pullRound generate
  simp only [bind_assoc]

theorem pullRound_cutOf_pushRound (rounds : Nat) (s : State) :
    CutOf (loop (pullRound work prepare callback) rounds (GeneratorState.start s))
      (loop (pushRound work prepare callback) rounds s) := by
  induction rounds generalizing s with
  | zero => exact CutOf.cut _
  | succ rounds ih =>
      have hresume : forall paused,
          CutOf (loop (pullRound work prepare callback) rounds (GeneratorState.resume paused))
            ((prepare paused).bind fun s =>
              loop (pushRound work prepare callback) rounds s) := by
        intro paused
        cases rounds with
        | zero => exact CutOf.cut _
        | succ rounds =>
            rw [loop_pullRound_resume]
            exact (CutOf.refl (prepare paused)).bind ih
      rw [loop, loop, pullRound, pushRound, generate, bind_assoc, bind_assoc]
      apply (CutOf.refl (work s)).bind
      intro item
      rw [bind_assoc, bind_assoc]
      apply (CutOf.refl (callback item.1)).bind
      intro value
      cases value with
      | some value => exact CutOf.done value
      | none =>
          rw [bind_assoc]
          exact hresume item.2

theorem pushRound_cutOf_pullRound (rounds : Nat) (s : State) :
    CutOf (loop (pushRound work prepare callback) rounds s)
      (loop (pullRound work prepare callback) (rounds + 1) (GeneratorState.start s)) := by
  induction rounds generalizing s with
  | zero => exact CutOf.cut _
  | succ rounds ih =>
      rw [loop, loop, pullRound, pushRound, generate, bind_assoc, bind_assoc]
      apply (CutOf.refl (work s)).bind
      intro item
      rw [bind_assoc, bind_assoc]
      apply (CutOf.refl (callback item.1)).bind
      intro value
      cases value with
      | some value => exact CutOf.done value
      | none =>
          show CutOf _ (loop _ (rounds + 1) (GeneratorState.resume item.2))
          rw [bind_assoc, loop_pullRound_resume]
          exact (CutOf.refl (prepare item.2)).bind ih

end Generators

end Program

end Foundation
