import Mathlib.Data.List.Basic

/-!
# Traced computations

A traced computation emits events and ends with a value or an error.  An error
stops the computation but does not take back what was emitted before it, so the
trace of a failed computation is the prefix of effects that already happened.
-/

namespace Foundation

structure Traced (Event Error α : Type) where
  trace : List Event
  result : Except Error α

namespace Traced

variable {Event Error α β : Type}

protected def pure (a : α) : Traced Event Error α :=
  { trace := [], result := .ok a }

protected def bind (x : Traced Event Error α)
    (f : α -> Traced Event Error β) : Traced Event Error β :=
  match x.result with
  | .error e => { trace := x.trace, result := .error e }
  | .ok a => { trace := x.trace ++ (f a).trace, result := (f a).result }

instance : Monad (Traced Event Error) where
  pure := Traced.pure
  bind := Traced.bind

def emit (events : List Event) : Traced Event Error Unit :=
  { trace := events, result := .ok () }

def ofExcept (x : Except Error α) : Traced Event Error α :=
  { trace := [], result := x }

def forEach (xs : List α) (body : α -> Traced Event Error Unit) :
    Traced Event Error Unit :=
  match xs with
  | [] => pure ()
  | x :: rest => do
      body x
      forEach rest body

/-!
# Reading a computation
-/

@[simp] theorem trace_emit (events : List Event) :
    (emit events : Traced Event Error Unit).trace = events := rfl

@[simp] theorem result_emit (events : List Event) :
    (emit events : Traced Event Error Unit).result = .ok () := rfl

theorem bind_of_ok {x : Traced Event Error α} {a : α}
    (f : α -> Traced Event Error β) (h : x.result = .ok a) :
    x >>= f = { trace := x.trace ++ (f a).trace, result := (f a).result } := by
  show Traced.bind x f = _
  rw [Traced.bind, h]

theorem bind_of_error {x : Traced Event Error α} {e : Error}
    (f : α -> Traced Event Error β) (h : x.result = .error e) :
    x >>= f = { trace := x.trace, result := .error e } := by
  show Traced.bind x f = _
  rw [Traced.bind, h]

theorem result_bind_of_ok {x : Traced Event Error α} {a : α}
    (f : α -> Traced Event Error β) (h : x.result = .ok a) :
    (x >>= f).result = (f a).result := by
  rw [bind_of_ok f h]

theorem trace_bind_of_ok {x : Traced Event Error α} {a : α}
    (f : α -> Traced Event Error β) (h : x.result = .ok a) :
    (x >>= f).trace = x.trace ++ (f a).trace := by
  rw [bind_of_ok f h]

theorem countP_trace_bind_le {p : Event -> Bool} {x : Traced Event Error α}
    {f : α -> Traced Event Error β} {n m : Nat} (hx : x.trace.countP p <= n)
    (hf : forall a, x.result = .ok a -> (f a).trace.countP p <= m) :
    (x >>= f).trace.countP p <= n + m := by
  cases h : x.result with
  | error e =>
      rw [bind_of_error f h]
      exact Nat.le_add_right_of_le hx
  | ok a =>
      rw [trace_bind_of_ok f h, List.countP_append]
      exact Nat.add_le_add hx (hf a h)

/-!
# Loops
-/

theorem forEach_cons (x : α) (rest : List α)
    (body : α -> Traced Event Error Unit) :
    forEach (x :: rest) body = body x >>= fun _ => forEach rest body := rfl

theorem forEach_of_ok {xs : List α} {body : α -> Traced Event Error Unit}
    (h : forall x, x ∈ xs -> (body x).result = .ok ()) :
    forEach xs body =
      { trace := xs.flatMap fun x => (body x).trace, result := .ok () } := by
  induction xs with
  | nil => rfl
  | cons x rest ih =>
      rw [forEach_cons, bind_of_ok _ (h x (List.mem_cons_self ..)),
        ih (fun y hy => h y (List.mem_cons_of_mem x hy))]
      rfl

theorem mem_trace_forEach {xs : List α} {body : α -> Traced Event Error Unit}
    {event : Event} (h : event ∈ (forEach xs body).trace) :
    exists x, x ∈ xs ∧ event ∈ (body x).trace := by
  induction xs with
  | nil => cases h
  | cons x rest ih =>
      rw [forEach_cons] at h
      cases hx : (body x).result with
      | error e =>
          rw [bind_of_error _ hx] at h
          exact ⟨x, List.mem_cons_self .., h⟩
      | ok u =>
          rw [trace_bind_of_ok _ hx] at h
          rcases List.mem_append.mp h with hhead | htail
          · exact ⟨x, List.mem_cons_self .., hhead⟩
          · rcases ih htail with ⟨y, hy, hevent⟩
            exact ⟨y, List.mem_cons_of_mem x hy, hevent⟩

/-!
# Loops that fail
-/

theorem mem_trace_bind {x : Traced Event Error α} {f : α -> Traced Event Error β}
    {event : Event} :
    event ∈ (x >>= f).trace <->
      event ∈ x.trace ∨ exists a, x.result = .ok a ∧ event ∈ (f a).trace := by
  cases h : x.result with
  | error e =>
      rw [bind_of_error f h]
      simp
  | ok a =>
      rw [trace_bind_of_ok f h, List.mem_append]
      simp

theorem result_bind_eq_ok_iff {x : Traced Event Error α} {f : α -> Traced Event Error β}
    {b : β} :
    (x >>= f).result = .ok b <-> exists a, x.result = .ok a ∧ (f a).result = .ok b := by
  cases h : x.result with
  | error e =>
      rw [bind_of_error f h]
      simp
  | ok a =>
      rw [result_bind_of_ok f h]
      simp

theorem result_forEach_eq_ok_iff {xs : List α} {body : α -> Traced Event Error Unit} :
    (forEach xs body).result = .ok () <-> forall x, x ∈ xs -> (body x).result = .ok () := by
  induction xs with
  | nil => simp [forEach, pure, Traced.pure]
  | cons x rest ih =>
      rw [forEach_cons, result_bind_eq_ok_iff, List.forall_mem_cons, ih]
      constructor
      · rintro ⟨_, hx, hrest⟩
        exact ⟨hx, hrest⟩
      · rintro ⟨hx, hrest⟩
        exact ⟨(), hx, hrest⟩

/-- A loop gets to an element if its body succeeds at those before it. -/
theorem mem_trace_forEach_iff {xs : List α} {body : α -> Traced Event Error Unit}
    {event : Event} :
    event ∈ (forEach xs body).trace <->
      exists before x after, xs = before ++ x :: after ∧
        (forall y, y ∈ before -> (body y).result = .ok ()) ∧ event ∈ (body x).trace := by
  induction xs with
  | nil =>
      constructor
      · intro hmem
        cases hmem
      · rintro ⟨before, x, after, hsplit, _⟩
        exact absurd hsplit (by simp)
  | cons x rest ih =>
      rw [forEach_cons, mem_trace_bind]
      constructor
      · intro hmem
        rcases hmem with hhead | ⟨_, hok, htail⟩
        · exact ⟨[], x, rest, rfl, nofun, hhead⟩
        · rcases ih.mp htail with ⟨before, y, after, rfl, hbefore, hevent⟩
          exact ⟨x :: before, y, after, rfl, List.forall_mem_cons.mpr ⟨hok, hbefore⟩, hevent⟩
      · rintro ⟨before, y, after, hsplit, hbefore, hevent⟩
        cases before with
        | nil =>
            cases hsplit
            exact Or.inl hevent
        | cons z before =>
            cases hsplit
            rcases List.forall_mem_cons.mp hbefore with ⟨hok, hrest⟩
            exact Or.inr ⟨(), hok, ih.mpr ⟨before, y, after, rfl, hrest, hevent⟩⟩

theorem forEach_map {γ : Type} (f : γ -> α) (xs : List γ)
    (body : α -> Traced Event Error Unit) :
    forEach (xs.map f) body = forEach xs fun x => body (f x) := by
  induction xs with
  | nil => rfl
  | cons x rest ih => rw [List.map_cons, forEach_cons, forEach_cons, ih]

theorem bind_assoc {γ : Type} (x : Traced Event Error α) (f : α -> Traced Event Error β)
    (g : β -> Traced Event Error γ) :
    (x >>= f) >>= g = x >>= fun a => f a >>= g := by
  cases hx : x.result with
  | error e =>
      rw [bind_of_error f hx, bind_of_error _ hx]
      rfl
  | ok a =>
      rw [bind_of_ok f hx, bind_of_ok _ hx]
      cases hf : (f a).result with
      | error e =>
          rw [bind_of_error g hf]
          rfl
      | ok b =>
          rw [bind_of_ok g hf]
          show Traced.bind _ g = _
          simp only [Traced.bind, List.append_assoc]

theorem forEach_append (xs ys : List α) (body : α -> Traced Event Error Unit) :
    forEach (xs ++ ys) body = forEach xs body >>= fun _ => forEach ys body := by
  induction xs with
  | nil =>
      show forEach ys body = Traced.bind (Traced.pure ()) fun _ => forEach ys body
      rfl
  | cons x rest ih => rw [List.cons_append, forEach_cons, forEach_cons, bind_assoc, ih]

/-!
# Events of a kind
-/

def AllEvents (P : Event -> Prop) (x : Traced Event Error α) : Prop :=
  forall event, event ∈ x.trace -> P event

namespace AllEvents

variable {P : Event -> Prop}

theorem bind {x : Traced Event Error α} {f : α -> Traced Event Error β}
    (hx : AllEvents P x) (hf : forall a, AllEvents P (f a)) : AllEvents P (x >>= f) := by
  intro event hmem
  rcases mem_trace_bind.mp hmem with hfirst | ⟨a, _, hsecond⟩
  · exact hx event hfirst
  · exact hf a event hsecond

theorem forEach {xs : List α} {body : α -> Traced Event Error Unit}
    (hbody : forall x, AllEvents P (body x)) : AllEvents P (Traced.forEach xs body) := by
  intro event hmem
  rcases mem_trace_forEach hmem with ⟨x, _, htrace⟩
  exact hbody x event htrace

theorem ofExcept (x : Except Error α) :
    AllEvents P (Traced.ofExcept x : Traced Event Error α) := by
  intro event hmem
  cases hmem

end AllEvents

end Traced

end Foundation
