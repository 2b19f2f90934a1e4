import Mathlib.Logic.Relation

/-! # Programs in a shared world

A dialogue is a program that makes calls, and goes on with their answers.  When the answers are
known, it comes to a value (`run`) by some calls (`calls`).

More often the world gives the answers and keeps a state, that others change too, at any time
between two calls.  `Safe` says what a dialogue guarantees from some state, whatever is answered
and whatever the others do: each of its calls is allowed, and what it comes to satisfies a
postcondition.  The rules (`Ensures`) follow the shape of the program, with conditions that the
others keep.
-/

namespace Scd.Foundation

open Relation

universe u v w x y

/-- A program over the calls of `C`, whose answers depend on the call. -/
inductive Dialogue (C : Type u) (A : C → Type v) (α : Type w) where
  | done (value : α)
  | call (request : C) (rest : A request → Dialogue C A α)

namespace Dialogue

variable {C : Type u} {A : C → Type v} {α : Type w} {β : Type x} {σ : Type y}

protected def bind : Dialogue C A α → (α → Dialogue C A β) → Dialogue C A β
  | .done value, next => next value
  | .call request rest, next => .call request fun answer => (rest answer).bind next

instance monad : Monad (Dialogue C A : Type w → Type (max u v w)) where
  pure := .done
  bind := Dialogue.bind

/-- Makes a call, and comes to its answer. -/
def ask (request : C) : Dialogue C A (A request) := .call request .done

@[simp] theorem done_bind {α β : Type w} (value : α) (next : α → Dialogue C A β) :
    (Dialogue.done value >>= next) = next value := rfl

@[simp] theorem pure_eq (value : α) : (pure value : Dialogue C A α) = .done value := rfl

@[simp] theorem call_bind {α β : Type w} (request : C) (rest : A request → Dialogue C A α)
    (next : α → Dialogue C A β) :
    (Dialogue.call request rest >>= next) = .call request fun answer => rest answer >>= next := rfl

@[simp] theorem ask_bind {A : C → Type w} {β : Type w} (request : C)
    (next : A request → Dialogue C A β) : (ask request >>= next) = .call request next := rfl

/-! ## Known answers -/

section

variable (answer : (request : C) → A request)

def run : Dialogue C A α → α
  | .done value => value
  | .call request rest => (rest (answer request)).run

/-- The calls that are made. -/
def calls : Dialogue C A α → List C
  | .done _ => []
  | .call request rest => request :: (rest (answer request)).calls

@[simp] theorem run_done (value : α) : (done value : Dialogue C A α).run answer = value := rfl

@[simp] theorem run_call (request : C) (rest : A request → Dialogue C A α) :
    (call request rest).run answer = (rest (answer request)).run answer := rfl

@[simp] theorem calls_done (value : α) : (done value : Dialogue C A α).calls answer = [] := rfl

@[simp] theorem calls_call (request : C) (rest : A request → Dialogue C A α) :
    (call request rest).calls answer = request :: (rest (answer request)).calls answer := rfl

theorem run_ite (condition : Prop) [Decidable condition] (first second : Dialogue C A α) :
    (if condition then first else second).run answer =
      if condition then first.run answer else second.run answer := by
  split <;> rfl

@[simp] theorem run_bind {α β : Type w} (program : Dialogue C A α) (next : α → Dialogue C A β) :
    (program >>= next).run answer = (next (program.run answer)).run answer := by
  induction program with
  | done value => rfl
  | call request rest inductionHypothesis => exact inductionHypothesis (answer request)

@[simp] theorem calls_bind {α β : Type w} (program : Dialogue C A α)
    (next : α → Dialogue C A β) : (program >>= next).calls answer =
      program.calls answer ++ (next (program.run answer)).calls answer := by
  induction program with
  | done value => rfl
  | call request rest inductionHypothesis =>
    exact congrArg (request :: ·) (inductionHypothesis (answer request))

end

/-! ## The world -/

variable (C A σ) in
/-- What answers the calls, and what the others may do. -/
structure World where
  answers (request : C) (state : σ) (answer : A request) (after : σ) : Prop
  others : σ → σ → Prop

variable {world : World C A σ} {allowed : C → σ → σ → Prop}

/-- A condition that the others keep. -/
def World.Stable (world : World C A σ) (holds : σ → Prop) : Prop :=
  ∀ {state after}, world.others state after → holds state → holds after

theorem World.Stable.star {holds : σ → Prop} (stable : world.Stable holds) {state after : σ}
    (moved : ReflTransGen world.others state after) (initial : holds state) : holds after := by
  induction moved with
  | refl => exact initial
  | tail _ last inductionHypothesis => exact stable last inductionHypothesis

/-- The calls that are made are allowed, and the end satisfies the postcondition. -/
def Safe (world : World C A σ) (allowed : C → σ → σ → Prop) (post : α → σ → Prop) :
    Dialogue C A α → σ → Prop
  | .done value, state => ∀ after, ReflTransGen world.others state after → post value after
  | .call request rest, state => ∀ mid, ReflTransGen world.others state mid →
      ∀ answer after, world.answers request mid answer after →
        allowed request mid after ∧ Safe world allowed post (rest answer) after

namespace Safe

variable {post : α → σ → Prop} {program : Dialogue C A α} {state after : σ}

/-- The others do not make a program unsafe. -/
theorem settle (safe : Safe world allowed post program state)
    (moved : ReflTransGen world.others state after) : Safe world allowed post program after := by
  cases program with
  | done value => exact fun last more => safe last (moved.trans more)
  | call request rest => exact fun mid more => safe mid (moved.trans more)

theorem finished {value : α} (safe : Safe world allowed post (.done value) state) :
    post value state := safe state .refl

/-- One call of a program, and the program after it. -/
theorem answered {request : C} {rest : A request → Dialogue C A α}
    (safe : Safe world allowed post (.call request rest) state) {answer : A request}
    (answers : world.answers request state answer after) :
    allowed request state after ∧ Safe world allowed post (rest answer) after :=
  safe state .refl answer after answers

theorem bind {α β : Type w} {program : Dialogue C A α} {next : α → Dialogue C A β}
    {mid : α → σ → Prop} {post : β → σ → Prop} (first : Safe world allowed mid program state)
    (second : ∀ value state, mid value state → Safe world allowed post (next value) state) :
    Safe world allowed post (program >>= next) state := by
  induction program generalizing state with
  | done value => exact second value state first.finished
  | call request rest inductionHypothesis =>
    intro between moved answer after answers
    obtain ⟨kept, safe⟩ := first between moved answer after answers
    exact ⟨kept, inductionHypothesis answer safe⟩

end Safe

/-! ## Rules -/

/-- From every state of the precondition the program is safe. -/
def Ensures (world : World C A σ) (allowed : C → σ → σ → Prop) (pre : σ → Prop)
    (program : Dialogue C A α) (post : α → σ → Prop) : Prop :=
  ∀ state, pre state → Safe world allowed post program state

namespace Ensures

variable {pre : σ → Prop}

theorem done {value : α} {post : α → σ → Prop} (stable : world.Stable pre)
    (holds : ∀ state, pre state → post value state) :
    Ensures world allowed pre (.done value) post :=
  fun _ initial after moved => holds after (stable.star moved initial)

theorem call {request : C} {rest : A request → Dialogue C A α} {post : α → σ → Prop}
    (mid : A request → σ → Prop) (stable : world.Stable pre)
    (kept : ∀ {state answer after}, pre state → world.answers request state answer after →
      allowed request state after ∧ mid answer after)
    (next : ∀ answer, Ensures world allowed (mid answer) (rest answer) post) :
    Ensures world allowed pre (.call request rest) post := by
  intro state initial between moved answer after answers
  obtain ⟨allows, holds⟩ := kept (stable.star moved initial) answers
  exact ⟨allows, next answer after holds⟩

theorem bind {α β : Type w} {program : Dialogue C A α} {next : α → Dialogue C A β}
    {post : β → σ → Prop} (mid : α → σ → Prop) (first : Ensures world allowed pre program mid)
    (second : ∀ value, Ensures world allowed (mid value) (next value) post) :
    Ensures world allowed pre (program >>= next) post :=
  fun state initial => (first state initial).bind fun value between holds =>
    second value between holds

end Ensures

end Dialogue

end Scd.Foundation
