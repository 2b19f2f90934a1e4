import Mathlib.Data.List.Basic

/-! # Servers on a stream

A server reads a finite stream in turns.  A turn takes some items, writes an answer and
leaves the rest of the stream to the next turn, or it ends the service with a result.
`run_requests` and `run_ending` describe the whole service by the requests that the stream
is made of, from what one turn does with one request.
-/

namespace Scd.Foundation

universe u v w x y

/-- What one turn does: it goes on with the rest of the stream, or it ends the service. -/
inductive Served (σ : Type u) (α : Type v) (β : Type w) (ρ : Type x) where
  | next (state : σ) (written : List β) (rest : List α)
  | stop (result : ρ)

/-- A server whose every turn that goes on has read something. -/
structure Server (σ : Type u) (α : Type v) (β : Type w) (ρ : Type x) where
  turn : σ → List α → Served σ α β ρ
  reads : ∀ {state input next written rest}, turn state input = .next next written rest →
    rest.length < input.length

namespace Server

variable {σ : Type u} {α : Type v} {β : Type w} {ρ : Type x} {κ : Type y}

/-- All that the server writes, and the result it ends with. -/
def run (server : Server σ α β ρ) (state : σ) (input : List α) : List β × ρ :=
  match turned : server.turn state input with
  | .stop result => ([], result)
  | .next next written rest =>
    have _ : rest.length < input.length := server.reads turned
    (written ++ (server.run next rest).1, (server.run next rest).2)
termination_by input.length

theorem run_stop {server : Server σ α β ρ} {state : σ} {input : List α} {result : ρ}
    (turned : server.turn state input = .stop result) : server.run state input = ([], result) := by
  rw [run]
  split
  · rename_i result' turned'
    rw [turned] at turned'
    cases turned'
    rfl
  · rename_i turned'
    rw [turned] at turned'
    cases turned'

theorem run_next {server : Server σ α β ρ} {state next : σ} {input rest : List α}
    {written : List β} (turned : server.turn state input = .next next written rest) :
    server.run state input =
      (written ++ (server.run next rest).1, (server.run next rest).2) := by
  rw [run]
  split
  · rename_i turned'
    rw [turned] at turned'
    cases turned'
  · rename_i turned'
    rw [turned] at turned'
    cases turned'
    rfl

/-- A turn on a request takes exactly its encoding, whatever follows, and writes one answer. -/
def Handles (server : Server σ α β ρ) (encode : κ → List α) (Answers : κ → List β → Prop) :
    Prop :=
  ∀ state request rest, ∃ next written,
    server.turn state (encode request ++ rest) = .next next written rest ∧
      Answers request written

/-- A stream that begins with requests: their answers in order, and then the service of
    what follows them. -/
theorem run_requests {server : Server σ α β ρ} {encode : κ → List α}
    {Answers : κ → List β → Prop} (handles : server.Handles encode Answers) (state : σ)
    (requests : List κ) (tail : List α) :
    ∃ next answers, List.Forall₂ Answers requests answers ∧
      server.run state (requests.flatMap encode ++ tail) =
        (answers.flatten ++ (server.run next tail).1, (server.run next tail).2) := by
  induction requests generalizing state with
  | nil => exact ⟨state, [], .nil, rfl⟩
  | cons request requests inductionHypothesis =>
    obtain ⟨mid, written, turned, answered⟩ :=
      handles state request (requests.flatMap encode ++ tail)
    obtain ⟨next, answers, others, ran⟩ := inductionHypothesis mid
    refine ⟨next, written :: answers, .cons answered others, ?_⟩
    rw [List.flatMap_cons, List.append_assoc, run_next turned, ran, List.flatten_cons,
      List.append_assoc]

/-- A stream of requests and an ending is answered and ends with the result of the ending. -/
theorem run_ending {server : Server σ α β ρ} {encode : κ → List α}
    {Answers : κ → List β → Prop} (handles : server.Handles encode Answers) (state : σ)
    (requests : List κ) {tail : List α} {result : ρ}
    (ends : ∀ state, server.turn state tail = .stop result) :
    ∃ answers, List.Forall₂ Answers requests answers ∧
      server.run state (requests.flatMap encode ++ tail) = (answers.flatten, result) := by
  obtain ⟨next, answers, answered, ran⟩ := run_requests handles state requests tail
  refine ⟨answers, answered, ?_⟩
  rw [ran, run_stop (ends next), List.append_nil]

/-- If every stream begins with a request or is an ending, every stream is a list of
    requests and an ending. -/
theorem exists_requests {encode : κ → List α} {Ending : List α → ρ → Prop}
    (nonempty : ∀ request, encode request ≠ [])
    (begins : ∀ input, (∃ request rest, input = encode request ++ rest) ∨
      ∃ result, Ending input result) (input : List α) :
    ∃ (requests : List κ) (tail : List α) (result : ρ),
      input = requests.flatMap encode ++ tail ∧ Ending tail result := by
  induction counted : input.length using Nat.strongRecOn generalizing input with
  | ind count inductionHypothesis =>
    rcases begins input with ⟨request, rest, split⟩ | ⟨result, ends⟩
    · have positive : 0 < (encode request).length := List.length_pos_of_ne_nil (nonempty request)
      have shorter : rest.length < count := by
        rw [← counted, split, List.length_append]
        omega
      obtain ⟨requests, tail, result, rested, ends⟩ :=
        inductionHypothesis rest.length shorter rest rfl
      refine ⟨request :: requests, tail, result, ?_, ends⟩
      rw [split, List.flatMap_cons, List.append_assoc, ← rested]
    · exact ⟨[], input, result, rfl, ends⟩

end Server

end Scd.Foundation
