import Mathlib.Data.List.Basic

/-! # What a history of events says last

The state of a component is often said in terms of its history: what the last event of a kind
was, and what has happened since.
-/

namespace Scd.Foundation

universe u v

variable {Event : Type u} {α : Type v}

/-- What the last event that says something says. -/
def latest (reads : Event → Option α) (events : List Event) : Option α :=
  events.reverse.findSome? reads

@[simp] theorem latest_nil (reads : Event → Option α) : latest reads [] = none := rfl

theorem latest_snoc (reads : Event → Option α) (events : List Event) (event : Event) :
    latest reads (events ++ [event]) = (reads event).or (latest reads events) := by
  rw [latest, List.reverse_append, List.reverse_singleton, List.singleton_append,
    List.findSome?_cons]
  cases reads event <;> rfl

/-- An event that says something is the last one to. -/
theorem latest_reads {reads : Event → Option α} {event : Event} {value : α} (said : reads event = some value)
    (events : List Event) : latest reads (events ++ [event]) = some value := by
  rw [latest_snoc, said, Option.some_or]

/-- An event that says nothing leaves what was said. -/
theorem latest_silent {reads : Event → Option α} {event : Event} (silent : reads event = none)
    (events : List Event) : latest reads (events ++ [event]) = latest reads events := by
  rw [latest_snoc, silent, Option.none_or]

end Scd.Foundation
