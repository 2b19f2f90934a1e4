import Scd.Core.Parse

/-! # What the helpers read of a node

The helpers of `kdl.rs` see the name of a node, its arguments by position, and its properties.
Nodes that agree on these are read alike, whatever else they hold.
-/

namespace Scd.Core

section

variable {F : Type}

/-- The entries with a name. -/
def KdlNode.written (node : KdlNode F) : List (KdlEntry F) := node.entries.filter (·.name.isSome)

/-- The nodes agree on their names, their first arguments and their properties. -/
structure ReadAlike (arity : Nat) (left right : KdlNode F) : Prop where
  name : left.name = right.name
  span : left.span = right.span
  arguments : ∀ position < arity, left.arguments[position]? = right.arguments[position]?
  written : left.written = right.written

/-- Nodes with the same entries. -/
theorem readAlike_entries (arity : Nat) (name : String) (entries : List (KdlEntry F))
    (children others : List (KdlNode F)) (span : SourceSpan) :
    ReadAlike arity (.mk name entries children span) (.mk name entries others span) :=
  ⟨rfl, rfl, fun _ _ => rfl, rfl⟩

variable {arity : Nat} {left right : KdlNode F}

theorem namedEntry_written (node : KdlNode F) (name : String) :
    node.namedEntry name = (node.written.filter fun entry => entry.name = some name).getLast? := by
  rw [KdlNode.namedEntry, KdlNode.written, List.filter_filter]
  congr 2
  funext entry
  cases entry.name <;> simp

namespace ReadAlike

theorem refl (node : KdlNode F) : ReadAlike arity node node :=
  ⟨rfl, rfl, fun _ _ => rfl, rfl⟩

theorem mono {fewer : Nat} (alike : ReadAlike arity left right) (le : fewer ≤ arity) :
    ReadAlike fewer left right :=
  ⟨alike.name, alike.span, fun position read => alike.arguments position (read.trans_le le),
    alike.written⟩

theorem namedEntry (alike : ReadAlike arity left right) (name : String) :
    left.namedEntry name = right.namedEntry name := by
  rw [namedEntry_written, namedEntry_written, alike.written]

theorem oneOf {T : Type} [Platform F] (alike : ReadAlike arity left right) (value expected : String)
    (table : List (List String × T)) :
    Core.oneOf left value expected table = Core.oneOf right value expected table := by
  simp only [Core.oneOf, alike.span]

theorem argument {T : Type} [FromKdl F T] (alike : ReadAlike arity left right) {position : Nat}
    (read : position < arity) : argument T left position = argument T right position := by
  simp only [Core.argument, alike.arguments position read, alike.name, alike.span]

theorem optionalProperty {T : Type} [FromKdl F T] (alike : ReadAlike arity left right)
    (name : String) : optionalProperty T left name = optionalProperty T right name := by
  simp only [Core.optionalProperty, alike.namedEntry name]

theorem propertyOr {T : Type} [FromKdl F T] (alike : ReadAlike arity left right) (name : String)
    (default : T) : propertyOr left name default = propertyOr right name default := by
  simp only [Core.propertyOr, alike.optionalProperty name]

variable [Platform F]

theorem property {T : Type} [FromKdl F T] (alike : ReadAlike arity left right) (name : String) :
    property T left name = property T right name := by
  simp only [Core.property, alike.namedEntry name, alike.name, alike.span]

end ReadAlike

/-! ## The check of the properties -/

variable [Platform F]

/-- The check passes over arguments. -/
theorem properties_go_written (node : KdlNode F) (allowed : List String)
    (earlier entries : List (KdlEntry F)) :
    properties.go node allowed earlier entries =
      properties.go node allowed (earlier.filter (·.name.isSome)) (entries.filter (·.name.isSome)) := by
  induction entries generalizing earlier with
  | nil => rfl
  | cons entry entries inductionHypothesis =>
    cases named : entry.name with
    | none =>
      rw [List.filter_cons_of_neg (by simp [named])]
      simp only [properties.go, named]
      rw [inductionHypothesis, List.filter_append, List.filter_cons_of_neg (by simp [named]),
        List.filter_nil, List.append_nil]
    | some name =>
      have before : (earlier.any fun other => decide (other.name = some name)) =
          (earlier.filter (·.name.isSome)).any fun other => decide (other.name = some name) := by
        rw [List.any_filter]
        congr 1
        funext other
        cases other.name <;> simp
      rw [List.filter_cons_of_pos (by simp [named])]
      simp only [properties.go, named, before]
      rw [inductionHypothesis, List.filter_append, List.filter_cons_of_pos (by simp [named]),
        List.filter_nil]

theorem properties_go_name (same : left.name = right.name) (allowed : List String)
    (earlier entries : List (KdlEntry F)) :
    properties.go left allowed earlier entries = properties.go right allowed earlier entries := by
  induction entries generalizing earlier with
  | nil => rfl
  | cons entry entries inductionHypothesis => simp only [properties.go, same, inductionHypothesis]

theorem ReadAlike.properties (alike : ReadAlike arity left right) (allowed : List String) :
    properties left allowed = properties right allowed := by
  have written := alike.written
  unfold KdlNode.written at written
  rw [Core.properties, Core.properties, properties_go_written, properties_go_written right, written,
    properties_go_name alike.name]

theorem parseAxisOptions_alike [Scalar F] (alike : ReadAlike arity left right) (source target : String)
    (activation : Option (AxisActivation F)) :
    parseAxisOptions left source target activation = parseAxisOptions right source target activation := by
  simp only [parseAxisOptions, alike.properties, alike.propertyOr, alike.optionalProperty,
    alike.oneOf, alike.span]

/-- After the check every property is one of `allowed`, and none is written twice. -/
theorem properties_ok {node : KdlNode F} {allowed : List String}
    (checked : properties node allowed = .ok ()) :
    (∀ name ∈ node.entries.filterMap KdlEntry.name, name ∈ allowed) ∧
      (node.entries.filterMap KdlEntry.name).Nodup := by
  suffices general : ∀ entries earlier, properties.go node allowed earlier entries = .ok () →
      (∀ name ∈ entries.filterMap KdlEntry.name, name ∈ allowed ∧
        ∀ before ∈ earlier, before.name ≠ some name) ∧ (entries.filterMap KdlEntry.name).Nodup by
    obtain ⟨each, distinct⟩ := general node.entries [] checked
    exact ⟨fun name member => (each name member).1, distinct⟩
  intro entries
  induction entries with
  | nil => simp
  | cons entry entries inductionHypothesis =>
    intro earlier passes
    cases named : entry.name with
    | none =>
      simp only [properties.go, named] at passes
      obtain ⟨each, distinct⟩ := inductionHypothesis _ passes
      rw [List.filterMap_cons_none named]
      refine ⟨fun name member => ?_, distinct⟩
      obtain ⟨isAllowed, fresh⟩ := each name member
      exact ⟨isAllowed, fun before old => fresh before (List.mem_append_left _ old)⟩
    | some name =>
      simp only [properties.go, named] at passes
      split at passes
      · cases passes
      · next isAllowed =>
        split at passes
        · cases passes
        · next fresh =>
          obtain ⟨each, distinct⟩ := inductionHypothesis _ passes
          rw [List.filterMap_cons_some named, List.nodup_cons]
          refine ⟨?_, fun again => ?_, distinct⟩
          · intro other member
            cases List.mem_cons.mp member with
            | inl same =>
              subst same
              refine ⟨not_not.mp isAllowed, fun before old same => fresh ?_⟩
              exact List.any_eq_true.mpr ⟨before, old, decide_eq_true same⟩
            | inr later =>
              obtain ⟨isAllowed, absent⟩ := each other later
              exact ⟨isAllowed, fun before old => absent before (List.mem_append_left _ old)⟩
          · have own : entry ∈ earlier ++ [entry] := List.mem_append_right _ List.mem_cons_self
            exact (each name again).2 entry own named

end

end Scd.Core
