import Mathlib.Data.List.Basic

/-! # Total outcomes of fallible programs

A program that can stop with an error is an `Except` value.  `Returns program post`
is its total-correctness triple: the program does not stop with an error and its
value satisfies `post`.  The rules below follow the shape of the program: `pure`,
`bind`, and `loop`, a `for` over a list whose body can break out of it.
-/

namespace Scd.Foundation

universe u v w

variable {ε : Type u} {α β σ : Type v}

/-- `program` ends without an error, in a value that satisfies `post`. -/
def Returns (program : Except ε α) (post : α → Prop) : Prop :=
  ∃ value, program = .ok value ∧ post value

@[simp] theorem ok_bind (value : α) (next : α → Except ε β) :
    ((Except.ok value : Except ε α) >>= next) = next value := rfl

@[simp] theorem error_bind (error : ε) (next : α → Except ε β) :
    ((Except.error error : Except ε α) >>= next) = .error error := rfl

theorem bind_ok {program : Except ε α} {next : α → Except ε β} {result : β}
    (h : program >>= next = .ok result) :
    ∃ value, program = .ok value ∧ next value = .ok result := by
  cases program with
  | error error => cases h
  | ok value => exact ⟨value, rfl, h⟩

/-- From what is known of the result of a program to the result itself. -/
theorem map_ok {program : Except ε α} {view : α → β} {result : β}
    (h : program.map view = .ok result) : ∃ value, program = .ok value ∧ view value = result := by
  cases program with
  | error error => cases h
  | ok value => exact ⟨value, rfl, Except.ok.inj h⟩

theorem map_bind {γ : Type v} (program : Except ε α) (view : α → β) (next : β → Except ε γ) :
    (program.map view >>= next) = program >>= fun value => next (view value) := by
  cases program <;> rfl

/-- What comes after a program only matters on its result. -/
theorem bind_congr_ok {program : Except ε α} {next next' : α → Except ε β}
    (same : ∀ value, program = .ok value → next value = next' value) :
    program >>= next = program >>= next' := by
  cases program with
  | error error => rfl
  | ok value => exact same value rfl

namespace Returns

theorem ok {value : α} {post : α → Prop} (holds : post value) :
    Returns (.ok value : Except ε α) post := ⟨value, rfl, holds⟩

theorem pure {value : α} {post : α → Prop} (holds : post value) :
    Returns (Pure.pure value : Except ε α) post := ⟨value, rfl, holds⟩

theorem bind {program : Except ε α} {next : α → Except ε β} {mid : α → Prop} {post : β → Prop}
    (first : Returns program mid) (rest : ∀ value, mid value → Returns (next value) post) :
    Returns (program >>= next) post := by
  obtain ⟨value, rfl, holds⟩ := first
  exact rest value holds

theorem mono {program : Except ε α} {post post' : α → Prop} (returns : Returns program post)
    (weaken : ∀ value, post value → post' value) : Returns program post' := by
  obtain ⟨value, equal, holds⟩ := returns
  exact ⟨value, equal, weaken value holds⟩

/-- What a program returns satisfies the postcondition. -/
theorem of_ok {program : Except ε α} {post : α → Prop} (returns : Returns program post)
    {value : α} (equal : program = .ok value) : post value := by
  obtain ⟨value', equal', holds⟩ := returns
  rw [equal] at equal'
  cases equal'
  exact holds

theorem exists_ok {program : Except ε α} {post : α → Prop} (returns : Returns program post) :
    ∃ value, program = .ok value := by
  obtain ⟨value, equal, _⟩ := returns
  exact ⟨value, equal⟩

end Returns

/-! ## Folds -/

/-- The position of an item that is read together with its position. -/
theorem zipIdx_split {items : List α} {done rest : List (α × Nat)} {item : α × Nat}
    (split : items.zipIdx = done ++ item :: rest) :
    item.2 = done.length ∧ items[done.length]? = some item.1 := by
  have found : items.zipIdx[done.length]? = some item := by simp [split]
  rw [List.getElem?_zipIdx, Option.map_eq_some_iff] at found
  obtain ⟨value, present, rfl⟩ := found
  exact ⟨Nat.zero_add _, present⟩

/-- The items read before some point are at earlier positions. -/
theorem zipIdx_before {items : List α} {done rest : List (α × Nat)} {item : α × Nat}
    (split : items.zipIdx = done ++ rest) (member : item ∈ done) :
    item.2 < done.length ∧ items[item.2]? = some item.1 := by
  obtain ⟨position, lt, rfl⟩ := List.mem_iff_getElem.mp member
  have found : items.zipIdx[position]? = some done[position] := by
    rw [split, List.getElem?_append_left lt, List.getElem?_eq_getElem lt]
  rw [List.getElem?_zipIdx, Option.map_eq_some_iff] at found
  obtain ⟨value, present, equal⟩ := found
  rw [← equal, Nat.zero_add]
  exact ⟨lt, present⟩

/-- Every item at an earlier position has been read. -/
theorem mem_zipIdx_done {items : List α} {done rest : List (α × Nat)} {item : α} {position : Nat}
    (split : items.zipIdx = done ++ rest) (lt : position < done.length)
    (found : items[position]? = some item) : (item, position) ∈ done := by
  have here : items.zipIdx[position]? = some (item, position) := by
    rw [List.getElem?_zipIdx, found, Option.map_some, Nat.zero_add]
  rw [split, List.getElem?_append_left lt] at here
  exact List.mem_of_getElem? here

/-- Positions read from the last to the first. -/
theorem range_reverse_split {count position : Nat} {done rest : List Nat}
    (split : (List.range count).reverse = done ++ position :: rest) :
    position + 1 + done.length = count := by
  have found : (List.range count).reverse[done.length]? = some position := by simp [split]
  have lt : done.length < count := by
    have := (List.getElem?_eq_some_iff.mp found).1
    simpa using this
  rw [List.getElem?_reverse (by simpa using lt), List.length_range,
    List.getElem?_range (by omega), Option.some.injEq] at found
  omega

/-- What a fold returns, by an invariant of the items read so far. -/
theorem foldlM_ok (invariant : List α → σ → Prop) {body : σ → α → Except ε σ} {start final : σ}
    {items : List α} (folded : items.foldlM body start = .ok final) (base : invariant [] start)
    (step : ∀ done item rest state next, items = done ++ item :: rest →
      body state item = .ok next → invariant done state → invariant (done ++ [item]) next) :
    invariant items final := by
  suffices general : ∀ rest done state, items = done ++ rest → rest.foldlM body state = .ok final →
      invariant done state → invariant items final from general items [] start rfl folded base
  intro rest
  induction rest with
  | nil =>
    intro done state split folded holds
    cases folded
    rwa [split, List.append_nil]
  | cons item rest inductionHypothesis =>
    intro done state split folded holds
    rw [List.foldlM_cons] at folded
    obtain ⟨next, stepped, rested⟩ := bind_ok folded
    refine inductionHypothesis (done ++ [item]) next ?_ rested
      (step done item rest state next split stepped holds)
    rw [split, List.append_assoc, List.singleton_append]

/-- What holds at the end of a fold, and of a state if it holds of the next, held all the time. -/
theorem foldlM_back (clean : σ → Prop) {body : σ → α → Except ε σ} {start final : σ}
    {items : List α} (folded : items.foldlM body start = .ok final)
    (back : ∀ state item next, body state item = .ok next → clean next → clean state)
    (last : clean final) :
    clean start ∧ ∀ item ∈ items, ∃ state next, body state item = .ok next ∧ clean next := by
  induction items generalizing start with
  | nil =>
    cases folded
    exact ⟨last, by simp⟩
  | cons item items inductionHypothesis =>
    rw [List.foldlM_cons] at folded
    obtain ⟨next, stepped, rested⟩ := bind_ok folded
    obtain ⟨cleanNext, each⟩ := inductionHypothesis rested
    refine ⟨back start item next stepped cleanNext, ?_⟩
    intro other member
    cases List.mem_cons.mp member with
    | inl first =>
      subst first
      exact ⟨start, next, stepped, cleanNext⟩
    | inr later => exact each other later

/-- The body has succeeded on every item. -/
theorem foldlM_each {body : σ → α → Except ε σ} {start final : σ} {items : List α}
    (folded : items.foldlM body start = .ok final) :
    ∀ item ∈ items, ∃ state next, body state item = .ok next := by
  intro item member
  obtain ⟨state, next, stepped, _⟩ :=
    (foldlM_back (fun _ => True) folded (fun _ _ _ _ => id) trivial).2 item member
  exact ⟨state, next, stepped⟩

/-! ## Loops with an early exit -/

/-- `for item in items { body }`, where the body threads a state and says whether it
    leaves the loop.  The result says whether the loop was left early. -/
def loop (body : σ → α → Except ε (σ × Bool)) : σ → List α → Except ε (σ × Bool)
  | state, [] => .ok (state, false)
  | state, item :: items => do
    let (state, stop) ← body state item
    if stop then .ok (state, true) else loop body state items

/-- What the iterations of a loop keep.  If the loop is not left early, no iteration leaves it. -/
theorem loop_ok (invariant : σ → Prop) {body : σ → α → Except ε (σ × Bool)} {start final : σ}
    {items : List α} {stop : Bool} (looped : loop body start items = .ok (final, stop))
    (base : invariant start)
    (step : ∀ item state next stopped, body state item = .ok (next, stopped) →
      (stop = false → stopped = false) → invariant state → invariant next) : invariant final := by
  induction items generalizing start with
  | nil =>
    cases looped
    exact base
  | cons item items inductionHypothesis =>
    rw [loop] at looped
    obtain ⟨⟨next, stopped⟩, once, rest⟩ := bind_ok looped
    cases stopped with
    | true =>
      cases rest
      exact step item start _ true once (fun never => nomatch never) base
    | false => exact inductionHypothesis rest (step item start next false once (fun _ => rfl) base)

/-- A loop that is left early ends with the iteration that leaves it. -/
theorem loop_stopped {body : σ → α → Except ε (σ × Bool)} {start final : σ} {items : List α}
    (looped : loop body start items = .ok (final, true)) :
    ∃ state item, body state item = .ok (final, true) := by
  induction items generalizing start with
  | nil => cases looped
  | cons item items inductionHypothesis =>
    rw [loop] at looped
    obtain ⟨⟨next, stopped⟩, once, rest⟩ := bind_ok looped
    cases stopped with
    | true =>
      cases rest
      exact ⟨start, item, once⟩
    | false => exact inductionHypothesis rest

theorem loop_append (body : σ → α → Except ε (σ × Bool)) (state : σ) (first second : List α) :
    loop body state (first ++ second) = loop body state first >>= fun result =>
      if result.2 then .ok (result.1, true) else loop body result.1 second := by
  induction first generalizing state with
  | nil => rfl
  | cons item first inductionHypothesis =>
    rw [List.cons_append, loop, loop]
    cases body state item with
    | error error => rfl
    | ok result =>
      obtain ⟨next, stopped⟩ := result
      cases stopped with
      | true => rfl
      | false => exact inductionHypothesis next

/-- A loop that skips items is a loop over the other items. -/
theorem loop_filter (keep : α → Bool) (body : σ → α → Except ε (σ × Bool)) (state : σ)
    (items : List α) :
    loop (fun state item => if keep item then body state item else .ok (state, false)) state items =
      loop body state (items.filter keep) := by
  induction items generalizing state with
  | nil => rfl
  | cons item items inductionHypothesis =>
    cases kept : keep item with
    | true =>
      rw [List.filter_cons_of_pos kept, loop, loop]
      simp only [kept, if_true, inductionHypothesis]
    | false =>
      rw [List.filter_cons_of_neg (by simp [kept]), loop]
      simp only [kept, Bool.false_eq_true, if_false, ok_bind, inductionHypothesis]

theorem loop_map (f : β → α) (body : σ → α → Except ε (σ × Bool)) (state : σ) (items : List β) :
    loop (fun state item => body state (f item)) state items = loop body state (items.map f) := by
  induction items generalizing state with
  | nil => rfl
  | cons item items inductionHypothesis =>
    rw [List.map_cons, loop, loop]
    simp only [inductionHypothesis]

/-- Two nested loops are one loop. -/
theorem loop_flatMap (f : β → List α) (body : σ → α → Except ε (σ × Bool)) (state : σ)
    (items : List β) :
    loop (fun state item => loop body state (f item)) state items =
      loop body state (items.flatMap f) := by
  induction items generalizing state with
  | nil => rfl
  | cons item items inductionHypothesis =>
    rw [List.flatMap_cons, loop_append, loop]
    simp only [inductionHypothesis]

/-- The loop rule.  `invariant done` holds after the items `done`; an iteration that
    breaks establishes `broken` instead. -/
theorem Returns.loop (invariant : List α → σ → Prop) (broken : σ → Prop)
    {body : σ → α → Except ε (σ × Bool)} {start : σ} {items : List α} (base : invariant [] start)
    (step : ∀ done item rest state, items = done ++ item :: rest → invariant done state →
      Returns (body state item) fun result =>
        if result.2 then broken result.1 else invariant (done ++ [item]) result.1) :
    Returns (loop body start items) fun result =>
      if result.2 then broken result.1 else invariant items result.1 := by
  suffices general : ∀ rest done state, items = done ++ rest → invariant done state →
      Returns (Foundation.loop body state rest) fun result =>
        if result.2 then broken result.1 else invariant items result.1 from
    general items [] start rfl base
  intro rest
  induction rest with
  | nil =>
    intro done state split holds
    rw [List.append_nil] at split
    exact .ok (by simpa [split] using holds)
  | cons item rest inductionHypothesis =>
    intro done state split holds
    refine (step done item rest state split holds).bind ?_
    rintro ⟨next, stop⟩ after
    cases stop with
    | true => exact .ok (by simpa using after)
    | false =>
      refine inductionHypothesis (done ++ [item]) next ?_ (by simpa using after)
      simpa using split

end Scd.Foundation
