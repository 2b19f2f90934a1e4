import Scd.Verified.Advances

/-! # The loops over keyboard inputs and active routes

What `Mapper::process` does to the inputs of the on-screen keyboard when the keyboard is
visible, and to the routes of earlier frames when it is hidden.
-/

namespace Scd.Daemon

open Scd.Core Scd.Foundation

section

variable {F : Type} [Scalar F]

/-! ## On-screen keyboard bindings -/

/-- The input presses its key in this frame. -/
def oskPressed (buttons reserved : Buttons) (input : Button) : Bool :=
  buttons.contains input && !reserved.contains input

def oskNotes (buttons reserved active : Buttons) (binding : Button × KeyCode) : List Note :=
  if oskPressed buttons reserved binding.1 = active.contains binding.1 then []
  else [heldNote (.osk binding.1) (.key binding.2) (oskPressed buttons reserved binding.1)]

/-- The loop has gone past the bindings `done`. -/
structure OskDone (start : Mapper F) (buttons reserved : Buttons) (done : List (Button × KeyCode))
    (pass : Pass F) : Prop where
  advances : Advances false ⟨start, []⟩ pass
  frame : pass.mapper =
    { start with oskActive := pass.mapper.oskActive, held := pass.mapper.held }
  active : ∀ input, pass.mapper.oskActive.contains input =
    if input ∈ done.map Prod.fst then oskPressed buttons reserved input
    else start.oskActive.contains input
  notes : pass.log.notes = done.flatMap (oskNotes buttons reserved start.oskActive)
  untoggled : pass.log.toggles = false

theorem OskDone.start (mapper : Mapper F) (buttons reserved : Buttons) :
    OskDone mapper buttons reserved [] ⟨mapper, []⟩ where
  advances := .refl _
  frame := rfl
  active := by simp
  notes := rfl
  untoggled := rfl

omit [Scalar F] in
/-- The set of pressed inputs follows the visited input. -/
theorem OskStep.active {buttons reserved : Buttons} {pass result : Pass F} {input : Button}
    {key : KeyCode} (step : OskStep buttons reserved pass input key result) (other : Button) :
    result.mapper.oskActive.contains other =
      if other = input then oskPressed buttons reserved input
      else pass.mapper.oskActive.contains other := by
  cases step with
  | idle same =>
    split
    · next equal => rw [equal, ← same, oskPressed]
    · rfl
  | press down free =>
    by_cases equal : other = input
    · simp [equal, oskPressed, down, free]
    · simp [equal]
  | release up =>
    by_cases equal : other = input
    · simp [equal, oskPressed, up]
    · simp [equal]

omit [Scalar F] in
theorem OskStep.notes {buttons reserved : Buttons} {pass result : Pass F} {input : Button}
    {key : KeyCode} (step : OskStep buttons reserved pass input key result) :
    result.log.notes =
      pass.log.notes ++ oskNotes buttons reserved pass.mapper.oskActive (input, key) := by
  cases step with
  | idle same => simp [oskNotes, oskPressed, same]
  | press down free up => simp [oskNotes, oskPressed, down, free, up]
  | release up down => simp [oskNotes, oskPressed, up, down]

omit [Scalar F] in
theorem OskStep.untoggled {buttons reserved : Buttons} {pass result : Pass F} {input : Button}
    {key : KeyCode} (step : OskStep buttons reserved pass input key result) :
    result.log.toggles = pass.log.toggles := by
  cases step <;> simp

omit [Scalar F] in
theorem OskStep.frame {buttons reserved : Buttons} {pass result : Pass F} {input : Button}
    {key : KeyCode} (step : OskStep buttons reserved pass input key result) :
    result.mapper =
      { pass.mapper with oskActive := result.mapper.oskActive, held := result.mapper.held } := by
  cases step <;> rfl

theorem OskDone.step {start : Mapper F} {buttons reserved : Buttons}
    {done : List (Button × KeyCode)} {pass result : Pass F} {input : Button} {key : KeyCode}
    (fresh : input ∉ done.map Prod.fst) (past : OskDone start buttons reserved done pass)
    (step : OskStep buttons reserved pass input key result) :
    OskDone start buttons reserved (done ++ [(input, key)]) result := by
  have unvisited : pass.mapper.oskActive.contains input = start.oskActive.contains input := by
    rw [past.active, if_neg fresh]
  constructor
  case advances => exact past.advances.trans step.advances
  case frame => rw [step.frame, past.frame]
  case active =>
    intro other
    rw [step.active, past.active]
    by_cases same : other = input
    · simp [same]
    · simp only [same, if_false, List.map_append, List.map_cons, List.map_nil, List.mem_append,
        List.mem_singleton, or_false]
  case notes =>
    rw [step.notes, past.notes, List.flatMap_append, List.flatMap_singleton]
    simp only [oskNotes, unvisited]
  case untoggled => rw [step.untoggled, past.untoggled]

theorem oskBindings_done {mapper : Mapper F} (wf : mapper.Wf) (buttons reserved : Buttons) :
    Returns (mapper.oskBindings buttons reserved)
      (OskDone mapper buttons reserved mapper.config.oskBindings.entries) := by
  have looped : Returns (loop (Mapper.oskBinding buttons reserved) ⟨mapper, []⟩
      mapper.config.oskBindings.entries) fun result =>
        if result.2 then False
        else OskDone mapper buttons reserved mapper.config.oskBindings.entries result.1 := by
    refine Returns.loop (OskDone mapper buttons reserved) (fun _ => False)
      (.start mapper buttons reserved) ?_
    rintro done ⟨input, key⟩ rest pass split past
    have fresh : input ∉ done.map Prod.fst := by
      have nodup := mapper.config.oskBindings.nodup
      rw [split, List.map_append, List.map_cons, List.nodup_append] at nodup
      intro member
      exact nodup.2.2 input member input List.mem_cons_self rfl
    refine (oskBinding_steps (past.advances.wf wf).held).mono ?_
    rintro ⟨result, stopped⟩ ⟨rfl, step⟩
    exact past.step fresh step
  refine looped.bind ?_
  rintro ⟨pass, stopped⟩ result
  cases stopped with
  | true => exact result.elim
  | false => exact .pure result

/-! ## Ending routes -/

/-- The loop has still to look at the first `left` routes. -/
structure RoutesReleased (start : Mapper F) (buttons reserved captured : Buttons) (left : Nat)
    (pass : Pass F) : Prop where
  advances : Advances false ⟨start, []⟩ pass
  frame : pass.mapper = { start with
    routes := pass.mapper.routes
    quarantined := pass.mapper.quarantined
    held := pass.mapper.held }
  routes : pass.mapper.routes = start.routes.take left ++
    (start.routes.drop left).filter fun route => !Mapper.routeEnds buttons reserved captured route
  quarantined : ∀ button, pass.mapper.quarantined.contains button = true ↔
    start.quarantined.contains button = true ∨ ∃ route ∈ start.routes.drop left,
      Mapper.routeEnds buttons reserved captured route = true ∧ route.trigger = button ∧
        buttons.contains button = true
  notes : pass.log.notes = ((start.routes.drop left).filter
    (Mapper.routeEnds buttons reserved captured)).reverse.filterMap fun route =>
      route.held.map (.unclaim (.route route.trigger))
  untoggled : pass.log.toggles = false

theorem RoutesReleased.start (mapper : Mapper F) (buttons reserved captured : Buttons) :
    RoutesReleased mapper buttons reserved captured mapper.routes.length ⟨mapper, []⟩ where
  advances := .refl _
  frame := rfl
  routes := by simp
  quarantined := by simp
  notes := by simp
  untoggled := rfl

omit [Scalar F] in
theorem RouteEnd.quarantined {buttons reserved captured : Buttons} {pass result : Pass F}
    {position : Nat} {route : ActiveRoute}
    (step : RouteEnd buttons reserved captured pass position route result) (button : Button) :
    result.mapper.quarantined.contains button = true ↔
      pass.mapper.quarantined.contains button = true ∨
        (Mapper.routeEnds buttons reserved captured route = true ∧ route.trigger = button ∧
          buttons.contains button = true) := by
  have drops : (pass.mapper.dropRoute buttons position route.trigger).quarantined.contains button =
      (pass.mapper.quarantined.contains button ||
        (decide (button = route.trigger) && buttons.contains route.trigger)) := by
    unfold Mapper.dropRoute
    split
    · next down => simp [down]
    · next up => simp [up]
  cases step with
  | keep keeps => simp [keeps]
  | drop ends =>
    rw [drops, ends]
    grind
  | release ends =>
    show (pass.mapper.dropRoute buttons position route.trigger).quarantined.contains button = true ↔ _
    rw [drops, ends]
    grind

omit [Scalar F] in
theorem RouteEnd.frame {buttons reserved captured : Buttons} {pass result : Pass F}
    {position : Nat} {route : ActiveRoute}
    (step : RouteEnd buttons reserved captured pass position route result) :
    result.mapper = { pass.mapper with
      routes := result.mapper.routes
      quarantined := result.mapper.quarantined
      held := result.mapper.held } ∧
    result.mapper.routes =
      if Mapper.routeEnds buttons reserved captured route then pass.mapper.routes.eraseIdx position
      else pass.mapper.routes := by
  cases step with
  | keep keeps => exact ⟨rfl, by simp [keeps]⟩
  | drop ends => exact ⟨rfl, by simp [ends, Mapper.dropRoute]⟩
  | release ends => exact ⟨rfl, by simp [ends, Mapper.dropRoute]⟩

omit [Scalar F] in
theorem RouteEnd.notes {buttons reserved captured : Buttons} {pass result : Pass F}
    {position : Nat} {route : ActiveRoute}
    (step : RouteEnd buttons reserved captured pass position route result) :
    result.log.notes = pass.log.notes ++
        ([route].filter (Mapper.routeEnds buttons reserved captured)).filterMap (fun route =>
          route.held.map (.unclaim (.route route.trigger))) ∧
      result.log.toggles = pass.log.toggles := by
  cases step with
  | keep keeps => simp [keeps]
  | drop ends unheld => simp [ends, unheld]
  | release ends held => simp [ends, held, heldNote]

theorem RoutesReleased.step {start : Mapper F} {buttons reserved captured : Buttons} {left : Nat}
    {pass result : Pass F} {route : ActiveRoute} (found : start.routes[left]? = some route)
    (past : RoutesReleased start buttons reserved captured (left + 1) pass)
    (step : RouteEnd buttons reserved captured pass left route result) :
    RoutesReleased start buttons reserved captured left result := by
  obtain ⟨lt, here⟩ := List.getElem?_eq_some_iff.mp found
  have drop : start.routes.drop left = route :: start.routes.drop (left + 1) := by
    rw [List.drop_eq_getElem_cons lt, here]
  have take : start.routes.take (left + 1) = start.routes.take left ++ [route] := by
    rw [List.take_succ_eq_append_getElem lt, here]
  have length : (start.routes.take left).length = left := by
    rw [List.length_take]
    omega
  constructor
  case advances => exact past.advances.trans step.advances
  case frame => rw [step.frame.1, past.frame]
  case routes =>
    rw [step.frame.2, past.routes, drop, take, List.append_assoc]
    cases ends : Mapper.routeEnds buttons reserved captured route with
    | true =>
      rw [if_pos rfl, List.eraseIdx_append_of_length_le length.le, length]
      simp [ends]
    | false => simp [ends]
  case quarantined =>
    intro button
    rw [step.quarantined, past.quarantined, drop, List.exists_mem_cons_iff, or_assoc]
    exact or_congr_right or_comm
  case notes =>
    rw [step.notes.1, past.notes, drop]
    cases ends : Mapper.routeEnds buttons reserved captured route with
    | true => simp [ends]
    | false => simp [ends]
  case untoggled => rw [step.notes.2, past.untoggled]

theorem releaseRoutes_done {mapper : Mapper F} (wf : mapper.Wf) (buttons reserved captured : Buttons) :
    Returns (mapper.releaseRoutes buttons reserved captured)
      (RoutesReleased mapper buttons reserved captured 0) := by
  have looped : Returns (loop (Mapper.releaseRoute buttons reserved captured) ⟨mapper, []⟩
      (List.range mapper.routes.length).reverse) fun result =>
        if result.2 then False
        else RoutesReleased mapper buttons reserved captured
          (mapper.routes.length - (List.range mapper.routes.length).reverse.length) result.1 := by
    refine Returns.loop (fun done => RoutesReleased mapper buttons reserved captured
      (mapper.routes.length - done.length)) (fun _ => False)
      (.start mapper buttons reserved captured) ?_
    intro done position rest pass split past
    have place := range_reverse_split split
    have lt : position < mapper.routes.length := by omega
    rw [show mapper.routes.length - done.length = position + 1 by omega] at past
    have foundNow : pass.mapper.routes[position]? = some mapper.routes[position] := by
      have taken : position < (mapper.routes.take (position + 1)).length := by
        rw [List.length_take]
        omega
      rw [past.routes, List.getElem?_append_left taken, List.getElem?_take_of_succ,
        List.getElem?_eq_getElem lt]
    refine (releaseRoute_steps (past.advances.wf wf).held foundNow).mono ?_
    rintro ⟨result, stopped⟩ ⟨rfl, step⟩
    rw [show mapper.routes.length - (done ++ [position]).length = position by
      rw [List.length_append, List.length_singleton]
      omega]
    exact past.step (List.getElem?_eq_getElem lt) step
  refine looped.bind ?_
  rintro ⟨pass, stopped⟩ result
  cases stopped with
  | true => exact result.elim
  | false => exact .pure (by simpa using result)

end

end Scd.Daemon
