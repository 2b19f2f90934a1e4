import Scd.Verified.Sessions
import Scd.Verified.Settlement

/-! # Claimed outputs stay pressed

The count of an output is the number of its claims as long as every release is honest.  The
mapper is not honest in one case: a global binding whose claim was cancelled by a full
release stays active, and when it ends it gives back an output that by then somebody else
may claim.  `Mapper.Fair` excludes that case for one frame; in runs of fair frames an output
is released by its last claimant only, or by a full release.
-/

namespace Scd.Daemon

open Scd.Core Scd.Foundation

section

variable {F : Type} [Scalar F]

/-! ## Fair frames -/

/-- The loop over the global bindings comes to the binding at this position. -/
def Mapper.ComesTo (mapper : Mapper F) (buttons : Buttons) (position : Nat) : Prop :=
  ∀ earlier binding, earlier < position →
    mapper.config.globalBindings[earlier]? = some binding →
    binding.pressed buttons mapper.previousButtons = true →
    interrupts mapper.config mapper.activeMode binding = false

/-- Somebody claims the output when the loop comes to the position: with a claim that no
    earlier binding of the loop gives back, or by a binding that is pressed before. -/
def Mapper.Contested (mapper : Mapper F) (claims : List (Owner × HeldOutput)) (buttons : Buttons)
    (position : Nat) (output : HeldOutput) : Prop :=
  (∃ owner, (owner, output) ∈ claims ∧ ∀ earlier binding, owner = .global earlier →
    earlier < position → mapper.config.globalBindings[earlier]? = some binding →
    binding.allActive buttons = true) ∨
  ∃ earlier binding, earlier < position ∧
    mapper.config.globalBindings[earlier]? = some binding ∧
    binding.pressed buttons mapper.previousButtons = true ∧ binding.held = some output

/-- No active global binding ends in this frame while its own claim is cancelled and somebody
    else claims its output. -/
def Mapper.Fair (mapper : Mapper F) (claims : List (Owner × HeldOutput)) (buttons : Buttons) :
    Prop :=
  ∀ position binding runtime output,
    mapper.config.globalBindings[position]? = some binding →
    mapper.global[position]? = some runtime → runtime.active = true →
    binding.allActive buttons = false → binding.held = some output →
    (.global position, output) ∉ claims → mapper.ComesTo buttons position →
    ¬ mapper.Contested claims buttons position output

omit [Scalar F] in
/-- The turn is not a frame, or it is a fair one. -/
def Transition.Fair (transition : Transition F) (claims : List (Owner × HeldOutput)) : Prop :=
  ∀ state now, transition.input = .event (.state state) now →
    transition.before.mapper.Fair claims state.buttons

/-! ## Fair frames are honest -/

omit [Scalar F] in
/-- A claim of a visited binding that has ended does not stand any more. -/
theorem ended_unclaimed {mapper : Mapper F} {visible : Bool} {claims : List (Owner × HeldOutput)}
    (state : ControllerState F) {done rest : List (GlobalBinding × Nat)} (wf : mapper.Wf)
    (settled : Settled mapper visible claims)
    (split : mapper.config.globalBindings.zipIdx = done ++ rest) {binding : GlobalBinding}
    {position : Nat} (member : (binding, position) ∈ done)
    (ended : binding.allActive state.buttons = false) (output : HeldOutput) :
    (.global position, output) ∉ Ledger.claims claims (done.flatMap
      (visitEvents (mapper.receive state) state.buttons mapper.previousButtons)) := by
  intro stands
  obtain ⟨runtime, _, none | entitled⟩ :=
    visited_settled state wf split member (settled.globals position)
  · rw [← Ledger.mem_ownedBy, none] at stands
    cases stands
  · rw [← Ledger.mem_ownedBy, entitled, ended, Bool.and_false, if_neg Bool.false_ne_true] at stands
    cases stands

omit [Scalar F] in
theorem mem_visitEvents {start : Mapper F} {buttons previousButtons : Buttons}
    {item : GlobalBinding × Nat} {owner : Owner} {output : HeldOutput}
    (emitted : .claim owner output ∈ visitEvents start buttons previousButtons item) :
    owner = .global item.2 ∧ item.1.pressed buttons previousButtons = true ∧
      item.1.held = some output := by
  unfold visitEvents at emitted
  cases found : start.global[item.2]? with
  | none => simp [found] at emitted
  | some runtime =>
    simp only [found, Option.map_some, Option.getD_some, globalEvents] at emitted
    split at emitted
    · next pressed =>
      obtain ⟨held, isHeld, same⟩ := Option.map_eq_some_iff.mp (Option.mem_toList.mp emitted)
      cases same
      exact ⟨rfl, pressed, isHeld⟩
    · split at emitted
      · obtain ⟨held, _, same⟩ := Option.map_eq_some_iff.mp (Option.mem_toList.mp emitted)
        cases same
      · cases emitted

omit [Scalar F] in
/-- In a fair frame a binding that ends gives back its own claim, or what nobody claims. -/
theorem end_honest {mapper : Mapper F} {visible : Bool} {claims : List (Owner × HeldOutput)}
    {state : ControllerState F} {done rest : List (GlobalBinding × Nat)} (wf : mapper.Wf)
    (settled : Settled mapper visible claims) (fair : mapper.Fair claims state.buttons)
    {binding : GlobalBinding} {runtime : GlobalState} {output : HeldOutput}
    (split : mapper.config.globalBindings.zipIdx = done ++ (binding, done.length) :: rest)
    (calm : ∀ item ∈ done, item.1.pressed state.buttons mapper.previousButtons = true →
      interrupts mapper.config mapper.activeMode item.1 = false)
    (found : mapper.global[done.length]? = some runtime) (active : runtime.active = true)
    (ended : binding.allActive state.buttons = false) (held : binding.held = some output) :
    Ledger.Honest (Ledger.claims claims (done.flatMap
        (visitEvents (mapper.receive state) state.buttons mapper.previousButtons)))
      (.unclaim (.global done.length) output) := by
  have present := (zipIdx_split split).2
  by_cases stands : (.global done.length, output) ∈ claims
  · left
    have unvisited : ∀ item ∈ done, Owner.global item.2 ≠ .global done.length := by
      intro item member same
      have lt := (zipIdx_before split member).1
      rw [Owner.global.injEq] at same
      omega
    rw [← Ledger.mem_ownedBy,
      ownedBy_unvisited (mapper.receive state) state.buttons mapper.previousButtons unvisited]
    exact Ledger.mem_ownedBy.mpr stands
  · right
    rw [Ledger.holders_eq_zero_iff]
    intro owner claimed
    have comesTo : mapper.ComesTo state.buttons done.length := by
      intro other otherBinding lt here pressed
      exact calm _ (mem_zipIdx_done split lt here) pressed
    apply fair done.length binding runtime output present found active ended held stands comesTo
    rcases Ledger.mem_claims claimed with old | new
    · -- a claim of an earlier frame, which no earlier binding has given back
      refine .inl ⟨owner, old, ?_⟩
      rintro other otherBinding rfl lt here
      by_contra up
      exact ended_unclaimed state wf settled split (mem_zipIdx_done split lt here)
        (Bool.eq_false_iff.mpr up) output claimed
    · obtain ⟨⟨otherBinding, other⟩, member, emitted⟩ := List.mem_flatMap.mp new
      obtain ⟨rfl, pressed, isHeld⟩ := mem_visitEvents emitted
      obtain ⟨lt, here⟩ := zipIdx_before split member
      exact .inr ⟨other, otherBinding, lt, here, pressed, isHeld⟩

omit [Scalar F] in
/-- The global bindings of a fair frame are honest. -/
theorem visits_honest {mapper : Mapper F} {visible : Bool} {claims : List (Owner × HeldOutput)}
    {state : ControllerState F} {done rest : List (GlobalBinding × Nat)} (wf : mapper.Wf)
    (settled : Settled mapper visible claims) (fair : mapper.Fair claims state.buttons)
    (split : mapper.config.globalBindings.zipIdx = done ++ rest)
    (calm : ∀ item ∈ done, item.1.pressed state.buttons mapper.previousButtons = true →
      interrupts mapper.config mapper.activeMode item.1 = false) :
    Ledger.Every Ledger.Honest claims
      (done.flatMap (visitEvents (mapper.receive state) state.buttons mapper.previousButtons)) := by
  -- by induction on the bindings visited so far; the claims at each turn are those after them
  induction done using List.reverseRecOn generalizing rest with
  | nil => trivial
  | append_singleton done item inductionHypothesis =>
    rw [List.append_assoc, List.singleton_append] at split
    have calmBefore : ∀ item ∈ done, item.1.pressed state.buttons mapper.previousButtons = true →
        interrupts mapper.config mapper.activeMode item.1 = false := fun item member =>
      calm item (List.mem_append_left _ member)
    rw [List.flatMap_append, List.flatMap_singleton, Ledger.every_append]
    refine ⟨inductionHypothesis split calmBefore, ?_⟩
    obtain ⟨binding, position⟩ := item
    obtain rfl : position = done.length := (zipIdx_split split).1
    cases found : mapper.global[done.length]? with
    | none =>
      rw [show visitEvents (mapper.receive state) state.buttons mapper.previousButtons
        (binding, done.length) = [] by simp [visitEvents, Mapper.receive, found]]
      trivial
    | some runtime =>
      rw [show visitEvents (mapper.receive state) state.buttons mapper.previousButtons
        (binding, done.length) = globalEvents binding runtime state.buttons mapper.previousButtons
          done.length by simp [visitEvents, Mapper.receive, found], globalEvents]
      split
      · cases binding.held <;> trivial
      · split
        · next ends =>
          rw [Bool.and_eq_true, Bool.not_eq_true'] at ends
          cases held : binding.held with
          | none => trivial
          | some output =>
            exact ⟨end_honest wf settled fair split calmBefore found ends.1 ends.2 held, trivial⟩
        · trivial

/-! ## The other loops are honest -/

theorem osk_honest {start : Mapper F} {buttons reserved : Buttons} {pass : Pass F}
    {claims : List (Owner × HeldOutput)}
    (done : OskDone start buttons reserved start.config.oskBindings.entries pass)
    (accounted : Accounted start claims) : Ledger.Every Ledger.Honest claims pass.log.events := by
  rw [done.events]
  apply Ledger.honest_flatMap fun entry : Button × KeyCode => Owner.osk entry.1
  · have owners := start.config.oskBindings.nodup.map fun _ _ same => Owner.osk.inj same
    rwa [List.map_map] at owners
  · intro entry _ event emitted
    exact concerns_oskEvents emitted
  · intro entry _
    unfold oskEvents
    split <;> simp
  · intro entry member owner output given
    unfold oskEvents at given
    split at given
    · cases given
    · next differs =>
      -- the input was pressed, and is entitled to its key
      cases pressed : oskPressed buttons reserved entry.1 with
      | true => simp [pressed, heldEvent] at given
      | false =>
        rw [pressed] at given differs
        obtain ⟨rfl, rfl⟩ : owner = .osk entry.1 ∧ output = .key entry.2 := by
          simpa [heldEvent] using given
        have active : start.oskActive.contains entry.1 = true := by simpa using differs
        have bound : start.config.oskBindings.get? entry.1 = some entry.2 :=
          IndexMap.get?_eq_some_iff.mpr member
        rw [← Ledger.mem_ownedBy, accounted.osk, Mapper.oskHeld, if_pos active, bound]
        exact List.mem_singleton_self _

theorem released_honest {start : Mapper F} {buttons reserved captured : Buttons} {pass : Pass F}
    {claims : List (Owner × HeldOutput)}
    (released : RoutesReleased start buttons reserved captured 0 pass)
    (accounted : Accounted start claims) : Ledger.Every Ledger.Honest claims pass.log.events := by
  rw [released.events]
  apply Ledger.honest_flatMap fun route : ActiveRoute => Owner.route route.trigger
  · have triggers : ((start.routes.filter
        (Mapper.routeEnds buttons reserved captured)).reverse.map ActiveRoute.trigger).Nodup := by
      rw [List.map_reverse, List.nodup_reverse]
      exact accounted.triggers.sublist (List.filter_sublist.map _)
    have owners := triggers.map fun _ _ same => Owner.route.inj same
    rwa [List.map_map] at owners
  · intro route _ event emitted
    obtain ⟨output, _, rfl⟩ := Option.map_eq_some_iff.mp (Option.mem_toList.mp emitted)
    exact fun owner => rfl
  · intro route _
    cases route.held <;> simp
  · intro route member owner output given
    obtain ⟨held, isHeld, same⟩ := Option.map_eq_some_iff.mp (Option.mem_toList.mp given)
    cases same
    have active : route ∈ start.routes := (List.mem_filter.mp (List.mem_reverse.mp member)).1
    rw [← Ledger.mem_ownedBy, accounted.routes, routeHeld_toList accounted.triggers]
    exact List.mem_filterMap.mpr ⟨route, List.mem_filter.mpr ⟨active, decide_eq_true rfl⟩, isHeld⟩

theorem started_honest {start : Mapper F} {buttons previousButtons : Buttons}
    {done : List Candidate} {pass : Pass F} (claims : List (Owner × HeldOutput))
    (past : StartsDone start buttons previousButtons done pass) :
    Ledger.Every Ledger.Honest claims pass.log.events := by
  rw [past.events]
  apply Ledger.honest_flatMap fun candidate : Candidate => Owner.route candidate.trigger
  · have owners := (nodup_firsts Candidate.trigger (fun candidate =>
      candidate.eligible buttons previousButtons && !start.busy candidate.trigger) done).map
        fun _ _ same => Owner.route.inj same
    rwa [List.map_map] at owners
  · intro candidate _ event emitted
    obtain ⟨output, _, rfl⟩ := Option.map_eq_some_iff.mp (Option.mem_toList.mp emitted)
    exact fun owner => rfl
  · intro candidate _
    cases candidate.held <;> simp
  · intro candidate _ owner output given
    obtain ⟨held, _, same⟩ := Option.map_eq_some_iff.mp (Option.mem_toList.mp given)
    cases same

theorem allGlobals_honest {mapper : Mapper F} {state : ControllerState F} {globals : GlobalPass F}
    {visible : Bool} {claims : List (Owner × HeldOutput)} (wf : mapper.Wf)
    (settled : Settled mapper visible claims) (fair : mapper.Fair claims state.buttons)
    (all : AllGlobals mapper state globals) :
    Ledger.Every Ledger.Honest claims globals.log.events := by
  have calm := GlobalsDone.calm all
  rw [GlobalsDone.events all]
  exact visits_honest wf settled fair (List.append_nil _).symm calm

theorem cancel_honest (claims : List (Owner × HeldOutput)) :
    Ledger.Every Ledger.Honest claims [.cancel] := ⟨trivial, trivial⟩

theorem FrameKind.honest {mapper : Mapper F} {state : ControllerState F} {visible stopped : Bool}
    {pass : Pass F} {claims : List (Owner × HeldOutput)}
    (kind : FrameKind mapper state visible pass stopped) (wf : mapper.Wf)
    (settled : Settled mapper visible claims) (fair : mapper.Fair claims state.buttons) :
    Ledger.Every Ledger.Honest claims pass.log.events := by
  cases kind with
  | globalsCut cut =>
    obtain ⟨done, binding, position, rest, before, runtime, split, _, past, step⟩ := cut
    have honest : Ledger.Every Ledger.Honest claims before.log.events := by
      rw [past.events]
      exact visits_honest wf settled fair split past.calm
    cases step with
    | toggle => simpa [GlobalPass.append, GlobalPass.visit] using honest
    | switch _ _ _ _ changed =>
      simp only [GlobalPass.append, GlobalPass.visit, events_append, events_fire, events_nil,
        List.append_nil, changed.events, Ledger.every_append]
      exact ⟨honest, cancel_honest _⟩
  | keyboard _ all done aside =>
    rw [aside.events, events_append, Ledger.every_append]
    exact ⟨allGlobals_honest wf settled fair all,
      osk_honest done (AllGlobals.accounted all settled.toAccounted)⟩
  | startsCut _ all ended _ cut =>
    obtain ⟨done, candidate, rest, before, _, past, step⟩ := cut
    have settle := AllGlobals.settle_accounted all settled.toAccounted
    have released := released_honest ended settle
    cases step with
    | switch _ _ changed =>
      simp only [events_append, events_start, changed.events, Ledger.every_append]
      exact ⟨allGlobals_honest wf settled fair all, released, started_honest _ past,
        cancel_honest _⟩
  | bindings _ all ended _ starts aside =>
    have settle := AllGlobals.settle_accounted all settled.toAccounted
    rw [aside.events, events_append, events_append, Ledger.every_append, Ledger.every_append]
    exact ⟨allGlobals_honest wf settled fair all, released_honest ended settle,
      started_honest _ starts⟩

/-! ## Honest releases -/

omit [Scalar F] in
/-- Every release is that of the last claim, or a part of a full release. -/
def Log.Justified (log : Log F) : Prop :=
  ∀ (before : Log F) (output : HeldOutput) after,
    log = before ++ .output (output.output false) :: after →
    (∃ earlier owner, before = earlier ++ [.note (.unclaim owner output)] ∧
      (owner, output) ∈ Log.claims earlier ∧ ∀ other, (other, output) ∉ before.claims) ∨
    ∃ earlier released, before = earlier ++ .note .cancel :: released ∧
      ∀ entry ∈ released, ∃ pushed, entry = .output pushed

/-- The counts are the numbers of claims, and every release is justified. -/
structure Exact (past : Log F) (mapper : Mapper F) : Prop where
  count : ∀ output, RefCount.count mapper.held output = Ledger.holders past.claims output
  justified : past.Justified

omit [Scalar F] in
/-- Releases are looked at only where they are added. -/
theorem Log.Justified.append {past more : Log F} (justified : past.Justified)
    (added : ∀ (mid : Log F) (output : HeldOutput) after,
      more = mid ++ .output (output.output false) :: after →
      (∃ earlier owner, past ++ mid = earlier ++ [.note (.unclaim owner output)] ∧
        (owner, output) ∈ Log.claims earlier ∧ ∀ other, (other, output) ∉ Log.claims (past ++ mid)) ∨
      ∃ earlier released, past ++ mid = earlier ++ .note .cancel :: released ∧
        ∀ entry ∈ released, ∃ pushed, entry = .output pushed) : Log.Justified (past ++ more) := by
  intro before output after split
  rcases split_append split with ⟨rest, old⟩ | ⟨mid, rfl, new⟩
  · exact justified before output rest old
  · exact added mid output after new

omit [Scalar F] in
theorem Log.Justified.append_silent {past more : Log F} (justified : past.Justified)
    (silent : more.strokes = []) : Log.Justified (past ++ more) := by
  apply justified.append
  intro mid output after split
  have stroke : (output, false) ∈ more.strokes := by
    rw [split, logStrokes_append]
    simp [Log.strokes]
  rw [silent] at stroke
  cases stroke

theorem releaseOutputs_entries (mapper : Mapper F) :
    ∃ released, mapper.releaseOutputs.2 = .note .cancel :: released ∧
      ∀ entry ∈ released, ∃ pushed, entry = .output pushed := by
  have axes : ∀ (value : GamepadAxis → F) set (mapper : Mapper F),
      ∀ entry ∈ (Mapper.setGamepadAxes value set mapper).2, ∃ pushed, entry = .output pushed := by
    intro value set
    induction set with
    | nil => simp [Mapper.setGamepadAxes]
    | cons first rest inductionHypothesis =>
      intro mapper entry member
      rw [Mapper.setGamepadAxes] at member
      rcases List.mem_append.mp member with now | later
      · unfold Mapper.setGamepadAxis at now
        split at now
        · cases now
        · exact ⟨_, List.mem_singleton.mp now⟩
      · exact inductionHypothesis _ entry later
  obtain ⟨cleared, _, log, _⟩ := releaseOutputs_log mapper
  rw [List.singleton_append] at log
  refine ⟨_, log, ?_⟩
  intro entry member
  rcases List.mem_append.mp member with held | axis
  · obtain ⟨output, _, rfl⟩ := List.mem_map.mp held
    exact ⟨_, rfl⟩
  · exact axes _ _ cleared entry axis

/-- The releases of a full release follow its note. -/
theorem Log.Justified.release {past : Log F} (justified : past.Justified) (mapper : Mapper F) :
    Log.Justified (past ++ mapper.releaseOutputs.2) := by
  apply justified.append
  intro mid output after split
  right
  obtain ⟨released, log, outputs⟩ := releaseOutputs_entries mapper
  rw [log] at split
  cases mid with
  | nil => cases split
  | cons first mid =>
    rw [List.cons_append, List.cons.injEq] at split
    obtain ⟨rfl, rfl⟩ := split
    exact ⟨past, mid, rfl, fun entry member => outputs entry (List.mem_append_left _ member)⟩

omit [Scalar F] in
/-- Where a claim is given back honestly, the release is that of the last claim. -/
theorem Log.Justified.hold {past : Log F} {held : IndexMap HeldOutput Nat} {owner : Owner}
    {output : HeldOutput} {active : Bool} (justified : past.Justified)
    (count : RefCount.count held output = Ledger.holders past.claims output)
    (honest : Ledger.Honest past.claims (heldEvent owner output active)) :
    Log.Justified (past ++ (heldLog held owner output active : Log F)) := by
  apply justified.append
  intro mid released after split
  left
  unfold heldLog at split
  split at split
  · next edge =>
    -- the only output of the log is its last entry
    obtain ⟨rfl, rest⟩ : mid = [.note (heldNote owner output active)] ∧
        [Entry.output (output.output active)] = .output (released.output false) :: after := by
      cases mid with
      | nil => cases split
      | cons first mid =>
        rw [List.cons_append, List.cons.injEq] at split
        cases mid with
        | nil => exact ⟨by rw [split.1], split.2⟩
        | cons second mid => simp at split
    obtain ⟨rfl, rfl⟩ : output = released ∧ active = false := by
      have stroke := congrArg (Option.map Entry.output?) (congrArg List.head? rest)
      simp only [List.head?_cons, Option.map_some, Entry.output?, Option.some.injEq] at stroke
      have both := congrArg Output.stroke? stroke
      simpa using both
    have one : Ledger.holders past.claims output = 1 := by
      rw [← count]
      simpa [isEdge] using edge
    have stands : (owner, output) ∈ past.claims := by
      rcases honest with stands | unclaimed
      · exact stands
      · omega
    refine ⟨past, owner, rfl, stands, ?_⟩
    rw [← Ledger.holders_eq_zero_iff, claims_append]
    show Ledger.holders (Ledger.claimStep past.claims (.unclaim owner output)) output = 0
    rw [Ledger.holders_unclaim, if_pos ⟨stands, rfl⟩, one]
  · cases mid with
    | nil => cases split
    | cons first mid => simp at split

/-! ## Honest moves are exact -/

theorem Move.exact {past log : Log F} {before after : Mapper F} (move : Move before log after)
    (exact : Exact past before) (honest : Ledger.Every Ledger.Honest past.claims log.events) :
    Exact (past ++ log) after where
  count := by
    intro output
    rw [move.held, claims_append]
    exact Ledger.tally_eq exact.count honest output
  justified := by
    cases move with
    | quiet _ _ _ silent => exact exact.justified.append_silent silent.stream.1
    | hold owner output active =>
      rw [events_heldLog] at honest
      exact exact.justified.hold (exact.count output) honest.1
    | axis axis value => exact exact.justified.append_silent (setGamepadAxis_log before axis value).1
    | release => exact exact.justified.release before

theorem Moves.exact {past log : Log F} {before after : Mapper F} (moves : Moves before log after)
    (exact : Exact past before) (honest : Ledger.Every Ledger.Honest past.claims log.events) :
    Exact (past ++ log) after := by
  induction moves with
  | refl => rwa [List.append_nil]
  | snoc _ move inductionHypothesis =>
    rw [events_append, Ledger.every_append] at honest
    have early := inductionHypothesis honest.1
    rw [← List.append_assoc]
    refine move.exact early ?_
    rw [claims_append]
    exact honest.2

theorem Changed.exact {past log : Log F} {before after : Mapper F}
    (changed : Changed before log after) (exact : Exact past before) : Exact (past ++ log) after where
  count := by
    intro output
    rw [claims_append, changed.claims, changed.held]
    rfl
  justified := by
    obtain ⟨name, haptic, rfl⟩ := changed.log
    rw [← List.append_assoc]
    exact (exact.justified.release before).append_silent rfl

theorem Steps.exact {past log : Log F} {before after : Mapper F} (steps : Steps before log after)
    (exact : Exact past before) (honest : Ledger.Every Ledger.Honest past.claims log.events) :
    Exact (past ++ log) after := by
  cases steps with
  | moves moves => exact Moves.exact moves exact honest
  | changes moves changed =>
    rw [events_append, Ledger.every_append] at honest
    rw [← List.append_assoc]
    exact changed.exact (Moves.exact moves exact honest.1)

theorem Calls.exact {past log : Log F} {before after : Mapper F} (calls : Calls before log after)
    (exact : Exact past before) (honest : Ledger.Every Ledger.Honest past.claims log.events) :
    Exact (past ++ log) after := by
  induction calls with
  | refl => rwa [List.append_nil]
  | snoc _ steps inductionHypothesis =>
    rw [events_append, Ledger.every_append] at honest
    have early := inductionHypothesis honest.1
    rw [← List.append_assoc]
    refine steps.exact early ?_
    rw [claims_append]
    exact honest.2

/-! ## Claims and state -/

omit [Scalar F] in
/-- The active routes that hold an output. -/
def Mapper.holdingRoutes (mapper : Mapper F) (output : HeldOutput) : List ActiveRoute :=
  mapper.routes.filter fun route => route.held = some output

omit [Scalar F] in
/-- The pressed keyboard inputs that are bound to an output. -/
def Mapper.holdingInputs (mapper : Mapper F) (output : HeldOutput) : List (Button × KeyCode) :=
  mapper.config.oskBindings.entries.filter fun entry =>
    mapper.oskActive.contains entry.1 && HeldOutput.key entry.2 = output

omit [Scalar F] in
/-- The routes and inputs that hold an output. -/
def Mapper.claimants (mapper : Mapper F) (output : HeldOutput) : List Owner :=
  (mapper.holdingRoutes output).map (fun route => .route route.trigger) ++
    (mapper.holdingInputs output).map fun entry => .osk entry.1

/-- The claims that stand are those of the active routes, of the pressed keyboard inputs, and
    of some of the active global bindings. -/
structure ClaimsOf (mapper : Mapper F) (claims : List (Owner × HeldOutput)) : Prop where
  route : ∀ trigger output, (.route trigger, output) ∈ claims ↔
    ∃ route ∈ mapper.routes, route.trigger = trigger ∧ route.held = some output
  osk : ∀ input output, (.osk input, output) ∈ claims ↔
    mapper.oskActive.contains input = true ∧
      ∃ key, (input, key) ∈ mapper.config.oskBindings.entries ∧ output = .key key
  global : ∀ position output, (.global position, output) ∈ claims →
    ∃ binding runtime, mapper.config.globalBindings[position]? = some binding ∧
      binding.held = some output ∧ mapper.global[position]? = some runtime ∧ runtime.active = true

omit [Scalar F] in
theorem Accounted.mem_route {mapper : Mapper F} {claims : List (Owner × HeldOutput)}
    (accounted : Accounted mapper claims) (trigger : Button) (output : HeldOutput) :
    (.route trigger, output) ∈ claims ↔
      ∃ route ∈ mapper.routes, route.trigger = trigger ∧ route.held = some output := by
  rw [← Ledger.mem_ownedBy, accounted.routes, routeHeld_toList accounted.triggers]
  simp [and_assoc]

omit [Scalar F] in
theorem Accounted.mem_osk {mapper : Mapper F} {claims : List (Owner × HeldOutput)}
    (accounted : Accounted mapper claims) (input : Button) (output : HeldOutput) :
    (.osk input, output) ∈ claims ↔ mapper.oskActive.contains input = true ∧
      ∃ key, (input, key) ∈ mapper.config.oskBindings.entries ∧ output = .key key := by
  rw [← Ledger.mem_ownedBy, accounted.osk, Option.mem_toList, Mapper.oskHeld]
  split
  · next active =>
    simp only [active, true_and, Option.map_eq_some_iff, IndexMap.get?_eq_some_iff]
    exact exists_congr fun key => and_congr_right fun _ => eq_comm
  · next inactive => simp [inactive]

omit [Scalar F] in
theorem Settled.claimsOf {mapper : Mapper F} {visible : Bool} {claims : List (Owner × HeldOutput)}
    (settled : Settled mapper visible claims) : ClaimsOf mapper claims where
  route := settled.toAccounted.mem_route
  osk := settled.toAccounted.mem_osk
  global := by
    intro position output stands
    rw [← Ledger.mem_ownedBy] at stands
    rcases settled.globals position with none | entitled
    · rw [none] at stands
      cases stands
    · rw [entitled, Option.mem_toList, Mapper.globalHeld] at stands
      split at stands
      · next binding runtime present found =>
        split at stands
        · next active =>
          exact ⟨binding, runtime, present, stands, found, (Bool.and_eq_true _ _ ▸ active).1⟩
        · cases stands
      · cases stands

omit [Scalar F] in
theorem Accounted.nodup_claimants {mapper : Mapper F} {claims : List (Owner × HeldOutput)}
    (accounted : Accounted mapper claims) (output : HeldOutput) :
    (mapper.claimants output).Nodup := by
  have someRoutes : (mapper.holdingRoutes output).Sublist mapper.routes := List.filter_sublist
  have someInputs : (mapper.holdingInputs output).Sublist mapper.config.oskBindings.entries :=
    List.filter_sublist
  have routes := (accounted.triggers.sublist (someRoutes.map _)).map
    fun _ _ same => Owner.route.inj same
  have inputs := (mapper.config.oskBindings.nodup.sublist (someInputs.map _)).map
    fun _ _ same => Owner.osk.inj same
  rw [List.map_map] at routes inputs
  rw [Mapper.claimants, List.nodup_append]
  refine ⟨routes, inputs, ?_⟩
  intro owner isRoute other isInput same
  obtain ⟨route, _, rfl⟩ := List.mem_map.mp isRoute
  obtain ⟨entry, _, rfl⟩ := List.mem_map.mp isInput
  cases same

omit [Scalar F] in
theorem Accounted.claims_claimants {mapper : Mapper F} {claims : List (Owner × HeldOutput)}
    (accounted : Accounted mapper claims) {output : HeldOutput} {owner : Owner}
    (member : owner ∈ mapper.claimants output) : (owner, output) ∈ claims := by
  rcases List.mem_append.mp member with isRoute | isInput
  · obtain ⟨route, holding, rfl⟩ := List.mem_map.mp isRoute
    obtain ⟨active, holds⟩ := List.mem_filter.mp holding
    exact (accounted.mem_route _ _).mpr ⟨route, active, rfl, of_decide_eq_true holds⟩
  · obtain ⟨entry, pressed, rfl⟩ := List.mem_map.mp isInput
    obtain ⟨bound, holds⟩ := List.mem_filter.mp pressed
    simp only [Bool.and_eq_true, decide_eq_true_eq] at holds
    exact (accounted.mem_osk _ _).mpr ⟨holds.1, entry.2, bound, holds.2.symm⟩

omit [Scalar F] in
/-- Routes and keyboard inputs are among those who claim an output. -/
theorem Accounted.le_holders {mapper : Mapper F} {claims : List (Owner × HeldOutput)}
    (accounted : Accounted mapper claims) (output : HeldOutput) :
    (mapper.holdingRoutes output).length + (mapper.holdingInputs output).length ≤
      Ledger.holders claims output := by
  have distinct : ((mapper.claimants output).map fun owner => (owner, output)).Nodup :=
    (accounted.nodup_claimants output).map fun _ _ same => (Prod.mk.inj same).1
  have claiming : ((mapper.claimants output).map fun owner => (owner, output)) ⊆ claims := by
    intro claim member
    obtain ⟨owner, isClaimant, rfl⟩ := List.mem_map.mp member
    exact accounted.claims_claimants isClaimant
  have few := (distinct.subperm claiming).countP_le fun claim => decide (claim.2 = output)
  have all : ((mapper.claimants output).map fun owner => (owner, output)).countP
      (fun claim => claim.2 = output) = (mapper.claimants output).length := by
    rw [List.countP_map, List.countP_eq_length]
    simp
  have length : (mapper.claimants output).length =
      (mapper.holdingRoutes output).length + (mapper.holdingInputs output).length := by
    simp [Mapper.claimants]
  rw [all, length] at few
  exact few

/-! ## Runs of fair frames -/

omit [Scalar F] in
theorem Exact.le_count {past : Log F} {mapper : Mapper F} (exact : Exact past mapper)
    (accounted : Accounted mapper past.claims) (output : HeldOutput) :
    (mapper.holdingRoutes output).length + (mapper.holdingInputs output).length ≤
      RefCount.count mapper.held output := by
  rw [exact.count]
  exact accounted.le_holders output

variable [Platform F]

theorem TurnKind.honest {main : MainLoop F} {input : Input F} {turn : Turn F}
    {claims : List (Owner × HeldOutput)} (kind : TurnKind main input turn) (wf : main.mapper.Wf)
    (settled : Settled main.mapper main.keyboard.visible claims)
    (fair : Transition.Fair ⟨main, input, turn⟩ claims) :
    Ledger.Every Ledger.Honest claims turn.log.events := by
  cases kind with
  | idle _ _ _ _ log =>
    rw [log]
    trivial
  | switch mode _ switches =>
    rcases switchMode_changes wf switches with ⟨_, log⟩ | changed
    · rw [log]
      trivial
    · rw [changed.events]
      exact cancel_honest claims
  | reload config accepted reloads =>
    rw [(changed_of_reload accepted.wellFormed reloads).1.events]
    exact cancel_honest claims
  | @hide session device now turn _ _ _ suspends =>
    have log : turn.log = main.mapper.suspend.2 := congrArg Prod.snd suspends
    rw [log, Mapper.suspend, events_releaseOutputs]
    exact cancel_honest claims
  | @frame state now turn mapper log processes _ logged =>
    obtain ⟨stopped, kind⟩ := process_kind wf processes
    have honest : Ledger.Every Ledger.Honest claims log.events :=
      kind.honest wf settled (fair state now rfl)
    rw [logged, events_append, Ledger.every_append]
    refine ⟨honest, ?_⟩
    split
    · rw [Mapper.suspend, events_releaseOutputs]
      exact cancel_honest _
    · trivial
  | disconnect released =>
    obtain ⟨reset, _, _, log⟩ := releaseAll_cases released
    rw [log, events_releaseOutputs]
    exact cancel_honest claims

omit [Scalar F] [Platform F] in
/-- Every frame of the run is fair, for the claims that stand before it. -/
def FairRun (turns : List (Transition F)) : Prop :=
  ∀ earlier transition later, turns = earlier ++ transition :: later →
    transition.Fair (runLog earlier).claims

theorem Exact.run {config : Config F} {start final : MainLoop F} {turns : List (Transition F)}
    (accepted : config.Accepted) (started : MainLoop.start config = .ok start)
    (run : start.Run turns final) (fair : FairRun turns) : Exact (runLog turns) final.mapper := by
  induction run with
  | refl =>
    have reached := Reached.start accepted started
    refine ⟨?_, ?_⟩
    · intro output
      rw [reached.held]
      rfl
    · intro before output after split
      simp [runLog] at split
  | @snoc mid final early more path turned inductionHypothesis =>
    have fairBefore : FairRun early := by
      intro earlier transition later split
      refine fair earlier transition (later ++ more) ?_
      rw [split, List.append_assoc, List.cons_append]
    have reached := Reached.run accepted started path
    cases turned with
    | @turn input turn stepped =>
      have kind := step_kind stepped
      have honest := kind.honest reached.wf reached.settled (fair early _ [] rfl)
      rw [runLog_snoc]
      exact (kind.calls reached.wf).exact (inductionHypothesis fairBefore) honest

omit [Scalar F] [Platform F] in
/-- Every global binding that ends with this turn has its own claim. -/
def Transition.endsClaimed (transition : Transition F) (claims : List (Owner × HeldOutput)) : Bool :=
  match transition.input with
  | .event (.state state) _ => transition.before.mapper.config.globalBindings.zipIdx.all fun item =>
      item.1.allActive state.buttons || item.1.held.all fun output =>
        (.global item.2, output) ∈ claims ||
          (transition.before.mapper.global[item.2]?).all fun runtime => !runtime.active
  | _ => true

omit [Scalar F] [Platform F] in
/-- A run in which that is so of every turn. -/
def endsClaimed (past : Log F) : List (Transition F) → Bool
  | [] => true
  | transition :: turns =>
    transition.endsClaimed past.claims && endsClaimed (past ++ transition.turn.log) turns

omit [Scalar F] [Platform F] in
theorem fair_of_endsClaimed {transition : Transition F} {claims : List (Owner × HeldOutput)}
    (claimed : transition.endsClaimed claims = true) : transition.Fair claims := by
  intro state now isFrame position binding runtime output present found active ended held unclaimed
  simp only [Transition.endsClaimed, isFrame, List.all_eq_true] at claimed
  have member : (binding, position) ∈ transition.before.mapper.config.globalBindings.zipIdx := by
    rw [List.mem_zipIdx_iff_getElem?]
    exact present
  have stands := claimed _ member
  simp [ended, held, found, active, unclaimed] at stands

omit [Scalar F] [Platform F] in
theorem fairRun_of_endsClaimed {turns : List (Transition F)} (claimed : endsClaimed [] turns = true) :
    FairRun turns := by
  suffices general : ∀ (past : Log F) earlier transition later, endsClaimed past turns = true →
      turns = earlier ++ transition :: later → transition.Fair (past ++ runLog earlier).claims from
    fun earlier transition later split => general [] earlier transition later claimed split
  intro past earlier
  clear claimed
  induction earlier generalizing past turns with
  | nil =>
    rintro transition later claimed rfl
    rw [List.nil_append, endsClaimed, Bool.and_eq_true] at claimed
    simpa [runLog] using fair_of_endsClaimed claimed.1
  | cons first earlier inductionHypothesis =>
    rintro transition later claimed rfl
    rw [List.cons_append, endsClaimed, Bool.and_eq_true] at claimed
    have fair := inductionHypothesis (past ++ first.turn.log) transition later claimed.2 rfl
    rwa [List.append_assoc] at fair

/-- In every run of fair frames, in the state that is reached and in the mapper that a fair
    frame leaves there before the daemon suspends it: an output is counted at least once for
    each active route and each pressed keyboard input that holds it, and is released only
    when the last claim on it is given back, or by a full release. -/
theorem claimed_outputs_stay_pressed {config : Config F} {start final : MainLoop F}
    {turns : List (Transition F)} (accepted : config.Accepted)
    (started : MainLoop.start config = .ok start) (run : start.Run turns final)
    (fair : FairRun turns) :
    (∀ output, (final.mapper.holdingRoutes output).length +
      (final.mapper.holdingInputs output).length ≤ RefCount.count final.mapper.held output) ∧
    ClaimsOf final.mapper (runLog turns).claims ∧
    (runLog turns).Justified ∧
    ∀ state mapper log, final.mapper.Fair (runLog turns).claims state.buttons →
      final.mapper.process state final.keyboard.visible = .ok (mapper, log) →
      (∀ output, (mapper.holdingRoutes output).length + (mapper.holdingInputs output).length ≤
        RefCount.count mapper.held output) ∧ Log.Justified (runLog turns ++ log) := by
  have reached := Reached.run accepted started run
  have exact := Exact.run accepted started run fair
  refine ⟨exact.le_count reached.settled.toAccounted, reached.settled.claimsOf, exact.justified, ?_⟩
  intro state mapper log fairFrame processes
  obtain ⟨stopped, kind⟩ := process_kind reached.wf processes
  have steps := (process_steps reached.wf state final.keyboard.visible).of_ok processes
  have after := steps.exact exact (kind.honest reached.wf reached.settled fairFrame)
  have accounted : Accounted mapper (Ledger.claims (runLog turns).claims log.events) := by
    rcases kind.settles reached.wf reached.settled with ⟨_, accounted⟩ | settled
    · exact accounted
    · exact settled.toAccounted
  rw [← claims_append] at accounted
  exact ⟨after.le_count accounted, after.justified⟩

end

/-- A global binding and an input of the keyboard hold the same key, one after the other. -/
theorem claimed_outputs_stay_pressed_twice :
    ∃ start turns final, MainLoop.start exampleConfig = .ok start ∧ start.Run turns final ∧
      (runLog turns).strokes = [(.key ⟨30⟩, true), (.key ⟨30⟩, false), (.key ⟨30⟩, true)] ∧
      final.mapper.holdingInputs (.key ⟨30⟩) = [(.a, ⟨30⟩)] ∧
      ∀ output, (final.mapper.holdingRoutes output).length +
        (final.mapper.holdingInputs output).length ≤ RefCount.count final.mapper.held output := by
  obtain ⟨⟨start, turns, final⟩, runs, facts⟩ := map_ok
    (show (MainLoop.runsFrom exampleConfig
        [framed [.r5] 0, framed [] 1, framed [.steam] 2, framed [.a] 3]).map (fun run =>
          (endsClaimed [] run.2.1, (runLog run.2.1).strokes,
            run.2.2.mapper.holdingInputs (.key ⟨30⟩))) =
        .ok (true, [(.key ⟨30⟩, true), (.key ⟨30⟩, false), (.key ⟨30⟩, true)], [(.a, ⟨30⟩)]) by
      decide +kernel)
  obtain ⟨started, run⟩ := runsFrom_run runs
  simp only [Prod.mk.injEq] at facts
  obtain ⟨claimed, strokes, holding⟩ := facts
  exact ⟨start, turns, final, started, run, strokes, holding, (claimed_outputs_stay_pressed
    example_accepted started run (fairRun_of_endsClaimed claimed)).1⟩

/-- A global binding whose press a toggle of the keyboard has cancelled ends, and takes the key
    away from the input that has pressed it since. -/
theorem cancelled_global_releases_key :
    ∃ start turns final, MainLoop.start exampleConfig = .ok start ∧ start.Run turns final ∧
      final.mapper.holdingInputs (.key ⟨30⟩) = [(.a, ⟨30⟩)] ∧
      RefCount.count final.mapper.held (.key ⟨30⟩) = 0 ∧
      (runLog turns).strokes = [(.key ⟨30⟩, true), (.key ⟨30⟩, false), (.key ⟨30⟩, true),
        (.key ⟨30⟩, false)] ∧
      ¬ ∀ output, (final.mapper.holdingRoutes output).length +
        (final.mapper.holdingInputs output).length ≤ RefCount.count final.mapper.held output := by
  obtain ⟨⟨start, turns, final⟩, runs, facts⟩ := map_ok
    (show (MainLoop.runsFrom exampleConfig
        [framed [.r5] 0, framed [.r5, .steam] 1, framed [.r5, .a] 2, framed [.a] 3]).map (fun run =>
          (run.2.2.mapper.holdingInputs (.key ⟨30⟩),
            RefCount.count run.2.2.mapper.held (.key ⟨30⟩), (runLog run.2.1).strokes)) =
        .ok ([(.a, ⟨30⟩)], 0, [(.key ⟨30⟩, true), (.key ⟨30⟩, false), (.key ⟨30⟩, true),
          (.key ⟨30⟩, false)]) by
      decide +kernel)
  obtain ⟨started, run⟩ := runsFrom_run runs
  simp only [Prod.mk.injEq] at facts
  obtain ⟨holding, count, strokes⟩ := facts
  refine ⟨start, turns, final, started, run, holding, count, strokes, ?_⟩
  intro stays
  have one := stays (.key ⟨30⟩)
  rw [holding, count] at one
  simp at one

end Scd.Daemon
