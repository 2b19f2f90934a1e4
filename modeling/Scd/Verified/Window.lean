import Scd.Verified.Surface

/-! # The window and its surface

Every handler asks only for what the compositor allows, and leaves a window that still agrees
with its surface, or ends the program.  So the window follows the monitor in every run.
-/

namespace Scd.Osk

open Scd.Core Scd.Foundation

section

variable {F : Type} [Scalar F] {window : Window F} {phase : Phase F}

/-! ## Drawing -/

omit [Scalar F] in
theorem takeBuffer_sized (answers : Answers) (sized : Sized window) (buffered : Buffered window) :
    (∀ buffer ∈ (window.takeBuffer answers).1, buffer = .ofSize window.renderer.physicalSize) ∧
      ∀ buffer ∈ (window.takeBuffer answers).2, buffer = .ofSize window.renderer.physicalSize := by
  have present : ∀ buffer ∈ window.buffer, buffer = .ofSize window.renderer.physicalSize :=
    fun buffer found => buffered buffer found _ sized.size
  unfold Window.takeBuffer
  cases found : window.buffer with
  | some buffer =>
    have same := present buffer found
    cases answers.canvas <;> cases answers.createAnother <;> simp [same]
  | none =>
    cases answers.createBuffer <;> cases answers.canvas <;> cases answers.createAnother <;> simp

omit [Scalar F] in
theorem ofSize_fits {surface : Surface F} {layer : Nat} (sized : Sized window)
    (of : surface.Of window layer) :
    surface.fits (.ofSize window.renderer.physicalSize) = true := by
  obtain ⟨wide, high⟩ := scaledSize_toNat sized.size
  simp [Surface.fits, Buffer.ofSize, of.size, of.scale, wide, high]

omit [Scalar F] in
/-- The ways in which a drawing ends. -/
theorem draw_cases (window : Window F) (answers : Answers) (layer : Nat) :
    ((window.draw answers layer).error ≠ none ∧
      ((window.draw answers layer).asked = [] ∨
        (window.draw answers layer).asked = [⟨layer, .frame⟩])) ∨
    ∃ kept buffer, window.takeBuffer answers = (kept, some buffer) ∧
      window.draw answers layer = {
        window := { window with
          buffer := kept
          framePending := true
          redrawPending := answers.animationPending }
        asked := [⟨layer, .frame⟩, ⟨layer, .attach buffer ⟨window.keyboard, window.renderer⟩⟩,
          ⟨layer, .commit⟩] } := by
  unfold Window.draw
  rcases window.takeBuffer answers with ⟨kept, _ | buffer⟩
  · exact .inl ⟨by simp, .inl rfl⟩
  dsimp only
  by_cases wrong : buffer.length ≠ window.renderer.pixels * 4
  · rw [if_pos wrong]
    exact .inl ⟨by simp, .inl rfl⟩
  rw [if_neg wrong]
  by_cases fails : (!answers.attach) = true
  · rw [if_pos fails]
    exact .inl ⟨by simp, .inr rfl⟩
  · rw [if_neg fails]
    exact .inr ⟨kept, buffer, rfl, rfl⟩

/-- A drawing is committed with a callback, on a configured surface that owes none. -/
theorem draw_obeys {surface : Surface F} {layer : Nat} (answers : Answers)
    (placed : window.layer = some layer) (visible : window.keyboard.visible = true)
    (of : surface.Of window layer) (configured : window.configured = true)
    (free : window.framePending = false) (sized : Sized window) (buffered : Buffered window) :
    Obeys (window.draw answers layer) (.surface surface) := by
  obtain ⟨keeps, takes⟩ := takeBuffer_sized answers sized buffered
  have callback : surface.callback = false := of.callback.trans free
  have ready : surface.configured = true := of.configured.trans configured
  have asks : surface.asked .frame = some { surface with callback := true } := by
    simp [Surface.asked, callback]
  rcases draw_cases window answers layer with ⟨failed, nothing | frame⟩ | ⟨kept, buffer, taken, drawn⟩
  · refine ⟨.surface surface, ?_, fun none => absurd none failed⟩
    rw [nothing]
    exact Accepts.nil_iff.mpr rfl
  · refine ⟨.surface { surface with callback := true }, ?_, fun none => absurd none failed⟩
    rw [frame]
    exact Accepts.single (by simp [Phase.next, of.name, of.open_, asks])
  rw [taken] at keeps takes
  obtain rfl := takes buffer rfl
  rw [drawn]
  have fits := ofSize_fits sized of
  rw [Surface.fits, decide_eq_true_eq] at fits
  refine ⟨.surface { surface with
      committed := true
      attached := none
      callback := true
      shown := some ⟨window.keyboard, window.renderer⟩ }, ?_, fun _ => ?_⟩
  · simp only [List.map_cons, List.map_nil, Accepts.cons_iff, Accepts.nil_iff]
    refine ⟨.surface { surface with callback := true }, ?_, .surface { surface with
      callback := true
      attached := some (.ofSize window.renderer.physicalSize,
        ⟨window.keyboard, window.renderer⟩) }, ?_, _, ?_, rfl⟩
    · simp [Phase.next, of.name, of.open_, asks]
    · simp [Phase.next, of.name, of.open_, Surface.asked, ready]
    · simp [Phase.next, of.name, of.open_, Surface.asked, Surface.commit, Surface.fits, fits]
  · constructor
    · exact .surface placed visible
        ⟨of.name, of.size, of.scale, rfl, of.configured, rfl, rfl, of.open_⟩
    · exact fun _ => ⟨fun _ => rfl, fun _ => ⟨_, rfl, rfl, .inl rfl⟩⟩
    · exact ⟨sized.size, sized.scale⟩
    · intro buffer found size scaled
      rw [sized.size] at scaled
      cases scaled
      exact keeps buffer found

/-- Where nothing can be drawn now, the surface is as fresh as it was. -/
theorem redraw_obeys (answers : Answers) (placed : Placed window phase)
    (clean : window.redrawPending = false → Fresh window phase) (sized : Sized window)
    (buffered : Buffered window) : Obeys (window.redraw answers) phase := by
  unfold Window.redraw
  cases placed with
  | bare none =>
    have holds : Matches window .bare := ⟨.bare none, trivial, sized, buffered⟩
    split
    · exact obeys_nothing holds
    · rw [none]
      exact obeys_nothing holds
  | surface placed visible of =>
    split
    · rename_i waits
      refine obeys_nothing ⟨.surface placed visible of, ?_, sized, buffered⟩
      intro configured
      simp only [visible, configured, Bool.not_true, Bool.false_or, Bool.or_eq_true,
        Bool.not_eq_true'] at waits
      rcases waits with awaited | idle
      · exact ⟨fun _ => awaited, fun idle => (clean idle configured).2 idle⟩
      · exact clean idle configured
    · rename_i draws
      simp only [Bool.or_eq_true, Bool.not_eq_true', not_or, Bool.not_eq_false,
        Bool.not_eq_true] at draws
      obtain ⟨⟨⟨-, configured⟩, free⟩, -⟩ := draws
      rw [placed]
      exact draw_obeys answers placed visible of configured free sized buffered

omit [Scalar F] in
/-- The same window for the compositor. -/
theorem Placed.congr {other : Window F} (placed : Placed window phase)
    (layer : other.layer = window.layer)
    (visible : window.keyboard.visible = true → other.keyboard.visible = true)
    (size : (other.width, other.height) = (window.width, window.height))
    (scale : other.scale = window.scale) (configured : other.configured = window.configured)
    (pending : other.framePending = window.framePending) : Placed other phase := by
  cases placed with
  | bare none => exact .bare (layer.trans none)
  | surface placed seen of =>
    refine .surface (layer.trans placed) (visible seen) ?_
    exact ⟨of.name, of.size.trans size.symm, of.scale.trans scale.symm, of.committed,
      of.configured.trans configured.symm, of.attached, of.callback.trans pending.symm, of.open_⟩

theorem resizeAndRedraw_obeys (answers : Answers) (placed : Placed window phase)
    (pending : window.redrawPending = true) (buffered : Buffered window) :
    Obeys (window.resizeAndRedraw answers) phase := by
  unfold Window.resizeAndRedraw
  cases resized : window.renderer.resize window.width window.height window.scale with
  | error error => exact ⟨phase, Accepts.nil_iff.mpr rfl, fun none => by cases none⟩
  | ok renderer =>
    obtain ⟨size, scale⟩ := resize_ok resized
    refine redraw_obeys answers (placed.congr rfl id rfl rfl rfl rfl) (fun idle => ?_)
      ⟨size, scale⟩ buffered
    rw [pending] at idle
    cases idle

/-! ## Showing and hiding -/

/-- A window without a surface gets a new one, if there is an output. -/
theorem showLayer_obeys (answers : Answers) (none : window.layer = none)
    (visible : window.keyboard.visible = true) (sized : Sized window)
    (buffered : Buffered window) : Obeys (window.showLayer answers) .bare := by
  unfold Window.showLayer
  rw [none]
  dsimp only
  by_cases outputs : answers.outputs = true
  · rw [if_neg (by simp [outputs])]
    unfold Window.present
    by_cases scales : answers.bufferScale = true
    · rw [if_neg (by simp [scales])]
      refine ⟨.surface { Surface.new answers.surface with
          size := (window.width, window.height)
          scale := window.scale
          committed := true }, ?_, fun _ => ⟨?_, ?_, ⟨sized.size, sized.scale⟩, buffered⟩⟩
      · simp [Accepts, Phase.next, Surface.asked, Surface.commit, Surface.new]
      · exact .surface rfl visible ⟨rfl, rfl, rfl, rfl, rfl, rfl, rfl, rfl⟩
      · exact fun configured => by cases configured
    · rw [if_pos (by simpa using scales)]
      refine ⟨.surface { Surface.new answers.surface with size := (window.width, window.height) },
        ?_, fun none => by cases none⟩
      simp [Accepts, Phase.next, Surface.asked, Surface.new]
  · rw [if_pos (by simpa using outputs)]
    exact obeys_nothing ⟨.bare none, trivial, sized, buffered⟩

/-- The window and the compositor have the same surface. -/
def Held (window : Window F) (phase : Phase F) : Prop :=
  match window.layer with
  | none => phase = .bare
  | some layer => ∃ surface, phase = .surface surface ∧ surface.name = layer

omit [Scalar F] in
theorem Placed.held (placed : Placed window phase) : Held window phase := by
  cases placed with
  | bare none => simp [Held, none]
  | surface placed _ of => simp [Held, placed, of.name]

theorem hide_obeys (held : Held window phase) (sized : Sized window) :
    Obeys window.hide phase := by
  refine ⟨.bare, ?_, fun _ => ⟨.bare rfl, trivial, ⟨sized.size, sized.scale⟩, ?_⟩⟩
  · unfold Held at held
    cases layer : window.layer with
    | none =>
      rw [layer] at held
      simp [Window.hide, layer, Accepts, held]
    | some name =>
      rw [layer] at held
      obtain ⟨surface, rfl, named⟩ := held
      simp [Window.hide, layer, Accepts, Phase.next, named]
  · exact fun _ found => by cases found

/-! ## Handlers -/

theorem update_visible {keyboard after : Keyboard F} {state : OskState F}
    {sent : List KeyboardOutput} {changed : Bool}
    (updated : keyboard.update state = .ok (after, sent, changed)) :
    after.visible = state.visible ∧ changed = keyboard.differs after := by
  obtain ⟨clicks, -, rest⟩ := bind_ok updated
  obtain ⟨⟨typing, stop⟩, -, pure⟩ := bind_ok rest
  cases pure
  exact ⟨rfl, rfl⟩

omit [Scalar F] in
theorem Placed.of_none (placed : Placed window phase) (none : window.layer = none) :
    phase = .bare := by
  cases placed with
  | bare _ => rfl
  | surface some =>
    rw [none] at some
    cases some

omit [Scalar F] in
/-- A hidden keyboard has no surface. -/
theorem Placed.of_hidden (placed : Placed window phase)
    (hidden : window.keyboard.visible = false) : window.layer = none := by
  cases placed with
  | bare none => exact none
  | surface _ seen =>
    rw [hidden] at seen
    cases seen

/-- A new state of the daemon. -/
theorem input_obeys [PartialEquivBEq F] {state : OskState F} {answers : Answers}
    {handled : Handled F} {sent : List KeyboardOutput} (holds : Matches window phase)
    (done : window.input state answers = .ok (handled, sent)) : Obeys handled phase := by
  obtain ⟨⟨keyboard, keys, changed⟩, updated, pure⟩ := bind_ok done
  obtain ⟨visible, changes⟩ := update_visible updated
  have sized : Sized { window with keyboard } := ⟨holds.sized.size, holds.sized.scale⟩
  cases was : window.keyboard.visible <;> cases now : state.visible <;>
    simp only [was, now] at pure <;> cases pure
  -- the keyboard stays hidden
  · have none := holds.placed.of_hidden was
    obtain rfl := holds.placed.of_none none
    exact obeys_nothing ⟨.bare none, trivial, sized, holds.buffered⟩
  · have none := holds.placed.of_hidden was
    obtain rfl := holds.placed.of_none none
    exact log_obeys (showLayer_obeys answers none (visible.trans now) sized holds.buffered)
  · exact hide_obeys holds.placed.held sized
  -- it stays on the screen
  have placed : Placed { window with keyboard } phase :=
    holds.placed.congr rfl (fun _ => visible.trans now) rfl rfl rfl rfl
  by_cases none : window.layer = none
  · obtain rfl := holds.placed.of_none none
    rw [if_pos (by simp [none])]
    exact log_obeys (showLayer_obeys answers none (visible.trans now) sized holds.buffered)
  rw [if_neg (by simpa [Option.isNone_iff_eq_none] using none)]
  by_cases changed : changed = true
  · rw [if_pos changed]
    exact log_obeys (redraw_obeys answers (placed.congr rfl id rfl rfl rfl rfl)
      (fun idle => by cases idle) ⟨sized.size, sized.scale⟩ holds.buffered)
  rw [if_neg changed]
  refine obeys_nothing ⟨placed, ?_, sized, holds.buffered⟩
  have same : window.keyboard.differs keyboard = false := by
    rw [← changes]
    exact Bool.eq_false_iff.mpr changed
  have fresh := holds.fresh
  cases phase with
  | bare => trivial
  | ended => trivial
  | surface surface =>
    intro configured
    obtain ⟨awaited, shows⟩ := fresh configured
    refine ⟨awaited, fun idle => ?_⟩
    obtain ⟨canvas, shown, renderer, alike⟩ := shows idle
    exact ⟨canvas, shown, renderer, alike.unchanged same⟩

theorem disconnected_obeys (holds : Matches window phase) :
    Obeys window.disconnected phase := by
  have sized : Sized { window with keyboard := window.keyboard.disconnect } :=
    ⟨holds.sized.size, holds.sized.scale⟩
  unfold Window.disconnected
  cases was : window.keyboard.visible with
  | true => exact hide_obeys holds.placed.held sized
  | false =>
    have none := holds.placed.of_hidden was
    obtain rfl := holds.placed.of_none none
    exact obeys_nothing ⟨.bare none, trivial, sized, holds.buffered⟩

theorem scaleFactorChanged_obeys (surface : Nat) (factor : Int32) (answers : Answers)
    (holds : Matches window phase) :
    Obeys (window.scaleFactorChanged surface factor answers) phase := by
  have placed := holds.placed
  unfold Window.scaleFactorChanged
  cases placed with
  | bare none =>
    rw [none]
    exact obeys_nothing holds
  | @surface layer current placed visible of =>
    rw [placed]
    dsimp only
    by_cases same : surface ≠ layer ∨ factor ≤ 0 ∨ factor.toUInt32 = window.scale
    · rw [if_pos same]
      exact obeys_nothing holds
    rw [if_neg same]
    refine log_obeys ?_
    by_cases scales : answers.bufferScale = true
    · rw [if_neg (by simp [scales])]
      have moves : Phase.next (.surface current) (.asked ⟨layer, .setBufferScale factor.toUInt32⟩) =
          some (.surface { current with scale := factor.toUInt32 }) := by
        simp [Phase.next, of.name, of.open_, Surface.asked]
      refine obeys_cons moves (resizeAndRedraw_obeys answers ?_ rfl ?_)
      · exact .surface rfl visible ⟨of.name, of.size, rfl, of.committed, of.configured,
          of.attached, of.callback, of.open_⟩
      · exact fun _ found => by cases found
    · rw [if_pos (by simpa using scales)]
      exact ⟨.surface current, Accepts.nil_iff.mpr rfl, fun none => by cases none⟩

/-- An event of another surface changes nothing. -/
theorem frame_obeys (surface : Nat) (answers : Answers) (holds : Matches window phase) :
    ∃ mid, Phase.next phase (.told (.frame surface)) = some mid ∧
      Obeys (window.frame surface answers) mid := by
  have placed := holds.placed
  unfold Window.frame
  cases placed with
  | bare none =>
    rw [none]
    exact ⟨.bare, rfl, obeys_nothing holds⟩
  | @surface layer current placed visible of =>
    refine ⟨.surface (current.told (.frame surface)), rfl, ?_⟩
    rw [placed]
    dsimp only
    by_cases other : surface ≠ layer
    · rw [if_pos other, Surface.told, if_neg (by rwa [of.name])]
      exact obeys_nothing holds
    rw [if_neg other, Surface.told, if_pos (by rw [of.name]; exact not_not.mp other)]
    refine log_obeys (redraw_obeys answers ?_ ?_ ⟨holds.sized.size, holds.sized.scale⟩
      holds.buffered)
    · exact .surface rfl visible ⟨of.name, of.size, of.scale, of.committed, of.configured,
        of.attached, rfl, of.open_⟩
    · intro idle configured
      refine ⟨fun pending => ?_, (holds.fresh configured).2⟩
      rw [idle] at pending
      cases pending

theorem closed_obeys (surface : Nat) (holds : Matches window phase) :
    ∃ mid, Phase.next phase (.told (.closed surface)) = some mid ∧
      Obeys (window.closed surface) mid := by
  have placed := holds.placed
  unfold Window.closed
  cases placed with
  | bare none =>
    rw [if_pos (by simp [none])]
    exact ⟨.bare, rfl, obeys_nothing holds⟩
  | @surface layer current placed visible of =>
    refine ⟨.surface (current.told (.closed surface)), rfl, ?_⟩
    by_cases other : window.layer ≠ some surface
    · rw [if_pos other, Surface.told, if_neg]
      · exact obeys_nothing holds
      · rintro rfl
        exact other (placed.trans (congrArg some of.name.symm))
    rw [if_neg other]
    have held : Held window (.surface (current.told (.closed surface))) := by
      have named : (current.told (.closed surface)).name = layer := by
        simp only [Surface.told]
        split <;> exact of.name
      simp [Held, placed, named]
    obtain ⟨after, accepts, matches_⟩ := hide_obeys held holds.sized
    obtain ⟨hidden, _, sized, buffered⟩ := matches_ rfl
    refine ⟨after, accepts, fun _ => ⟨hidden.congr rfl id rfl rfl rfl rfl, ?_, ⟨sized.size,
      sized.scale⟩, buffered⟩⟩
    cases hidden with
    | bare _ => trivial
    | surface some => nomatch some

theorem configure_obeys (surface : Nat) (width height : UInt32) (answers : Answers)
    (holds : Matches window phase) :
    ∃ mid, Phase.next phase (.told (.configure surface width height)) = some mid ∧
      Obeys (window.configure surface width height answers) mid := by
  have placed := holds.placed
  unfold Window.configure
  cases placed with
  | bare none =>
    rw [if_pos (by simp [none])]
    exact ⟨.bare, rfl, obeys_nothing holds⟩
  | @surface layer current placed visible of =>
    refine ⟨.surface (current.told (.configure surface width height)), rfl, ?_⟩
    by_cases other : window.layer ≠ some surface
    · rw [if_pos (.inl other), Surface.told, if_neg]
      · exact obeys_nothing holds
      · rintro rfl
        exact other (placed.trans (congrArg some of.name.symm))
    rw [not_not, placed, Option.some.injEq] at other
    subst other
    rw [if_neg (by simp [placed, visible]), Surface.told, if_pos of.name.symm]
    have wide : current.size.1 = window.width := congrArg Prod.fst of.size
    have high : current.size.2 = window.height := congrArg Prod.snd of.size
    simp only [wide, high]
    generalize (if width = 0 then window.width else width) = width
    generalize (if height = 0 then window.height else height) = height
    by_cases resized : (width, height) ≠ (window.width, window.height)
    · rw [if_pos resized]
      refine log_obeys (resizeAndRedraw_obeys answers ?_ rfl fun _ found => by cases found)
      exact .surface placed visible ⟨of.name, rfl, of.scale, of.committed, rfl, of.attached,
        of.callback, of.open_⟩
    · rw [if_neg resized]
      refine log_obeys (resizeAndRedraw_obeys answers ?_ rfl holds.buffered)
      exact .surface placed visible ⟨of.name, not_not.mp resized, of.scale, of.committed, rfl,
        of.attached, of.callback, of.open_⟩

theorem newOutput_obeys (answers : Answers) (holds : Matches window phase) :
    Obeys (window.newOutput answers) phase := by
  unfold Window.newOutput
  split
  · rename_i missing
    simp only [Bool.and_eq_true, Option.isNone_iff_eq_none] at missing
    obtain rfl := holds.placed.of_none missing.2
    exact log_obeys (showLayer_obeys answers missing.2 missing.1 holds.sized holds.buffered)
  · exact obeys_nothing holds

omit [Scalar F] in
/-- An event that is not about the surface. -/
theorem told_elsewhere {event : WindowEvent F} (placed : Placed window phase)
    (same : ∀ surface : Surface F, surface.told event = surface) :
    Phase.next phase (.told event) = some phase := by
  cases placed with
  | bare _ => rfl
  | surface _ _ _ => exact congrArg some (congrArg Phase.surface (same _))

theorem handle_obeys [PartialEquivBEq F] {event : WindowEvent F} {answers : Answers}
    {handled : Handled F} {sent : List KeyboardOutput} (holds : Matches window phase)
    (done : window.handle event answers = .ok (handled, sent)) :
    ∃ mid, Phase.next phase (.told event) = some mid ∧ Obeys handled mid := by
  cases event with
  | input state =>
    exact ⟨phase, told_elsewhere holds.placed fun _ => rfl, input_obeys holds done⟩
  | disconnected =>
    cases done
    exact ⟨phase, told_elsewhere holds.placed fun _ => rfl, disconnected_obeys holds⟩
  | channelClosed =>
    cases done
    refine ⟨phase, told_elsewhere holds.placed fun _ => rfl, obeys_nothing ?_⟩
    refine ⟨holds.placed.congr rfl id rfl rfl rfl rfl, ?_, ⟨holds.sized.size, holds.sized.scale⟩,
      holds.buffered⟩
    have fresh := holds.fresh
    cases phase <;> exact fresh
  | scaleFactorChanged surface factor =>
    cases done
    exact ⟨phase, told_elsewhere holds.placed fun _ => rfl,
      scaleFactorChanged_obeys surface factor answers holds⟩
  | frame surface =>
    cases done
    exact frame_obeys surface answers holds
  | closed surface =>
    cases done
    exact closed_obeys surface holds
  | configure surface width height =>
    cases done
    exact configure_obeys surface width height answers holds
  | newOutput =>
    cases done
    exact ⟨phase, told_elsewhere holds.placed fun _ => rfl, newOutput_obeys answers holds⟩

/-! ## The end of the program -/

/-- An error ends the program, and nothing lets it go on. -/
def Ends (window : Window F) (handled : Handled F) : Prop :=
  (handled.error ≠ none → handled.window.exit = true) ∧
    (window.exit = true → handled.window.exit = true)

omit [Scalar F] in
theorem plain_ends {handled : Handled F} (succeeds : handled.error = none)
    (same : handled.window.exit = window.exit) : Ends window handled :=
  ⟨fun failed => absurd succeeds failed, fun exit => same.trans exit⟩

omit [Scalar F] in
theorem log_ends {handled : Handled F} (same : handled.window.exit = window.exit) :
    Ends window handled.log := by
  unfold Handled.log
  by_cases failed : handled.error.isSome = true
  · rw [if_pos failed]
    exact ⟨fun _ => rfl, fun _ => rfl⟩
  · rw [if_neg failed]
    exact plain_ends (by simpa using failed) same

omit [Scalar F] in
@[simp] theorem redraw_exit (window : Window F) (answers : Answers) :
    (window.redraw answers).window.exit = window.exit := by
  unfold Window.redraw
  split
  · rfl
  split
  · rfl
  · unfold Window.draw
    split
    · rfl
    · dsimp only
      split
      · rfl
      · split <;> rfl

omit [Scalar F] in
@[simp] theorem resizeAndRedraw_exit (window : Window F) (answers : Answers) :
    (window.resizeAndRedraw answers).window.exit = window.exit := by
  unfold Window.resizeAndRedraw
  split
  · rfl
  · exact redraw_exit _ _

omit [Scalar F] in
@[simp] theorem showLayer_exit (window : Window F) (answers : Answers) :
    (window.showLayer answers).window.exit = window.exit := by
  unfold Window.showLayer
  split
  · unfold Window.present
    dsimp only
    split <;> rfl
  · split
    · rfl
    · unfold Window.present
      dsimp only
      split <;> rfl

theorem input_ends {state : OskState F} {answers : Answers} {handled : Handled F}
    {sent : List KeyboardOutput} (done : window.input state answers = .ok (handled, sent)) :
    Ends window handled := by
  obtain ⟨⟨keyboard, keys, changed⟩, updated, pure⟩ := bind_ok done
  cases was : window.keyboard.visible <;> cases now : state.visible <;>
    simp only [was, now] at pure <;> cases pure
  · exact plain_ends rfl rfl
  · exact log_ends (showLayer_exit _ _)
  · exact plain_ends rfl rfl
  · split
    · exact log_ends (showLayer_exit _ _)
    · split
      · exact log_ends (redraw_exit _ _)
      · exact plain_ends rfl rfl

omit [Scalar F] in
theorem scaleFactorChanged_ends (window : Window F) (surface : Nat) (factor : Int32)
    (answers : Answers) : Ends window (window.scaleFactorChanged surface factor answers) := by
  unfold Window.scaleFactorChanged
  split
  · exact plain_ends rfl rfl
  split
  · exact plain_ends rfl rfl
  refine log_ends ?_
  split
  · rfl
  · exact resizeAndRedraw_exit _ _

omit [Scalar F] in
theorem configure_ends (window : Window F) (surface : Nat) (width height : UInt32)
    (answers : Answers) : Ends window (window.configure surface width height answers) := by
  unfold Window.configure
  split
  · exact plain_ends rfl rfl
  · exact log_ends ((resizeAndRedraw_exit _ _).trans
      ((apply_ite Window.exit _ _ _).trans (ite_self _)))

theorem handle_ends {event : WindowEvent F} {answers : Answers} {handled : Handled F}
    {sent : List KeyboardOutput} (done : window.handle event answers = .ok (handled, sent)) :
    Ends window handled := by
  cases event with
  | input state => exact input_ends done
  | disconnected =>
    cases done
    unfold Window.disconnected
    dsimp only
    split <;> exact plain_ends rfl rfl
  | channelClosed =>
    cases done
    exact ⟨fun _ => rfl, fun _ => rfl⟩
  | scaleFactorChanged surface factor =>
    cases done
    exact scaleFactorChanged_ends window surface factor answers
  | frame surface =>
    cases done
    unfold Window.frame
    split
    · exact plain_ends rfl rfl
    split
    · exact plain_ends rfl rfl
    · exact log_ends (redraw_exit _ _)
  | closed surface =>
    cases done
    unfold Window.closed
    split <;> exact plain_ends rfl rfl
  | configure surface width height =>
    cases done
    exact configure_ends window surface width height answers
  | newOutput =>
    cases done
    unfold Window.newOutput
    split
    · exact log_ends (showLayer_exit _ _)
    · exact plain_ends rfl rfl

/-! ## Runs -/

/-- A program that goes on matches its surface. -/
def Related (window : Window F) (phase : Phase F) : Prop :=
  if window.exit then phase = .ended else Matches window phase

theorem start_matches {width height : UInt32}
    (starts : Window.start width height = .ok window) : Related window .bare := by
  obtain ⟨renderer, new, pure⟩ := bind_ok starts
  cases pure
  obtain ⟨size, scale⟩ := new_ok new
  exact ⟨.bare rfl, trivial, ⟨size, scale⟩, fun _ found => by cases found⟩

theorem step_related [PartialEquivBEq F] {window after : Window F} {labels : List (Sight F)}
    (step : window.Step labels after) {phase : Phase F} (related : Related window phase) :
    ∃ phase', Related after phase' ∧ Accepts Phase.next phase labels phase' := by
  obtain ⟨done⟩ := step
  rename_i event answers handled sent
  obtain ⟨fails, ends⟩ := handle_ends done
  cases exited : window.exit with
  | true =>
    simp only [Related, exited, if_true] at related
    subst related
    exact ⟨.ended, by simp [Related, ends exited], ended_accepts _⟩
  | false =>
    simp only [Related, exited, Bool.false_eq_true, if_false] at related
    obtain ⟨mid, told, last, accepts, holds⟩ := handle_obeys related done
    have seen : Accepts Phase.next phase (.told event :: handled.asked.map .asked) last :=
      Accepts.cons_iff.mpr ⟨mid, told, accepts⟩
    unfold Handled.sights
    cases ending : handled.window.exit with
    | true =>
      have exited : Accepts Phase.next last [.exits] .ended :=
        Accepts.single (by cases last <;> rfl)
      exact ⟨.ended, by simp [Related, ending], Accepts.append_iff.mpr ⟨last, seen, exited⟩⟩
    | false =>
      refine ⟨last, ?_, Accepts.append_iff.mpr ⟨last, seen, Accepts.nil_iff.mpr rfl⟩⟩
      simp only [Related, ending, Bool.false_eq_true, if_false]
      refine holds (by_contra fun failed => ?_)
      rw [fails failed] at ending
      cases ending

theorem run_related [PartialEquivBEq F] {width height : UInt32} {start finish : Window F}
    {labels : List (Sight F)} (starts : Window.start width height = .ok start)
    (run : start.Run labels finish) :
    ∃ phase, Related finish phase ∧ Accepts Phase.next .bare labels phase := by
  obtain ⟨-, phase, related, accepts⟩ := run.simulates (fun _ => True) Related
    (fun step _ => ⟨trivial, fun related => step_related step related⟩) trivial
    (start_matches starts)
  exact ⟨phase, related, accepts⟩

theorem runs_run {window finish : Window F} {events : List (WindowEvent F × Answers)}
    {labels : List (Sight F)} (ran : window.runs events = .ok (finish, labels)) :
    window.Run labels finish := by
  induction events generalizing window labels with
  | nil =>
    cases ran
    exact .refl
  | cons event events inductionHypothesis =>
    obtain ⟨⟨handled, sent⟩, done, rest⟩ := bind_ok ran
    obtain ⟨⟨last, later⟩, onward, pure⟩ := bind_ok rest
    cases pure
    exact (Path.single (.event done)).trans (inductionHypothesis onward)

end

/-- The libraries do what the window asks for. -/
def agreeable : Answers where
  outputs := true
  surface := 0
  bufferScale := true
  createBuffer := true
  canvas := true
  createAnother := true
  attach := true
  animationPending := false

/-- The keyboard is shown, and its surface is configured, drawn, scaled and drawn again. -/
def openingEvents : List (WindowEvent ℚ × Answers) :=
  [(.input (OskState.default.setVisible true), agreeable), (.configure 0 1920 0, agreeable),
    (.frame 0, agreeable), (.scaleFactorChanged 0 2, agreeable), (.frame 0, agreeable)]

theorem opening_runs : ∃ (start finish : Window ℚ) (labels : List (Sight ℚ)),
    Window.start 1280 360 = .ok start ∧ start.Run labels finish ∧
      finish.layer = some 0 ∧ finish.exit = false ∧ finish.configured = true ∧
      finish.framePending = false := by
  have opens : ((Window.start (F := ℚ) 1280 360).toOption.bind fun start =>
      (start.runs openingEvents).toOption.map fun result =>
        (result.1.layer, result.1.exit, result.1.configured, result.1.framePending)) =
      some (some 0, false, true, false) := by decide +kernel
  cases starts : (Window.start (F := ℚ) 1280 360) with
  | error error =>
    rw [starts] at opens
    cases opens
  | ok start =>
    rw [starts] at opens
    cases ran : start.runs openingEvents with
    | error error =>
      simp only [Except.toOption, Option.bind_some, ran] at opens
      cases opens
    | ok result =>
      simp only [Except.toOption, Option.bind_some, ran, Option.map_some, Option.some.injEq,
        Prod.mk.injEq] at opens
      obtain ⟨layer, exit, configured, free⟩ := opens
      exact ⟨start, result.1, result.2, rfl, runs_run ran, layer, exit, configured, free⟩

section

variable {F : Type} [Scalar F]

/-- In every run the compositor allows everything that the window asks for: there is one
    surface at most, a buffer comes after the first configuration and has the size and the scale
    of the surface, one callback at most is owed, and a closed surface goes. -/
theorem window_keeps_protocol [PartialEquivBEq F] {width height : UInt32}
    {start finish : Window F} {labels : List (Sight F)}
    (starts : Window.start width height = .ok start) (run : start.Run labels finish) :
    ∃ phase, Accepts Phase.next .bare labels phase := by
  obtain ⟨phase, -, accepts⟩ := run_related starts run
  exact ⟨phase, accepts⟩

theorem window_keeps_protocol_opening : ∃ (finish : Window ℚ) (labels : List (Sight ℚ)),
    finish.layer = some 0 ∧ ∃ phase, Accepts Phase.next .bare labels phase := by
  obtain ⟨start, finish, labels, starts, run, layer, -⟩ := opening_runs
  exact ⟨finish, labels, layer, window_keeps_protocol starts run⟩

/-- Whenever no callback is owed, a configured surface shows the keyboard as it is now, at the
    size of the surface.  A hidden keyboard has no surface. -/
theorem surface_shows_keyboard [PartialEquivBEq F] {width height : UInt32}
    {start finish : Window F} {labels : List (Sight F)}
    (starts : Window.start width height = .ok start) (run : start.Run labels finish)
    (running : finish.exit = false) {layer : Nat} (placed : finish.layer = some layer) :
    finish.keyboard.visible = true ∧ ∃ surface : Surface F,
      Accepts Phase.next .bare labels (.surface surface) ∧ surface.name = layer ∧
      (finish.configured = true → finish.framePending = false →
        ∃ canvas, surface.shown = some canvas ∧
          canvas.renderer.physicalSize.1.toNat = surface.size.1.toNat * surface.scale.toNat ∧
          canvas.renderer.physicalSize.2.toNat = surface.size.2.toNat * surface.scale.toNat ∧
          canvas.keyboard.Alike finish.keyboard) := by
  obtain ⟨phase, related, accepts⟩ := run_related starts run
  simp only [Related, running, Bool.false_eq_true, if_false] at related
  obtain ⟨placement, fresh, sized, -⟩ := related
  cases placement with
  | bare none =>
    rw [none] at placed
    cases placed
  | surface placed' visible of =>
    rename_i surface
    rw [placed] at placed'
    cases placed'
    refine ⟨visible, surface, accepts, of.name, fun configured free => ?_⟩
    obtain ⟨awaited, shows⟩ := fresh configured
    have idle : finish.redrawPending = false := by
      by_contra pending
      have := awaited (by simpa using pending)
      rw [free] at this
      cases this
    obtain ⟨canvas, shown, renderer, alike⟩ := shows idle
    obtain ⟨wide, high⟩ := scaledSize_toNat sized.size
    refine ⟨canvas, shown, ?_, ?_, alike⟩
    · rw [renderer, of.size, of.scale, wide]
    · rw [renderer, of.size, of.scale, high]

theorem surface_shows_keyboard_opening : ∃ (finish : Window ℚ) (labels : List (Sight ℚ))
    (surface : Surface ℚ) (canvas : Canvas ℚ), finish.keyboard.visible = true ∧
      Accepts Phase.next .bare labels (.surface surface) ∧ surface.shown = some canvas ∧
      canvas.keyboard.Alike finish.keyboard := by
  obtain ⟨start, finish, labels, starts, run, layer, exit, configured, free⟩ := opening_runs
  obtain ⟨visible, surface, accepts, -, shows⟩ := surface_shows_keyboard starts run exit layer
  obtain ⟨canvas, shown, -, -, alike⟩ := shows configured free
  exact ⟨finish, labels, surface, canvas, visible, accepts, shown, alike⟩

end

end Scd.Osk
