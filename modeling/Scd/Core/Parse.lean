import Scd.Core.Kdl
import Scd.Foundation.Outcome

/-! # The configuration parser

`Config::from_document` and the functions below it.  Some problems end the parse at once
(an `Issue` thrown by a helper), others are collected while it goes on; a document is
accepted when neither has happened.
-/

namespace Scd.Core

open Scd.Foundation

/-! ## Keys and buttons -/

/-- The Unicode property White_Space, which `str::trim` removes. -/
def isWhitespace (character : Char) : Bool :=
  let code := character.toNat
  (9 ≤ code && code ≤ 13) || code = 32 || code = 0x85 || code = 0xa0 || code = 0x1680 ||
    (0x2000 ≤ code && code ≤ 0x200a) || code = 0x2028 || code = 0x2029 || code = 0x202f ||
    code = 0x205f || code = 0x3000

def trim (text : String) : String :=
  String.ofList (((text.toList.dropWhile isWhitespace).reverse.dropWhile isWhitespace).reverse)

def isKeyboardKey (key : KeyCode) : Bool :=
  let code := key.code
  code != 0 && code ≤ 0x2ff && !(code ≥ 0x100 && code ≤ 0x15f) &&
    !(code ≥ 0x220 && code ≤ 0x22f) && !(code ≥ 0x2c0 && code ≤ 0x2ff)

/-- The names that `parse_key` knows itself, with their Linux codes. -/
def keyNames : List (List String × KeyCode) :=
  [(["enter", "return"], ⟨28⟩), (["escape", "esc"], ⟨1⟩), (["space"], ⟨57⟩), (["tab"], ⟨15⟩),
   (["super", "command", "cmd", "meta"], ⟨125⟩), (["control", "ctrl"], ⟨29⟩), (["shift"], ⟨42⟩),
   (["alt"], ⟨56⟩), (["up"], ⟨103⟩), (["down"], ⟨108⟩), (["left"], ⟨105⟩), (["right"], ⟨106⟩)]

/-- The name starts with `key_` or `btn_`, in any case. -/
def isPrefixed (name : String) : Bool :=
  let head := (name.toList.take 4).map Char.toLower
  head = "key_".toList || head = "btn_".toList

/-- The text handed to `KeyCode::from_str`. -/
def keyText (F : Type) [Platform F] (name : String) : String :=
  let characters := name.toList.filter fun character =>
    isPrefixed name || !(character = '-' || character = '_')
  (if isPrefixed name then "" else "KEY_") ++
    String.ofList (characters.flatMap (Platform.toUppercase F))

def parseKey (F : Type) [Platform F] (text : String) : Except String KeyCode := do
  let name := trim text
  let key ← match keyNames.find? fun row => name ∈ row.1 with
    | some row => .ok row.2
    | none =>
      match Platform.keyFromStr F (keyText F name) with
      | some key => .ok key
      | none => .error ("unknown key " ++ Platform.debugStr F name)
  if !isKeyboardKey key then
    .error (Platform.debugStr F name ++ " is not a keyboard key")
  else .ok key

/-- The derived debug format of a button. -/
def Button.debug : Button → String
  | .a => "A" | .b => "B" | .x => "X" | .y => "Y" | .qam => "Qam" | .r3 => "R3"
  | .menu => "Menu" | .r4 => "R4" | .r5 => "R5" | .rb => "Rb" | .dpadDown => "DpadDown"
  | .dpadRight => "DpadRight" | .dpadLeft => "DpadLeft" | .dpadUp => "DpadUp" | .view => "View"
  | .l3 => "L3" | .steam => "Steam" | .l4 => "L4" | .l5 => "L5" | .lb => "Lb"
  | .rightStickTouch => "RightStickTouch" | .rightPadTouch => "RightPadTouch"
  | .rightPadClick => "RightPadClick" | .rightTriggerClick => "RightTriggerClick"
  | .leftStickTouch => "LeftStickTouch" | .leftPadTouch => "LeftPadTouch"
  | .leftPadClick => "LeftPadClick" | .leftTriggerClick => "LeftTriggerClick"
  | .rightGripTouch => "RightGripTouch" | .leftGripTouch => "LeftGripTouch"

section

variable {F : Type} [Scalar F] [Platform F]

def parseTrackpad (value : String) (node : KdlNode F) : Except Issue Trackpad :=
  oneOf node value "trackpad" [(["left"], .left), (["right"], .right)]

def parseButton (value : String) (node : KdlNode F) : Except Issue Button :=
  oneOf node value "controller button"
    [(["a"], .a), (["b"], .b), (["x"], .x), (["y"], .y), (["quick-access"], .qam),
     (["right-stick-click", "r3"], .r3), (["menu"], .menu), (["r4"], .r4), (["r5"], .r5),
     (["right-bumper", "rb"], .rb), (["dpad-down"], .dpadDown), (["dpad-right"], .dpadRight),
     (["dpad-left"], .dpadLeft), (["dpad-up"], .dpadUp), (["view"], .view),
     (["left-stick-click", "l3"], .l3), (["steam"], .steam), (["l4"], .l4), (["l5"], .l5),
     (["left-bumper", "lb"], .lb), (["right-stick-touch"], .rightStickTouch),
     (["right-pad-touch"], .rightPadTouch), (["right-pad-click"], .rightPadClick),
     (["right-trigger-click"], .rightTriggerClick), (["left-stick-touch"], .leftStickTouch),
     (["left-pad-touch"], .leftPadTouch), (["left-pad-click"], .leftPadClick),
     (["left-trigger-click"], .leftTriggerClick), (["right-grip-touch"], .rightGripTouch),
     (["left-grip-touch"], .leftGripTouch)]

def parseMouseButton (value : String) (node : KdlNode F) : Except Issue MouseButton :=
  oneOf node value "mouse button"
    [(["left"], .left), (["right"], .right), (["middle"], .middle), (["side"], .side),
     (["extra"], .extra), (["forward"], .forward), (["back"], .back), (["task"], .task)]

def parseGamepadButton (value : String) (node : KdlNode F) : Except Issue GamepadButton :=
  oneOf node value "gamepad button"
    [(["south"], .south), (["east"], .east), (["north"], .north), (["west"], .west),
     (["left-bumper"], .leftBumper), (["right-bumper"], .rightBumper),
     (["left-trigger"], .leftTrigger), (["right-trigger"], .rightTrigger), (["select"], .select),
     (["start"], .start), (["guide"], .guide), (["left-stick"], .leftStick),
     (["right-stick"], .rightStick), (["dpad-up"], .dpadUp), (["dpad-down"], .dpadDown),
     (["dpad-left"], .dpadLeft), (["dpad-right"], .dpadRight),
     (["paddle-left-upper"], .paddleLeftUpper), (["paddle-left-lower"], .paddleLeftLower),
     (["paddle-right-upper"], .paddleRightUpper), (["paddle-right-lower"], .paddleRightLower)]

def parseAxisComponent (value : String) (node : KdlNode F) : Except Issue AxisComponent :=
  oneOf node value "axis component" [(["x"], .x), (["y"], .y), (["z"], .z)]

/-! ## Bindings -/

/-- One argument of a `bind` node: a button that is not there yet becomes the trigger. -/
def bindingInput (node : KdlNode F) (state : Buttons × Option Button) (position : Nat) :
    Except Issue (Buttons × Option Button) := do
  let button ← parseButton (← argument String node position) node
  if state.1.contains button then
    .error ⟨"binding input contains duplicate button " ++ button.debug, node.span⟩
  else .ok (state.1.insert button, some button)

inductive ActionKind where
  | key | mouse | gamepad | modeSet | modeNext | keyboardToggle

def parseAction (action : KdlNode F) (modeNames : IndexMap String ModeId) (global : Bool) :
    Except Issue GlobalAction := do
  properties action []
  match ← oneOf action action.name "action"
      [(["key"], .key), (["mouse"], .mouse), (["gamepad"], .gamepad), (["mode-set"], .modeSet),
       (["mode-next"], .modeNext), (["keyboard-toggle"], ActionKind.keyboardToggle)] with
  | .key =>
    match parseKey F (← argument String action 0) with
    | .ok key => return .action (.key key)
    | .error message => .error ⟨message, action.span⟩
  | .mouse => return .action (.mouse (← parseMouseButton (← argument String action 0) action))
  | .gamepad => return .action (.gamepad (← parseGamepadButton (← argument String action 0) action))
  | .modeSet =>
    let name ← argument String action 0
    match modeNames.get? name with
    | some mode => return .action (.modeSet mode)
    | none =>
      .error ⟨"mode-set target " ++ Platform.debugStr F name ++ " is not configured", action.span⟩
  | .modeNext => return .action .modeNext
  | .keyboardToggle =>
    if global then return .keyboardToggle
    else .error ⟨"keyboard-toggle is only valid for global bindings", action.span⟩

def parseBinding (node : KdlNode F) (modeNames : IndexMap String ModeId) (global : Bool) :
    Except Issue (Buttons × Button × GlobalAction) := do
  if node.name ≠ "bind" then
    .error ⟨"expected \"bind\", got " ++ Platform.debugStr F node.name, node.span⟩
  properties node []
  let (inputs, trigger) ← (List.range node.arguments.length).foldlM (bindingInput node) ({}, none)
  match trigger with
  | none => .error ⟨"binding must contain at least one button", node.span⟩
  | some trigger =>
    match node.children with
    | [action] => return (inputs, trigger, ← parseAction action modeNames global)
    | _ => .error ⟨"binding must contain exactly one action", node.span⟩

/-! ## Axis mappings -/

inductive AxisChild where
  | trigger | buttons | components

/-- The activation and the components found so far. -/
structure AxisChildren (F : Type) where
  activation : Option (AxisActivation F)
  components : Option (AxisComponent × AxisComponent)

def parseActivationTrigger (child : KdlNode F) : Except Issue (AxisActivation F) := do
  let trigger ← oneOf child (← argument String child 0) "trigger"
    [(["left-trigger"], Trigger.left), (["right-trigger"], .right)]
  properties child ["engage", "release"]
  let engage ← property F child "engage"
  let release ← property F child "release"
  if !Scalar.isFinite engage || !Scalar.isFinite release || release < 0.0 || release ≥ engage ||
      engage > 1.0 then
    .error ⟨"axis mapping activation thresholds must satisfy 0 <= release < engage <= 1", child.span⟩
  else return .trigger trigger engage release

def parseActivationButtons (child : KdlNode F) : Except Issue (AxisActivation F) := do
  properties child []
  let buttons ← (List.range child.arguments.length).foldlM (fun buttons position => do
    return buttons.insert (← parseButton (← argument String child position) child)) ({} : Buttons)
  if child.arguments.isEmpty then
    .error ⟨"axis mapping activation must contain at least one button", child.span⟩
  else return .buttons buttons

def parseAxisChild (found : AxisChildren F) (child : KdlNode F) : Except Issue (AxisChildren F) := do
  match ← oneOf child child.name "axis child"
      [(["trigger"], .trigger), (["buttons"], .buttons), (["components"], AxisChild.components)] with
  | .trigger =>
    if found.activation.isSome then
      .error ⟨"axis mapping must contain at most one activation", child.span⟩
    else return { found with activation := some (← parseActivationTrigger child) }
  | .buttons =>
    if found.activation.isSome then
      .error ⟨"axis mapping must contain at most one activation", child.span⟩
    else return { found with activation := some (← parseActivationButtons child) }
  | .components =>
    if found.components.isSome then
      .error ⟨"axis mapping must contain at most one components node", child.span⟩
    else
      properties child []
      let first ← parseAxisComponent (← argument String child 0) child
      let second ← parseAxisComponent (← argument String child 1) child
      return { found with components := some (first, second) }

inductive AxisSource where
  | stick (stick : Stick)
  | pad (pad : Trackpad)
  | gyro

/-- The properties of an `axis` node, validated in the order of the source. -/
def parseAxisOptions (node : KdlNode F) (source target : String)
    (activation : Option (AxisActivation F)) : Except Issue (VectorOptions F × Option F) := do
  properties node ["deadzone", "sensitivity", "acceleration", "curve", "exponent", "invert-x",
    "invert-y", "swap-xy"]
  let deadzone ← propertyOr node "deadzone" (0.0 : F)
  let sensitivity ← propertyOr node "sensitivity" (1.0 : F)
  let acceleration ← optionalProperty F node "acceleration"
  let curve ← propertyOr node "curve" "linear"
  let exponent ← propertyOr node "exponent" (2.0 : F)
  let invertX ← propertyOr node "invert-x" false
  let invertY ← propertyOr node "invert-y" false
  let swapXy ← propertyOr node "swap-xy" false
  if !Scalar.isFinite deadzone || !(decide (0.0 ≤ deadzone) && decide (deadzone < 1.0)) then
    .error ⟨"axis mapping deadzone must be finite and in [0, 1)", node.span⟩
  if !Scalar.isFinite sensitivity || sensitivity < 0.0 then
    .error ⟨"axis mapping sensitivity must be finite and non-negative", node.span⟩
  if let some value := acceleration then
    if !Scalar.isFinite value || value < 0.0 then
      .error ⟨"axis mapping acceleration must be finite and non-negative", node.span⟩
    if (source ≠ "left-pad" ∧ source ≠ "right-pad") ∨ target ≠ "mouse-motion" then
      .error ⟨"axis mapping acceleration is only valid for a trackpad source and mouse-motion target",
        node.span⟩
  if !Scalar.isFinite exponent || exponent ≤ 0.0 then
    .error ⟨"axis mapping exponent must be finite and greater than zero", node.span⟩
  let exponent ← oneOf node curve "axis curve" [(["linear"], 1.0), (["exponential"], exponent)]
  return (⟨⟨activation, deadzone, sensitivity, exponent⟩, invertX, invertY, swapXy⟩, acceleration)

/-- The mapping of a vector source onto a vector target. -/
def vectorMapping (source : AxisSource) (target : VectorTarget) (options : VectorOptions F)
    (acceleration : Option F) (components : Option (AxisComponent × AxisComponent)) :
    AxisMapping F :=
  match source with
  | .stick stick => .stick stick target options
  | .pad pad =>
    match target with
    | .gamepadLeftStick => .padPosition pad .left options
    | .gamepadRightStick => .padPosition pad .right options
    | .mouseMotion => .padMotion pad options (acceleration.getD 0.0)
    | .scroll => .circularScroll pad options
  | .gyro => .gyro (components.getD (.y, .x)) target options

def parseAxis (node : KdlNode F) : Except Issue (AxisMapping F) := do
  let source ← argument String node 0
  let target ← argument String node 1
  let scalarSource := source = "left-trigger" ∨ source = "right-trigger"
  let scalarTarget := target = "gamepad-left-trigger" ∨ target = "gamepad-right-trigger"
  if ¬(scalarSource ↔ scalarTarget) then
    .error ⟨"axis mapping must connect a scalar source to a trigger " ++
      "or a vector source to a stick, mouse, or scroll target", node.span⟩
  let found ← node.children.foldlM parseAxisChild ⟨none, none⟩
  if found.components.isSome ∧ source ≠ "gyro" then
    .error ⟨"axis mapping components is only valid for a gyro source", node.span⟩
  let (options, acceleration) ← parseAxisOptions node source target found.activation
  if scalarSource then
    return .trigger (if source = "left-trigger" then .left else .right)
      (if target = "gamepad-left-trigger" then .left else .right) options.axis
  let target ← oneOf node target "axis target"
    [(["gamepad-left-stick"], VectorTarget.gamepadLeftStick),
     (["gamepad-right-stick"], .gamepadRightStick), (["mouse-motion"], .mouseMotion),
     (["scroll"], .scroll)]
  let source ← oneOf node source "axis source"
    [(["left-stick"], AxisSource.stick .left), (["right-stick"], .stick .right),
     (["left-pad"], .pad .left), (["right-pad"], .pad .right), (["gyro"], .gyro)]
  return vectorMapping source target options acceleration found.components

/-- The target a mapping has for itself, if it has one. -/
def exclusiveTarget : AxisMapping F → Option Nat
  | .trigger _ .left _ => some 0
  | .trigger _ .right _ => some 1
  | .circularScroll _ _ => some 2
  | .stick _ .scroll _ | .gyro _ .scroll _ => some 2
  | _ => none

def duplicateAxisTarget (left right : AxisMapping F) : Bool :=
  (exclusiveTarget left).isSome && exclusiveTarget left = exclusiveTarget right

/-! ## Haptics -/

inductive HapticKind where
  | rumble | trackpadClick | pulse | tone | sweep | script

def parseHaptic (node : KdlNode F) : Except Issue Haptic := do
  properties node []
  match node.children with
  | [node] =>
    match ← oneOf node node.name "haptic"
        [(["rumble"], .rumble), (["trackpad-click"], .trackpadClick), (["pulse"], .pulse),
         (["tone"], .tone), (["sweep"], .sweep), (["script"], HapticKind.script)] with
    | .rumble =>
      properties node ["low-frequency", "high-frequency"]
      return .rumble (← property UInt16 node "low-frequency")
        (← property UInt16 node "high-frequency")
    | .trackpadClick =>
      properties node ["gain"]
      let gain ← property Int8 node "gain"
      return .trackpadClick (← parseTrackpad (← argument String node 0) node) gain
    | .pulse =>
      properties node ["on-us", "off-us", "repeat"]
      return .pulse (← property UInt16 node "on-us") (← property UInt16 node "off-us")
        (← property UInt16 node "repeat")
    | .tone =>
      properties node ["gain", "frequency", "duration-ms"]
      return .tone (← property Int8 node "gain") (← property UInt16 node "frequency")
        (← property UInt16 node "duration-ms")
    | .sweep =>
      properties node ["gain", "duration-ms", "start-frequency", "end-frequency"]
      return .logSweep (← property Int8 node "gain") (← property UInt16 node "duration-ms")
        (← property UInt16 node "start-frequency") (← property UInt16 node "end-frequency")
    | .script =>
      properties node ["gain"]
      let gain ← property Int8 node "gain"
      return .script (← argument UInt8 node 0) gain
  | _ => .error ⟨"mode-switch-haptic must contain exactly one haptic", node.span⟩

/-! ## Modes -/

/-- Why a document is not accepted.  A panic is a rejection the parser should never make. -/
inductive Rejection where
  | issues (issues : List Issue)
  | panic (panic : Panic)
  deriving DecidableEq, Repr

/-- `?` on an issue: the error holds this issue only. -/
def throwing {T : Type} (result : Except Issue T) : Except Rejection T :=
  match result with
  | .ok value => .ok value
  | .error issue => .error (.issues [issue])

/-- `ConfigError::append`: collect the issue and go on without the value. -/
def append {T : Type} (issues : List Issue) (result : Except Issue T) : List Issue × Option T :=
  match result with
  | .ok value => (issues, some value)
  | .error issue => (issues ++ [issue], none)

/-- Add an issue when the condition holds. -/
def report (issues : List Issue) (condition : Bool) (issue : Issue) : List Issue :=
  if condition then issues ++ [issue] else issues

def sameInput (inputs : Buttons) (trigger : Button) (binding : Binding) : Bool :=
  binding.inputs = inputs && binding.trigger = trigger

/-- A mode or layer binding has no keyboard toggle: `parse_binding` has refused it. -/
def localAction (action : GlobalAction) : Except Rejection Action :=
  match action with
  | .action action => .ok action
  | .keyboardToggle => .error (.panic (.unreachable "internal error: entered unreachable code"))

/-- What the loop over the children of a mode has built so far. -/
structure ModeDraft (F : Type) where
  bindings : List Binding
  axes : List (AxisMapping F)
  layers : List Layer
  layerHolds : Buttons
  issues : List Issue

/-- A `bind` child of a mode. -/
def parseModeBinding (modeName : String) (modeNames : IndexMap String ModeId) (draft : ModeDraft F)
    (child : KdlNode F) : Except Rejection (ModeDraft F) := do
  match append draft.issues (parseBinding child modeNames false) with
  | (issues, none) => return { draft with issues }
  | (issues, some (inputs, trigger, action)) =>
    let issues := report issues (draft.bindings.any (sameInput inputs trigger))
      ⟨"mode " ++ Platform.debugStr F modeName ++ " binding " ++ toString draft.bindings.length ++
        " duplicates an earlier input", child.span⟩
    let action ← localAction action
    return { draft with issues, bindings := draft.bindings ++ [⟨inputs, trigger, action⟩] }

/-- An `axis` child of a mode. -/
def parseModeAxis (modeName : String) (draft : ModeDraft F) (child : KdlNode F) : ModeDraft F :=
  match append draft.issues (parseAxis child) with
  | (issues, none) => { draft with issues }
  | (issues, some axis) =>
    let issues := report issues (draft.axes.any fun earlier => duplicateAxisTarget earlier axis)
      ⟨"mode " ++ Platform.debugStr F modeName ++ " axis mapping " ++ toString draft.axes.length ++
        " duplicates target", child.span⟩
    { draft with issues, axes := draft.axes ++ [axis] }

/-- One child of a `layer` node; the state holds the bindings and the issues so far. -/
def parseLayerBinding (modeName layerName : String) (hold : Button)
    (modeNames : IndexMap String ModeId) (state : List Binding × List Issue)
    (item : KdlNode F × Nat) : Except Rejection (List Binding × List Issue) := do
  let (node, position) := item
  let label := "mode " ++ Platform.debugStr F modeName ++ " layer " ++
    Platform.debugStr F layerName ++ " binding " ++ toString position
  match append state.2 (parseBinding node modeNames false) with
  | (issues, none) => return (state.1, issues)
  | (issues, some (inputs, trigger, action)) =>
    let issues := report issues (inputs.contains hold)
      ⟨label ++ " must not use its hold button", node.span⟩
    let issues := report issues (state.1.any (sameInput inputs trigger))
      ⟨label ++ " duplicates an earlier input", node.span⟩
    let action ← localAction action
    return (state.1 ++ [⟨inputs, trigger, action⟩], issues)

/-- `earlier` is a layer with this name. -/
def isLayerNamed (layerName : String) (earlier : KdlNode F) : Bool :=
  earlier.name = "layer" &&
    match (earlier.arguments[0]?).map KdlEntry.value with
    | some (.string value) => value = layerName
    | _ => false

/-- A `layer` child of a mode, given the children before it. -/
def parseModeLayer (modeName : String) (modeNames : IndexMap String ModeId)
    (earlier : List (KdlNode F)) (draft : ModeDraft F) (child : KdlNode F) :
    Except Rejection (ModeDraft F) := do
  let layerName ← throwing (argument String child 0)
  throwing (properties child ["hold"])
  let holdName ← throwing (property String child "hold")
  let hold ← throwing (parseButton holdName child)
  let label := "mode " ++ Platform.debugStr F modeName ++ " layer "
  let issues := report draft.issues ((trim layerName).isEmpty)
    ⟨label ++ "names must not be empty", child.span⟩
  let issues := report issues (earlier.any (isLayerNamed layerName))
    ⟨label ++ Platform.debugStr F layerName ++ " duplicates an earlier layer", child.span⟩
  let issues := report issues (draft.layerHolds.contains hold)
    ⟨label ++ Platform.debugStr F layerName ++ " hold conflicts with an earlier layer", child.span⟩
  let (bindings, issues) ← child.children.zipIdx.foldlM
    (parseLayerBinding modeName layerName hold modeNames) ([], issues)
  return { draft with
    issues
    layerHolds := draft.layerHolds.insert hold
    layers := draft.layers ++ [⟨hold, bindings⟩] }

inductive ModeChild where
  | bind | axis | layer

/-- One child of a mode, with the children before it. -/
def parseModeChild (modeName : String) (modeNames : IndexMap String ModeId)
    (state : List (KdlNode F) × ModeDraft F) (child : KdlNode F) :
    Except Rejection (List (KdlNode F) × ModeDraft F) := do
  let (earlier, draft) := state
  let draft ← match ← throwing (oneOf child child.name "mode child"
      [(["bind"], .bind), (["axis"], .axis), (["layer"], ModeChild.layer)]) with
    | .bind => parseModeBinding modeName modeNames draft child
    | .axis => .ok (parseModeAxis modeName draft child)
    | .layer => parseModeLayer modeName modeNames earlier draft child
  return (earlier ++ [child], draft)

/-- The second pass over the layers of a mode: no mode binding uses a layer's hold. -/
def checkLayerHold (modeName : String) (bindings : List Binding) (issues : List Issue)
    (item : KdlNode F × Layer) : Except Rejection (List Issue) := do
  let (node, layer) := item
  if bindings.any fun binding => binding.inputs.contains layer.hold then
    let layerName ← throwing (argument String node 0)
    return issues ++ [⟨"mode " ++ Platform.debugStr F modeName ++ " layer " ++
      Platform.debugStr F layerName ++ " hold must not also be a mode binding", node.span⟩]
  else return issues

def parseMode (node : KdlNode F) (modeNames : IndexMap String ModeId) (issues : List Issue) :
    Except Rejection (Mode F × List Issue) := do
  let name ← throwing (argument String node 0)
  throwing (properties node ["gamepad", "touchpad"])
  let gamepadName ← throwing (propertyOr node "gamepad" "none")
  let touchpad ← throwing (optionalProperty String node "touchpad")
  let gamepad ← throwing (oneOf node gamepadName "gamepad"
    [(["none"], Gamepad.none), (["xbox"], .xbox), (["dualshock4"], .dualShock4)])
  let gamepadTouchpad ← match touchpad with
    | none => .ok none
    | some value => throwing (some <$> parseTrackpad value node)
  let (_, draft) ← node.children.foldlM (parseModeChild name modeNames)
    ([], ⟨[], [], [], {}, issues⟩)
  let issues ← ((node.children.filter (·.name = "layer")).zip draft.layers).foldlM
    (checkLayerHold name draft.bindings) draft.issues
  return (⟨gamepad, gamepadTouchpad, draft.bindings, draft.axes, draft.layers⟩, issues)

/-! ## Documents -/

/-- One `mode` node of the pass that collects the mode names. -/
def parseModeName (state : IndexMap String ModeId × List Issue) (item : KdlNode F × Nat) :
    Except Rejection (IndexMap String ModeId × List Issue) := do
  let (node, position) := item
  let name ← throwing (argument String node 0)
  let issues := report state.2 ((trim name).isEmpty)
    ⟨"mode names must not be empty", node.span⟩
  if state.1.contains name then
    return (state.1, issues ++ [⟨"duplicate mode name " ++ Platform.debugStr F name, node.span⟩])
  else return (state.1.insert name ⟨position⟩, issues)

/-- The inputs that point on the on-screen keyboard. -/
def isPointing (input : Button) : Bool :=
  input = .leftPadTouch || input = .leftPadClick || input = .rightPadTouch ||
    input = .rightPadClick

/-- One child of the `osk` node. -/
def parseOskBinding (state : IndexMap Button KeyCode × List Issue) (child : KdlNode F) :
    Except Rejection (IndexMap Button KeyCode × List Issue) := do
  if child.name ≠ "bind" then
    .error (.issues [⟨"expected \"bind\", got " ++ Platform.debugStr F child.name, child.span⟩])
  throwing (properties child [])
  let input ← throwing (parseButton (← throwing (argument String child 0)) child)
  let keyName ← throwing (argument String child 1)
  let key ← match parseKey F keyName with
    | .ok key => .ok key
    | .error message => .error (.issues [⟨message, child.span⟩])
  let issues := report state.2 (state.1.contains input)
    ⟨"duplicate OSK binding input " ++ input.debug, child.span⟩
  let issues := report issues (isPointing input)
    ⟨"OSK binding input " ++ input.debug ++ " is reserved for keyboard pointing", child.span⟩
  return (state.1.insert input key, issues)

/-- One child of the `global` node. -/
def parseGlobalBinding (modeNames : IndexMap String ModeId)
    (state : List GlobalBinding × List Issue) (item : KdlNode F × Nat) :
    List GlobalBinding × List Issue :=
  let (child, position) := item
  match append state.2 (parseBinding child modeNames true) with
  | (issues, none) => (state.1, issues)
  | (issues, some (inputs, trigger, action)) =>
    let duplicate := state.1.any fun binding =>
      binding.inputs = inputs && binding.trigger = trigger
    (state.1 ++ [⟨inputs, trigger, action⟩], report issues duplicate
      ⟨"global binding " ++ toString position ++ " duplicates an earlier input", child.span⟩)

/-- The children of an optional node without properties. -/
def blockChildren (node : Option (KdlNode F)) : Except Rejection (List (KdlNode F)) := do
  match node with
  | none => return []
  | some node =>
    throwing (properties node [])
    return node.children

/-- The click pressure and the node it comes from. -/
def parseClickPressure (trackpad : Option (KdlNode F)) : Except Issue UInt16 := do
  match trackpad with
  | none => return 25
  | some node =>
    properties node ["click-pressure"]
    propertyOr node "click-pressure" 25

/-- `trackpad.unwrap()`. -/
def unwrapNode (node : Option (KdlNode F)) : Except Rejection (KdlNode F) :=
  match node with
  | some node => .ok node
  | none => .error (.panic (.expectFailed "called `Option::unwrap()` on a `None` value"))

def parseModeSwitchHaptic (node : Option (KdlNode F)) : Except Rejection (Option Haptic) :=
  match node with
  | none => .ok none
  | some node => throwing (some <$> parseHaptic node)

def checkClickPressure (trackpad : Option (KdlNode F)) (clickPressure : UInt16)
    (issues : List Issue) : Except Rejection (List Issue) :=
  if clickPressure > 100 then do
    let node ← unwrapNode trackpad
    return issues ++ [⟨"trackpad.click_pressure must be in [0, 100]", node.span⟩]
  else .ok issues

def Config.fromDocument (document : KdlDocument F) : Except Rejection (Config F) := do
  throwing (validateNodes document
    ["version", "default-mode", "mode-switch-haptic", "trackpad", "osk", "global", "mode"])
  let (version, versionSpan) ← throwing (requiredNode UInt32 document "version")
  let (defaultMode, defaultModeSpan) ← throwing (requiredNode String document "default-mode")
  let hapticNode ← throwing (optionalNode document "mode-switch-haptic")
  let trackpad ← throwing (optionalNode document "trackpad")
  let osk ← throwing (optionalNode document "osk")
  let global ← throwing (optionalNode document "global")
  let modeNodes := allNodes document "mode"
  let modeSwitchHaptic ← parseModeSwitchHaptic hapticNode
  let clickPressure ← throwing (parseClickPressure trackpad)
  let issues := report [] (version ≠ 1)
    ⟨"version must be 1, got " ++ toString version.toNat, versionSpan⟩
  let issues := report issues modeNodes.isEmpty
    ⟨"at least one mode is required", document.span⟩
  let issues := report issues ((trim defaultMode).isEmpty)
    ⟨"default_mode must not be empty", defaultModeSpan⟩
  let issues ← checkClickPressure trackpad clickPressure issues
  let (modeNames, issues) ← modeNodes.zipIdx.foldlM parseModeName (.empty, issues)
  let resolved := modeNames.get? defaultMode
  let issues := report issues resolved.isNone
    ⟨"default_mode " ++ Platform.debugStr F defaultMode ++ " does not name a configured mode",
      defaultModeSpan⟩
  let (oskBindings, issues) ← (← blockChildren osk).foldlM parseOskBinding (.empty, issues)
  let globalChildren ← blockChildren global
  let (globalBindings, issues) :=
    globalChildren.zipIdx.foldl (parseGlobalBinding modeNames) ([], issues)
  let (modes, issues) ← modeNodes.foldlM (fun (modes, issues) node => do
    let (mode, issues) ← parseMode node modeNames issues
    return (modes ++ [mode], issues)) (([], issues) : List (Mode F) × List Issue)
  if !issues.isEmpty then .error (.issues issues)
  match resolved with
  | none => .error (.panic (.expectFailed "default mode exists"))
  | some defaultMode =>
    return {
      defaultMode := defaultMode
      modeSwitchHaptic := modeSwitchHaptic
      clickPressure := clickPressure
      oskBindings := oskBindings
      globalBindings := globalBindings
      modeNames := modeNames
      modes := modes }

/-- `Config::parse`: the KDL parser's error, or the text of a rejected configuration. -/
def Config.parse (source : String) : Except String (Config F) :=
  match Platform.parseKdl source with
  | .error message => .error message
  | .ok document =>
    match Config.fromDocument document with
    | .ok config => .ok config
    | .error _ => .error "invalid configuration"

/-- A configuration that `Config::parse` can produce. -/
def Config.Accepted (config : Config F) : Prop :=
  ∃ document : KdlDocument F, Config.fromDocument document = .ok config

end

end Scd.Core
