import StyledMarkup.Css.Token

namespace StyledMarkup.Css

/-!
# Names of pseudo-classes and pseudo-elements

Known names are printed in lower case; some of them have another printed name.
Names that are not known stay as they are written.
-/

/-- Pseudo-classes that depend on the place of an element in its tree. -/
def treePseudoClasses : List String :=
  ["first-child", "last-child", "only-child", "root", "empty", "scope", "host", "first-of-type",
    "last-of-type", "only-of-type"]

/-- Pseudo-classes that depend on what a user does. -/
def actionPseudoClasses : List String :=
  ["hover", "active", "focus", "focus-visible", "focus-within"]

/-- Pseudo-classes of the parts of a scrollbar. -/
def scrollbarPseudoClasses : List String :=
  ["horizontal", "vertical", "decrement", "increment", "start", "end", "double-button",
    "single-button", "no-button", "corner-present", "window-inactive"]

/-- Other known pseudo-classes. -/
def statePseudoClasses : List String :=
  ["current", "past", "future", "playing", "paused", "seeking", "buffering", "stalled", "muted",
    "volume-locked", "fullscreen", "-webkit-full-screen", "-moz-full-screen", "-ms-fullscreen",
    "open", "closed", "modal", "picture-in-picture", "popover-open", "defined", "any-link",
    "-webkit-any-link", "-moz-any-link", "link", "local-link", "target", "target-within",
    "visited", "enabled", "disabled", "read-only", "-moz-read-only", "read-write",
    "-moz-read-write", "placeholder-shown", "-moz-placeholder", "-ms-input-placeholder",
    "default", "checked", "indeterminate", "blank", "valid", "invalid", "in-range",
    "out-of-range", "required", "optional", "user-valid", "user-invalid", "autofill",
    "-webkit-autofill", "-o-autofill", "active-view-transition"]

/-- Pseudo-classes behind a part of a scrollbar, besides its own ones. -/
def scrollbarStates : List String := ["enabled", "disabled", "hover", "active"]

/-- Pseudo-classes and pseudo-elements with another printed name. -/
def renamedClasses : List (String × String) :=
  [("-moz-placeholder", "-moz-placeholder-shown"),
    ("-ms-input-placeholder", "-ms-placeholder-shown")]

/-- Pseudo-elements that may have a single colon and are printed with one. -/
def singleColonElements : List String := ["before", "after", "first-line", "first-letter"]

/-- Parts of a scrollbar. -/
def scrollbarElements : List String :=
  ["-webkit-scrollbar", "-webkit-scrollbar-button", "-webkit-scrollbar-track",
    "-webkit-scrollbar-track-piece", "-webkit-scrollbar-thumb", "-webkit-scrollbar-corner",
    "-webkit-resizer"]

/-- Other known pseudo-elements. -/
def otherPseudoElements : List String :=
  ["details-content", "target-text", "search-text", "spelling-error", "grammar-error", "cue",
    "cue-region", "selection", "-moz-selection", "placeholder", "-webkit-input-placeholder",
    "-moz-placeholder", "-ms-input-placeholder", "marker", "backdrop", "-webkit-backdrop",
    "file-selector-button", "-webkit-file-upload-button", "-ms-browse", "view-transition",
    "picker-icon", "checkmark"]

/-- Pseudo-elements with another printed name. -/
def renamedElements : List (String × String) := [("-ms-input-placeholder", "-moz-placeholder")]

/-- Known pseudo-elements that may follow an element in a slot. -/
def slottedElements : List String :=
  ["before", "after", "marker", "placeholder", "-webkit-input-placeholder", "-moz-placeholder",
    "-ms-input-placeholder", "file-selector-button", "-webkit-file-upload-button", "-ms-browse"]

/-- Pseudo-elements of a transition between views that name what they belong to. -/
def transitionElements : List String :=
  ["view-transition-group", "view-transition-image-pair", "view-transition-old",
    "view-transition-new"]

/-- Pseudo-classes that count elements. -/
def countingClasses : List String :=
  ["nth-child", "nth-last-child", "nth-of-type", "nth-last-of-type", "nth-col", "nth-last-col"]

/-- Pseudo-classes that count the elements of a list of selectors. -/
def countingAmong : List String := ["nth-child", "nth-last-child"]

/-- Known pseudo-elements without arguments. -/
def isKnownElement (name : Text) : Bool :=
  isOneOf singleColonElements name || isOneOf scrollbarElements name ||
    isOneOf otherPseudoElements name

/-- Known pseudo-classes without arguments that do not depend on the tree. -/
def isKnownClass (name : Text) : Bool :=
  isOneOf actionPseudoClasses name || isOneOf scrollbarPseudoClasses name ||
    isOneOf statePseudoClasses name

/-- The printed name of a known pseudo-class or pseudo-element. -/
def renamed (names : List (String × String)) (name : Text) : Text :=
  match names.find? fun (other, _) => isOneOf [other] name with
  | some (_, printed) => Text.of printed
  | none => Text.lower name

end StyledMarkup.Css
