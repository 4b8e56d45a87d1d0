import Targeting.Evaluation.Choice
import Targeting.Json.Reader
import Targeting.Selector.Cache

/-!
# Messages

A message is a tree of components, given decoded or as json text. It renders to
plain text: texts without their formatting codes, translations as their key
with arguments, scores and selectors as what they resolve to. What cannot be
resolved leaves nothing, or a zero for a score, and is reported.
-/
namespace Targeting

def isFormatCode (c : Char) : Bool :=
  ('0' ≤ c && c ≤ '9') || ('a' ≤ c && c ≤ 'f') || ('k' ≤ c && c ≤ 'o') || c = 'r'

/-- Removes formatting codes in one pass from the left. -/
def dropFormatCodes : List Char → List Char
  | [] => []
  | [c] => [c]
  | c :: d :: rest =>
    if c = '§' && isFormatCode d then dropFormatCodes rest else c :: dropFormatCodes (d :: rest)

/-- A whole number in json text that has too many digits to be read. -/
structure DigitLimit where
  digits : Nat
deriving DecidableEq, Repr

def DigitLimit.message (limit : DigitLimit) : String :=
  "Exceeds the limit (" ++ toString Number.maxDigits
    ++ " digits) for integer string conversion: value has " ++ toString limit.digits
    ++ " digits; use sys.set_int_max_str_digits() to increase the limit"

/-- Rendering reports notices and remembers the selectors it has read. -/
abbrev Rendering := StateT Selector.Cache Logged

def Rendering.note (notice : Notice) : Rendering Unit := StateT.lift (Logged.note notice)

structure Renderer where
  context : Option Context := none
  settings : Settings := {}

/-- The chooser of a selector text, taken from the cache if it has been read before. -/
def chooserOf (given : Option String) (settings : Settings) : Rendering Chooser := do
  let (selector, cache) ← StateT.lift ((← get).fetch given)
  set cache
  return { selector, settings, given }

namespace Renderer

variable (r : Renderer)

def missingScore : String := "0"

def strip (text : String) : String :=
  if r.settings.stripFormatting then String.ofList (dropFormatCodes text.toList) else text

def select (selector : String) : Rendering (Except Failure (List Entity)) :=
  match r.context with
  | none => pure (.error (.unresolved (.noContext selector)))
  | some context => do
    let chooser ← chooserOf (some selector) r.settings
    return asked (← StateT.lift (chooser.choose context).run)

def renderSelector (selector : String) : Rendering String := do
  let ids := (← r.select selector).bind fun entities => asked (entities.mapM (·.id))
  match ids with
  | .ok ids => return ", ".intercalate ids
  | .error failure =>
    Rendering.note (.selectorFailed selector failure)
    return ""

/-- A score in decimal; one with too many digits cannot be written. -/
def scoreText (score : Int) : Except Failure String :=
  if (toString score.natAbs).length ≤ Number.maxDigits then .ok (toString score)
  else .error (.host ⟨"Exceeds the limit (" ++ toString Number.maxDigits
    ++ " digits) for integer string conversion; use sys.set_int_max_str_digits() to increase the limit"⟩)

def renderHeld (objective : Objective) (holder : Option Identity) : Except Failure String :=
  match holder with
  | none => .ok missingScore
  | some identity => do
    match ← asked (objective.score identity) with
    | some score => scoreText score
    | none => return missingScore

def selectHolder (selector : String) : Rendering (Except Failure (Option Identity)) := do
  return (← r.select selector).bind fun entities =>
    match entities with
    | [] => .ok none
    | first :: _ => asked first.identity

/-- The score of a holder: `*` is the executor, a selector its first entity, and any other name the
first participant who shows it. -/
def resolveScore (context : Context) (board : Scoreboard) (name objective : String) :
    Rendering (Except Failure String) := do
  match board.objective objective with
  | .error fault => return .error (.host fault)
  | .ok none => return .ok missingScore
  | .ok (some counter) =>
    -- A holder is looked for only where the objective exists.
    if name = "*" then
      let holder : Except Failure (Option Identity) :=
        match context.executor with
        | none => .ok none
        | some executor => asked executor.identity
      return holder.bind (renderHeld counter)
    else if name.toList.head? = some '@' then
      match ← r.selectHolder name with
      | .error failure =>
        Rendering.note (.holderFailed name failure)
        return .ok ""
      | .ok none => return .ok ""
      | .ok holder => return renderHeld counter holder
    else
      let holder := (asked board.participants).map fun all => all.find? (·.displayName = name)
      return holder.bind (renderHeld counter)

/-- A score component; it needs a name and an objective. -/
def renderScore (score : Json) : Rendering String := do
  let name := (score.member? "name").getD .null
  let objective := (score.member? "objective").getD .null
  if !name.isPresent || !objective.isPresent then return ""
  match r.context, r.context.bind (·.host.scoreboard) with
  | some context, some board =>
    match ← r.resolveScore context board name.display objective.display with
    | .ok text => return text
    | .error failure =>
      Rendering.note (.scoreFailed name.display objective.display failure)
      return missingScore
  | _, _ =>
    Rendering.note (.scoreboardMissing name.display)
    return ""

def given? (name : String) (fields : List (String × Json)) : Option Json :=
  (Keyed.get? name fields).filter (·.isPresent)

mutual

/-- One component: its own content, and then the components of its `rawtext` list. A text stands
for itself; what is neither a text nor an object is left out. -/
def component (r : Renderer) (message : Json) : Rendering String :=
  match message with
  | .text text => pure (r.strip text)
  | .object fields => do
    let own ← r.content fields
    let rest ← r.nested fields
    return own ++ rest
  | _ => pure ""
termination_by sizeOf message

/-- The content of an object: the first of text, translation, score and selector that it has. -/
def content (r : Renderer) (fields : List (String × Json)) : Rendering String :=
  match given? "text" fields with
  | some text => pure (r.strip text.display)
  | none =>
    match given? "translate" fields with
    | some key =>
      match _named : Keyed.get? "with" fields with
      | none => pure ("[" ++ key.display ++ "]")
      | some arguments =>
        if arguments.isPresent then do
          let rendered ← r.translationArguments arguments
          return "[" ++ key.display ++ " with (" ++ rendered ++ ")]"
        else pure ("[" ++ key.display ++ "]")
    | none =>
      match Keyed.get? "score" fields with
      | some (.object score) => r.renderScore (.object score)
      | _ =>
        match given? "selector" fields with
        | some selector => r.renderSelector selector.display
        | none => pure ""
termination_by sizeOf fields
decreasing_by
  exact Json.sizeOf_get?_lt _named

def nested (r : Renderer) (fields : List (String × Json)) : Rendering String :=
  match _listed : Keyed.get? "rawtext" fields with
  | some (.list items) => r.components items
  | _ => pure ""
termination_by sizeOf fields
decreasing_by
  have smaller := Json.sizeOf_get?_lt _listed
  simp only [Json.list.sizeOf_spec] at smaller
  omega

def components (r : Renderer) (messages : List Json) : Rendering String :=
  match messages with
  | [] => pure ""
  | message :: rest => do
    let first ← r.component message
    let others ← r.components rest
    return first ++ others
termination_by sizeOf messages

/-- The arguments of a translation. Texts in a list keep their formatting codes. -/
def translationArguments (r : Renderer) (arguments : Json) : Rendering String :=
  match arguments with
  | .list items => do
    let texts ← r.argumentTexts items
    return ", ".intercalate texts
  | single => r.component single
termination_by sizeOf arguments + 1

def argumentTexts (r : Renderer) (items : List Json) : Rendering (List String) :=
  match items with
  | [] => pure []
  | .text text :: rest => do
    let others ← r.argumentTexts rest
    return text :: others
  | item :: rest => do
    let first ← r.component item
    let others ← r.argumentTexts rest
    return first :: others
termination_by sizeOf items

end

def renderDecoded : Json → Rendering String
  | .list items => r.components items
  | .object fields => r.component (.object fields)
  | value => pure (r.strip value.display)

/-- A message. A text is read as json if it is json, and is a plain text if it is not. -/
def render (raw : Json) : ExceptT DigitLimit Rendering String :=
  match raw with
  | .null => pure ""
  | .text text =>
    if text.isEmpty then pure ""
    else match Json.parse text with
      | .ok value => ExceptT.lift (r.renderDecoded value)
      | .error .malformed => pure (r.strip text)
      | .error (.tooManyDigits digits) => throw ⟨digits⟩
  | value => ExceptT.lift (r.renderDecoded value)

end Renderer

end Targeting
