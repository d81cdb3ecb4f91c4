/-!
# Kinds of visible text

A rough classification of visible texts by the word they start with, whatever its case. Only the
first letters count, so that a notice is taken for the answer `no`.
-/

namespace ClassLiterals

/-- What a visible text is probably used for. -/
inductive TextKind where
  | button
  | title
  | message
  | tooltip
  | menu
  | label
  | placeholder
  | text
  deriving DecidableEq, Repr

namespace TextKind

/-- The kinds with the beginnings of their texts. The first kind that fits is taken. -/
def beginnings : List (TextKind × List String) :=
  [(button, ["button", "btn", "click", "press", "confirm", "cancel", "ok", "yes", "no"]),
   (title, ["title", "header", "heading", "caption"]),
   (message, ["error", "warning", "info", "success", "message", "alert"]),
   (tooltip, ["tooltip", "hint", "help", "description"]),
   (menu, ["menu", "option", "item", "choice"]),
   (label, ["label", "name", "text"]),
   (placeholder, ["placeholder", "hint", "example"])]

/-- The lower-case letters of a character, for the characters whose lower case starts with an ASCII
letter: the ASCII capitals, the Kelvin sign and the capital I with a dot, which becomes an `i` with
a dot above it. The beginnings are ASCII, so every other character may stand for itself. -/
def lower (c : Char) : List Char :=
  if c = '\u212a' then ['k']
  else if c = '\u0130' then ['i', '\u0307']
  else [c.toLower]

/-- The kind of a text. -/
def ofText (text : String) : TextKind :=
  let lowered := text.toList.flatMap lower
  match beginnings.find? fun (_, words) => words.any fun w => w.toList.isPrefixOf lowered with
  | some (kind, _) => kind
  | none => .text

/-- The name of a kind. -/
def name : TextKind → String
  | button => "button"
  | title => "title"
  | message => "message"
  | tooltip => "tooltip"
  | menu => "menu"
  | label => "label"
  | placeholder => "placeholder"
  | text => "text"

end TextKind

end ClassLiterals
