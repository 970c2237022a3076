import Standin.Text.Quoted

/-!
# Markers

* `Marker`, `Markers`: the words that open and close a fragment;
* `Style`, `Style.markers`: the pairs of common template languages;
* `MarkerFault`: why words are no markers.
-/

namespace Standin

/-- A word that opens or closes a fragment. -/
structure Marker where
  symbol : Text
  symbol_ne : symbol ≠ []
deriving DecidableEq, Repr

/-- An opening and a closing marker. -/
structure Markers where
  opening : Marker
  closing : Marker
  distinct : opening.symbol ≠ closing.symbol
deriving DecidableEq, Repr

/-- Named pairs of markers. -/
inductive Style
  | jinja
  | expression
  | comment
  | erb
  | php
deriving DecidableEq, Repr

/-- Why words are no markers. -/
inductive MarkerFault
  /-- The value, shown as it is written, is no word. -/
  | notWord (shown : String)
  /-- Both markers are the same word. -/
  | same (symbol : Text)
  /-- No pair has this name. -/
  | unknownStyle (name : Text)
deriving DecidableEq, Repr

namespace Marker

def ofText (symbol : Text) : Except MarkerFault Marker :=
  if h : symbol = [] then .error (.notWord (Text.quoted symbol)) else .ok ⟨symbol, h⟩

def length (m : Marker) : Nat := m.symbol.length

/-- The marker as a message shows it. -/
def shown (m : Marker) : String := s!"Marker(symbol={Text.quoted m.symbol}, length={m.length})"

end Marker

namespace Markers

def ofMarkers (opening closing : Marker) : Except MarkerFault Markers :=
  if h : opening.symbol = closing.symbol then .error (.same opening.symbol)
  else .ok ⟨opening, closing, h⟩

def ofTexts (opening closing : Text) : Except MarkerFault Markers := do
  ofMarkers (← Marker.ofText opening) (← Marker.ofText closing)

/-- The pair as a reader sees it. -/
def display (m : Markers) : Text :=
  m.opening.symbol ++ Text.ofString " … " ++ m.closing.symbol

/-- The pair as a message shows it. -/
def shown (m : Markers) : String :=
  s!"MarkerPair(opening={m.opening.shown}, closing={m.closing.shown})"

end Markers

namespace Style

/-- All styles, in the order in which messages list them. -/
def all : List Style := [jinja, expression, comment, erb, php]

def name : Style → String
  | jinja => "jinja"
  | expression => "expression"
  | comment => "comment"
  | erb => "erb"
  | php => "php"

def markers : Style → Markers
  | jinja => ⟨⟨['\x7b', '%'], by decide⟩, ⟨['%', '\x7d'], by decide⟩, by decide⟩
  | expression => ⟨⟨['\x7b', '\x7b'], by decide⟩, ⟨['\x7d', '\x7d'], by decide⟩, by decide⟩
  | comment => ⟨⟨['\x7b', '#'], by decide⟩, ⟨['#', '\x7d'], by decide⟩, by decide⟩
  | erb => ⟨⟨['<', '%'], by decide⟩, ⟨['%', '>'], by decide⟩, by decide⟩
  | php => ⟨⟨['<', '?', 'p', 'h', 'p'], by decide⟩, ⟨['?', '>'], by decide⟩, by decide⟩

def ofName (name : Text) : Except MarkerFault Style :=
  match all.find? fun s => Text.ofString s.name == name with
  | some style => .ok style
  | none => .error (.unknownStyle name)

end Style

def MarkerFault.message : MarkerFault → String
  | .notWord shown => s!"Marker symbol must be a non-empty string (got {shown})"
  | .same symbol =>
    s!"Opening and closing markers must differ (both are {Text.quoted symbol})"
  | .unknownStyle name =>
    let known := String.intercalate ", " (Style.all.map Style.name)
    s!"Unknown marker style {Text.quoted name} (expected one of: {known})"

end Standin
