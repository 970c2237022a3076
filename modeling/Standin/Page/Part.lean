import Standin.Frame
import Standin.Page.Styled
import Standin.Problem

/-!
# Parts of a page

* `Theme`: the styles of a diagnostic;
* `Part`: a text, a rule or a panel;
* `framePart`, `Diagnostic.parts`, `Report.parts`: a diagnostic or report as parts of a page. A
  diagnostic has a headline, a rule, a frame, the frames of its related places, and at the end its
  notes and its hint.
-/

namespace Standin

/-- The styles of a diagnostic. -/
structure Theme where
  infoHeader : String := "bold cyan"
  warnHeader : String := "bold yellow"
  errorHeader : String := "bold red"
  filename : String := "italic"
  lineNumber : String := "dim"
  caret : String := "bold red"
  noteBullet : String := "dim"
  hintLabel : String := "italic dim"
deriving DecidableEq, Repr

def Theme.header (t : Theme) : Severity → String
  | .info => t.infoHeader
  | .warn => t.warnHeader
  | .error => t.errorHeader

inductive Part
  | text (text : Styled)
  | rule (style : String)
  | panel (body title : Styled) (border : String)
deriving DecidableEq, Repr

/-! ## Frames -/

/-- A number filled with blanks in front. -/
def alignRight (width : Nat) (n : Nat) : Text :=
  List.replicate (width - (toString n).length) (.char ' ') ++ Text.ofString (toString n)

/-- The body of a frame with one more row. -/
def addRow (theme : Theme) (f : FrameSettings) (width : Nat) (body : Styled) (r : FrameRow) :
    Styled :=
  let body := if f.lineNumbers then
      (body.add theme.lineNumber (alignRight width r.number)).addPlain (Text.ofString " | ")
    else body
  let body := body.addPlain r.shown.text
  if r.marked then
    let gutter := if f.lineNumbers then width + 3 else 0
    (body.addPlain ('\n' :: List.replicate (r.indent gutter) (.char ' '))).add theme.caret
      (List.replicate r.carets (.char '^'))
  else body

/-- The body of a frame; line numbers are as wide as the last one. -/
def frameBody (theme : Theme) (f : FrameSettings) (rows : List FrameRow) : Styled :=
  let width := (toString ((rows.getLast?.map FrameRow.number).getD 0)).length
  match rows with
  | [] => {}
  | r :: rows =>
    rows.foldl (fun body r => addRow theme f width (body.addPlain ['\n']) r)
      (addRow theme f width {} r)

/-- The frame of a span as a panel. -/
def framePart (theme : Theme) (f : FrameSettings) (severity : Severity) (d : Document) (s : Span) :
    Except FrameFault Part := do
  let rows ← frameRows f d s
  let (line, col) ← (d.lineCol s.start).mapError .span
  let title := (Styled.ofText theme.filename (Text.ofString d.label)).add theme.lineNumber
    (Text.ofString s!":{line}:{col}")
  return .panel (frameBody theme f rows) title (theme.header severity)

/-! ## Diagnostics and reports -/

/-- A headline of severity, code and message. -/
def headPart (style severity : String) (code : Option String) (message : String) : Part :=
  .text (((Styled.ofText style (Text.ofString severity)).addPlain
    (Text.ofString (Diagnostic.codeTag code))).addPlain (Text.ofString s!": {message}"))

namespace Diagnostic

/-- The related places that are shown. -/
def shownRelated (f : FrameSettings) (d : Diagnostic) : List Related :=
  d.related.take (Text.bound d.related.length f.maxRelated)

def relatedParts (theme : Theme) (f : FrameSettings) (d : Diagnostic) :
    Except FrameFault (List Part) := do
  let shown := d.shownRelated f
  let frames ← shown.mapM fun r => do
    let frame ← framePart theme f d.severity r.document r.span
    return [.text (Styled.ofText theme.lineNumber (Text.ofString r.label)), frame]
  let left := d.related.length - shown.length
  let more : List Part :=
    if left = 0 then []
    else [.text (Styled.ofText theme.lineNumber (Text.ofString s!"... and {left} more"))]
  return frames.flatten ++ more

/-- The notes and the hint. -/
def trailer (theme : Theme) (d : Diagnostic) : Styled :=
  let notes := d.notes.foldl (fun (t : Styled) note =>
    (t.add theme.noteBullet (Text.ofString "\n• ")).addPlain (Text.ofString note)) {}
  match d.hint with
  | none => notes
  | some hint =>
    if hint = "" then notes
    else (notes.add theme.hintLabel (Text.ofString "\nHint: ")).addPlain (Text.ofString hint)

def parts (theme : Theme) (f : FrameSettings) (d : Diagnostic) : Except FrameFault (List Part) := do
  let style := theme.header d.severity
  let frame ← framePart theme f d.severity d.document d.span
  let related ← d.relatedParts theme f
  let trailer := d.trailer theme
  return [headPart style d.severity.title d.code d.message, .rule style, frame] ++ related ++
    (if trailer.plain = [] then [] else [.text trailer])

end Diagnostic

def Report.parts (r : Report) : Except FrameFault (List Part) :=
  match r.diagnostic with
  | none => .ok [headPart "bold red" "ERROR" r.code r.message]
  | some d => d.parts {} {}

end Standin
