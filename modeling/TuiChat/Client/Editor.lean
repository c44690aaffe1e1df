import TuiChat.Lib.Text
import Mathlib.Data.List.DropRight

/-!
# The editor

`crates/client/src/editor.rs`, with `editor_cursor_position` of `app.rs`, which draws its cursor: a
text, the offset of the cursor in it and the column that vertical motion aims at. A slice or a
replacement at an offset that is no boundary of the text panics, which is `none`.
-/

namespace TuiChat

open Lib

/-- `unicode_segmentation` and `unicode_width`: the grapheme clusters and the words of a text, and how
many columns it takes on the screen. -/
structure Segmentation where
  graphemes : List Char → List (List Char)
  wordBounds : List Char → List (List Char)
  width : List Char → Nat

/-- The pieces of a text cover it. -/
structure Segmentation.Covers (seg : Segmentation) : Prop where
  graphemes : ∀ text, (seg.graphemes text).flatten = text
  wordBounds : ∀ text, (seg.wordBounds text).flatten = text

structure EditorState where
  text : List Char
  cursor : Nat
  preferredColumn : Option Nat
deriving DecidableEq, Repr

/-- `value.replace("\r\n", "\n").replace('\r', "\n")`. -/
def lineEndings : List Char → List Char
  | [] => []
  | '\r' :: '\n' :: value => '\n' :: lineEndings value
  | '\r' :: value => '\n' :: lineEndings value
  | c :: value => c :: lineEndings value

/-- What `insert` writes for a character. -/
def normalizedChar (c : Char) : List Char :=
  if c = '\n' then ['\n'] else if c = '\t' then [' ', ' ', ' ', ' ']
  else if isControl c then ['\uFFFD'] else [c]

def normalized (value : List Char) : List Char := (lineEndings value).flatMap normalizedChar

/-- `text.trim_end_matches(char::is_whitespace)`. -/
def trimEnd (text : List Char) : List Char := text.rdropWhile isWhitespace

namespace EditorState

def new : EditorState := { text := [], cursor := 0, preferredColumn := none }

def set (_ : EditorState) (text : List Char) : EditorState where
  text
  cursor := byteLength text
  preferredColumn := none

def clear (_ : EditorState) : EditorState where
  text := []
  cursor := 0
  preferredColumn := none

/-- The editor with the cursor at an offset, aiming at no column. -/
def moveTo (e : EditorState) (cursor : Nat) : EditorState where
  text := e.text
  cursor
  preferredColumn := none

/-- The start of the line that an offset is on. -/
def lineStart (text : List Char) (offset : Nat) : Option Nat := do
  let before ← sliceTo text offset
  return (rfindChar '\n' before).elim 0 fun index => index + 1

/-- The end of the line that an offset is on. -/
def lineEnd (text : List Char) (offset : Nat) : Option Nat := do
  let after ← sliceFrom text offset
  return (findChar '\n' after).elim (byteLength text) fun index => offset + index

variable (seg : Segmentation)

def previousGrapheme (text : List Char) (cursor : Nat) : Option Nat := do
  let before ← sliceTo text cursor
  return (indicesFrom 0 (seg.graphemes before)).getLast?.elim cursor fun (index, _) => index

def nextGrapheme (text : List Char) (cursor : Nat) : Option Nat := do
  let after ← sliceFrom text cursor
  return (indicesFrom 0 (seg.graphemes after)).head?.elim cursor fun (_, grapheme) =>
    cursor + byteLength grapheme

/-- The loop of `byte_at_display_column`. -/
def columnLoop (start stop column : Nat) : Nat → List (Nat × List Char) → Nat
  | _, [] => stop
  | width, (relative, grapheme) :: graphemes =>
    let next := width + seg.width grapheme
    if next > column then start + relative
    else if next = column then start + relative + byteLength grapheme
    else columnLoop start stop column next graphemes

def byteAtDisplayColumn (text : List Char) (start stop column : Nat) : Option Nat := do
  let line ← slice text start stop
  return columnLoop seg start stop column 0 (indicesFrom 0 (seg.graphemes line))

/-- The part of a value that fits in `remaining` bytes. -/
def accepted (value : List Char) (remaining : Nat) : Option (List Char) :=
  if byteLength value ≤ remaining then some value
  else
    let ends := (indicesFrom 0 (seg.graphemes value)).map fun (index, grapheme) =>
      index + byteLength grapheme
    sliceTo value ((ends.takeWhile fun stop => stop ≤ remaining).getLast?.getD 0)

def insert (e : EditorState) (value : List Char) (maxBytes : Nat) : Option (Bool × EditorState) :=
  if value.isEmpty || byteLength e.text ≥ maxBytes then some (value.isEmpty, e)
  else do
    let remaining := maxBytes - byteLength e.text
    let accepted ← accepted seg (normalized value) remaining
    let text ← insertStr e.text e.cursor accepted
    return (byteLength accepted = byteLength (normalized value),
      { text, cursor := e.cursor + byteLength accepted, preferredColumn := none })

def moveLeft (e : EditorState) : Option EditorState := do
  return e.moveTo (← previousGrapheme seg e.text e.cursor)

def moveRight (e : EditorState) : Option EditorState := do
  return e.moveTo (← nextGrapheme seg e.text e.cursor)

def moveStart (e : EditorState) : EditorState := e.moveTo 0

def moveEnd (e : EditorState) : EditorState := e.moveTo (byteLength e.text)

def moveLineStart (e : EditorState) : Option EditorState := do
  return e.moveTo (← lineStart e.text e.cursor)

def moveLineEnd (e : EditorState) : Option EditorState := do
  return e.moveTo (← lineEnd e.text e.cursor)

/-- The line above or below the one from `currentStart` to `currentEnd`, if there is one. -/
def targetLine (text : List Char) (currentStart currentEnd : Nat) (direction : Int) :
    Option (Option (Nat × Nat)) :=
  if direction < 0 then
    if currentStart = 0 then some none
    else do
      let start ← lineStart text (currentStart - 1)
      return some (start, currentStart - 1)
  else if currentEnd = byteLength text then some none
  else do
    let stop ← lineEnd text (currentEnd + 1)
    return some (currentEnd + 1, stop)

/-- The column that vertical motion aims at. -/
def aimedColumn (e : EditorState) (currentStart : Nat) : Option Nat :=
  match e.preferredColumn with
  | some column => some column
  | none => (slice e.text currentStart e.cursor).map seg.width

def moveVertical (e : EditorState) (direction : Int) : Option EditorState := do
  let currentStart ← lineStart e.text e.cursor
  let currentEnd ← lineEnd e.text e.cursor
  let column ← aimedColumn seg e currentStart
  match ← targetLine e.text currentStart currentEnd direction with
  | none => return e
  | some (start, stop) =>
    let cursor ← byteAtDisplayColumn seg e.text start stop column
    return { e with cursor, preferredColumn := some column }

def deleteBackward (e : EditorState) : Option EditorState := do
  let previous ← previousGrapheme seg e.text e.cursor
  if previous = e.cursor then return { e with preferredColumn := none }
  else
    let text ← replaceRange e.text previous e.cursor []
    return { text, cursor := previous, preferredColumn := none }

def deleteForward (e : EditorState) : Option EditorState := do
  let next ← nextGrapheme seg e.text e.cursor
  if next = e.cursor then return { e with preferredColumn := none }
  else
    let text ← replaceRange e.text e.cursor next []
    return { e with text, preferredColumn := none }

def deleteWordBackward (e : EditorState) : Option EditorState :=
  if e.cursor = 0 then some e
  else do
    let before ← sliceTo e.text e.cursor
    let words := indicesFrom 0 (seg.wordBounds (trimEnd before))
    let wordStart := (words.reverse.find? fun (_, part) => !part.all isWhitespace).elim 0 fun (index, _) => index
    let text ← replaceRange e.text wordStart e.cursor []
    return { text, cursor := wordStart, preferredColumn := none }

def deleteToLineStart (e : EditorState) : Option EditorState := do
  let start ← lineStart e.text e.cursor
  let text ← replaceRange e.text start e.cursor []
  return { text, cursor := start, preferredColumn := none }

/-! ## Rows and columns -/

/-- How many columns a grapheme takes: at least one. -/
def graphemeWidth (grapheme : List Char) : Nat := max (seg.width grapheme) 1

/-- Where a grapheme of a width is drawn that follows at a row and column: a full row wraps, and so
does one that has no room for it. -/
def wrapped (wrapWidth row column width : Nat) : Nat × Nat :=
  if column = wrapWidth ∨ (column > 0 ∧ column + width > wrapWidth) then (row + 1, 0) else (row, column)

/-- The loop of `set_cursor_by_visual_position`, of the row, the column and the end of the last grapheme:
the offset that is hit. -/
def hitLoop (targetRow targetColumn wrapWidth length : Nat) :
    Nat → Nat → Nat → List (Nat × List Char) → Nat
  | row, column, lastCursor, [] =>
    if row < targetRow ∨ targetColumn ≥ column then length else lastCursor
  | row, column, _, (index, grapheme) :: graphemes =>
    if grapheme = ['\n'] then
      if row = targetRow then index
      else hitLoop targetRow targetColumn wrapWidth length (row + 1) 0 (index + byteLength grapheme) graphemes
    else
      let width := graphemeWidth seg grapheme
      let place := wrapped wrapWidth row column width
      if place.1 = targetRow ∧ targetColumn < place.2 + width then index
      else if place.1 > targetRow then index
      else hitLoop targetRow targetColumn wrapWidth length place.1 (place.2 + width)
        (index + byteLength grapheme) graphemes

def setCursorByVisualPosition (e : EditorState) (targetRow targetColumn wrapWidth : Nat) : EditorState :=
  e.moveTo (hitLoop seg targetRow targetColumn (max wrapWidth 1) (byteLength e.text) 0 0 0
    (indicesFrom 0 (seg.graphemes e.text)))

end EditorState

/-- The loop of `editor_cursor_position`: row and column after a grapheme. -/
def advanced (seg : Segmentation) (wrapWidth : Nat) (position : Nat × Nat) (grapheme : List Char) : Nat × Nat :=
  if grapheme = ['\n'] then (position.1 + 1, 0)
  else
    let width := EditorState.graphemeWidth seg grapheme
    let place := EditorState.wrapped wrapWidth position.1 position.2 width
    (place.1, place.2 + width)

/-- `editor_cursor_position`: the row and column at which the cursor is drawn. -/
def editorCursorPosition (seg : Segmentation) (text : List Char) (cursor width : Nat) : Option (Nat × Nat) := do
  let width := max width 1
  let before ← sliceTo text cursor
  let position := (seg.graphemes before).foldl (advanced seg width) (0, 0)
  let position := if position.2 = width then (position.1 + 1, 0) else position
  return (min position.1 65535, min position.2 65535)

end TuiChat
