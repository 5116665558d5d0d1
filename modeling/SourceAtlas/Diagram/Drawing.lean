import SourceAtlas.Diagram.Options
import SourceAtlas.Model.Analysis
import SourceAtlas.Text.Line

/-!
Drawings: the lines of a diagram, and the sheets they are written on.

A diagram is written piece by piece, and any piece may fail to fit. The lines of a drawing say what
is written by a program that never looks back: that program and the drawing are proved equal.
-/

namespace SourceAtlas

/-- A line of a diagram in the pieces in which it is written, the last of which ends it. -/
abbrev Line := List String

/-- What is written on may have room for only so many bytes. -/
structure Sheet where
  room : Option Nat := none
  written : String := ""

def Sheet.fits (sheet : Sheet) (piece : String) : Bool :=
  sheet.room.all fun room => sheet.written.utf8ByteSize + piece.utf8ByteSize ≤ room

/-- Something that is written on a sheet. It breaks off at the first piece that does not fit, and
what is on the sheet by then stays there. -/
abbrev Writing := OptionT (StateM Sheet)

namespace Writing

def piece (text : String) : Writing Unit := do
  let sheet ← getThe Sheet
  if sheet.fits text then set { sheet with written := sheet.written ++ text }
  else failure

def pieces (texts : List String) : Writing Unit :=
  texts.forM piece

/-- Write what an option holds, if it holds anything. -/
def given {Item : Type} (write : Item → Writing Unit) : Option Item → Writing Unit
  | none => pure ()
  | some item => write item

/-- Write one item after the other, and count them. -/
def each {Item : Type} (write : Item → Writing Unit) : List Item → Writing Nat
  | [] => pure 0
  | item :: rest => do
    write item
    return (← each write rest) + 1

theorem pieces_append (front back : List String) :
    pieces (front ++ back) = (do pieces front; pieces back) := by
  simp [pieces]

theorem given_pieces {Item : Type} (write : Item → List String) (option : Option Item) :
    given (fun item => pieces (write item)) option = pieces ((option.map write).getD []) := by
  cases option with
  | none => rfl
  | some item => rfl

theorem each_pieces {Item : Type} (write : Item → List String) (items : List Item) :
    each (fun item => pieces (write item)) items =
      (do pieces (items.flatMap write); return items.length) := by
  induction items with
  | nil => rfl
  | cons item rest ih =>
      rw [each, ih, List.flatMap_cons, pieces_append]
      simp

end Writing

/-- A diagram before it is written: its lines, and how many nodes and edges they show. -/
structure Drawing where
  lines : List Line
  nodeCount : Nat
  edgeCount : Nat

namespace Drawing

def pieces (drawing : Drawing) : List String :=
  drawing.lines.flatten

def text (drawing : Drawing) : String :=
  String.join drawing.pieces

/-- Write all lines, and report the numbers of nodes and of edges. -/
def write (drawing : Drawing) : Writing (Nat × Nat) := do
  Writing.pieces drawing.pieces
  return (drawing.nodeCount, drawing.edgeCount)

end Drawing

def indent : String := "    "

def titleLines (options : EncodeOptions) : List Line :=
  options.effectiveTitle.toList.map fun title =>
    [indent, "accTitle: ", Text.singleLine title, "\n"]

def writeTitle (options : EncodeOptions) : Writing Unit :=
  Writing.given (fun title => Writing.pieces [indent, "accTitle: ", Text.singleLine title, "\n"])
    options.effectiveTitle

theorem write_title (options : EncodeOptions) :
    writeTitle options = Writing.pieces (titleLines options).flatten := by
  rw [writeTitle, titleLines]
  cases options.effectiveTitle with
  | none => rfl
  | some title => simp [Writing.given]

end SourceAtlas
