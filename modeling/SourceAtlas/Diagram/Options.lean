import SourceAtlas.Text.Blank
import SourceAtlas.Text.Letter

/-!
What kind of diagram is wanted, and how it is laid out.
-/

namespace SourceAtlas

/-- The kinds of diagram that have a name. Not all of them can be drawn. -/
inductive DiagramType where
  | classes
  | flowchart
  | sequence
  | entityRelation
  | state
  deriving DecidableEq, Repr

namespace DiagramType

def all : List DiagramType := [.classes, .flowchart, .sequence, .entityRelation, .state]

def name : DiagramType → String
  | .classes => "class"
  | .flowchart => "flowchart"
  | .sequence => "sequence"
  | .entityRelation => "er"
  | .state => "state"

def ofName? (name : String) : Option DiagramType :=
  all.find? fun type => type.name == name

def keyword : DiagramType → String
  | .classes => "classDiagram"
  | .flowchart => "flowchart"
  | .sequence => "sequenceDiagram"
  | .entityRelation => "erDiagram"
  | .state => "stateDiagram-v2"

def parse? (text : String) : Option DiagramType :=
  match Text.lowercase text with
  | "class" => some .classes
  | "classdiagram" => some .classes
  | "flowchart" => some .flowchart
  | "graph" => some .flowchart
  | "sequence" => some .sequence
  | "sequencediagram" => some .sequence
  | "er" => some .entityRelation
  | "erdiagram" => some .entityRelation
  | "state" => some .state
  | "statediagram" => some .state
  | "statediagram-v2" => some .state
  | _ => none

end DiagramType

inductive Direction where
  | topBottom
  | bottomTop
  | leftRight
  | rightLeft
  deriving DecidableEq, Repr

namespace Direction

def all : List Direction := [.topBottom, .bottomTop, .leftRight, .rightLeft]

def name : Direction → String
  | .topBottom => "TB"
  | .bottomTop => "BT"
  | .leftRight => "LR"
  | .rightLeft => "RL"

def ofName? (name : String) : Option Direction :=
  all.find? fun direction => direction.name == name

/-- The direction meant by a name in any case. Downwards has two names. -/
def parse? (text : String) : Option Direction :=
  match Text.uppercase text with
  | "TB" => some .topBottom
  | "TD" => some .topBottom
  | "BT" => some .bottomTop
  | "LR" => some .leftRight
  | "RL" => some .rightLeft
  | _ => none

end Direction

structure EncodeOptions where
  diagramType : DiagramType := .classes
  direction : Option Direction := none
  includeTitle : Bool := false
  title : Option String := none
  deriving DecidableEq, Repr

namespace EncodeOptions

def withTitle (options : EncodeOptions) (title : String) : EncodeOptions :=
  { options with title := some title, includeTitle := true }

/-- The title to be drawn: one that is wanted and not blank, without blanks around it. -/
def effectiveTitle (options : EncodeOptions) : Option String :=
  if options.includeTitle then
    (options.title.map Text.trim).filter fun title => !title.isEmpty
  else none

end EncodeOptions

end SourceAtlas
