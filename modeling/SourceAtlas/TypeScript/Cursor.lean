import SourceAtlas.Position

/-!
Cursors: places in a text that is being read.

A cursor knows the characters ahead of it, how many they are, and where they stand. Reading only ever
moves a cursor forward by a number of characters, so a scanner need only say how many.
-/

namespace SourceAtlas.TypeScript

structure Cursor where
  rest : List Char
  left : Nat
  point : Point

namespace Cursor

def ofText (text : String) : Cursor :=
  { rest := text.toList, left := text.toList.length, point := Point.start }

def next (cursor : Cursor) : Cursor :=
  match cursor.rest with
  | [] => cursor
  | c :: rest =>
    { rest, left := cursor.left - 1, point := cursor.point.past c }

def forward : Nat → Cursor → Cursor
  | 0, cursor => cursor
  | count + 1, cursor => forward count cursor.next

def upTo (start stop : Cursor) : List Char :=
  start.rest.take (start.left - stop.left)

end Cursor

end SourceAtlas.TypeScript
