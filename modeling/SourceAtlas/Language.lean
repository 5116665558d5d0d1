import SourceAtlas.Text.Letter

/-!
The dialects a source text can be written in, and how they are named.
-/

namespace SourceAtlas

/-- Plain TypeScript, or TypeScript with markup among its expressions. -/
inductive Language where
  | typescript
  | tsx
  deriving DecidableEq, Repr

namespace Language

def all : List Language := [.typescript, .tsx]

def name : Language → String
  | .typescript => "typescript"
  | .tsx => "tsx"

def ofName? (name : String) : Option Language :=
  all.find? fun language => language.name == name

def parse? (text : String) : Option Language :=
  match Text.lowercase text with
  | "typescript" => some .typescript
  | "ts" => some .typescript
  | "tsx" => some .tsx
  | "jsx" => some .tsx
  | "javascript" => some .tsx
  | "js" => some .tsx
  | _ => none

def ofExtension? (extension : String) : Option Language :=
  match Text.lowercase extension with
  | "ts" => some .typescript
  | "mts" => some .typescript
  | "cts" => some .typescript
  | "tsx" => some .tsx
  | "jsx" => some .tsx
  | "js" => some .tsx
  | "mjs" => some .tsx
  | "cjs" => some .tsx
  | _ => none

end Language

end SourceAtlas
