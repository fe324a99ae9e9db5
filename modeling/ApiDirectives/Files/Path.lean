import ApiDirectives.Text.Blank

/-!
# Paths

A path is its anchor, a slash for an absolute one, and its parts. Empty parts and single dots are
dropped when a path is read, double dots are kept.
-/

namespace ApiDirectives

open Text

/-- A path. -/
structure FilePath where
  anchor : String := ""
  parts : List String := []
  deriving Repr, DecidableEq, Inhabited

namespace FilePath

/-- The anchor of a path: exactly two leading slashes stay two, any other number is one. -/
def anchorOf : List Char → String
  | '/' :: '/' :: '/' :: _ => "/"
  | ['/', '/'] => "//"
  | '/' :: '/' :: _ => "//"
  | '/' :: _ => "/"
  | _ => ""

/-- Reads a path. -/
def ofString (s : String) : FilePath where
  anchor := anchorOf s.toList
  parts := (pieces '/' s).filter fun p => p != "" && p != "."

/-- A path as text; the empty relative path is a dot. -/
def render (p : FilePath) : String :=
  if p.anchor == "" && p.parts.isEmpty then "." else p.anchor ++ joined "/" p.parts

/-- Whether a path starts at the root. -/
def isAbsolute (p : FilePath) : Bool := p.anchor != ""

/-- A path seen from another one; an absolute path stays itself. -/
def join (base p : FilePath) : FilePath :=
  if p.isAbsolute then p else { base with parts := base.parts ++ p.parts }

/-- The last part, empty if there is none. -/
def name (p : FilePath) : String := p.parts.getLastD ""

/-- The path without its last part. -/
def parent (p : FilePath) : FilePath := { p with parts := p.parts.dropLast }

/-- The name cut before its last dot, and the rest with the dot. A dot at either end does not
count. -/
def splitName (name : String) : String × String :=
  let cs := name.toList
  let tail := (cs.reverse.takeWhile (· != '.')).reverse
  let stem := (cs.take (cs.length - tail.length)).dropLast
  if tail.length == cs.length || tail.isEmpty || stem.isEmpty then (name, "")
  else (String.ofList stem, String.ofList ('.' :: tail))

/-- The name without its last suffix. -/
def stem (p : FilePath) : String := (splitName p.name).1

/-- The last suffix of the name, with its dot. -/
def suffix (p : FilePath) : String := (splitName p.name).2

end FilePath

end ApiDirectives
