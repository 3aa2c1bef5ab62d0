import Scaffold.Text.Lines

/-!
# Paths

A path is a list of names, taken from the working directory or from the root. Empty names and single
dots say nothing and are dropped; two dots are kept, since what they mean is only known where the
path is followed. A path that begins with exactly two slashes keeps them.
-/
namespace Scaffold

inductive Anchor
  | relative
  | absolute
  | doubled
deriving DecidableEq, Repr

def Anchor.text : Anchor → String
  | .relative => ""
  | .absolute => "/"
  | .doubled => "//"

structure Path where
  anchor : Anchor := .relative
  names : List String
deriving DecidableEq, Repr

namespace Path

/-- The anchor that a text begins with. -/
def anchorOf (cs : List Char) : Anchor :=
  match (cs.takeWhile (· = '/')).length with
  | 0 => .relative
  | 2 => .doubled
  | _ => .absolute

def namesOf (cs : List Char) : List String :=
  ((Text.parts '/' cs).map String.ofList).filter fun n => n ≠ "" ∧ n ≠ "."

def ofString (s : String) : Path := ⟨anchorOf s.toList, namesOf s.toList⟩

def text (p : Path) : String :=
  let body := p.anchor.text ++ "/".intercalate p.names
  if body = "" then "." else body

/-- One path inside another; a path with an anchor of its own stays where it is. -/
def join (p q : Path) : Path :=
  if q.anchor = .relative then ⟨p.anchor, p.names ++ q.names⟩ else q

/-- Adds the names in a text. -/
def child (p : Path) (s : String) : Path := p.join (ofString s)

def parent (p : Path) : Path := ⟨p.anchor, p.names.dropLast⟩

def name (p : Path) : String := p.names.getLastD ""

/-- The ending of a name, with its dot: what follows the last dot, if something stands before and
after it. -/
def ending (name : String) : String :=
  let reversed := name.toList.reverse
  let tail := reversed.takeWhile (· ≠ '.')
  match reversed.drop tail.length with
  | _ :: _ :: _ => if tail.isEmpty then "" else String.ofList ('.' :: tail.reverse)
  | _ => ""

def suffix (p : Path) : String := ending p.name

end Path
end Scaffold
