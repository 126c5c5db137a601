/-!
# Text.Outline — nested values, an item on each line

A value is a piece of text, or items between an opening and a closing text. Items stand on lines of their own,
four blanks further in, each with a comma after it; without items, the two texts stand next to each other.
-/
namespace ScanDiscovery.Text

inductive Outline where
  | leaf (text : String)
  | group (opening : String) (items : List Outline) (closing : String)
  /-- a value with a text before it on its line -/
  | labelled (label : String) (value : Outline)

namespace Outline

def blanks (n : Nat) : String := String.ofList (List.replicate n ' ')

mutual

/-- The text of a value whose first line has `indent` blanks before it. -/
def render (indent : Nat) : Outline → String
  | .leaf text => text
  | .labelled label value => label ++ render indent value
  | .group opening [] closing => opening ++ closing
  | .group opening (o :: os) closing =>
    opening ++ "\n" ++ blanks (indent + 4) ++ render (indent + 4) o ++ ",\n" ++ renderItems (indent + 4) os
      ++ blanks indent ++ closing

def renderItems (indent : Nat) : List Outline → String
  | [] => ""
  | o :: os => blanks indent ++ render indent o ++ ",\n" ++ renderItems indent os

end

def text (o : Outline) : String := render 0 o

def list (items : List Outline) : Outline := .group "[" items "]"

def set (items : List Outline) : Outline := .group "\x7b" items "\x7d"

def wrapped (name : String) (value : Outline) : Outline := .group (name ++ "(") [value] ")"

def optional : Option Outline → Outline
  | none => .leaf "None"
  | some value => wrapped "Some" value

def record (name : String) (fields : List (String × Outline)) : Outline :=
  .group (name ++ " \x7b") (fields.map fun (label, value) => .labelled (label ++ ": ") value) "\x7d"

end Outline
end ScanDiscovery.Text
