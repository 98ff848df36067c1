/-!
# Code layout

Source text as a list of items: lines, and the braces that open and close a block on lines of their
own. `Item.lines` places each line at its depth; `Layout.print` writes the lines with the chosen
indentation and line ending. An empty line carries no indentation.
-/
namespace VaultModels.Code

inductive Indent where
  | spaces2
  | spaces4
  | tabs
  deriving DecidableEq, Repr

inductive LineEnding where
  | lf
  | crlf
  deriving DecidableEq, Repr

def Indent.unit : Indent → String
  | .spaces2 => "  "
  | .spaces4 => "    "
  | .tabs => "\t"

def Indent.text (indent : Indent) (depth : Nat) : String :=
  String.join (List.replicate depth indent.unit)

def LineEnding.text : LineEnding → String
  | .lf => "\n"
  | .crlf => "\r\n"

structure Layout where
  indent : Indent := .spaces4
  lineEnding : LineEnding := .crlf
  deriving DecidableEq, Repr

inductive Item where
  | line (text : String)
  | opening
  | closing
  deriving DecidableEq, Repr

structure Line where
  depth : Nat
  text : String
  deriving DecidableEq, Repr

namespace Item

def blank : Item := .line ""

/-- The notice on top of every fully generated file. -/
def banner : List Item :=
  [.line "// <auto-generated>",
   .line "//     This code was generated by mf-scaffold.",
   .line "//     Changes to this file will be lost when the code is regenerated.",
   .line "// </auto-generated>"]

def usings (namespaces : List String) : List Item :=
  namespaces.map (fun name => .line ("using " ++ name ++ ";")) ++ [blank]

def block (body : List Item) : List Item := .opening :: (body ++ [.closing])

/-- Lines with their depths, starting at `depth`. A closing brace at depth 0 stays there. -/
def lines : Nat → List Item → List Line
  | _, [] => []
  | depth, .line text :: rest => ⟨depth, text⟩ :: lines depth rest
  | depth, .opening :: rest => ⟨depth, "\x7b"⟩ :: lines (depth + 1) rest
  | depth, .closing :: rest => ⟨depth - 1, "\x7d"⟩ :: lines (depth - 1) rest

end Item

namespace Layout

def printLine (layout : Layout) (line : Line) : String :=
  (if line.text = "" then "" else layout.indent.text line.depth ++ line.text) ++
    layout.lineEnding.text

def printLines (layout : Layout) (lines : List Line) : String :=
  String.join (lines.map layout.printLine)

def print (layout : Layout) (items : List Item) : String :=
  layout.printLines (Item.lines 0 items)

end Layout

end VaultModels.Code
