import CypherTemplate.Config

/-!
Query text in pieces: fixed text, and places where a parameter is referenced. How a reference is
written is decided when the pieces are put together.
-/
namespace CypherTemplate

inductive Piece where
  | text (cs : List Char)
  | param (name : String)
  deriving DecidableEq, Repr

namespace Piece

/-- A fixed word. -/
def word (s : String) : Piece := .text s.toList

def write (style : ParamStyle) : Piece → List Char
  | .text cs => cs
  | .param name => style.placeholder name.toList

/-- The text of pieces, placeholders being written in a style. -/
def writeAll (style : ParamStyle) (ps : List Piece) : List Char :=
  ps.flatMap (write style)

def param? : Piece → Option String
  | .text _ => none
  | .param name => some name

/-- The parameters that pieces reference, in the order of the text. -/
def params (ps : List Piece) : List String :=
  ps.filterMap param?

@[simp] theorem writeAll_nil (style : ParamStyle) : writeAll style [] = [] := rfl

@[simp] theorem writeAll_append (style : ParamStyle) (ps qs : List Piece) :
    writeAll style (ps ++ qs) = writeAll style ps ++ writeAll style qs :=
  List.flatMap_append

@[simp] theorem params_append (ps qs : List Piece) : params (ps ++ qs) = params ps ++ params qs :=
  List.filterMap_append

end Piece

end CypherTemplate
