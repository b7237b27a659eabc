import CypherTemplate.Error
import CypherTemplate.Expr

/-!
Sort orders: fields, each with at most one direction behind it. A direction belongs to the field
right before it.
-/
namespace CypherTemplate

namespace Direction

/-- The direction named by a word, in any letter case. -/
def ofText (text : String) : Except Error Direction :=
  let word := String.ofList (text.toList.map Char.toLower)
  if word = "asc" || word = "ascending" then .ok .ascending
  else if word = "desc" || word = "descending" then .ok .descending
  else .error (.invalidOrderBy (.unknownDirection word))

end Direction

inductive OrderToken where
  | field (e : Expr)
  | direction (d : Direction)

structure OrderBy where
  tokens : List OrderToken

/-- A field and the direction behind it. -/
abbrev SortKey := Expr × Option Direction

namespace OrderBy

def empty : OrderBy := ⟨[]⟩

def field (o : OrderBy) (e : Expr) : OrderBy := ⟨o.tokens ++ [.field e]⟩

def direction (o : OrderBy) (d : Direction) : OrderBy := ⟨o.tokens ++ [.direction d]⟩

/-- The sort keys of some tokens behind a key that may still take a direction. -/
def keysAfter : Option SortKey → List OrderToken → Except Error (List SortKey)
  | last, [] => .ok last.toList
  | last, .field e :: ts => return last.toList ++ (← keysAfter (some (e, none)) ts)
  | none, .direction d :: _ => .error (.invalidOrderBy (.leading d))
  | some (e, none), .direction d :: ts => keysAfter (some (e, some d)) ts
  | some (_, some _), .direction d :: _ => .error (.invalidOrderBy (.repeated d))

def sortKeys (o : OrderBy) : Except Error (List SortKey) :=
  keysAfter none o.tokens

end OrderBy

namespace OrderToken

def same : OrderToken → OrderToken → Bool
  | .field a, .field b => a.same b
  | .direction a, .direction b => a = b
  | _, _ => false

end OrderToken

end CypherTemplate
