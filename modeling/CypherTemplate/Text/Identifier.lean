/-!
Plain identifiers: an ASCII letter or underscore followed by ASCII letters, digits and underscores.
A variable is a plain identifier that is no reserved word in any letter case.
-/
namespace CypherTemplate.Identifier

/-- Membership is asked of ASCII alone: the letters and digits of other scripts need quoting. -/
def isStart (c : Char) : Bool :=
  c.isAlpha || c = '_'

def isPart (c : Char) : Bool :=
  c.isAlphanum || c = '_'

/-- A plain identifier. -/
def isPlain : List Char → Bool
  | [] => false
  | c :: cs => isStart c && cs.all isPart

/-- The reserved words, in capitals. -/
def keywords : List String := [
  "ALL", "AND", "ANY", "AS", "ASC", "ASCENDING", "BY", "CALL", "CASE", "CONTAINS", "COUNT",
  "CREATE", "DELETE", "DESC", "DESCENDING", "DETACH", "DISTINCT", "DROP", "ELSE", "END", "ENDS",
  "EXISTS", "FALSE", "FOREACH", "IN", "IS", "LIKE", "LIMIT", "MATCH", "MERGE", "NOT", "NULL", "ON",
  "OPTIONAL", "OR", "ORDER", "REMOVE", "RETURN", "SET", "SKIP", "STARTS", "THEN", "TRUE", "UNION",
  "UNWIND", "WHEN", "WHERE", "WITH", "XOR", "YIELD"]

/-- Asked of plain identifiers only, so capitals of ASCII are enough. -/
def isKeyword (cs : List Char) : Bool :=
  keywords.any fun k => k.toList == cs.map Char.toUpper

/-- A plain identifier that may name a variable. -/
def isVariable (cs : List Char) : Bool :=
  isPlain cs && !isKeyword cs

@[simp] theorem isPlain_nil : isPlain [] = false := rfl

@[simp] theorem isPlain_cons (c : Char) (cs : List Char) :
    isPlain (c :: cs) = (isStart c && cs.all isPart) := rfl

theorem isPart_of_isStart {c : Char} (h : isStart c) : isPart c := by
  simp only [isStart, isPart, Char.isAlphanum, Bool.or_eq_true] at h ⊢
  exact h.imp_left Or.inl

theorem isPart_of_isPlain {cs : List Char} (h : isPlain cs) : cs.all isPart := by
  cases cs with
  | nil => rfl
  | cons c cs =>
    simp only [isPlain_cons, Bool.and_eq_true] at h
    simp only [List.all_cons, Bool.and_eq_true]
    exact ⟨isPart_of_isStart h.1, h.2⟩

end CypherTemplate.Identifier
