import CypherTemplate.Json.Scalar

/-!
Values that are not asked for: they are only checked to be written correctly.
-/
namespace CypherTemplate.Outline

mutual
/-- Passes over a value: it must be written correctly, but its numbers may have any size, its
surrogates may stand alone, and it may be nested to any depth. -/
def skip : Outline → Except JsonError Unit
  | .null | .bool _ | .number _ => .ok ()
  | .string s => s.ending.finish
  | .list items ending => skipItems ending items
  | .record members ending => skipMembers ending members
  | .fault .cutNumber => .error .malformed
  | .fault f => .error f.error

def skipItems (ending : Ending) : List Outline → Except JsonError Unit
  | [] => ending.finish
  | o :: os => do
    o.skip
    skipItems ending os

def skipMembers (ending : Ending) : List (Outline × Outline) → Except JsonError Unit
  | [] => ending.finish
  | (key, value) :: ms => do
    match key with
    | .string s => s.ending.finish
    | .fault .absent => throw .truncated
    | _ => throw .malformed
    value.skip
    skipMembers ending ms
end

end CypherTemplate.Outline
