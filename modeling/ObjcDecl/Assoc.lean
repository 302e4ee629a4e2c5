/-!
# Association lists

Lists of names with their values, in the order in which the names first
came. `List.lookup` is their view.
-/

namespace ObjcDecl.Assoc

universe u v

variable {κ : Type u} {α : Type v} [BEq κ]

/-- The list with a value in the place of the one of its name, or at the
end. -/
def put (k : κ) (v : α) : List (κ × α) → List (κ × α)
  | [] => [(k, v)]
  | (l, w) :: es => if k == l then (k, v) :: es else (l, w) :: put k v es

end ObjcDecl.Assoc
