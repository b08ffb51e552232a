import Mathlib.Data.List.Perm.Basic
import EmailTriage.Lib.JsValue

/-!
# Values up to the order of arrays

An array that was made of rows in no particular order says what its entries are, not which of them
comes first. `Value.UpToOrder` forgets just that, in the value and in the properties of an object, at
any depth.
-/

namespace Js

namespace Value

/-- Two values are equal up to the order of the entries of their arrays. -/
inductive UpToOrder : Value → Value → Prop
  | refl (v : Value) : UpToOrder v v
  | arr {elems elems' : List Value} (h : elems.Perm elems') : UpToOrder (.arr elems) (.arr elems')
  | obj {fields fields' : List (String × Value)}
      (hkeys : fields.map Prod.fst = fields'.map Prod.fst)
      (hvalues : List.Forall₂ UpToOrder (fields.map Prod.snd) (fields'.map Prod.snd)) :
      UpToOrder (.obj fields) (.obj fields')

/-- One property is enough for two objects to differ in. -/
theorem UpToOrder.field {key : String} {v v' : Value} (h : UpToOrder v v')
    (before after : List (String × Value)) :
    UpToOrder (.obj (before ++ (key, v) :: after)) (.obj (before ++ (key, v') :: after)) := by
  refine .obj (by simp only [List.map_append, List.map_cons]) ?_
  rw [List.map_append, List.map_append, List.map_cons, List.map_cons]
  have hrefl : ∀ values : List Value, List.Forall₂ UpToOrder values values :=
    fun _ => List.forall₂_same.mpr fun v _ => .refl v
  exact List.rel_append (hrefl _) (.cons h (hrefl _))

end Value

end Js
