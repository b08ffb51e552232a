import EmailTriage.Lib.JsValue

/-!
# Values up to the order of keys

The properties of a JSON object have no order: a database may return them in another one, while
`JSON.stringify` prints them in the order in which the object has them. `SameValue` relates the values
that differ in nothing else.
-/

namespace Js

mutual

/-- Equality up to the order of the keys of objects, at any depth. -/
inductive SameValue : Value → Value → Prop
  | refl (v : Value) : SameValue v v
  | arr {vs ws : List Value} (h : SameElems vs ws) : SameValue (.arr vs) (.arr ws)
  | obj {fs gs : List (String × Value)} (h : SameFields fs gs) : SameValue (.obj fs) (.obj gs)

inductive SameElems : List Value → List Value → Prop
  | nil : SameElems [] []
  | cons {v w : Value} {vs ws : List Value} (h : SameValue v w) (hs : SameElems vs ws) :
      SameElems (v :: vs) (w :: ws)

inductive SameFields : List (String × Value) → List (String × Value) → Prop
  | nil : SameFields [] []
  | cons {v w : Value} {fs gs : List (String × Value)} (key : String) (h : SameValue v w)
      (hs : SameFields fs gs) : SameFields ((key, v) :: fs) ((key, w) :: gs)
  | swap {key key' : String} (v w : Value) (fs : List (String × Value)) (h : key ≠ key') :
      SameFields ((key, v) :: (key', w) :: fs) ((key', w) :: (key, v) :: fs)
  | trans {fs gs hs : List (String × Value)} (h : SameFields fs gs) (h' : SameFields gs hs) :
      SameFields fs hs

end

end Js
