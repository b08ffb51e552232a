import EmailTriage.Lib.JsValue

/-!
# Typed values and their JSON

A `Codec` pairs the JSON a type is written as with the reader of that JSON. A `JsonColumn` is a
nullable database column that only a codec writes, so reading it back cannot fail. `fieldOr` is the
expression `json.key ?? fallback` at a typed field.

JavaScript does not check what it reads out of `any`. The readers here do: `none` stands for a
value outside the declared type, on which the typed code is not modelled.
-/

namespace Js

/-- A type with a JSON form that can be read back, and that is never `undefined` or `null`. -/
class Codec (α : Type) where
  toValue : α → Value
  ofValue : Value → Option α
  ofValue_toValue : ∀ a, ofValue (toValue a) = some a
  orElse_toValue : ∀ a w, (toValue a).orElse w = toValue a

export Codec (toValue ofValue)

attribute [simp] Codec.ofValue_toValue Codec.orElse_toValue

instance : Codec Bool where
  toValue := .bool
  ofValue
    | .bool b => some b
    | _ => none
  ofValue_toValue _ := rfl
  orElse_toValue _ _ := rfl

instance : Codec String where
  toValue := .str
  ofValue
    | .str s => some s
    | _ => none
  ofValue_toValue _ := rfl
  orElse_toValue _ _ := rfl

instance : Codec ℚ where
  toValue := .num
  ofValue
    | .num q => some q
    | _ => none
  ofValue_toValue _ := rfl
  orElse_toValue _ _ := rfl

variable {α : Type} [Codec α]

/-- `json.key ?? fallback`, read at a type. -/
def fieldOr (json : Value) (key : String) (fallback : α) : Option α :=
  ofValue ((json.get key).orElse (toValue fallback))

/-- An optional value as nullable JSON. -/
def toNullable : Option α → Value
  | none => .null
  | some a => toValue a

/-- `json ?? null`, read at a type. -/
def ofNullable (json : Value) : Option (Option α) :=
  match json.orElse .null with
  | .null => some none
  | json => (ofValue json).map some

/-- A value that may be missing is read as it was written. -/
theorem ofNullable_toNullable (a : Option α) : ofNullable (toNullable a) = some a := by
  cases a with
  | none => rfl
  | some a =>
    have hne : toValue a ≠ .null := by
      intro hv
      have h := Codec.orElse_toValue a (.bool true)
      simp [hv, Value.orElse] at h
    simp only [toNullable, ofNullable, Codec.orElse_toValue]
    rw [Codec.ofValue_toValue, Option.map_some]

/-! ## Columns

A column may lose a part of what is written to it. A codec says what is written and what is read back, and
which values survive.
-/

/-- A codec that writes objects, which every condition takes for true. -/
class ObjectCodec (α : Type) extends Codec α where
  truthy_toValue : ∀ a, (toCodec.toValue a).truthy = true

/-- `json ? read(json) : null`. -/
def ofTruthy {α : Type} [ObjectCodec α] (json : Value) : Option (Option α) :=
  if json.truthy then (ofValue json).map some else some none

/-- A nullable JSON column that only the codec of `α` writes. -/
structure JsonColumn (α : Type) [ObjectCodec α] where
  value : Value
  written : ∃ a : Option α, value = toNullable a

namespace JsonColumn

variable {α : Type} [ObjectCodec α]

/-- The column a value is written as. -/
def write (a : Option α) : JsonColumn α := ⟨toNullable a, a, rfl⟩

/-- Reading a column back. -/
def read (c : JsonColumn α) : Option α := (ofTruthy c.value).getD none

/-- So is one that is read by whether it counts as true. -/
theorem ofTruthy_toNullable (a : Option α) : ofTruthy (toNullable a) = some a := by
  cases a with
  | none => rfl
  | some a => simp [ofTruthy, toNullable, ObjectCodec.truthy_toValue]

@[simp] theorem read_write (a : Option α) : (write a).read = a := by
  rw [read, write, ofTruthy_toNullable, Option.getD_some]

/-- The reader of the codec never fails on a column. -/
@[simp] theorem ofTruthy_value (c : JsonColumn α) : ofTruthy c.value = some c.read := by
  obtain ⟨v, a, rfl⟩ := c
  rw [read, ofTruthy_toNullable, Option.getD_some]

end JsonColumn

/-- What a `Json` column gives back for the value it was given: dates become text, `undefined`
properties are dropped, and the keys of an object may come back in another order. -/
structure Jsonb where
  stored : Value → Value
  stored_stored : ∀ v, stored (stored v) = stored v
  isBool_get : ∀ v key b, ((stored v).get key).isBool b = (v.get key).isBool b

/-- A column that gives every value back as it was. -/
def Jsonb.exact : Jsonb := ⟨id, fun _ => rfl, fun _ _ _ => rfl⟩

/-! ## Fields read out of `any`

A field whose type nothing has checked: the value that is there, and the member of an enumeration it
stands for, if any.
-/

/-- A field of the declared type `α` whose content came out of `any`: nothing says that it is an
`α`. -/
structure Dyn (α : Type) where
  value : Value

namespace Dyn

/-- A field that was given a value of its type. -/
def of {α : Type} [Codec α] (a : α) : Dyn α := ⟨toValue a⟩

/-- `field === a`, for types whose values are JavaScript primitives. -/
def is {α : Type} [Codec α] [DecidableEq α] (d : Dyn α) (a : α) : Bool := ofValue d.value = some a

end Dyn

end Js
