import Mathlib.Data.Rat.Defs
import EmailTriage.Lib.JsDate

/-!
# JavaScript values

The values that untyped JavaScript code passes around: property access, truthiness, and
`JSON.stringify`. Numbers are exact rationals. The text `JSON.stringify` prints is a list of tokens:
strings and numbers stay whole, since quoting a string and printing a number lose nothing.

`stringify_injective` says that on JSON values, those without `undefined` and dates, comparing the
printed texts is comparing the values.
-/

namespace Js

/-- A JavaScript value. Functions and symbols are left out: no stored value is one. -/
inductive Value where
  | undefined
  | null
  | bool (b : Bool)
  | num (q : ℚ)
  | str (s : String)
  | date (t : Date)
  | arr (elems : List Value)
  | obj (fields : List (String × Value))

namespace Value

/-- `v?.key`: the property of an object, `undefined` where there is none. -/
def get : Value → String → Value
  | obj fields, key => (fields.lookup key).getD undefined
  | _, _ => undefined

@[simp] theorem get_obj_nil (key : String) : (obj []).get key = undefined := rfl

@[simp] theorem get_obj_cons (k : String) (v : Value) (fields : List (String × Value))
    (key : String) :
    (obj ((k, v) :: fields)).get key = if key = k then v else (obj fields).get key := by
  have hbeq : (key == k) = decide (key = k) := rfl
  by_cases h : key = k <;> simp [get, List.lookup_cons, hbeq, h]

/-- Whether a condition takes a value for true. -/
def truthy : Value → Bool
  | undefined => false
  | null => false
  | bool b => b
  | num q => q ≠ 0
  | str s => s ≠ ""
  | date _ => true
  | arr _ => true
  | obj _ => true

/-- `v ?? fallback`. -/
def orElse : Value → Value → Value
  | undefined, fallback => fallback
  | null, fallback => fallback
  | v, _ => v

/-- `v || fallback`. -/
def or (v fallback : Value) : Value := if v.truthy then v else fallback

/-- `v && w`. -/
def and (v w : Value) : Value := if v.truthy then w else v

/-- `v === s` for a string `s`. -/
def isStr : Value → String → Bool
  | str t, s => t = s
  | _, _ => false

/-- `v === b` for a boolean `b`. -/
def isBool : Value → Bool → Bool
  | bool c, b => c = b
  | _, _ => false

/-- Whether reading a property of `v` throws. -/
def isNullish : Value → Bool
  | undefined => true
  | null => true
  | _ => false

/-- An optional property as a value. -/
def ofOption {α : Type} (f : α → Value) : Option α → Value
  | none => undefined
  | some a => f a

/-- The properties `...v` copies. The characters of a string are left out. -/
def spread : Value → List (String × Value)
  | obj fields => fields
  | arr elems => elems.zipIdx.map fun (v, i) => (toString i, v)
  | _ => []

/-- A property that follows others in an object literal: it takes the place of one with its key. -/
def setField : List (String × Value) → String → Value → List (String × Value)
  | [], key, v => [(key, v)]
  | (k, w) :: fields, key, v =>
    if k = key then (key, v) :: fields else (k, w) :: setField fields key v

/-- A field that is set is read, and the others as before. -/
theorem get_setField (fields : List (String × Value)) (key : String) (v : Value) (k : String) :
    (obj (setField fields key v)).get k = if k = key then v else (obj fields).get k := by
  induction fields with
  | nil => simp [setField]
  | cons field fields ih =>
    obtain ⟨k', w⟩ := field
    unfold setField
    by_cases hk' : k' = key
    · rw [if_pos hk', get_obj_cons, get_obj_cons, hk']
      split
      · rfl
      · rfl
    · rw [if_neg hk', get_obj_cons, get_obj_cons, ih]
      by_cases hk : k = k'
      · rw [if_pos hk, if_pos hk, if_neg (hk ▸ hk')]
      · rw [if_neg hk, if_neg hk]

end Value

/-- The exceptions the program throws: its own `Error`s, and those of the runtime. -/
inductive Exception where
  | error (message : String)
  | typeError
  | rangeError
deriving DecidableEq

/-- `new Date(v)`. A number is truncated to whole milliseconds. -/
def Date.ofValue : Value → Date
  | .date t => t
  | .num q => some (if 0 ≤ q then q.floor else q.ceil)
  | .str s => Date.parse s
  | .bool b => some b.toNat
  | .null => some 0
  | _ => none

/-! ## `JSON.stringify`

The text is a list of tokens here. Undefined is left out of objects and becomes null in arrays; for values
without it, the text determines the value, the order of the keys included.
-/

/-- The tokens of a JSON text. -/
inductive Token where
  | null
  | bool (b : Bool)
  | num (q : ℚ)
  | str (s : String)
  | lbracket
  | rbracket
  | lbrace
  | rbrace
  | comma
  | colon
deriving DecidableEq

/-- The comma before every member of a list but the first. -/
def sep (first : Bool) : List Token := if first then [] else [.comma]

mutual

/-- `JSON.stringify(v)`: nothing for `undefined`, the ISO text for a date. -/
def stringify : Value → Option (List Token)
  | .undefined => none
  | .null => some [.null]
  | .bool b => some [.bool b]
  | .num q => some [.num q]
  | .str s => some [.str s]
  | .date none => some [.null]
  | .date (some t) => some [.str (Date.toISOString t)]
  | .arr elems => some (.lbracket :: stringifyElems true elems)
  | .obj fields => some (.lbrace :: stringifyFields true fields)

/-- The rest of an array; `undefined` prints as `null`. -/
def stringifyElems (first : Bool) : List Value → List Token
  | [] => [.rbracket]
  | v :: vs => sep first ++ ((stringify v).getD [.null] ++ stringifyElems false vs)

/-- The rest of an object; a property whose value is `undefined` is skipped. -/
def stringifyFields (first : Bool) : List (String × Value) → List Token
  | [] => [.rbrace]
  | (k, v) :: fs =>
    match stringify v with
    | none => stringifyFields first fs
    | some ts => sep first ++ .str k :: .colon :: (ts ++ stringifyFields false fs)

end

/-- `JSON.stringify(v) === JSON.stringify(w)`. -/
def sameJson (v w : Value) : Bool := stringify v = stringify w

mutual

/-- The values a JSON text denotes: no `undefined` and no date at any depth. -/
def IsJson : Value → Prop
  | .undefined => False
  | .date _ => False
  | .arr elems => IsJsonElems elems
  | .obj fields => IsJsonFields fields
  | _ => True

def IsJsonElems : List Value → Prop
  | [] => True
  | v :: vs => IsJson v ∧ IsJsonElems vs

def IsJsonFields : List (String × Value) → Prop
  | [] => True
  | (_, v) :: fs => IsJson v ∧ IsJsonFields fs

end

/-- The text of a JSON value is never empty, and never starts by closing a list. -/
theorem stringify_eq_cons {v : Value} (hv : IsJson v) :
    ∃ t ts, stringify v = some (t :: ts) ∧ t ≠ .rbracket ∧ t ≠ .rbrace ∧ t ≠ .comma := by
  cases v <;> simp_all [stringify, IsJson]

mutual

/-- Two JSON texts with anything behind them agree only if the values do. -/
theorem stringify_append_inj : ∀ (v w : Value) {ts us r r' : List Token}, IsJson v → IsJson w →
    stringify v = some ts → stringify w = some us → ts ++ r = us ++ r' → v = w ∧ r = r'
  | .undefined, _, _, _, _, _, hv, _, _, _, _ => hv.elim
  | .date _, _, _, _, _, _, hv, _, _, _, _ => hv.elim
  | .null, w, _, _, _, _, _, hw, hts, hus, h => by
    cases w <;> simp_all [stringify, IsJson] <;> subst hts <;> subst hus <;> simp_all
  | .bool _, w, _, _, _, _, _, hw, hts, hus, h => by
    cases w <;> simp_all [stringify, IsJson] <;> subst hts <;> subst hus <;> simp_all
  | .num _, w, _, _, _, _, _, hw, hts, hus, h => by
    cases w <;> simp_all [stringify, IsJson] <;> subst hts <;> subst hus <;> simp_all
  | .str _, w, _, _, _, _, _, hw, hts, hus, h => by
    cases w <;> simp_all [stringify, IsJson] <;> subst hts <;> subst hus <;> simp_all
  | .arr vs, w, _, _, _, _, hv, hw, hts, hus, h => by
    simp only [stringify, Option.some.injEq] at hts
    cases w with
    -- the opening token tells the two lists of elements apart from anything else
    | arr ws =>
      simp only [stringify, Option.some.injEq] at hus
      rw [← hts, ← hus, List.cons_append, List.cons_append, List.cons.injEq] at h
      obtain ⟨hvs, hr⟩ := stringifyElems_append_inj vs ws hv hw h.2
      exact ⟨by rw [hvs], hr⟩
    | undefined => exact hw.elim
    | date t => exact hw.elim
    | _ =>
      simp only [stringify, Option.some.injEq] at hus
      subst hts hus
      simp at h
  | .obj fs, w, _, _, _, _, hv, hw, hts, hus, h => by
    simp only [stringify, Option.some.injEq] at hts
    cases w with
    | obj gs =>
      simp only [stringify, Option.some.injEq] at hus
      rw [← hts, ← hus, List.cons_append, List.cons_append, List.cons.injEq] at h
      obtain ⟨hfs, hr⟩ := stringifyFields_append_inj fs gs hv hw h.2
      exact ⟨by rw [hfs], hr⟩
    | undefined => exact hw.elim
    | date t => exact hw.elim
    | _ =>
      simp only [stringify, Option.some.injEq] at hus
      subst hts hus
      simp at h

/-- Two lists of elements with anything behind them agree only if the elements do. -/
theorem stringifyElems_append_inj : ∀ (vs ws : List Value) {first : Bool} {r r' : List Token},
    IsJsonElems vs → IsJsonElems ws →
    stringifyElems first vs ++ r = stringifyElems first ws ++ r' → vs = ws ∧ r = r'
  | [], [], _, _, _, _, _, h => by simpa [stringifyElems] using h
  | [], w :: ws, first, _, _, _, hw, h => by
    obtain ⟨t, ts, hw', hbr, -, -⟩ := stringify_eq_cons hw.1
    cases first <;> simp [stringifyElems, hw', sep] at h
    exact absurd h.1.symm hbr
  | v :: vs, [], first, _, _, hv, _, h => by
    obtain ⟨t, ts, hv', hbr, -, -⟩ := stringify_eq_cons hv.1
    cases first <;> simp [stringifyElems, hv', sep] at h
    exact absurd h.1 hbr
  | v :: vs, w :: ws, first, _, _, hv, hw, h => by
    obtain ⟨t, ts, hv', -, -, -⟩ := stringify_eq_cons hv.1
    obtain ⟨u, us, hw', -, -, -⟩ := stringify_eq_cons hw.1
    simp only [stringifyElems, hv', hw', Option.getD_some, List.append_assoc,
      List.append_cancel_left_eq] at h
    obtain ⟨hvw, hrest⟩ := stringify_append_inj v w hv.1 hw.1 hv' hw' h
    obtain ⟨hvs, hr⟩ := stringifyElems_append_inj vs ws hv.2 hw.2 hrest
    exact ⟨by rw [hvw, hvs], hr⟩

/-- So do two lists of fields. -/
theorem stringifyFields_append_inj : ∀ (fs gs : List (String × Value)) {first : Bool}
    {r r' : List Token}, IsJsonFields fs → IsJsonFields gs →
    stringifyFields first fs ++ r = stringifyFields first gs ++ r' → fs = gs ∧ r = r'
  | [], [], _, _, _, _, _, h => by simpa [stringifyFields] using h
  | [], (k, w) :: gs, first, _, _, _, hw, h => by
    obtain ⟨t, ts, hw', -, -, -⟩ := stringify_eq_cons hw.1
    cases first <;> simp [stringifyFields, hw', sep] at h
  | (k, v) :: fs, [], first, _, _, hv, _, h => by
    obtain ⟨t, ts, hv', -, -, -⟩ := stringify_eq_cons hv.1
    cases first <;> simp [stringifyFields, hv', sep] at h
  | (k, v) :: fs, (l, w) :: gs, first, _, _, hv, hw, h => by
    obtain ⟨t, ts, hv', -, -, -⟩ := stringify_eq_cons hv.1
    obtain ⟨u, us, hw', -, -, -⟩ := stringify_eq_cons hw.1
    simp only [stringifyFields, hv', hw', List.append_assoc, List.cons_append,
      List.append_cancel_left_eq, List.cons.injEq, Token.str.injEq, true_and] at h
    obtain ⟨hk, hrest⟩ := h
    obtain ⟨hvw, hrest⟩ := stringify_append_inj v w hv.1 hw.1 hv' hw'
      (by rw [List.cons_append, List.cons_append, hrest.1, hrest.2])
    obtain ⟨hfs, hr⟩ := stringifyFields_append_inj fs gs hv.2 hw.2 hrest
    exact ⟨by rw [hk, hvw, hfs], hr⟩

end

/-- `JSON.stringify` is injective on JSON values. -/
theorem stringify_injective {v w : Value} (hv : IsJson v) (hw : IsJson w)
    (h : stringify v = stringify w) : v = w := by
  obtain ⟨t, ts, hv', -, -, -⟩ := stringify_eq_cons hv
  have hw' : stringify w = some (t :: ts) := h ▸ hv'
  exact (stringify_append_inj v w hv hw hv' hw' (congrArg (· ++ []) rfl)).1

/-- Comparing the texts of JSON values is comparing the values. -/
theorem sameJson_iff {v w : Value} (hv : IsJson v) (hw : IsJson w) :
    sameJson v w = true ↔ v = w := by
  rw [sameJson, decide_eq_true_eq]
  exact ⟨stringify_injective hv hw, fun h => by rw [h]⟩

end Js
