/-
JSON documents.

An object is its members, in some order, with at most one of each name as far as the operations
here make them; a text is bytes.  A text that is not a document is kept as it is, so that code
which stores texts and parses them later can be spoken of without a parser.
-/
import Mathlib.Tactic.Common

/-- A document. -/
inductive Json
  | null
  | bool (b : Bool)
  | int (n : Int)
  | str (s : List (BitVec 8))
  | arr (items : List Json)
  | obj (fields : List (String × Json))

namespace Json

mutual

/-- Equality of documents, decided. -/
def decEq : (a b : Json) → Decidable (a = b)
  | .null, .null => isTrue rfl
  | .bool a, .bool b => if h : a = b then isTrue (h ▸ rfl) else isFalse fun e => h (Json.bool.inj e)
  | .int a, .int b => if h : a = b then isTrue (h ▸ rfl) else isFalse fun e => h (Json.int.inj e)
  | .str a, .str b => if h : a = b then isTrue (h ▸ rfl) else isFalse fun e => h (Json.str.inj e)
  | .arr a, .arr b =>
      match decEqItems a b with
      | isTrue h => isTrue (h ▸ rfl)
      | isFalse h => isFalse fun e => h (Json.arr.inj e)
  | .obj a, .obj b =>
      match decEqFields a b with
      | isTrue h => isTrue (h ▸ rfl)
      | isFalse h => isFalse fun e => h (Json.obj.inj e)
  | .null, .bool _ | .null, .int _ | .null, .str _ | .null, .arr _ | .null, .obj _
  | .bool _, .null | .bool _, .int _ | .bool _, .str _ | .bool _, .arr _ | .bool _, .obj _
  | .int _, .null | .int _, .bool _ | .int _, .str _ | .int _, .arr _ | .int _, .obj _
  | .str _, .null | .str _, .bool _ | .str _, .int _ | .str _, .arr _ | .str _, .obj _
  | .arr _, .null | .arr _, .bool _ | .arr _, .int _ | .arr _, .str _ | .arr _, .obj _
  | .obj _, .null | .obj _, .bool _ | .obj _, .int _ | .obj _, .str _ | .obj _, .arr _ =>
      isFalse (fun e => by cases e)

def decEqItems : (a b : List Json) → Decidable (a = b)
  | [], [] => isTrue rfl
  | [], _ :: _ => isFalse (fun e => by cases e)
  | _ :: _, [] => isFalse (fun e => by cases e)
  | a :: as, b :: bs =>
      match decEq a b, decEqItems as bs with
      | isTrue h, isTrue h' => isTrue (h ▸ h' ▸ rfl)
      | isFalse h, _ => isFalse fun e => h (List.cons.inj e).1
      | _, isFalse h => isFalse fun e => h (List.cons.inj e).2

def decEqFields : (a b : List (String × Json)) → Decidable (a = b)
  | [], [] => isTrue rfl
  | [], _ :: _ => isFalse (fun e => by cases e)
  | _ :: _, [] => isFalse (fun e => by cases e)
  | (k, a) :: as, (l, b) :: bs =>
      if hk : k = l then
        match decEq a b, decEqFields as bs with
        | isTrue h, isTrue h' => isTrue (hk ▸ h ▸ h' ▸ rfl)
        | isFalse h, _ => isFalse fun e => h (Prod.mk.inj (List.cons.inj e).1).2
        | _, isFalse h => isFalse fun e => h (List.cons.inj e).2
      else isFalse fun e => hk (Prod.mk.inj (List.cons.inj e).1).1

end

instance : DecidableEq Json := decEq

/-! ### Objects -/

def isObject : Json → Bool
  | .obj _ => true
  | _ => false

/-- The member of a name in a list of members. -/
def getField (name : String) : List (String × Json) → Option Json
  | [] => none
  | (name', v) :: rest => if name' = name then some v else getField name rest

/-- The members with one set. -/
def setField (name : String) (v : Json) : List (String × Json) → List (String × Json)
  | [] => [(name, v)]
  | (name', v') :: rest =>
      if name' = name then (name, v) :: rest else (name', v') :: setField name v rest

/-- The member of a name; what is not an object has none. -/
def get (name : String) : Json → Option Json
  | .obj fields => getField name fields
  | _ => none

/-- A member set; what is not an object becomes one. -/
def set (j : Json) (name : String) (v : Json) : Json :=
  match j with
  | .obj fields => .obj (setField name v fields)
  | _ => .obj [(name, v)]

theorem getField_cons (name name' : String) (v : Json) (rest : List (String × Json)) :
    getField name ((name', v) :: rest) = if name' = name then some v else getField name rest := rfl

theorem setField_cons (name name' : String) (v v' : Json) (rest : List (String × Json)) :
    setField name v ((name', v') :: rest) =
      if name' = name then (name, v) :: rest else (name', v') :: setField name v rest := rfl

theorem getField_setField (name : String) (v : Json) (fields : List (String × Json)) :
    getField name (setField name v fields) = some v := by
  induction fields with
  | nil => exact if_pos rfl
  | cons f rest ih =>
      obtain ⟨name', v'⟩ := f
      rw [setField_cons]
      by_cases h : name' = name
      · rw [if_pos h, getField_cons, if_pos rfl]
      · rw [if_neg h, getField_cons, if_neg h, ih]

theorem getField_setField_of_ne {name name' : String} (h : name' ≠ name) (v : Json)
    (fields : List (String × Json)) :
    getField name' (setField name v fields) = getField name' fields := by
  induction fields with
  | nil => exact if_neg h.symm
  | cons f rest ih =>
      obtain ⟨k, w⟩ := f
      rw [setField_cons, getField_cons]
      by_cases hk : k = name
      · rw [if_pos hk, getField_cons, if_neg h.symm, hk, if_neg h.symm]
      · rw [if_neg hk, getField_cons, ih]

@[simp] theorem get_set (j : Json) (name : String) (v : Json) :
    (j.set name v).get name = some v := by
  cases j with
  | obj fields => exact getField_setField name v fields
  | null | bool | int | str | arr => exact if_pos rfl

/-- The other members stay. -/
theorem get_set_of_ne {name name' : String} (h : name' ≠ name) (v : Json)
    (fields : List (String × Json)) :
    ((Json.obj fields).set name v).get name' = (Json.obj fields).get name' :=
  getField_setField_of_ne h v fields

theorem setField_setField (name : String) (v w : Json) (fields : List (String × Json)) :
    setField name w (setField name v fields) = setField name w fields := by
  induction fields with
  | nil => exact if_pos rfl
  | cons f rest ih =>
      obtain ⟨k, u⟩ := f
      rw [setField_cons, setField_cons]
      by_cases h : k = name
      · rw [if_pos h, setField_cons, if_pos rfl, if_pos h]
      · rw [if_neg h, setField_cons, if_neg h, ih, if_neg h]

/-- Of two settings of one member the second is left. -/
@[simp] theorem set_set (j : Json) (name : String) (v w : Json) :
    (j.set name v).set name w = j.set name w := by
  cases j with
  | obj fields => exact congrArg Json.obj (setField_setField name v w fields)
  | null | bool | int | str | arr => exact congrArg Json.obj (if_pos rfl)

/-- A member of another name is what it was, of anything. -/
theorem get_set_ne {name name' : String} (h : name' ≠ name) (v : Json) (j : Json) :
    (j.set name v).get name' = j.get name' := by
  cases j with
  | obj fields => exact get_set_of_ne h v fields
  | null | bool | int | str | arr => exact if_neg h.symm

@[simp] theorem isObject_set (j : Json) (name : String) (v : Json) : (j.set name v).isObject = true := by
  cases j <;> rfl

/-! ### Members read with a type -/

def asString : Json → Option (List (BitVec 8))
  | .str s => some s
  | _ => none

/-- A member that is a string. -/
def getString (name : String) (j : Json) : Option (List (BitVec 8)) := (j.get name).bind asString

/-- A member that is an array. -/
def getArray (name : String) (j : Json) : Option (List Json) :=
  match j.get name with
  | some (.arr items) => some items
  | _ => none

end Json

/-- A text: a document, or bytes that are none. -/
inductive JsonText
  | doc (j : Json)
  | raw (s : List (BitVec 8))
  deriving DecidableEq

namespace JsonText

/-- The empty text. -/
def empty : JsonText := .raw []

/-- The document a text is. -/
def parse : JsonText → Option Json
  | .doc j => some j
  | .raw _ => none

end JsonText
