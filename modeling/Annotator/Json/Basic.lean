import Annotator.Number.Shortest

/-!
# JSON values

The values of JSON. A number keeps how it was written: a whole number that fits 64 bits is exact, any
other number is binary64. The fields of an object come in the order in which they are printed; a value
that was read has each key once, in ascending order.
-/

namespace Annotator

/-- A number of a JSON text. -/
inductive Number where
  /-- A whole number from 0 to 2⁶⁴ − 1. -/
  | natural (n : Nat)
  /-- The number `-(n + 1)`, down to -2⁶³. -/
  | negative (n : Nat)
  | float (x : Binary64)
  deriving Repr, DecidableEq

namespace Number

/-- Whether the number is zero, however it is written. -/
def isZero : Number → Bool
  | natural n => n == 0
  | negative _ => false
  | float x => x.isZero

/-- Whether the number is a whole number of 64 bits. -/
def isInteger : Number → Bool
  | float _ => false
  | _ => true

end Number

/-- A JSON value. -/
inductive Json where
  | null
  | bool (b : Bool)
  | number (n : Number)
  | string (s : String)
  | array (items : List Json)
  | object (fields : List (String × Json))
  deriving Repr, Inhabited

namespace Json

mutual

/-- Equality of values is decided part by part. -/
def decEq : (a b : Json) → Decidable (a = b)
  | null, null => isTrue rfl
  | bool a, bool b =>
    if h : a = b then isTrue (by rw [h]) else isFalse fun e => h (by injection e)
  | number a, number b =>
    if h : a = b then isTrue (by rw [h]) else isFalse fun e => h (by injection e)
  | string a, string b =>
    if h : a = b then isTrue (by rw [h]) else isFalse fun e => h (by injection e)
  | array a, array b =>
    match decEqItems a b with
    | isTrue h => isTrue (by rw [h])
    | isFalse h => isFalse fun e => h (by injection e)
  | object a, object b =>
    match decEqFields a b with
    | isTrue h => isTrue (by rw [h])
    | isFalse h => isFalse fun e => h (by injection e)
  | null, bool _ | null, number _ | null, string _ | null, array _ | null, object _
  | bool _, null | bool _, number _ | bool _, string _ | bool _, array _ | bool _, object _
  | number _, null | number _, bool _ | number _, string _ | number _, array _
  | number _, object _
  | string _, null | string _, bool _ | string _, number _ | string _, array _
  | string _, object _
  | array _, null | array _, bool _ | array _, number _ | array _, string _ | array _, object _
  | object _, null | object _, bool _ | object _, number _ | object _, string _
  | object _, array _ => isFalse fun e => by cases e

/-- Equality of lists of values. -/
def decEqItems : (a b : List Json) → Decidable (a = b)
  | [], [] => isTrue rfl
  | x :: xs, y :: ys =>
    match decEq x y, decEqItems xs ys with
    | isTrue h, isTrue hs => isTrue (by rw [h, hs])
    | isFalse h, _ => isFalse fun e => h (by injection e)
    | _, isFalse hs => isFalse fun e => hs (by injection e)
  | [], _ :: _ | _ :: _, [] => isFalse fun e => by cases e

/-- Equality of lists of fields. -/
def decEqFields : (a b : List (String × Json)) → Decidable (a = b)
  | [], [] => isTrue rfl
  | (k, x) :: xs, (l, y) :: ys =>
    match decEq x y, decEqFields xs ys with
    | isTrue h, isTrue hs =>
      if hk : k = l then isTrue (by rw [hk, h, hs])
      else isFalse fun e => hk (by injection e with e _; injection e)
    | isFalse h, _ => isFalse fun e => h (by injection e with e _; injection e)
    | _, isFalse hs => isFalse fun e => hs (by injection e)
  | [], _ :: _ | _ :: _, [] => isFalse fun e => by cases e

end

instance : DecidableEq Json := decEq

/-- The value of a field of an object; nothing else has fields. -/
def get? (key : String) : Json → Option Json
  | object fields => fields.lookup key
  | _ => none

/-- The text of a string value. -/
def text? : Json → Option String
  | string s => some s
  | _ => none

/-- The items of an array. -/
def items? : Json → Option (List Json)
  | array items => some items
  | _ => none

/-- Adds a field to fields in ascending order of their keys, in place of one with the same key. -/
def insertField (key : String) (value : Json) :
    List (String × Json) → List (String × Json)
  | [] => [(key, value)]
  | (k, v) :: later =>
    if key < k then (key, value) :: (k, v) :: later
    else if key = k then (key, value) :: later
    else (k, v) :: insertField key value later

/-- The object of some fields, of which the last with a key counts. -/
def ofFields (fields : List (String × Json)) : Json :=
  object (fields.foldl (fun sorted f => insertField f.1 f.2 sorted) [])

end Json

end Annotator
