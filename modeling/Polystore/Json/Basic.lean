import Polystore.Binary64.Basic

/-!
# Documents

A document is a tree of objects and arrays with scalars at its leaves. Objects keep their fields in
the order in which they were first written. Whole numbers reach from the least signed to the
greatest unsigned number of 64 bits and are never the same as a floating-point number, however
equal the two may be.
-/

namespace Polystore

/-- A whole number of a document. -/
structure WideInt where
  val : Int
  lower : -2 ^ 63 ≤ val := by decide
  upper : val < 2 ^ 64 := by decide
deriving DecidableEq

/-- A document. -/
inductive Json where
  | null
  | bool (b : Bool)
  | int (n : WideInt)
  | float (x : Binary64)
  | text (s : String)
  | array (items : List Json)
  | object (fields : List (String × Json))

instance : Inhabited Json := ⟨.null⟩

/-- A signed number of 64 bits as a whole number of a document. -/
def WideInt.ofInt64 (n : Int64) : WideInt :=
  ⟨n.toInt, n.le_toInt, Int.lt_trans n.toInt_lt (by decide)⟩

/-- The whole number as a signed number of 64 bits, if it is one. -/
def WideInt.toInt64? (n : WideInt) : Option Int64 :=
  if n.val < 2 ^ 63 then some (Int64.ofInt n.val) else none

@[simp] theorem WideInt.toInt64?_ofInt64 (n : Int64) : (ofInt64 n).toInt64? = some n := by
  have h : n.toInt < 2 ^ 63 := n.toInt_lt
  simp only [ofInt64, toInt64?, h, if_true, Int64.ofInt_toInt]

namespace Json

/-- A natural number below `2 ^ 64` as a document. -/
def ofNat64 (n : UInt64) : Json :=
  .int ⟨n.toNat, by omega, by have := n.toNat_lt; omega⟩

/-- A signed number of 64 bits as a document. -/
def ofInt64 (n : Int64) : Json := .int (.ofInt64 n)

/-- Whether the document is an object. -/
def isObject : Json → Bool
  | .object _ => true
  | _ => false

/-- Whether the document is `null`. -/
def isNull : Json → Bool
  | .null => true
  | _ => false

/-- The value of a field among the fields of an object. -/
def field? (key : String) : List (String × Json) → Option Json
  | [] => none
  | (k, v) :: rest => if k = key then some v else field? key rest

/-- The value of a field, when the document is an object that has it. -/
def get? (j : Json) (key : String) : Option Json :=
  match j with
  | .object fields => field? key fields
  | _ => none

/-- The fields with one of them set: a field that is there keeps its place, a new one comes last. -/
def setField (key : String) (value : Json) : List (String × Json) → List (String × Json)
  | [] => [(key, value)]
  | (k, v) :: rest => if k = key then (k, value) :: rest else (k, v) :: setField key value rest

/-- The value of a path: the fields to go through, from the root down. -/
def path? (j : Json) : List String → Option Json
  | [] => some j
  | key :: rest =>
    match j.get? key with
    | some inner => inner.path? rest
    | none => none

/-! ## Sameness -/

mutual

/-- Whether two documents are the same, the order of fields in objects aside. -/
def same : Json → Json → Bool
  | .null, .null => true
  | .bool a, .bool b => a == b
  | .int a, .int b => a.val == b.val
  | .float a, .float b => a.same b
  | .text a, .text b => a == b
  | .array as, .array bs => sameItems as bs
  | .object as, .object bs => as.length == bs.length && sameFields as bs
  | _, _ => false

/-- Whether two lists of documents are the same, one by one. -/
def sameItems : List Json → List Json → Bool
  | [], [] => true
  | a :: as, b :: bs => a.same b && sameItems as bs
  | _, _ => false

/-- Whether every field on the left has the same value on the right. -/
def sameFields : List (String × Json) → List (String × Json) → Bool
  | [], _ => true
  | (key, a) :: as, bs =>
    (match field? key bs with
      | some b => a.same b
      | none => false) && sameFields as bs

end

/-! ## Size -/

mutual

/-- How many nodes a document has. -/
def nodes : Json → Nat
  | .array items => itemNodes items + 1
  | .object fields => fieldNodes fields + 1
  | _ => 1

/-- How many nodes the documents of a list have, each counted with one more. -/
def itemNodes : List Json → Nat
  | [] => 0
  | j :: rest => j.nodes + itemNodes rest + 1

/-- How many nodes the documents of a list of fields have, each counted with one more. -/
def fieldNodes : List (String × Json) → Nat
  | [] => 0
  | (_, j) :: rest => j.nodes + fieldNodes rest + 1

end

end Json

end Polystore
