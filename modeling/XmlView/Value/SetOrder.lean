import XmlView.Value.Basic
/-! The order in which a set meets its elements: slot order in an open-addressing table of
a power-of-two size, with elements placed by hash. Only sets of numbers and truth values
have a known order; any other set keeps the order its elements came in. -/
namespace XmlView.Value

def hashModulus : Nat := Nat.pow 2 61 - 1

def infinityHash : Int := 314159

/-- A hash as the table stores it: `-1` is kept for failures and becomes `-2`. -/
def storedHash (h : Int) : Int := if h = -1 then -2 else h

def intHash (n : Int) : Int :=
  let r : Int := (n.natAbs % hashModulus : Nat)
  storedHash (if n < 0 then -r else r)

/-- The hash of a double, if it has one that does not depend on where it lives: a finite
double `m * 2 ^ e` with integer `m` hashes as `m * 2 ^ (e mod 61)` modulo the prime,
because `2 ^ 61` is one modulo it; not-a-number has none. -/
def floatHash? (x : Float) : Option Int :=
  if x.isNaN then Option.none
  else if x.isInf then some (if x > 0 then infinityHash else -infinityHash)
  else
    let bits : Nat := x.toBits.toNat
    let field : Nat := (bits / Nat.pow 2 52) % Nat.pow 2 11
    let fraction : Nat := bits % Nat.pow 2 52
    let (m, e) : Nat × Int :=
      if field = 0 then (fraction, -1074) else (fraction + Nat.pow 2 52, (field : Int) - 1075)
    let r : Int := (m * Nat.pow 2 (e % 61).toNat % hashModulus : Nat)
    some (storedHash (if bits ≥ Nat.pow 2 63 then -r else r))

def numberHash? : Value → Option Int
  | .bool b => some (if b then 1 else 0)
  | .int n => some (intHash n)
  | .float x => floatHash? x
  | _ => Option.none

/-- A set's table: each slot empty or holding the position of an element in the list of
elements and its hash; `filled` counts the slots in use. -/
structure HashTable where
  slots : Array (Option (Nat × Int))
  filled : Nat

namespace HashTable

def linearProbes : Nat := 9

def perturbShift : Nat := 5

def empty (size : Nat) : HashTable := ⟨Array.replicate size Option.none, 0⟩

def freeNear (t : HashTable) (i : Nat) : Option Nat :=
  let last := if i + linearProbes < t.slots.size then linearProbes else 0
  (List.range (last + 1)).findSome? fun k =>
    match t.slots[i + k]? with
    | some Option.none => some (i + k)
    | _ => Option.none

/-- The empty slot the search for a hash ends at. Once `perturb` is zero the jumps
`i ↦ 5 * i + 1` visit every slot of a power-of-two table, so a table with an empty slot
needs no more than sixty-four jumps beyond its size in `fuel`. -/
def freeSlot (t : HashTable) : Nat → Nat → Nat → Option Nat
  | 0, _, _ => Option.none
  | fuel + 1, i, perturb =>
    match t.freeNear i with
    | some j => some j
    | Option.none =>
      let perturb := perturb / Nat.pow 2 perturbShift
      t.freeSlot fuel ((5 * i + 1 + perturb) % t.slots.size) perturb

def unsigned (h : Int) : Nat := (h % Int.pow 2 64).toNat

def place (t : HashTable) (entry : Nat × Int) : HashTable :=
  let start := unsigned entry.2 % t.slots.size
  match t.freeSlot (t.slots.size + 64) start (unsigned entry.2) with
  | some j => ⟨t.slots.set! j (some entry), t.filled + 1⟩
  | Option.none => t

def entries (t : HashTable) : List (Nat × Int) := t.slots.toList.filterMap id

/-- The smallest table size above `count`: a power of two, at least eight. -/
def sizeAbove (count : Nat) : Nat :=
  Nat.pow 2 (((List.range 64).find? (fun k => Nat.pow 2 (k + 3) > count)).getD 0) * 8

def resize (t : HashTable) (count : Nat) : HashTable :=
  t.entries.foldl place (empty (sizeAbove count))

def crowded (t : HashTable) (extra : Nat) : Bool :=
  (t.filled + extra) * 5 ≥ (t.slots.size - 1) * 3

def add (t : HashTable) (entry : Nat × Int) : HashTable :=
  let t := t.place entry
  if t.crowded 0 then
    t.resize (if t.filled > 50000 then t.filled * 2 else t.filled * 4)
  else t

def ofKeys (hashes : List Int) : HashTable :=
  let t := empty 8
  let t := if t.crowded hashes.length then t.resize (hashes.length * 2) else t
  hashes.zipIdx.foldl (fun t (h, k) => t.add (k, h)) t

end HashTable

/-- A set's elements in the order the set meets them, given the distinct elements in the
order they were added. -/
def iterationOrder (xs : List Value) : List Value :=
  match xs.mapM numberHash? with
  | some hashes => (HashTable.ofKeys hashes).entries.filterMap fun (k, _) => xs[k]?
  | Option.none => xs

end XmlView.Value
