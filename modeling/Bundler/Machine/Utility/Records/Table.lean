import Bundler.Machine.Utility.Records.Value

/-!
Tables of values. The keys are spread over lists by their hashes, and what was looked for last comes
first in its list: this is the order in which a program sees them. Keys that are integers are also
known by their numbers; as long as nothing was looked for by its text, only the numbers count.
-/

namespace Bundler.Machine.Utility.Records

inductive Key
  | number (n : Int)
  | text (chars : String)

structure Entry where
  key : String
  value : Value
  number? : Option Int

structure Table where
  lists : Array (List Entry) := Array.replicate 64 []
  size : Nat := 0
  byText : Bool := false
  deriving Inhabited

namespace Key

def chars : Key → String
  | number n => toString n
  | text chars => chars

def number? : Key → Option Int
  | number n => some n
  | text _ => none

def ofValue (format : Double → String) (value : Value) : Key :=
  match value with
  | .number x =>
      match x.integer? with
      | some n => if n.natAbs < Nat.pow 2 63 then number n else text (value.toText format)
      | none => text (value.toText format)
  | value => text (value.toText format)

def hash (chars : String) : Nat :=
  chars.toList.foldl (fun h c => ((h ^^^ c.toNat) * 16777619) % Nat.pow 2 32) 2166136261

end Key

namespace Table

def place (table : Table) (chars : String) : Nat :=
  Key.hash chars % table.lists.size

def ordered (table : Table) : Table :=
  if table.byText then table
  else
    let turn (entry : Entry) : Int := (entry.number?.getD 0) % table.lists.size
    { table with
      byText := true
      lists := table.lists.map fun list =>
        if list.length < 2 then list
        else (list.mergeSort fun a b => turn a ≤ turn b).reverse }

def grown (table : Table) : Table :=
  let size := 2 * table.lists.size
  let entries := table.lists.toList.flatMap id
  let lists := entries.foldr (fun entry lists =>
    lists.modify (Key.hash entry.key % size) (entry :: ·)) (Array.replicate size [])
  { table with lists }

def longest : Nat :=
  12

/-- Looks for a key. Gives the table after that, and the value of the key. -/
def find (table : Table) (key : Key) : Table × Option Value :=
  let table := match key with
    | .text _ => table.ordered
    | .number _ => table
  let place := table.place key.chars
  let list := table.lists.getD place []
  match list.find? (·.key = key.chars) with
  | none => (table, none)
  | some entry =>
      let stays := table.byText && key.number?.isSome && entry.number?.isSome
      if stays then (table, some entry.value)
      else
        let entry := { entry with number? := entry.number?.or key.number? }
        let list := entry :: list.filter (·.key ≠ key.chars)
        ({ table with lists := table.lists.setIfInBounds place list }, some entry.value)

def insert (table : Table) (key : Key) (value : Value) : Table :=
  let (table, found?) := table.find key
  match found? with
  | some _ =>
      { table with
        lists := table.lists.modify (table.place key.chars) fun list =>
          list.map fun entry => if entry.key = key.chars then { entry with value } else entry }
  | none =>
      let table := { table with size := table.size + 1 }
      let table := if longest * table.lists.size < table.size then table.grown else table
      { table with
        lists := table.lists.modify (table.place key.chars) fun list =>
          { key := key.chars, value, number? := key.number? } :: list }

def erase (table : Table) (key : Key) : Table :=
  let (table, found?) := table.find key
  match found? with
  | some _ =>
      { table with
        size := table.size - 1
        lists := table.lists.modify (table.place key.chars) fun list =>
          list.filter (·.key ≠ key.chars) }
  | none => table

def keys (table : Table) : List String :=
  table.ordered.lists.toList.flatMap fun list => list.map (·.key)

end Table

end Bundler.Machine.Utility.Records
