import Bundler.Machine.Utility.Dump
import Bundler.Machine.Status

/-! The program `dd`: parts of files, passed on in blocks. -/

namespace Bundler.Machine.Utility.Convert

structure Plan where
  input? : Option String := none
  output? : Option String := none
  inputBlock : Nat := 512
  outputBlock : Nat := 512
  direct : Bool := false
  count? : Option Nat := none
  skip : Nat := 0
  seek : Nat := 0
  conversions : List String := []
  flags : List String := []
  level : String := ""

def number? (text : String) : Option Nat :=
  (text.splitOn "x").foldl (fun product? part => do
    let product ← product?
    let digits := part.toList.takeWhile Char.isDigit
    let n ← (String.ofList digits).toNat?
    let unit ← match String.ofList (part.toList.drop digits.length) with
      | "" | "c" => some 1
      | "w" => some 2
      | "b" => some 512
      | "kB" | "KB" => some 1000
      | "K" | "k" | "KiB" => some 1024
      | "MB" => some 1000000
      | "M" | "MiB" => some 1048576
      | "GB" => some 1000000000
      | "G" | "GiB" => some 1073741824
      | _ => none
    return product * n * unit) (some 1)

def conversionNames : List String :=
  ["ascii", "ebcdic", "ibm", "block", "unblock", "lcase", "ucase", "sparse", "swab", "sync", "excl",
    "nocreat", "notrunc", "noerror", "fdatasync", "fsync"]

def Plan.read (plan : Plan) (operand : String) : WorkM Plan := do
  let name := String.ofList (operand.toList.takeWhile (· ≠ '='))
  if name.length = operand.length then misuse ("unrecognized operand " ++ quoted operand)
  let value := String.ofList (operand.toList.drop (name.length + 1))
  let number (least : Nat) : WorkM Nat := do
    match number? value with
    | some n => if n < least then die ("invalid number: " ++ quoted value) else return n
    | none => die ("invalid number: " ++ quoted value)
  match name with
  | "if" => return { plan with input? := some value }
  | "of" => return { plan with output? := some value }
  | "ibs" => return { plan with inputBlock := ← number 1 }
  | "obs" => return { plan with outputBlock := ← number 1 }
  | "bs" => do
      let block ← number 1
      return { plan with inputBlock := block, outputBlock := block, direct := true }
  | "cbs" => do
      let _ ← number 1
      return plan
  | "count" => return { plan with count? := some (← number 0) }
  | "skip" | "iseek" => return { plan with skip := ← number 0 }
  | "seek" | "oseek" => return { plan with seek := ← number 0 }
  | "conv" => do
      let names := value.splitOn ","
      for name in names do
        unless conversionNames.contains name do misuse ("invalid conversion: " ++ quoted name)
      return { plan with conversions := plan.conversions ++ names }
  | "iflag" | "oflag" => return { plan with flags := plan.flags ++ value.splitOn "," }
  | "status" =>
      if ["none", "noxfer", "progress"].contains value then return { plan with level := value }
      else misuse ("invalid status level: " ++ quoted value)
  | _ => misuse ("unrecognized operand " ++ quoted operand)

def swapped : List UInt8 → List UInt8
  | a :: b :: rest => b :: a :: swapped rest
  | bytes => bytes

def converted (plan : Plan) (bytes : ByteArray) : ByteArray :=
  let has (name : String) : Bool := plan.conversions.contains name
  let bytes := if has "sync" then
      bytes ++ ⟨Array.replicate (plan.inputBlock - bytes.size) 0⟩
    else bytes
  let bytes := if has "swab" then ⟨(swapped bytes.toList).toArray⟩ else bytes
  let onChars (change : Char → Char) (bytes : ByteArray) : ByteArray :=
    Octets.toBytes ((Octets.ofBytes bytes).map change)
  let bytes := if has "lcase" then onChars Char.toLower bytes else bytes
  if has "ucase" then onChars Char.toUpper bytes else bytes

structure Counts where
  wholeIn : Nat := 0
  partIn : Nat := 0
  wholeOut : Nat := 0
  partOut : Nat := 0
  bytes : Nat := 0

def write (plan : Plan) (output : Nat) (counts : Counts) (bytes : ByteArray) : WorkM Counts := do
  if bytes.isEmpty then return counts
  match ← request (.write output bytes) with
  | .ok _ =>
      let isWhole := bytes.size = plan.outputBlock
      return { counts with
        wholeOut := counts.wholeOut + if isWhole then 1 else 0
        partOut := counts.partOut + if isWhole then 0 else 1
        bytes := counts.bytes + bytes.size }
  | .error error =>
      die ("error writing " ++ quoted (plan.output?.getD "standard output") ++ ": " ++ reason error)

def writeWhole (plan : Plan) (output : Nat) : (fuel : Nat) → Counts → ByteArray →
    WorkM (Counts × ByteArray)
  | 0, counts, bytes => return (counts, bytes)
  | fuel + 1, counts, bytes => do
      if bytes.size < plan.outputBlock then return (counts, bytes)
      let counts ← write plan output counts (bytes.extract 0 plan.outputBlock)
      writeWhole plan output fuel counts (bytes.extract plan.outputBlock bytes.size)

/-- Reads a block. One that is asked for as a whole is read until it is full. -/
def readBlock (plan : Plan) (input : Nat) : (fuel : Nat) → ByteArray →
    WorkM (Except IoError ByteArray)
  | 0, before => return .ok before
  | fuel + 1, before => do
      match ← readSome input (plan.inputBlock - before.size) Act.endless with
      | .error error => return .error error
      | .ok bytes =>
          let all := before ++ bytes
          if bytes.isEmpty || all.size = plan.inputBlock || !plan.flags.contains "fullblock" then
            return .ok all
          else readBlock plan input fuel all

def pass (plan : Plan) (input output : Nat) : (fuel : Nat) → Counts → (left : ByteArray) →
    WorkM (Counts × ByteArray)
  | 0, counts, left => return (counts, left)
  | fuel + 1, counts, left => do
      if plan.count?.any (· ≤ counts.wholeIn + counts.partIn) then return (counts, left)
      match ← readBlock plan input Act.endless .empty with
      | .error error => do
          grumble ("error reading " ++ quoted (plan.input?.getD "standard input") ++ ": " ++
            reason error)
          return (counts, left)
      | .ok bytes =>
          if bytes.isEmpty then return (counts, left)
          let isWhole := bytes.size = plan.inputBlock
          let counts :=
            { counts with
              wholeIn := counts.wholeIn + if isWhole then 1 else 0
              partIn := counts.partIn + if isWhole then 0 else 1 }
          let bytes := converted plan bytes
          if plan.direct then
            let counts ← write plan output counts bytes
            pass plan input output fuel counts left
          else
            let (counts, left) ← writeWhole plan output (left.size + bytes.size + 1) counts
              (left ++ bytes)
            pass plan input output fuel counts left

def discard (plan : Plan) (input : Nat) : (count : Nat) → WorkM Unit
  | 0 => return
  | count + 1 => do
      let _ ← readBlock { plan with flags := ["fullblock"] } input Act.endless .empty
      discard plan input count

def sizeText (size : Nat) : String :=
  let bytes := toString size ++ (if size = 1 then " byte" else " bytes")
  let decimal := scaled 1000 ["kB", "MB", "GB"]
  let binary := scaled 1024 ["KiB", "MiB", "GiB"]
  if size < 1000 then bytes ++ " copied"
  else if size < 1024 then bytes ++ " (" ++ decimal ++ ") copied"
  else bytes ++ " (" ++ decimal ++ ", " ++ binary ++ ") copied"
where
  scaled (base : Nat) (units : List String) : String :=
    let power := if size < Nat.pow base 2 then 1 else if size < Nat.pow base 3 then 2 else 3
    let unit := units.getD (power - 1) ""
    let tenths := (size * 20 + Nat.pow base power) / (2 * Nat.pow base power)
    (if tenths < 100 then toString (tenths / 10) ++ "." ++ toString (tenths % 10)
      else toString ((size * 2 + Nat.pow base power) / (2 * Nat.pow base power))) ++ " " ++ unit

def main (args : List String) : WorkM Unit := do
  let line ← commandLine [] args
  let plan ← line.operands.foldlM Plan.read {}
  let has (name : String) : Bool := plan.conversions.contains name
  let inputBlock := plan.inputBlock
  let skip := if plan.flags.contains "skip_bytes" then plan.skip / inputBlock else plan.skip
  let input ← match plan.input? with
    | none => pure 0
    | some path =>
        match ← openInput path false with
        | .ok descriptor => pure descriptor
        | .error error => die ("failed to open " ++ quoted path ++ ": " ++ reason error)
  let output ← match plan.output? with
    | none => pure 1
    | some path => do
        let mode : OpenMode :=
          { writes := true
            reads := has "notrunc" || plan.seek ≠ 0
            creates := !has "nocreat"
            exclusive := has "excl"
            truncates := !has "notrunc" && plan.seek = 0
            appends := plan.flags.contains "append" }
        match ← request (.openFile path mode 0o666) with
        | .ok descriptor => pure descriptor
        | .error error => die ("failed to open " ++ quoted path ++ ": " ++ reason error)
  let view ← request .view
  if skip ≠ 0 then
    match view.descriptorStatus input with
    | .ok status =>
        if status.kind = .file then
          let _ ← request (.seek input (skip * inputBlock : Nat) .current)
          if status.size < skip * inputBlock then
            unless plan.level = "none" do
              complain (quoted (plan.input?.getD "standard input") ++
                ": cannot skip to specified offset")
        else discard plan input skip
    | .error _ => discard plan input skip
  if plan.seek ≠ 0 then
    let goal := plan.seek * plan.outputBlock
    let _ ← request (.seek output goal .current)
    match plan.output? with
    | some path =>
        unless has "notrunc" do
          let _ ← request (.change fun view => do
            let index ← view.tree.find view.cwd (Octets.toText path)
            match view.tree.content? index with
            | some (.file bytes) =>
                let zeros : ByteArray := ⟨Array.replicate (goal - bytes.size) 0⟩
                return view.tree.setContent index (.file (bytes.extract 0 goal ++ zeros)) view.now
            | _ => return view.tree)
    | none => pure ()
  let start := view.now
  let (counts, left) ← pass plan input output Act.endless {} .empty
  let counts ← write plan output counts left
  unless plan.level = "none" do
    remark (toString counts.wholeIn ++ "+" ++ toString counts.partIn ++ " records in\n" ++
      toString counts.wholeOut ++ "+" ++ toString counts.partOut ++ " records out\n")
    unless plan.level = "noxfer" do
      let time := (← request .view).now - start
      let micro := time / 1000
      remark (sizeText counts.bytes ++ ", 0." ++
        (let digits := toString micro
         String.ofList (List.replicate (6 - digits.length) '0') ++ digits) ++ " s, " ++
        toString (counts.bytes * 1000000 / (time + 1)) ++ " kB/s\n")

end Bundler.Machine.Utility.Convert
