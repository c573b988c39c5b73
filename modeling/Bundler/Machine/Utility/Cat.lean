import Bundler.Machine.Utility.Options

/-! Programs that pass text on: `cat`, `tac`, `tee`, `yes`, `rev`. -/

namespace Bundler.Machine.Utility

structure Display where
  numbers : Bool := false
  numbersNonblank : Bool := false
  squeezes : Bool := false
  ends : Bool := false
  tabs : Bool := false
  nonprinting : Bool := false
  deriving DecidableEq

namespace Display

def isPlain (display : Display) : Bool :=
  display = {}

def visible (c : Char) : List Char :=
  let low (n : Nat) : List Char :=
    if n < 32 then ['^', Char.ofNat (n + 64)]
    else if n = 127 then ['^', '?']
    else [Char.ofNat n]
  if c.toNat < 128 then low c.toNat else 'M' :: '-' :: low (c.toNat - 128)

def shown (display : Display) (c : Char) : List Char :=
  if c == '\t' then (if display.tabs then ['^', 'I'] else [c])
  else if display.nonprinting then visible c
  else [c]

end Display

structure Passing where
  number : Nat := 0
  atStart : Bool := true
  blanks : Nat := 0

def numbered (width n : Nat) : String :=
  let digits := toString n
  String.ofList (List.replicate (width - digits.length) ' ') ++ digits

def Passing.step (display : Display) (passing : Passing) (c : Char) : Passing × List Char :=
  let isEnd := c == '\n'
  if isEnd && passing.atStart && display.squeezes && 1 ≤ passing.blanks then (passing, [])
  else
    let counts := passing.atStart &&
      (if display.numbersNonblank then !isEnd else display.numbers)
    let number := if counts then passing.number + 1 else passing.number
    let front := if counts then (numbered 6 number ++ "\t").toList else []
    let text := if isEnd then (if display.ends then ['$', c] else [c]) else display.shown c
    ({ number
       atStart := isEnd
       blanks := if isEnd && passing.atStart then passing.blanks + 1 else 0 }, front ++ text)

def Passing.all (display : Display) (passing : Passing) (chars : List Char) :
    Passing × List Char :=
  let (passing, parts) := chars.foldl (fun (passing, parts) c =>
    let (passing, part) := passing.step display c
    (passing, part.reverse ++ parts)) (passing, ([] : List Char))
  (passing, parts.reverse)

namespace Cat

def copy (display : Display) (descriptor : Nat) :
    (fuel : Nat) → Passing → WorkM (Except IoError Unit × Passing)
  | 0, passing => return (.ok (), passing)
  | fuel + 1, passing => do
      match ← readSome descriptor 131072 Act.endless with
      | .error error => return (.error error, passing)
      | .ok bytes =>
          if bytes.isEmpty then return (.ok (), passing)
          else
            let passing ← if display.isPlain then do
                emitBytes bytes
                pure passing
              else do
                let (passing, text) := passing.all display (Octets.ofBytes bytes)
                emitChars text
                pure passing
            flush
            copy display descriptor fuel passing

def isOutput (descriptor : Nat) : WorkM Bool := do
  let view ← request .view
  match view.descriptorStatus descriptor, view.descriptorStatus 1 with
  | .ok input, .ok output =>
      if input.kind = .file && input.identity = output.identity then
        match ← request (.seek descriptor 0 .current) with
        | .ok place => return decide (place < input.size)
        | .error _ => return false
      else return false
  | _, _ => return false

def known : List Known :=
  [⟨"A", "show-all", .none⟩, ⟨"b", "number-nonblank", .none⟩, ⟨"e", "", .none⟩,
    ⟨"E", "show-ends", .none⟩, ⟨"n", "number", .none⟩, ⟨"s", "squeeze-blank", .none⟩,
    ⟨"t", "", .none⟩, ⟨"T", "show-tabs", .none⟩, ⟨"u", "", .none⟩,
    ⟨"v", "show-nonprinting", .none⟩]

def each (display : Display) : Passing → List String → WorkM Unit
  | _, [] => return
  | passing, file :: rest => do
      match ← openInput file with
      | .error error => do
          grumble (quotedName file ++ ": " ++ reason error)
          each display passing rest
      | .ok descriptor => do
          if ← isOutput descriptor then
            grumble (quotedName file ++ ": input file is output file")
            closeInput descriptor
            each display passing rest
          else
            let (result, passing) ← copy display descriptor Act.endless passing
            closeInput descriptor
            match result with
            | .ok _ => pure ()
            | .error error => grumble (quotedName file ++ ": " ++ reason error)
            each display passing rest
where
  quotedName (file : String) : String :=
    quotedIfNeeded file

def main (args : List String) : WorkM Unit := do
  let line ← commandLine known args
  match (← request .view).descriptorStatus 1 with
  | .ok _ => pure ()
  | .error error => die ("standard output: " ++ reason error)
  let has := line.has
  let display : Display :=
    { numbers := has "n" || has "b"
      numbersNonblank := has "b"
      squeezes := has "s"
      ends := has "A" || has "e" || has "E"
      tabs := has "A" || has "t" || has "T"
      nonprinting := has "A" || has "e" || has "t" || has "v" }
  each display {} (if line.operands.isEmpty then ["-"] else line.operands)

end Cat

namespace Tee

def copy : (fuel : Nat) → List (Nat × String) → WorkM Unit
  | 0, _ | _, [] => return
  | fuel + 1, outputs => do
      match ← readSome 0 8192 Act.endless with
      | .error error => grumble ("read error: " ++ reason error)
      | .ok bytes =>
          unless bytes.isEmpty do
            let left ← outputs.filterM fun (descriptor, name) => do
              match ← request (.write descriptor bytes) with
              | .ok _ => return true
              | .error error => do
                  grumble (quotedIfNeeded name ++ ": " ++ reason error)
                  return false
            copy fuel left

def known : List Known :=
  [⟨"a", "append", .none⟩, ⟨"i", "ignore-interrupts", .none⟩, ⟨"p", "", .none⟩,
    ⟨"", "output-error", .optional⟩]

def main (args : List String) : WorkM Unit := do
  let line ← commandLine known args
  let mode := if line.has "a" then OpenMode.forAppending else .forWriting
  let outputs ← line.operands.filterMapM fun file => do
    match ← request (.openFile file mode 0o666) with
    | .ok descriptor => return some (descriptor, file)
    | .error error => do
        grumble (quotedIfNeeded file ++ ": " ++ reason error)
        return none
  copy Act.endless ((1, "standard output") :: outputs)

end Tee

namespace Yes

def go (text : ByteArray) : (fuel : Nat) → WorkM Unit
  | 0 => return
  | fuel + 1 => do
      emitBytes text
      go text fuel

def main (args : List String) : WorkM Unit := do
  let args := match args with
    | "--" :: rest => rest
    | args => args
  setWriteFault fun reason => "standard output: " ++ reason
  let line := (if args.isEmpty then "y" else String.intercalate " " args) ++ "\n"
  go (Octets.bytes (String.join (List.replicate (partSize / line.length + 1) line))) Act.endless

end Yes

def eachContent (files : List String) (excuse : String → IoError → String)
    (use : List Char → WorkM Unit) : WorkM Unit := do
  for file in if files.isEmpty then ["-"] else files do
    match ← contentOf file with
    | .error error => grumble (excuse file error)
    | .ok content => do
        request (.pass pieceTime)
        use (Octets.ofBytes content)

namespace Tac

def known : List Known :=
  [⟨"b", "before", .none⟩, ⟨"r", "regex", .none⟩, ⟨"s", "separator", .required⟩]

def parts (separator : List Char) : (fuel : Nat) → List Char → List Char → List (List Char)
  | 0, back, rest => [back.reverse ++ rest]
  | fuel + 1, back, rest =>
      match rest with
      | [] => if back.isEmpty then [] else [back.reverse]
      | c :: after =>
          if separator.isPrefixOf rest && !separator.isEmpty then
            (back.reverse ++ separator) :: parts separator fuel [] (rest.drop separator.length)
          else parts separator fuel (c :: back) after

def main (args : List String) : WorkM Unit := do
  let line ← commandLine known args
  let separator := ((line.last? "s").getD "\n").toList
  eachContent line.operands
    (fun file error =>
      if error = .isADirectory then quotedIfNeeded file ++ ": read error: " ++ reason error
      else "failed to open " ++ quoted file ++ " for reading: " ++ reason error)
    fun chars => emitChars (parts separator (chars.length + 1) [] chars).reverse.flatten

end Tac

namespace Rev

def main (args : List String) : WorkM Unit := do
  let line ← commandLine [] args
  eachContent line.operands
    (fun file error => "cannot open " ++ file ++ ": " ++ reason error)
    fun chars => do
      let (lines, ended) := linesOf chars
      for (part, index) in lines.zipIdx do
        emitChars part.reverse
        if ended || index + 1 < lines.length then emit "\n"

end Rev

end Bundler.Machine.Utility
