import Bundler.Machine.Utility.Find.Rule
import Bundler.Machine.Utility.Launch

/-! The program `find`: files of directories, and what is done with them. -/

namespace Bundler.Machine.Utility.Find

structure Search where
  settings : Settings
  rule : Rule

structure Progress where
  gathered : List (Nat × List String) := []
  leftOut : Bool := false
  ended : Bool := false
  deriving Inhabited

abbrev FindM := StateT Progress WorkM

def outcomeOf (pid : Nat) : (fuel : Nat) → WorkM (Option Outcome)
  | 0 => return none
  | fuel + 1 => do
      match ← request (.await true) with
      | .ended other outcome => if other = pid then return some outcome else outcomeOf pid fuel
      | .interrupted | .running => outcomeOf pid fuel
      | .childless => return none

def succeeds (words : List String) : WorkM Bool := do
  let pid ← spawn do
    let error ← execute words
    complain (quoted (words.headD "") ++ ": " ++ reason error)
    throw 1
  return (← outcomeOf pid Act.endless) = some (.exited 0)

def field (visit : Visit) (c : Char) : Option String :=
  let status := visit.entry.status
  let kind : FileKind → String := fun kind =>
    match kindLetter kind with
    | "-" => "f"
    | letter => letter
  match c with
  | 'p' => some visit.path
  | 'f' => some (nameOf visit.path)
  | 'h' =>
      let above := (visit.path.toList.reverse.dropWhile (· ≠ '/')).drop 1
      some (if visit.path.toList.contains '/' then String.ofList above.reverse else ".")
  | 'P' =>
      let rest := visit.path.toList.drop visit.start.length
      some (String.ofList (if rest.head? = some '/' then rest.tail else rest))
  | 'H' => some visit.start
  | 'd' => some (toString visit.depth)
  | 's' => some (toString status.size)
  | 'm' => some (String.ofList (Nat.toDigits 8 status.mode))
  | 'M' => some (kindLetter status.kind ++ Permissions.letters status.mode)
  | 'y' => some (kind status.kind)
  | 'Y' => some (match visit.view.status visit.path with
    | .ok status => kind status.kind
    | .error _ => "N")
  | 'n' => some (toString visit.entry.links)
  | 'l' => some (visit.entry.target?.getD "")
  | 'i' => some (toString (status.index?.getD 0 + 2))
  | 'u' | 'g' => some "root"
  | 'U' | 'G' => some "0"
  | 'b' => some (toString (spaceOf status * 2))
  | 'k' => some (toString (spaceOf status))
  | 't' | 'a' | 'c' =>
      let moment := momentOf status.modified
      some (moment.text status.modified 40 "%a %b %e %H:%M:%S".toList ++ "." ++
        padded 10 '0' (status.modified % billion * 10) ++ " " ++
        moment.text status.modified 4 ['%', 'Y'])
  | '%' => some "%"
  | _ => none

def formatted (visit : Visit) : (fuel : Nat) → List Char → String
  | 0, _ => ""
  | fuel + 1, chars =>
      match chars with
      | '\\' :: c :: rest =>
          let digits := (c :: rest).takeWhile fun c => '0' ≤ c && c ≤ '7'
          let digits := digits.take 3
          if digits.isEmpty then
            (match c with
              | 'n' => "\n"
              | 't' => "\t"
              | 'a' => "\x07"
              | 'b' => "\x08"
              | 'f' => "\x0c"
              | 'r' => "\r"
              | 'v' => "\x0b"
              | '\\' => "\\"
              | c => "\\" ++ c.toString) ++ formatted visit fuel rest
          else
            let code := digits.foldl (fun n c => n * 8 + (c.toNat - '0'.toNat)) 0
            (Char.ofNat code).toString ++ formatted visit fuel ((c :: rest).drop digits.length)
      | '%' :: rest =>
          let spec := rest.takeWhile fun c => c.isDigit || ['-', '.'].contains c
          match rest.drop spec.length with
          | c :: after =>
              let second := (after.headD ' ')
              if ['T', 'A', 'C'].contains c then
                let modified := visit.entry.status.modified
                let text := if second = '@' then
                    toString (modified / billion) ++ "." ++
                      padded 10 '0' (modified % billion * 10)
                  else (momentOf modified).text modified 40 ['%', second]
                text ++ formatted visit fuel after.tail
              else
                match field visit c with
                | none => "%" ++ String.ofList spec ++ c.toString ++ formatted visit fuel after
                | some text =>
                    let width := ((String.ofList (spec.filter Char.isDigit)).toNat?).getD 0
                    let missing := String.ofList (List.replicate (width - text.length) ' ')
                    (if spec.head? = some '-' then text ++ missing else missing ++ text) ++
                      formatted visit fuel after
          | [] => "%"
      | c :: rest => c.toString ++ formatted visit fuel rest
      | [] => ""

def listed (visit : Visit) : String :=
  let entry := visit.entry
  let status := entry.status
  let moment := momentOf status.modified
  numberIn 9 (status.index?.getD 0 + 2) ++ " " ++ numberIn 6 (spaceOf status) ++ " " ++
    kindLetter status.kind ++ Permissions.letters status.mode ++ " " ++ numberIn 3 entry.links ++
    " root     root     " ++ numberIn 8 status.size ++ " " ++
    moment.text status.modified 40 "%b %e %H:%M".toList ++ " " ++ visit.path ++
    (match entry.target? with
      | some target => " -> " ++ target
      | none => "") ++ "\n"
where
  numberIn (width n : Nat) : String :=
    padded width ' ' n

def deletes (visit : Visit) : WorkM Bool := do
  if visit.path = "." then return true
  let path := Octets.toText visit.path
  let result ← change fun view =>
    if visit.entry.status.kind = .directory then
      view.tree.removeDirectory view.cwd path view.fileTime
    else view.tree.remove view.cwd path view.fileTime
  match result with
  | .ok _ => return true
  | .error error => do
      grumble ("cannot delete " ++ quoted visit.path ++ ": " ++ reason error)
      return false

def withPath (path word : String) : String :=
  String.intercalate path (word.splitOn "\x7b\x7d")

def holds (visit : Visit) : Rule → FindM Bool
  | .check test => return test visit
  | .both first second => do
      if ← holds visit first then
        if (← get).ended then return false else holds visit second
      else return false
  | .either first second => do
      if ← holds visit first then return true
      else if (← get).ended then return false
      else holds visit second
  | .inTurn first second => do
      let _ ← holds visit first
      if (← get).ended then return false else holds visit second
  | .negation rule => return !(← holds visit rule)
  | .print ending => do
      emit (visit.path ++ ending)
      return true
  | .printAs format => do
      emit (formatted visit (format.length + 1) format.toList)
      return true
  | .list => do
      emit (listed visit)
      return true
  | .run words asks => do
      let words := words.map (withPath visit.path)
      let isMeant ← if asks then do
          remark ("< " ++ words.headD "" ++ " ... " ++ visit.path ++ " > ? ")
          match ← readLine 0 with
          | .ok (some answer) =>
              pure ((Octets.ofBytes answer).head?.any fun c => c = 'y' || c = 'Y')
          | _ => pure false
        else pure true
      if isMeant then succeeds words else return false
  | .runMany number _ => do
      modify fun progress =>
        let before := ((progress.gathered.lookup number).getD [])
        { progress with
          gathered := (number, visit.path :: before) ::
            progress.gathered.filter (·.1 ≠ number) }
      return true
  | .delete => deletes visit
  | .leaveOut => do
      modify fun progress => { progress with leftOut := true }
      return true
  | .quit => do
      modify fun progress => { progress with ended := true }
      return true

def visit (search : Search) (start : String) : (fuel : Nat) → (depth : Nat) → String → FindM Unit
  | 0, _, _ => return
  | fuel + 1, depth, path => do
      if (← get).ended then return
      let settings := search.settings
      let follow := settings.follows || (depth = 0 && settings.followsGiven)
      let view ← request .view
      match Directory.entryOf view follow false path path with
      | .error error => grumble (quoted path ++ ": " ++ reason error)
      | .ok entry => do
          request (.pass pieceTime)
          let act : FindM Unit := do
            if settings.least ≤ depth && !(← get).ended then
              let file : Visit := { path, start, depth, entry, view := ← request .view }
              let _ ← holds file search.rule
          modify fun progress => { progress with leftOut := false }
          unless settings.late do act
          let goesOn := settings.late || !(← get).leftOut
          let isBelow := settings.most?.all (depth < ·)
          if entry.status.kind = .directory && goesOn && isBelow then
            for name in entriesOf view path do
              visit search start fuel (depth + 1) (joined path name)
          if settings.late then act

def commandsOf : Rule → List (Nat × List String)
  | .runMany number words => [(number, words)]
  | .both first second | .either first second | .inTurn first second =>
      commandsOf first ++ commandsOf second
  | .negation rule => commandsOf rule
  | _ => []

def splitFront : List String → Settings → Settings × List String
  | "-H" :: rest, settings => splitFront rest { settings with followsGiven := true }
  | "-L" :: rest, settings => splitFront rest { settings with follows := true }
  | "-P" :: rest, settings =>
      splitFront rest { settings with follows := false, followsGiven := false }
  | words, settings => (settings, words)

def main (args : List String) : WorkM Unit := do
  setWriteFault fun reason => "'standard output': " ++ reason ++ "\nfind: write error"
  let (settings, words) := splitFront args {}
  let isPath (word : String) : Bool :=
    !isOption word && word ≠ "(" && word ≠ "!" && word ≠ ")"
  let paths := words.takeWhile isPath
  let expression := words.drop paths.length
  let start : Reading := { rest := expression, settings }
  let (rule, reading) ← if expression.isEmpty then pure (always, start)
    else (inTurns (10 * expression.length + 10)).run start
  match reading.rest with
  | [] => pure ()
  | _ => die "you have too many ')'"
  let rule := if rule.acts then rule else .both rule (.print "\n")
  let search : Search := { settings := reading.settings, rule }
  let walk : FindM Unit := do
    for path in if paths.isEmpty then ["."] else paths do
      visit search path Act.endless 0 path
  let (_, progress) ← walk.run {}
  for (number, words) in commandsOf rule do
    let files := ((progress.gathered.lookup number).getD []).reverse
    unless files.isEmpty do
      unless ← succeeds (words ++ files) do setStatus 1

end Bundler.Machine.Utility.Find
