import Bundler.Machine.FileTree
import Bundler.Machine.Octets

/-! What is started in the name of an executable file. -/

namespace Bundler.Machine

def headSize : Nat :=
  256

private def isBlank (byte : UInt8) : Bool :=
  byte == 32 || byte == 9

private def isStop (byte : UInt8) : Bool :=
  isBlank byte || byte == 0

private def octets (bytes : List UInt8) : String :=
  String.ofList (bytes.map fun byte => Char.ofNat byte.toNat)

/-- The interpreter and its argument in the first line of a script. A line that does not end within
the head is cut there, but not within the interpreter's name. Blanks at the end of a line do not
count, while those at the end of a file stand before an empty argument. -/
def interpreter? (content : ByteArray) : Option (String × List String) :=
  match (content.extract 0 headSize).toList with
  | 35 :: 33 :: rest =>
      let ended := rest.contains 10
      let cut := !ended && headSize ≤ content.size
      let line := rest.takeWhile (· ≠ 10)
      let start := (if cut then line.take (headSize - 3) else line).dropWhile isBlank
      if cut && !(start.any isStop) then none
      else
        let chars := if ended || cut then (start.reverse.dropWhile isBlank).reverse else start
        let name := chars.takeWhile (!isStop ·)
        let behind := chars.drop name.length
        let arg := (behind.dropWhile isBlank).takeWhile (· ≠ 0)
        if name.isEmpty then none
        else some (octets name, if behind.head?.any isBlank then [octets arg] else [])
  | _ => none

namespace FileTree

def maxInterpreters : Nat :=
  5

/-- The system's program that is started for an executable file, and the words it gets, of which
the first is its name. A script gives its interpreter. All but the name of the program are octets.
`fuel` bounds the interpreters of interpreters. -/
def image (tree : FileTree) (cwd : Nat) :
    (fuel : Nat) → (path : String) → (words : List String) →
      Except IoError (String × List String)
  | fuel, path, words => do
      let node ← tree.node cwd (Octets.toText path)
      match node.content with
      | .program name => return (name, words)
      | .file content =>
          if !node.isExecutable then throw .permissionDenied
          match fuel, interpreter? content with
          | _, none => throw .badFormat
          | 0, some _ => throw .tooManyLinks
          | fuel + 1, some (interpreter, args) =>
              image tree cwd fuel interpreter (interpreter :: args ++ path :: words.tail)
      | _ => throw .permissionDenied

end FileTree

def maxWord : Nat :=
  131071

def maxWords : Nat :=
  2097152

def fits (words : List String) (environment : List (String × String)) : Bool :=
  let sizes := words.map (·.utf8ByteSize) ++
    environment.map fun (name, value) => name.utf8ByteSize + value.utf8ByteSize + 1
  sizes.all (· ≤ maxWord) && sizes.foldl (fun sum size => sum + size + 9) 0 ≤ maxWords

end Bundler.Machine
