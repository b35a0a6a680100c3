import Mathlib.Tactic.Common
import Mathlib.Data.List.Basic

set_option autoImplicit false

namespace Shell

-- case patterns: "text*" and "*text*"
def startsWith (text word : String) : Bool := text.toList.isPrefixOf word.toList
def contains (text word : String) : Bool := word.toList.tails.any fun rest => text.toList.isPrefixOf rest

-- "${word#text}"
def removePrefix (text word : String) : String :=
  if startsWith text word then String.ofList (word.toList.drop text.length) else word

-- "${word%mark*}": the shortest suffix that starts with the mark goes
def cutAtLast (mark : Char) (word : String) : String :=
  match word.toList.reverse.dropWhile (fun letter => letter ≠ mark) with
  | [] => word
  | _ :: before => String.ofList before.reverse

-- "${word%%mark*}"
def cutAtFirst (mark : Char) (word : String) : String := String.ofList (word.toList.takeWhile fun letter => letter ≠ mark)

-- "${word##*mark}"
def afterLast (mark : Char) (word : String) : String :=
  String.ofList (word.toList.reverse.takeWhile fun letter => letter ≠ mark).reverse

-- echo "${word}", which takes a word of option letters for its options
def echoed (word : String) : String :=
  match word.toList with
  | '-' :: letters => if letters ≠ [] ∧ letters.all (fun letter => letter ∈ ['n', 'e', 'E']) = true then "" else word
  | _ => word

-- grep -F, where every line of the pattern is a text to look for
def grepFixed (pattern line : String) : Bool :=
  (pattern.toList.splitOn '\n').any fun text => contains (String.ofList text) line

-- sed "s/old/new/g" for single letters
def replaced (old new : Char) (word : String) : String :=
  String.ofList (word.toList.map fun letter => if letter = old then new else letter)

-- sed -n "s/.*mark\([^"]*\).*/\1/p": what follows the last mark, up to a quote
def quotedAfter (mark line : String) : String :=
  match line.toList.tails.reverse.find? (fun rest => mark.toList.isPrefixOf rest) with
  | some rest => String.ofList ((rest.drop mark.toList.length).takeWhile fun letter => letter ≠ '"')
  | none => ""

-- The entry that a path leads to from a directory, as the names on the way from
-- the root. The directories on the way are real ones.
def locate (dir : List String) (path : String) : List String :=
  (path.toList.splitOn '/').foldl (fun found name =>
    if name = [] ∨ name = ['.'] then found
    else if name = ['.', '.'] then found.dropLast
    else found ++ [String.ofList name]) (if startsWith "/" path then [] else dir)

-- One turn of a getopts loop: the option letter, '?' for an option that is not
-- in the list or lacks its argument, and OPTARG.
structure Found where
  name : Char
  arg : String
deriving DecidableEq, Repr

def takesArg : List Char → Char → Option Bool
  | [], _ => none
  | letter :: ':' :: spec, wanted => if letter = wanted then some true else takesArg spec wanted
  | letter :: spec, wanted => if letter = wanted then some false else takesArg spec wanted

-- The letters of one word such as -fv or -mfull. The second result is an option
-- whose argument has to be the next word.
def scanLetters (spec : List Char) : List Char → List Found × Option Char
  | [] => ([], none)
  | letter :: rest =>
      match takesArg spec letter with
      | none => (⟨'?', ""⟩ :: (scanLetters spec rest).1, (scanLetters spec rest).2)
      | some false => (⟨letter, ""⟩ :: (scanLetters spec rest).1, (scanLetters spec rest).2)
      | some true => if rest = [] then ([], some letter) else ([⟨letter, String.ofList rest⟩], none)

def getopts (spec : List Char) : Option Char → List String → List Found × List String
  | none, [] => ([], [])
  | some _, [] => ([⟨'?', ""⟩], [])
  | some letter, word :: words => (⟨letter, word⟩ :: (getopts spec none words).1, (getopts spec none words).2)
  | none, word :: words =>
      match word.toList with
      | ['-', '-'] => ([], words)
      | '-' :: letter :: letters =>
          ((scanLetters spec (letter :: letters)).1 ++ (getopts spec (scanLetters spec (letter :: letters)).2 words).1,
            (getopts spec (scanLetters spec (letter :: letters)).2 words).2)
      | _ => ([], word :: words)

example : getopts "m:s:x:fv".toList none ["-x", "r", "-fmfull", "--", "-v"] =
    ([⟨'x', "r"⟩, ⟨'f', ""⟩, ⟨'m', "full"⟩], ["-v"]) := by decide

end Shell
