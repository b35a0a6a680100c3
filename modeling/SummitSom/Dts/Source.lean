import Mathlib.Tactic.Common
import Mathlib.Data.List.Basic
import Mathlib.Data.List.Forall2

set_option autoImplicit false

namespace Dts

-- Paths of nodes, the innermost first.
abbrev Path := List (List Char)

inductive Entry where
  | node (path : Path)
  | statement (path : Path) (text : List Char)
deriving DecidableEq

-- A reader is inside the nodes of its path. After a "}" it waits for the ";".
structure Reader where
  path : Path
  ended : Bool
  pending : List Char
  quoted : Bool
  entries : List Entry

def idle (path : Path) (entries : List Entry) : Reader := ⟨path, false, [], false, entries⟩

def blank (letter : Char) : Bool := letter = ' ' || letter = '\t' || letter = '\n'

def trimmed (text : List Char) : List Char := (text.reverse.dropWhile blank).reverse

def Reader.begin (reader : Reader) : Option Reader :=
  if reader.ended = true ∨ reader.pending = [] then none
  else some (idle (trimmed reader.pending :: reader.path) (reader.entries ++ [.node (trimmed reader.pending :: reader.path)]))

def Reader.close (reader : Reader) : Option Reader :=
  match reader.path with
  | [] => none
  | _ :: outer => if reader.ended = true ∨ reader.pending ≠ [] then none else some ⟨outer, true, [], false, reader.entries⟩

def Reader.finish (reader : Reader) : Option Reader :=
  if reader.ended = true then some (idle reader.path reader.entries)
  else if reader.pending = [] then none
  else some (idle reader.path (reader.entries ++ [.statement reader.path reader.pending]))

def Reader.take (reader : Reader) (letter : Char) : Option Reader :=
  if blank letter = true ∧ reader.pending = [] then some reader
  else if reader.ended = true then none
  else some { reader with pending := reader.pending ++ [letter], quoted := letter = '"' }

-- Escapes in strings are not read.
def Reader.takeQuoted (reader : Reader) (letter : Char) : Option Reader :=
  if letter = '\\' then none
  else some { reader with pending := reader.pending ++ [letter], quoted := letter ≠ '"' }

def Reader.read (reader : Reader) (letter : Char) : Option Reader :=
  if reader.quoted = true then reader.takeQuoted letter
  else if letter = '{' then reader.begin
  else if letter = '}' then reader.close
  else if letter = ';' then reader.finish
  else reader.take letter

def readText (reader : Reader) : List Char → Option Reader
  | [] => some reader
  | letter :: text => (reader.read letter).bind fun next => readText next text

theorem read_append (reader : Reader) (text more : List Char) :
    readText reader (text ++ more) = (readText reader text).bind fun next => readText next more := by
  induction text generalizing reader with
  | nil => rfl
  | cons letter text ih =>
      rw [List.cons_append, readText, readText]
      cases reader.read letter with
      | none => rfl
      | some next => exact ih next

abbrev Line := List Char

def fileText (lines : List Line) : List Char := lines.flatMap fun line => line ++ ['\n']

-- The nodes and statements of a file that leaves no node open.
def sourceEntries (lines : List Line) : Option (List Entry) :=
  match readText (idle [] []) (fileText lines) with
  | some ⟨[], false, [], false, entries⟩ => some entries
  | _ => none

section Statements

-- What stands in front of a ";": the quotes are closed, and no "{", "}" or ";" is
-- outside of them.
def scan : Bool → List Char → Option Bool
  | quoted, [] => some quoted
  | true, letter :: text => if letter = '\\' then none else scan (letter ≠ '"') text
  | false, letter :: text => if letter = '{' ∨ letter = '}' ∨ letter = ';' then none else scan (letter = '"') text

def begins : List Char → Bool
  | [] => false
  | letter :: _ => !blank letter && letter ≠ '{' && letter ≠ '}' && letter ≠ ';'

structure Stated (text : List Char) : Prop where
  begun : begins text = true
  closed : scan false text = some false

theorem scan_append (quoted : Bool) (text more : List Char) :
    scan quoted (text ++ more) = (scan quoted text).bind fun after => scan after more := by
  induction text generalizing quoted with
  | nil => cases quoted <;> rfl
  | cons letter text ih =>
      cases quoted with
      | true =>
          rw [List.cons_append, scan, scan]
          split
          · rfl
          · exact ih _
      | false =>
          rw [List.cons_append, scan, scan]
          split
          · rfl
          · exact ih _

theorem begins_append (text more : List Char) (begun : begins text = true) : begins (text ++ more) = true := by
  cases text with
  | nil => cases begun
  | cons letter text => exact begun

theorem read_scanned (path : Path) (entries : List Entry) (pending text : List Char) (quoted after : Bool)
    (begun : pending ≠ []) (scanned : scan quoted text = some after) :
    readText ⟨path, false, pending, quoted, entries⟩ text = some ⟨path, false, pending ++ text, after, entries⟩ := by
  induction text generalizing pending quoted with
  | nil =>
      cases quoted <;> cases scanned <;> rw [readText, List.append_nil]
  | cons letter text ih =>
      have longer : pending ++ [letter] ≠ [] := List.append_ne_nil_of_left_ne_nil begun [letter]
      rw [List.append_cons pending letter text]
      cases quoted with
      | true =>
          rw [scan] at scanned
          split at scanned
          · cases scanned
          · next unescaped =>
              rw [readText, Reader.read, if_pos rfl, Reader.takeQuoted, if_neg unescaped]
              exact ih _ _ longer scanned
      | false =>
          rw [scan] at scanned
          split at scanned
          · cases scanned
          · next plain =>
              simp only [not_or] at plain
              rw [readText, Reader.read, if_neg Bool.false_ne_true, if_neg plain.1, if_neg plain.2.1, if_neg plain.2.2,
                Reader.take, if_neg (fun skips => begun skips.2), if_neg Bool.false_ne_true]
              exact ih _ _ longer scanned

theorem read_begins (path : Path) (entries : List Entry) (text : List Char) (after : Bool) (begun : begins text = true)
    (scanned : scan false text = some after) :
    readText (idle path entries) text = some ⟨path, false, text, after, entries⟩ := by
  cases text with
  | nil => cases begun
  | cons letter text =>
      simp only [begins, Bool.and_eq_true, Bool.not_eq_true', decide_eq_true_eq] at begun
      obtain ⟨⟨⟨visible, opening⟩, closing⟩, ending⟩ := begun
      rw [scan, if_neg (by simp [opening, closing, ending])] at scanned
      rw [idle, readText, Reader.read, if_neg Bool.false_ne_true, if_neg opening, if_neg closing, if_neg ending, Reader.take,
        if_neg (by simp [visible]), if_neg Bool.false_ne_true]
      exact read_scanned path entries [letter] text (letter = '"') after (List.cons_ne_nil _ _) scanned

theorem read_blanks (path : Path) (ended : Bool) (entries : List Entry) (indent : List Char)
    (blanks : indent.all blank = true) :
    readText ⟨path, ended, [], false, entries⟩ indent = some ⟨path, ended, [], false, entries⟩ := by
  induction indent with
  | nil => rfl
  | cons letter indent ih =>
      simp only [List.all_cons, Bool.and_eq_true] at blanks
      have opening : letter ≠ '{' := by
        rintro rfl
        exact absurd blanks.1 (by decide)
      have closing : letter ≠ '}' := by
        rintro rfl
        exact absurd blanks.1 (by decide)
      have ending : letter ≠ ';' := by
        rintro rfl
        exact absurd blanks.1 (by decide)
      rw [readText, Reader.read, if_neg Bool.false_ne_true, if_neg opening, if_neg closing, if_neg ending, Reader.take,
        if_pos ⟨blanks.1, rfl⟩]
      exact ih blanks.2

end Statements

section Lines

inductive Act where
  | nothing
  | opens (name : List Char)
  | closes
  | states (text : List Char)

def Act.done : Act → Path → List Entry → Option Reader
  | .nothing, path, entries => some (idle path entries)
  | .opens name, path, entries => some (idle (name :: path) (entries ++ [.node (name :: path)]))
  | .closes, [], _ => none
  | .closes, _ :: outer, entries => some (idle outer entries)
  | .states text, path, entries => some (idle path (entries ++ [.statement path text]))

def play : List Act → Path → List Entry → Option Reader
  | [], path, entries => some (idle path entries)
  | act :: acts, path, entries => (act.done path entries).bind fun next => play acts next.path next.entries

def Tells (line : Line) (act : Act) : Prop :=
  ∀ path entries, readText (idle path entries) (line ++ ['\n']) = act.done path entries

theorem done_idle (act : Act) (path : Path) (entries : List Entry) (next : Reader) (done : act.done path entries = some next) :
    next = idle next.path next.entries := by
  cases act with
  | closes =>
      cases path with
      | nil => cases done
      | cons name outer =>
          cases done
          rfl
  | _ =>
      cases done
      rfl

theorem lines_tell (lines : List Line) (acts : List Act) (told : List.Forall₂ Tells lines acts) (path : Path)
    (entries : List Entry) : readText (idle path entries) (fileText lines) = play acts path entries := by
  induction told generalizing path entries with
  | nil => rfl
  | cons first _ ih =>
      rw [fileText, List.flatMap_cons, read_append, first, play]
      cases after : Act.done _ path entries with
      | none => rfl
      | some next =>
          rw [Option.bind_some, Option.bind_some, done_idle _ path entries next after]
          exact ih next.path next.entries

theorem tells_blank (indent : List Char) (blanks : indent.all blank = true) : Tells indent .nothing := by
  intro path entries
  exact read_blanks path false entries (indent ++ ['\n']) (by rw [List.all_append, blanks]; rfl)

theorem tells_statement (indent text : List Char) (blanks : indent.all blank = true) (stated : Stated text) :
    Tells (indent ++ (text ++ [';'])) (.states text) := by
  intro path entries
  have some_text : text ≠ [] := by
    rintro rfl
    cases stated.begun
  rw [List.append_assoc, read_append, idle, read_blanks path false entries indent blanks, Option.bind_some, List.append_assoc,
    read_append, ← idle, read_begins path entries text false stated.begun stated.closed, Option.bind_some, List.singleton_append,
    readText, Reader.read, if_neg Bool.false_ne_true, if_neg (by decide), if_neg (by decide), if_pos rfl, Reader.finish,
    if_neg Bool.false_ne_true, if_neg some_text, Option.bind_some]
  exact read_blanks path false _ ['\n'] rfl

-- What a here-document of the shell would expand.
def expands (letter : Char) : Bool := letter ∈ ['$', '\x60', '\\']

-- The name of a node: no blank and no quote, and nothing that ends a statement.
def nameLetter (letter : Char) : Bool := (!blank letter && !expands letter) && letter ∉ ['"', '{', '}', ';']

structure Named (name : List Char) : Prop where
  given : name ≠ []
  letters : name.all nameLetter = true

theorem named_scan (name : List Char) (letters : name.all nameLetter = true) : scan false name = some false := by
  induction name with
  | nil => rfl
  | cons letter name ih =>
      simp only [List.all_cons, Bool.and_eq_true] at letters
      have plain := letters.1
      simp only [nameLetter, Bool.and_eq_true, decide_eq_true_eq, List.mem_cons, List.not_mem_nil, or_false, not_or] at plain
      obtain ⟨_, quote, opening, closing, ending⟩ := plain
      rw [scan, if_neg (by simp [opening, closing, ending]), decide_eq_false quote]
      exact ih letters.2

theorem named_begins (name more : List Char) (named : Named name) : begins (name ++ more) = true := by
  cases name with
  | nil => exact absurd rfl named.given
  | cons letter name =>
      have letters := named.letters
      simp only [List.all_cons, Bool.and_eq_true] at letters
      have plain := letters.1
      simp only [nameLetter, Bool.and_eq_true, decide_eq_true_eq, List.mem_cons, List.not_mem_nil, or_false, not_or] at plain
      obtain ⟨⟨visible, _⟩, _, opening, closing, ending⟩ := plain
      simp only [List.cons_append, begins, visible, opening, closing, ending, ne_eq, not_false_eq_true, decide_true, Bool.and_self]

theorem named_trimmed (name : List Char) (named : Named name) : trimmed (name ++ [' ']) = name := by
  have visible : ∀ letter ∈ name.reverse, blank letter = false := by
    intro letter inside
    have plain := List.all_eq_true.mp named.letters letter (List.mem_reverse.mp inside)
    simp only [nameLetter, Bool.and_eq_true, Bool.not_eq_true'] at plain
    exact plain.1.1
  rw [trimmed, List.reverse_append, List.reverse_singleton, List.singleton_append, List.dropWhile_cons_of_pos (by rfl)]
  cases back : name.reverse with
  | nil => rw [List.dropWhile_nil, ← back, List.reverse_reverse]
  | cons letter rest =>
      rw [List.dropWhile_cons_of_neg (by rw [visible letter (by rw [back]; exact List.mem_cons_self)]; decide), ← back,
        List.reverse_reverse]

theorem tells_node (indent name : List Char) (blanks : indent.all blank = true) (named : Named name) :
    Tells (indent ++ (name ++ [' ', '{'])) (.opens name) := by
  intro path entries
  have spaced : scan false (name ++ [' ']) = some false := by
    rw [scan_append, named_scan name named.letters]
    rfl
  have some_name : name ++ [' '] ≠ [] := List.append_ne_nil_of_right_ne_nil name (List.cons_ne_nil _ _)
  rw [List.append_cons name ' ' ['{'], List.append_assoc, read_append, idle, read_blanks path false entries indent blanks,
    Option.bind_some, List.append_assoc, read_append, ← idle,
    read_begins path entries (name ++ [' ']) false (named_begins name [' '] named) spaced, Option.bind_some,
    List.singleton_append, readText, Reader.read, if_neg Bool.false_ne_true, if_pos rfl, Reader.begin,
    if_neg (by simp), Option.bind_some, named_trimmed name named]
  exact read_blanks (name :: path) false _ ['\n'] rfl

theorem tells_end (indent : List Char) (blanks : indent.all blank = true) : Tells (indent ++ ['}', ';']) .closes := by
  intro path entries
  rw [List.append_assoc, read_append, idle, read_blanks path false entries indent blanks, Option.bind_some]
  cases path with
  | nil => rfl
  | cons name outer => rfl

end Lines

section Values

-- Letters that leave quotes and statements as they are.
def valueLetter (letter : Char) : Bool := !expands letter && letter ∉ ['"', '{', '}', ';', '\n']

structure Value where
  text : List Char
  plain : text.all valueLetter = true

structure Word where
  text : List Char
  plain : text.all valueLetter = true
  whole : text.all nameLetter = true

def Word.value (word : Word) : Value := ⟨word.text, word.plain⟩

-- key = "value"
def quoted (key value : List Char) : List Char := key ++ (" = \"".toList ++ (value ++ ['"']))

-- key = <value>
def celled (key value : List Char) : List Char := key ++ (" = <".toList ++ (value ++ ['>']))

theorem value_letter_facts (letter : Char) (plain : valueLetter letter = true) :
    letter ≠ '"' ∧ letter ≠ '\\' ∧ letter ≠ '{' ∧ letter ≠ '}' ∧ letter ≠ ';' := by
  simp only [valueLetter, Bool.and_eq_true, Bool.not_eq_true', decide_eq_true_eq, List.mem_cons, List.not_mem_nil, or_false,
    not_or] at plain
  obtain ⟨kept, quote, opening, closing, ending, _⟩ := plain
  refine ⟨quote, ?_, opening, closing, ending⟩
  rintro rfl
  exact absurd kept (by decide)

theorem value_scan (inside : Bool) (text : List Char) (plain : text.all valueLetter = true) :
    scan inside text = some inside := by
  induction text with
  | nil => cases inside <;> rfl
  | cons letter text ih =>
      simp only [List.all_cons, Bool.and_eq_true] at plain
      obtain ⟨quote, escape, opening, closing, ending⟩ := value_letter_facts letter plain.1
      cases inside with
      | true =>
          rw [scan, if_neg escape, decide_eq_true quote]
          exact ih plain.2
      | false =>
          rw [scan, if_neg (by simp [opening, closing, ending]), decide_eq_false quote]
          exact ih plain.2

theorem stated_append (front text : List Char) (begun : begins front = true) (first : scan false front = some false)
    (rest : scan false text = some false) : Stated (front ++ text) := by
  refine ⟨begins_append front text begun, ?_⟩
  rw [scan_append, first, Option.bind_some, rest]

-- A text in quotes.
theorem framed_stated (front text back : List Char) (begun : begins front = true) (opens : scan false front = some true)
    (inside : scan true text = some true) (closes : scan true back = some false) : Stated (front ++ (text ++ back)) := by
  refine ⟨begins_append front _ begun, ?_⟩
  rw [scan_append, opens, Option.bind_some, scan_append, inside, Option.bind_some, closes]

theorem quoted_stated (key value : List Char) (named : Named key) (plain : scan true value = some true) :
    Stated (quoted key value) := by
  have opening : scan false (key ++ " = \"".toList) = some true := by
    rw [scan_append, named_scan key named.letters]
    decide
  have framed := framed_stated (key ++ " = \"".toList) value ['"'] (named_begins key _ named) opening plain (by decide)
  rw [List.append_assoc] at framed
  exact framed

theorem celled_stated (key value : List Char) (named : Named key) (plain : value.all valueLetter = true) :
    Stated (celled key value) := by
  refine ⟨named_begins key _ named, ?_⟩
  have opening : scan false " = <".toList = some false := by decide
  rw [celled, scan_append, named_scan key named.letters, Option.bind_some, scan_append, opening, Option.bind_some, scan_append,
    value_scan false value plain]
  rfl

theorem in_quotes_scan (text : List Char) (inside : scan true text = some true) : scan false ('"' :: (text ++ ['"'])) = some false := by
  change scan true (text ++ ['"']) = some false
  rw [scan_append, inside]
  rfl

theorem quoted_key (key other value another : List Char) (given : key ≠ []) (given' : other ≠ [])
    (same : quoted key value = quoted other another) : key.head? = other.head? := by
  obtain ⟨letter, rest, rfl⟩ := List.exists_cons_of_ne_nil given
  obtain ⟨letter', rest', rfl⟩ := List.exists_cons_of_ne_nil given'
  rw [List.head?_cons, List.head?_cons, (List.cons.inj same).1]

theorem quoted_value (key value another : List Char) (same : quoted key value = quoted key another) : value = another :=
  List.append_cancel_right (List.append_cancel_left (List.append_cancel_left same))

end Values

section Writing

def stating (indent text : List Char) : Line := indent ++ (text ++ [';'])

def opening (indent name : List Char) : Line := indent ++ (name ++ [' ', '{'])

def ending (indent : List Char) : Line := indent ++ ['}', ';']

-- A line that may be left empty.
def maybe (indent : List Char) : Option (List Char) → Line
  | none => indent
  | some text => stating indent text

def maybeAct : Option (List Char) → Act
  | none => .nothing
  | some text => .states text

def said (path : Path) (body : List (Option (List Char))) : List Entry := (body.filterMap id).map (.statement path)

-- A node with nothing but statements.
def leaf (path : Path) (name : List Char) (body : List (Option (List Char))) : List Entry :=
  .node (name :: path) :: said (name :: path) body

def AllStated (body : List (Option (List Char))) : Prop := ∀ text, some text ∈ body → Stated text

theorem tells_maybe (indent : List Char) (blanks : indent.all blank = true) (line : Option (List Char))
    (stated : ∀ text, line = some text → Stated text) : Tells (maybe indent line) (maybeAct line) := by
  cases line with
  | none => exact tells_blank indent blanks
  | some text => exact tells_statement indent text blanks (stated text rfl)

theorem tells_body (indent : List Char) (blanks : indent.all blank = true) (body : List (Option (List Char)))
    (stated : AllStated body) : List.Forall₂ Tells (body.map (maybe indent)) (body.map maybeAct) := by
  rw [List.forall₂_map_left_iff, List.forall₂_map_right_iff, List.forall₂_same]
  intro line inside
  exact tells_maybe indent blanks line (fun text same => stated text (same ▸ inside))

theorem play_body (body : List (Option (List Char))) (path : Path) (entries : List Entry) :
    play (body.map maybeAct) path entries = some (idle path (entries ++ said path body)) := by
  induction body generalizing entries with
  | nil => rw [List.map_nil, play, said, List.filterMap_nil, List.map_nil, List.append_nil]
  | cons line body ih =>
      cases line with
      | none => exact ih entries
      | some text =>
          rw [List.map_cons, maybeAct, play, Act.done, Option.bind_some]
          change play (body.map maybeAct) path (entries ++ [.statement path text]) = _
          rw [ih, List.append_assoc]
          rfl

-- The lines of a file leave the nodes of a path open and have said so much.
def Reads (lines : List Line) (path : Path) (entries : List Entry) : Prop :=
  readText (idle [] []) (fileText lines) = some (idle path entries)

theorem reads_lines (lines more : List Line) (acts : List Act) (path after : Path) (entries later : List Entry)
    (reads : Reads lines path entries) (told : List.Forall₂ Tells more acts)
    (played : play acts path entries = some (idle after later)) : Reads (lines ++ more) after later := by
  rw [Reads, fileText, List.flatMap_append, read_append]
  change (readText (idle [] []) (fileText lines)).bind (fun next => readText next (fileText more)) = some (idle after later)
  rw [reads, Option.bind_some, lines_tell more acts told path entries, played]

theorem reads_body (lines : List Line) (indent : List Char) (body : List (Option (List Char))) (path : Path)
    (entries : List Entry) (blanks : indent.all blank = true) (stated : AllStated body) (reads : Reads lines path entries) :
    Reads (lines ++ body.map (maybe indent)) path (entries ++ said path body) :=
  reads_lines lines _ _ path path entries _ reads (tells_body indent blanks body stated) (play_body body path entries)

theorem reads_opening (lines : List Line) (indent name : List Char) (path : Path) (entries : List Entry)
    (blanks : indent.all blank = true) (named : Named name) (reads : Reads lines path entries) :
    Reads (lines ++ [opening indent name]) (name :: path) (entries ++ [.node (name :: path)]) :=
  reads_lines lines _ [.opens name] path _ entries _ reads (.cons (tells_node indent name blanks named) .nil) rfl

theorem reads_ending (lines : List Line) (indent name : List Char) (path : Path) (entries : List Entry)
    (blanks : indent.all blank = true) (reads : Reads lines (name :: path) entries) :
    Reads (lines ++ [ending indent]) path entries :=
  reads_lines lines _ [.closes] (name :: path) path entries entries reads (.cons (tells_end indent blanks) .nil) rfl

theorem reads_begun (lines : List Line) (indent deeper name : List Char) (body : List (Option (List Char))) (path : Path)
    (entries : List Entry) (blanks : indent.all blank = true) (more : deeper.all blank = true) (named : Named name)
    (stated : AllStated body) (reads : Reads lines path entries) :
    Reads (lines ++ (opening indent name :: body.map (maybe deeper))) (name :: path) (entries ++ leaf path name body) := by
  have opened := reads_opening lines indent name path entries blanks named reads
  have filled := reads_body _ deeper body (name :: path) _ more stated opened
  rw [List.append_assoc, List.append_assoc] at filled
  exact filled

theorem reads_leaf (lines : List Line) (indent deeper name : List Char) (body : List (Option (List Char))) (path : Path)
    (entries : List Entry) (blanks : indent.all blank = true) (more : deeper.all blank = true) (named : Named name)
    (stated : AllStated body) (reads : Reads lines path entries) :
    Reads (lines ++ (opening indent name :: (body.map (maybe deeper) ++ [ending indent]))) path
      (entries ++ leaf path name body) := by
  have filled := reads_begun lines indent deeper name body path entries blanks more named stated reads
  have closed := reads_ending _ indent name path _ blanks filled
  rw [List.append_assoc] at closed
  exact closed

theorem source_read (lines : List Line) (entries : List Entry) (reads : Reads lines [] entries) :
    sourceEntries lines = some entries := by
  rw [sourceEntries, show readText (idle [] []) (fileText lines) = some (idle [] entries) from reads, idle]

end Writing

section Members

def Entry.path : Entry → Path
  | .node path => path
  | .statement path _ => path

def Entry.begun : Entry → Option Path
  | .node path => some path
  | .statement _ _ => none

-- The nodes that a source begins.
def nodes (entries : List Entry) : List Path := entries.filterMap Entry.begun

variable (path place : Path) (name text : List Char) (body : List (Option (List Char)))

theorem said_statement : .statement place text ∈ said path body ↔ place = path ∧ some text ∈ body := by
  rw [said, List.mem_map]
  constructor
  · rintro ⟨other, inside, same⟩
    cases same
    obtain ⟨line, there, rfl⟩ := List.mem_filterMap.mp inside
    exact ⟨rfl, there⟩
  · rintro ⟨rfl, inside⟩
    exact ⟨text, List.mem_filterMap.mpr ⟨some text, inside, rfl⟩, rfl⟩

theorem said_node : .node place ∉ said path body := by
  intro inside
  obtain ⟨text, _, same⟩ := List.mem_map.mp inside
  cases same

theorem leaf_statement : .statement place text ∈ leaf path name body ↔ place = name :: path ∧ some text ∈ body := by
  rw [leaf, List.mem_cons, said_statement]
  constructor
  · rintro (same | told)
    · cases same
    · exact told
  · exact .inr

theorem leaf_node : .node place ∈ leaf path name body ↔ place = name :: path := by
  rw [leaf, List.mem_cons]
  constructor
  · rintro (same | inside)
    · cases same
      rfl
    · exact absurd inside (said_node (name :: path) place body)
  · rintro rfl
    exact .inl rfl

theorem nodes_append (entries more : List Entry) : nodes (entries ++ more) = nodes entries ++ nodes more :=
  List.filterMap_append

theorem nodes_said : nodes (said path body) = [] := by
  rw [nodes, said, List.filterMap_map, List.filterMap_eq_nil_iff]
  intro text _
  rfl

theorem nodes_leaf : nodes (leaf path name body) = [name :: path] := by
  have inner := nodes_said (name :: path) body
  exact congrArg (List.cons (name :: path)) inner

theorem mem_nodes (entries : List Entry) : place ∈ nodes entries ↔ .node place ∈ entries := by
  rw [nodes, List.mem_filterMap]
  constructor
  · rintro ⟨entry, inside, same⟩
    cases entry with
    | node other =>
        cases same
        exact inside
    | statement other told => cases same
  · intro inside
    exact ⟨_, inside, rfl⟩

end Members

end Dts
