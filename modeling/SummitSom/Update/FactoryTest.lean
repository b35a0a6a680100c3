import SummitSom.Shell.Read

set_option autoImplicit false

namespace SummitSom.Update

open Shell

def ifsMarks : List Char := [':', '"']

-- How flash_factory_test ends without returning: through die, or because set -e
-- ends the script with a status.
inductive TestEnd where
  | died (message : String)
  | ended (status : Nat)
deriving DecidableEq

structure BadBlocks where
  bad_a : String
  bad_b : String
deriving DecidableEq

-- read with several variables: the words of the next line of the input, unless a
-- variable has no valid name or the input is at its end.
def readNames (names : List String) (input : List String) : Option (List String) :=
  if names.all isName then input.head?.map (readLine [] (names.length - 1)) else none

section Test

-- The status of nandtest on a device, and what "[ word -eq 0 ]" answers; for the
-- empty word it depends on the shell.
variable (nandtest : String → Nat) (isZero : String → Bool)

def countBadBlocks (mtd_dev mtd_name bad_blocks : String) (found : BadBlocks) : Except TestEnd BadBlocks :=
  if endsWith "spl" mtd_name then
    if isZero bad_blocks then .ok found
    else .error (.died ("Bad blocks found in " ++ mtd_dev ++ " \"" ++ mtd_name ++ "\""))
  else if endsWith "env-a" mtd_name then .ok { found with bad_a := bad_blocks }
  else if endsWith "env-b" mtd_name then .ok { found with bad_b := bad_blocks }
  else .ok found

-- One turn of the loop; it answers whether it took another line. The read of
-- bad_blocks has no "<" before the path and reads from /proc/mtd as well.
def testTurn (mtd_dev mtd_name : String) (input : List String) (found : BadBlocks) : Except TestEnd (Bool × BadBlocks) :=
  if startsWith "u-boot" mtd_name then
    if nandtest ("/dev/" ++ mtd_dev) ≠ 0 then
      .error (.died ("NAND test failed for " ++ mtd_dev ++ " \"" ++ mtd_name ++ "\""))
    else
      match readNames ["bad_blocks", "/sys/class/mtd/" ++ mtd_dev ++ "/bad_blocks"] input with
      | none => .error (.ended 1)
      | some words => (countBadBlocks isZero mtd_dev mtd_name (words.headD "") found).map fun found => (true, found)
  else .ok (false, found)

def testLoop : List String → Bool → BadBlocks → Except TestEnd BadBlocks
  | [], _, found => .ok found
  | _ :: input, true, found => testLoop input false found
  | line :: input, false, found => do
      let words := readLine ifsMarks 3 line
      let turned ← testTurn nandtest isZero (words.headD "") (words.getLastD "") input found
      testLoop input turned.1 turned.2

def flashFactoryTest (input : List String) : Except TestEnd Unit := do
  let found ← testLoop nandtest isZero input false ⟨"", ""⟩
  if isZero found.bad_a || isZero found.bad_b then .ok ()
  else .error (.died "Bad blocks found in both u-boot-env areas")

end Test

-- A line of /proc/mtd as the kernel prints it.
structure MtdPartition where
  dev : Word ifsMarks
  size : Word ifsMarks
  erasesize : Word ifsMarks
  name : String

def MtdPartition.line (partition : MtdPartition) : String :=
  partition.dev.text ++ ": " ++ partition.size.text ++ " " ++ partition.erasesize.text ++ " \"" ++ partition.name ++ "\""

def header : String := "dev:    size   erasesize  name"

def procMtd (partitions : List MtdPartition) : List String := header :: partitions.map MtdPartition.line

-- A name that begins with u-boot, as read finds it: without blanks in front.
def MtdPartition.seen (partition : MtdPartition) : Bool := "u-boot".toList.isPrefixOf (dropBlanks partition.name.toList)

theorem read_partition (partition : MtdPartition) :
    readLine ifsMarks 3 partition.line = [partition.dev.text, partition.size.text, partition.erasesize.text,
      String.ofList (lastWord ifsMarks (dropBlanks partition.name.toList ++ ['"']))] := by
  obtain ⟨dev, size, erasesize, name⟩ := partition
  have line : (dev.text ++ ": " ++ size.text ++ " " ++ erasesize.text ++ " \"" ++ name ++ "\"").toList =
      dev.text.toList ++ ':' :: ' ' :: (size.text.toList ++ ' ' :: (erasesize.text.toList ++
        ' ' :: '"' :: (name.toList ++ ['"']))) := by
    simp
  have colon : ifsMarks.contains ':' = true := by decide
  have quote : ifsMarks.contains '"' = true := by decide
  have blank : separates ifsMarks ' ' = true := by decide
  have afterName : dropBlanks (name.toList ++ ['"']) = dropBlanks name.toList ++ ['"'] := by
    rw [dropBlanks, List.dropWhile_append]
    split
    · next empty =>
        rw [dropBlanks, List.isEmpty_iff.mp empty]
        rfl
    · rfl
  rw [readLine, MtdPartition.line, line, drop_blanks_word ifsMarks _ _ dev.given dev.plain]
  have size_first (rest : List Char) : dropBlanks (' ' :: (size.text.toList ++ rest)) = size.text.toList ++ rest :=
    drop_blanks_word ifsMarks _ rest size.given size.plain
  rw [readWords, next_word ifsMarks _ _ _ dev.plain (separates_mark _ _ colon), skip_mark _ _ _ colon (by decide), size_first,
    readWords, next_word ifsMarks _ _ _ size.plain blank, skip_blank_word _ _ _ erasesize.given erasesize.plain,
    readWords, next_word ifsMarks _ _ _ erasesize.plain blank, skip_blank_mark _ _ _ quote (by decide), afterName, readWords]
  simp only [String.ofList_toList]

theorem partition_seen (partition : MtdPartition) :
    startsWith "u-boot" ((readLine ifsMarks 3 partition.line).getLastD "") = partition.seen := by
  have plain : Plain ifsMarks "u-boot".toList := plain_of_all _ _ (by decide)
  have begins := last_word_begins ifsMarks _ (dropBlanks partition.name.toList) '"' plain (by decide) (by decide)
  have name : ((readLine ifsMarks 3 partition.line).getLastD "").toList =
      lastWord ifsMarks (dropBlanks partition.name.toList ++ ['"']) := by
    rw [read_partition]
    exact String.toList_ofList
  rw [startsWith, name, MtdPartition.seen, Bool.eq_iff_iff, List.isPrefixOf_iff_prefix, begins, List.isPrefixOf_iff_prefix]

section Loop

variable (nandtest : String → Nat) (isZero : String → Bool) (partitions : List MtdPartition) (found : BadBlocks)

theorem path_no_name (mtd_dev : String) (input : List String) :
    readNames ["bad_blocks", "/sys/class/mtd/" ++ mtd_dev ++ "/bad_blocks"] input = none := by
  have path : isName ("/sys/class/mtd/" ++ mtd_dev ++ "/bad_blocks") = false := by
    rw [isName, String.toList_append, String.toList_append, List.append_assoc]
    rfl
  rw [readNames, List.all_cons, List.all_cons, path, Bool.false_and, Bool.and_false]
  rfl

theorem test_loop_unseen (line : String) (input : List String)
    (unseen : startsWith "u-boot" ((readLine ifsMarks 3 line).getLastD "") = false) :
    testLoop nandtest isZero (line :: input) false found = testLoop nandtest isZero input false found := by
  rw [testLoop, testTurn, unseen]
  rfl

-- No partition gets beyond the read, so none after the first one is looked at.
theorem test_loop_seen (partition : MtdPartition) (input : List String) (seen : partition.seen = true) :
    testLoop nandtest isZero (partition.line :: input) false found =
      if nandtest ("/dev/" ++ partition.dev.text) ≠ 0 then
        .error (.died ("NAND test failed for " ++ partition.dev.text ++ " \"" ++
          (readLine ifsMarks 3 partition.line).getLastD "" ++ "\""))
      else .error (.ended 1) := by
  have dev : (readLine ifsMarks 3 partition.line).headD "" = partition.dev.text := by
    rw [read_partition]
    rfl
  rw [testLoop, testTurn, if_pos ((partition_seen partition).trans seen), dev, path_no_name]
  split
  · rfl
  · rfl

theorem test_loop_clear (clear : partitions.find? MtdPartition.seen = none) :
    testLoop nandtest isZero (partitions.map MtdPartition.line) false found = .ok found := by
  induction partitions with
  | nil =>
      rw [List.map_nil, testLoop]
  | cons first rest ih =>
      rw [List.find?_cons] at clear
      split at clear
      · cases clear
      · next unseen =>
          rw [List.map_cons, test_loop_unseen _ _ _ _ _ ((partition_seen first).trans unseen)]
          exact ih clear

theorem test_loop_first (first : MtdPartition) (met : partitions.find? MtdPartition.seen = some first) :
    ∃ input, testLoop nandtest isZero (partitions.map MtdPartition.line) false found =
      testLoop nandtest isZero (first.line :: input) false found := by
  induction partitions with
  | nil => cases met
  | cons head rest ih =>
      rw [List.find?_cons] at met
      split at met
      · cases met
        exact ⟨_, rfl⟩
      · next unseen =>
          rw [List.map_cons, test_loop_unseen _ _ _ _ _ ((partition_seen head).trans unseen)]
          exact ih met

end Loop

section Verdict

variable (nandtest : String → Nat) (isZero : String → Bool) (bad_blocks : String → Nat) (partitions : List MtdPartition)

def MtdPartition.Named (partition : MtdPartition) (ending : String) : Prop :=
  startsWith "u-boot" partition.name = true ∧ endsWith ending partition.name = true

-- When a module has to be refused.
def MustDie : Prop :=
  (∃ partition ∈ partitions, partition.Named "" ∧ nandtest ("/dev/" ++ partition.dev.text) ≠ 0) ∨
    (∃ partition ∈ partitions, partition.Named "spl" ∧ bad_blocks partition.dev.text ≠ 0) ∨
    ((∃ partition ∈ partitions, partition.Named "env-a" ∧ bad_blocks partition.dev.text ≠ 0) ∧
      ∃ partition ∈ partitions, partition.Named "env-b" ∧ bad_blocks partition.dev.text ≠ 0)

structure VerdictRight (result : Except TestEnd Unit) (mustDie : Prop) : Prop where
  dies : (∃ message, result = .error (.died message)) ↔ mustDie
  returns : ¬mustDie → result = .ok ()

-- The shell finds the empty word zero, or the first partition decides.
def Decided : Prop :=
  match partitions.find? MtdPartition.seen with
  | none => isZero "" = true
  | some first =>
      nandtest ("/dev/" ++ first.dev.text) ≠ 0 ∧ (first.Named "" ∨ MustDie nandtest bad_blocks partitions)

theorem named_seen (partition : MtdPartition) (ending : String) (named : partition.Named ending) : partition.seen = true := by
  have begins := List.isPrefixOf_iff_prefix.mp named.1
  obtain ⟨rest, name⟩ := begins
  rw [MtdPartition.seen, ← name, List.isPrefixOf_iff_prefix]
  exact ⟨rest, rfl⟩

theorem must_die_seen (must : MustDie nandtest bad_blocks partitions) : ∃ partition ∈ partitions, partition.seen = true := by
  rcases must with ⟨partition, member, named, _⟩ | ⟨partition, member, named, _⟩ | ⟨⟨partition, member, named, _⟩, _⟩
  · exact ⟨partition, member, named_seen partition _ named⟩
  · exact ⟨partition, member, named_seen partition _ named⟩
  · exact ⟨partition, member, named_seen partition _ named⟩

theorem header_unseen : startsWith "u-boot" ((readLine ifsMarks 3 header).getLastD "") = false := by decide

theorem after_header : flashFactoryTest nandtest isZero (procMtd partitions) =
    (testLoop nandtest isZero (partitions.map MtdPartition.line) false ⟨"", ""⟩).bind fun found =>
      if isZero found.bad_a || isZero found.bad_b then .ok ()
      else .error (.died "Bad blocks found in both u-boot-env areas") := by
  rw [flashFactoryTest, procMtd, test_loop_unseen nandtest isZero _ header _ header_unseen]
  rfl

theorem clear_verdict_iff (clear : partitions.find? MtdPartition.seen = none) :
    VerdictRight (flashFactoryTest nandtest isZero (procMtd partitions)) (MustDie nandtest bad_blocks partitions) ↔
      isZero "" = true := by
  have calm : ¬MustDie nandtest bad_blocks partitions := by
    intro must
    obtain ⟨partition, member, seen⟩ := must_die_seen nandtest bad_blocks partitions must
    exact List.find?_eq_none.mp clear partition member seen
  have result : flashFactoryTest nandtest isZero (procMtd partitions) =
      if isZero "" then .ok () else .error (.died "Bad blocks found in both u-boot-env areas") := by
    rw [after_header, test_loop_clear nandtest isZero partitions _ clear, Except.bind, Bool.or_self]
  rw [result]
  split
  · next zero =>
      have lives (message : String) : (.ok () : Except TestEnd Unit) ≠ .error (.died message) := nofun
      refine ⟨fun _ => zero, fun _ => ⟨⟨fun died => ?_, fun must => absurd must calm⟩, fun _ => rfl⟩⟩
      exact absurd died.choose_spec (lives _)
  · next refused => exact ⟨fun right => absurd (right.dies.mp ⟨_, rfl⟩) calm, fun zero => absurd zero refused⟩

theorem first_verdict_iff (first : MtdPartition) (met : partitions.find? MtdPartition.seen = some first) :
    VerdictRight (flashFactoryTest nandtest isZero (procMtd partitions)) (MustDie nandtest bad_blocks partitions) ↔
      nandtest ("/dev/" ++ first.dev.text) ≠ 0 ∧ (first.Named "" ∨ MustDie nandtest bad_blocks partitions) := by
  obtain ⟨input, same⟩ := test_loop_first nandtest isZero partitions ⟨"", ""⟩ first met
  rw [after_header, same, test_loop_seen nandtest isZero _ first input (List.find?_some met)]
  split
  · next fails =>
      have must (named : first.Named "") : MustDie nandtest bad_blocks partitions :=
        .inl ⟨first, List.mem_of_find?_eq_some met, named, fails⟩
      refine ⟨fun right => ⟨fails, .inr (right.dies.mp ⟨_, rfl⟩)⟩, fun decided => ?_⟩
      have dies := decided.2.elim must id
      exact ⟨⟨fun _ => dies, fun _ => ⟨_, rfl⟩⟩, fun calm => absurd dies calm⟩
  · next passes =>
      refine ⟨fun right => ?_, fun decided => absurd decided.1 passes⟩
      have calm : ¬MustDie nandtest bad_blocks partitions := by
        intro must
        obtain ⟨_, died⟩ := right.dies.mpr must
        cases died
      cases right.returns calm

theorem factory_verdict_iff :
    VerdictRight (flashFactoryTest nandtest isZero (procMtd partitions)) (MustDie nandtest bad_blocks partitions) ↔
      Decided nandtest isZero bad_blocks partitions := by
  rw [Decided]
  cases met : partitions.find? MtdPartition.seen with
  | none => exact clear_verdict_iff nandtest isZero bad_blocks partitions met
  | some first => exact first_verdict_iff nandtest isZero bad_blocks partitions first met

end Verdict

def splPartition : MtdPartition where
  dev := ⟨"mtd0", by decide, plain_of_all _ _ (by decide)⟩
  size := ⟨"00040000", by decide, plain_of_all _ _ (by decide)⟩
  erasesize := ⟨"00020000", by decide, plain_of_all _ _ (by decide)⟩
  name := "u-boot-spl"

theorem healthy_spl_ends_script : ¬∀ nandtest isZero bad_blocks partitions,
    VerdictRight (flashFactoryTest nandtest isZero (procMtd partitions)) (MustDie nandtest bad_blocks partitions) := by
  intro right
  have healthy := right (fun _ => 0) (fun word => word == "0") (fun _ => 0) [splPartition]
  have calm : ¬MustDie (fun _ => 0) (fun _ => 0) [splPartition] := by
    rintro (⟨_, _, _, fails⟩ | ⟨_, _, _, bad⟩ | ⟨⟨_, _, _, bad⟩, _⟩)
    · exact fails rfl
    · exact bad rfl
    · exact bad rfl
  have returned := healthy.returns calm
  rw [after_header, List.map_cons, test_loop_seen _ _ _ splPartition _ (by decide)] at returned
  cases returned

end SummitSom.Update
