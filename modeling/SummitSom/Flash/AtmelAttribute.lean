import SummitSom.Cstr.Numbers
import SummitSom.Flash.AtmelHeader

set_option autoImplicit false

namespace SummitSom.Flash

open Bytes Cstr

def EAGAIN : Nat := 11

-- What one read of up to 256 bytes brings.
structure Chunk where
  bytes : List Char
  some : 0 < bytes.length
  fits : bytes.length ≤ 256
deriving DecidableEq

inductive ReadResult where
  | data (chunk : Chunk)
  | endOfFile
  | failed (errno : Nat)
deriving DecidableEq

-- The attribute of one device: open fails, or every read has its own result.
inductive SysfsNode where
  | unopened (errno : Nat)
  | opened (reads : Nat → ReadResult)

def read (result : ReadResult) (in_line : Memory Char) : Int × Memory Char :=
  match result with
  | .data chunk => (chunk.bytes.length, write in_line 0 chunk.bytes)
  | .endOfFile => (0, in_line)
  | .failed _ => (-1, in_line)

-- The conversion to size_t, which is as wide as a long.
def asSizeT (long : Long) (n : Int) : Nat := (n % long.modulus).toNat

inductive LineRead where
  | failed
  | line (n : Nat) (in_line : Memory Char)

-- The loop over read, from the k-th read on.
def readLine (long : Long) (reads : Nat → ReadResult) : Nat → Nat → Memory Char → Option LineRead
  | 0, _, _ => none
  | fuel + 1, k, in_line =>
      let step := read (reads k) in_line
      let n := asSizeT long step.1
      if n = 0 then some (.line n step.2)
      -- Here n is unsigned.
      else if n < 0 then
        if reads k = .failed EAGAIN then readLine long reads fuel (k + 1) step.2 else some .failed
      else some (.line n step.2)

def ended (n : Nat) (in_line : Memory Char) : Memory Char := write in_line (if n < 256 then n else 256 - 1) [NUL]

def readSysfs (long : Long) (fuel : Nat) (node : SysfsNode) (in_line : Memory Char) : Option Int :=
  match node with
  | .unopened _ => some (-1)
  | .opened reads =>
      (readLine long reads fuel 0 (write in_line 0 [NUL])).map fun
        | .failed => -1
        | .line n in_line => atoi long (stringIn (ended n in_line) 256)

def atmelPmeccHeaderUpdate (long : Long) (fuel : Nat) (mtd : MtdDevInfo) (node : SysfsNode) (in_line : Memory Char)
    (writebuf : Buffer) : Option HeaderUpdate :=
  (readSysfs long fuel node in_line).map fun sector_size => headerUpdate mtd sector_size writebuf

def textOf (chunk : Chunk) : List Char := cellsUpToNul (chunk.bytes.take (256 - 1))

-- The text that a reader who tries again after EAGAIN gets.
def Holds (node : SysfsNode) (chunk : Chunk) : Prop :=
  ∃ reads k, node = .opened reads ∧ (∀ j, j < k → reads j = .failed EAGAIN) ∧ reads k = .data chunk

section Boards

variable (long : Long)

-- The header is to be made for the number that the text begins with.
def CleanFailure (mtd : MtdDevInfo) (node : SysfsNode) (in_line : Memory Char) (writebuf : Buffer) : Prop :=
  ∃ fuel, atmelPmeccHeaderUpdate long fuel mtd node in_line writebuf = some (.returned false writebuf) ∨
    ∃ chunk, Holds node chunk ∧ 0 < number (textOf chunk) ∧
      atmelPmeccHeaderUpdate long fuel mtd node in_line writebuf =
        some (.returned true (rewrite (headerWord mtd (number (textOf chunk))) 52 writebuf))

-- A number of which an int keeps neither nothing nor a sector size that passes.
structure Legible (mtd : MtdDevInfo) (found : Int) : Prop where
  divisor : long.Holds found → ¬ (2 ^ 32 : Int) ∣ found
  below : 2 * found < -long.modulus → long = .bits32
  same : long.Holds found → ∀ size k turns, Passes { mtd with ecc_step_size := size } k →
    found = size + turns * 2 ^ 32 → turns = 0

def Readable (mtd : MtdDevInfo) (node : SysfsNode) : Prop :=
  match node with
  | .unopened _ => True
  | .opened reads => ∃ chunk, reads 0 = .data chunk ∧ Legible long mtd (number (textOf chunk))

theorem passes_size (mtd : MtdDevInfo) (size : Int) (k : Nat) (passes : Passes { mtd with ecc_step_size := size } k) :
    size = 512 ∨ size = 1024 := passes.1

theorem held_turns (text : List Char) (held : long.Holds (number text)) :
    ∃ turns, number text = atoi long text + turns * 2 ^ 32 := by
  rw [atoi_held long text held]
  exact ⟨_, (Int.bmod_add_bdiv' (number text) (2 ^ 32)).symm⟩

theorem sized_turns (text : List Char) (held : long.Holds (number text)) (size turns : Int) (sized : size = 512 ∨ size = 1024)
    (found : number text = size + turns * 2 ^ 32) : atoi long text = size := by
  rw [atoi_held long text held, found, Int.bmod]
  split <;> omega

theorem unheld (found : Int) (unheld : ¬ long.Holds found) : 2 * found < -long.modulus ∨ long.modulus ≤ 2 * found := by
  rw [Long.Holds] at unheld
  omega

theorem legible_iff (mtd : MtdDevInfo) (text : List Char) :
    Legible long mtd (number text) ↔
      atoi long text ≠ 0 ∧ ∀ k, Passes { mtd with ecc_step_size := atoi long text } k → number text = atoi long text := by
  constructor
  · intro legible
    by_cases held : long.Holds (number text)
    · refine ⟨fun zero => ?_, fun k passes => ?_⟩
      · rw [atoi_held long text held] at zero
        exact legible.divisor held (Int.dvd_iff_bmod_eq_zero.mpr zero)
      · obtain ⟨turns, found⟩ := held_turns long text held
        have none := legible.same held _ k turns passes found
        rw [found, none, Int.zero_mul, Int.add_zero]
    · have ends : atoi long text = -2 ^ 31 ∨ atoi long text = 2 ^ 31 - 1 ∨ atoi long text = -1 := by
        rcases unheld long _ held with below | above
        · rcases atoi_below long text below with ⟨_, least⟩ | ⟨wide, _⟩
          · exact .inl least
          · rw [legible.below below] at wide
            cases wide
        · exact .inr (atoi_above long text above)
      refine ⟨by omega, fun k passes => ?_⟩
      have sized := passes_size mtd _ k passes
      omega
  · rintro ⟨nonzero, same⟩
    refine ⟨fun held divides => ?_, fun below => ?_, fun held size k turns passes found => ?_⟩
    · rw [atoi_held long text held] at nonzero
      exact nonzero (Int.dvd_iff_bmod_eq_zero.mp divides)
    · rcases atoi_below long text below with ⟨narrow, _⟩ | ⟨_, zero⟩
      · exact narrow
      · exact absurd zero nonzero
    · have kept := sized_turns long text held size turns (passes_size mtd size k passes) found
      have whole := same k (kept ▸ passes)
      omega

theorem read_line_once (reads : Nat → ReadResult) (fuel : Nat) (in_line : Memory Char) :
    readLine long reads (fuel + 1) 0 in_line =
      some (.line (asSizeT long (read (reads 0) in_line).1) (read (reads 0) in_line).2) := by
  rw [readLine]
  split
  · rfl
  · rw [if_neg (Nat.not_lt_zero _)]

end Boards

-- What the first read leaves in the line is all that counts, also when it failed.
def firstText (result : ReadResult) : List Char :=
  match result with
  | .data chunk => textOf chunk
  | _ => []

theorem empty_line (n : Nat) (in_line : Memory Char) : stringIn (ended n (write in_line 0 [NUL])) 256 = [] := by
  have front : ended n (write in_line 0 [NUL]) 0 = NUL := by
    have first : write in_line 0 [NUL] 0 = NUL := write_cell in_line 0 [NUL] 0 (by decide)
    rw [ended]
    by_cases none : n = 0
    · rw [if_pos (by omega), none]
      exact write_cell (write in_line 0 [NUL]) 0 [NUL] 0 (by decide)
    · rw [write_outside]
      · exact first
      · simp only [Within]
        split <;> omega
  have nothing := string_in_ended (ended n (write in_line 0 [NUL])) 256 [] (by decide)
    (fun i before => absurd before (Nat.not_lt_zero i)) front
  rw [nothing]
  rfl

theorem data_line (chunk : Chunk) (in_line : Memory Char) :
    stringIn (ended chunk.bytes.length (write in_line 0 chunk.bytes)) 256 = textOf chunk := by
  have fits := chunk.fits
  have last : (if chunk.bytes.length < 256 then chunk.bytes.length else 256 - 1) = (chunk.bytes.take (256 - 1)).length := by
    rw [List.length_take]
    split <;> omega
  rw [ended, last]
  apply string_in_ended
  · rw [List.length_take]
    omega
  · intro i before
    have inside : i < chunk.bytes.length := Nat.lt_of_lt_of_le before (List.length_take_le' _ _)
    have copied := write_cell in_line 0 chunk.bytes i inside
    rw [Nat.zero_add] at copied
    rw [write_outside _ _ _ _ (by simp only [Within]; omega), copied, List.getElem_take]
  · exact write_cell (write in_line 0 chunk.bytes) (chunk.bytes.take (256 - 1)).length [NUL] 0 (by decide)

section Runs

variable (long : Long)

theorem size_of_chunk (chunk : Chunk) : asSizeT long chunk.bytes.length = chunk.bytes.length := by
  have fits := chunk.fits
  rw [asSizeT]
  cases long <;> (rw [Long.modulus]; omega)

theorem read_sysfs_opened (reads : Nat → ReadResult) (fuel : Nat) (in_line : Memory Char) :
    readSysfs long (fuel + 1) (.opened reads) in_line = some (atoi long (firstText (reads 0))) := by
  rw [readSysfs, read_line_once, Option.map_some]
  cases first : reads 0 with
  | data chunk =>
      change some (atoi long
        (stringIn (ended (asSizeT long chunk.bytes.length) (write (write in_line 0 [NUL]) 0 chunk.bytes)) 256)) = _
      rw [size_of_chunk, data_line, firstText]
  | endOfFile =>
      change some (atoi long (stringIn (ended (asSizeT long 0) (write in_line 0 [NUL])) 256)) = _
      rw [empty_line, firstText]
      exact fun _ same => ReadResult.noConfusion same
  | failed errno =>
      change some (atoi long (stringIn (ended (asSizeT long (-1)) (write in_line 0 [NUL])) 256)) = _
      rw [empty_line, firstText]
      exact fun _ same => ReadResult.noConfusion same

theorem header_update_zero (mtd : MtdDevInfo) (writebuf : Buffer) : headerUpdate mtd 0 writebuf = .divideByZero := by
  rw [headerUpdate, if_pos (by decide), if_pos rfl]

theorem atoi_nothing : atoi long [] = 0 := by
  cases long <;> rfl

theorem readable_iff (mtd : MtdDevInfo) (reads : Nat → ReadResult) :
    Readable long mtd (.opened reads) ↔ ∃ chunk, reads 0 = .data chunk ∧ atoi long (textOf chunk) ≠ 0 ∧
      ∀ k, Passes { mtd with ecc_step_size := atoi long (textOf chunk) } k →
        number (textOf chunk) = atoi long (textOf chunk) :=
  exists_congr fun chunk => and_congr_right fun _ => legible_iff long mtd (textOf chunk)

theorem opened_update (mtd : MtdDevInfo) (reads : Nat → ReadResult) (fuel : Nat) (in_line : Memory Char) (writebuf : Buffer) :
    atmelPmeccHeaderUpdate long (fuel + 1) mtd (.opened reads) in_line writebuf =
      some (headerUpdate mtd (atoi long (firstText (reads 0))) writebuf) := by
  rw [atmelPmeccHeaderUpdate, read_sysfs_opened, Option.map_some]

theorem opened_ended (mtd : MtdDevInfo) (reads : Nat → ReadResult) (fuel : Nat) (in_line : Memory Char) (writebuf : Buffer)
    (update : HeaderUpdate) (ended : atmelPmeccHeaderUpdate long fuel mtd (.opened reads) in_line writebuf = some update) :
    headerUpdate mtd (atoi long (firstText (reads 0))) writebuf = update := by
  cases fuel with
  | zero =>
      have nothing : atmelPmeccHeaderUpdate long 0 mtd (.opened reads) in_line writebuf = none := rfl
      rw [nothing] at ended
      cases ended
  | succ fuel =>
      rw [opened_update] at ended
      exact Option.some.inj ended

theorem zero_not_clean (mtd : MtdDevInfo) (reads : Nat → ReadResult) (in_line : Memory Char) (writebuf : Buffer)
    (zero : atoi long (firstText (reads 0)) = 0) : ¬ CleanFailure long mtd (.opened reads) in_line writebuf := by
  rintro ⟨fuel, failed | ⟨_, _, _, written⟩⟩
  · have update := opened_ended long mtd reads fuel in_line writebuf _ failed
    rw [zero, header_update_zero] at update
    cases update
  · have update := opened_ended long mtd reads fuel in_line writebuf _ written
    rw [zero, header_update_zero] at update
    cases update

-- Two numbers for which one header is written are one number, or an int makes
-- one of them.
theorem written_same (mtd : MtdDevInfo) (chunk : Chunk) (k : Nat) (writebuf : Buffer)
    (passes : Passes { mtd with ecc_step_size := atoi long (textOf chunk) } k)
    (written : headerUpdate mtd (atoi long (textOf chunk)) writebuf =
      .returned true (rewrite (headerWord mtd (number (textOf chunk))) 52 writebuf)) :
    number (textOf chunk) = atoi long (textOf chunk) := by
  have built := passes_nonzero _ k passes
  rw [header_update_passes _ k passes writebuf] at written
  have buffers : rewrite (headerWord mtd (atoi long (textOf chunk))) 52 writebuf =
      rewrite (headerWord mtd (number (textOf chunk))) 52 writebuf := (HeaderUpdate.returned.inj written).2
  have words := congrArg (fun buffer => wordAt buffer 0) buffers
  simp only [rewrite_word _ 52 writebuf 0 (by decide)] at words
  have sized := header_word_sized mtd (number (textOf chunk)) (words ▸ built)
  have held : long.Holds (number (textOf chunk)) := by
    cases long <;> (rw [Long.Holds, Long.modulus]; omega)
  have same := sized_turns long (textOf chunk) held (number (textOf chunk)) 0 sized (by omega)
  exact same.symm

theorem clean_readable (mtd : MtdDevInfo) (reads : Nat → ReadResult) (in_line : Memory Char) (writebuf : Buffer)
    (clean : CleanFailure long mtd (.opened reads) in_line writebuf) : Readable long mtd (.opened reads) := by
  have nonzero : atoi long (firstText (reads 0)) ≠ 0 :=
    fun zero => zero_not_clean long mtd reads in_line writebuf zero clean
  cases first : reads 0 with
  | endOfFile =>
      rw [first] at nonzero
      exact absurd (atoi_nothing long) nonzero
  | failed errno =>
      rw [first] at nonzero
      exact absurd (atoi_nothing long) nonzero
  | data chunk =>
      rw [first, firstText] at nonzero
      refine (readable_iff long mtd reads).mpr ⟨chunk, first, nonzero, fun k passes => ?_⟩
      obtain ⟨fuel, failed | ⟨other, ⟨_, place, ⟨rfl⟩, tried, held⟩, _, written⟩⟩ := clean
      · have update := opened_ended long mtd reads fuel in_line writebuf _ failed
        rw [first, firstText, header_update_passes _ k passes writebuf] at update
        cases update
      · have update := opened_ended long mtd reads fuel in_line writebuf _ written
        have own : other = chunk := by
          cases place with
          | zero =>
              rw [first] at held
              cases held
              rfl
          | succ place =>
              have again := tried 0 (Nat.succ_pos place)
              rw [first] at again
              cases again
        subst own
        rw [first, firstText] at update
        exact written_same long mtd other k writebuf passes update

theorem readable_clean (mtd : MtdDevInfo) (reads : Nat → ReadResult) (in_line : Memory Char) (writebuf : Buffer)
    (readable : Readable long mtd (.opened reads)) : CleanFailure long mtd (.opened reads) in_line writebuf := by
  obtain ⟨chunk, first, nonzero, same⟩ := (readable_iff long mtd reads).mp readable
  have update := opened_update long mtd reads 0 in_line writebuf
  rw [first, firstText] at update
  have holds : Holds (.opened reads) chunk := ⟨reads, 0, rfl, fun j before => absurd before (Nat.not_lt_zero j), first⟩
  refine ⟨1, ?_⟩
  rw [update]
  by_cases passed : ∃ k, Passes { mtd with ecc_step_size := atoi long (textOf chunk) } k
  · obtain ⟨k, passes⟩ := passed
    have positive := passes_positive _ k passes
    refine .inr ⟨chunk, holds, ?_, ?_⟩
    · rw [same k passes]
      exact positive
    · rw [same k passes]
      exact congrArg some (header_update_passes _ k passes writebuf)
  · exact .inl (congrArg some (header_update_refused { mtd with ecc_step_size := _ } nonzero passed writebuf))

-- Unless the first read brings a number of which an int keeps enough, the code
-- divides by 0 or takes the number for another.
theorem clean_failure_iff (mtd : MtdDevInfo) (node : SysfsNode) (in_line : Memory Char) (writebuf : Buffer) :
    CleanFailure long mtd node in_line writebuf ↔ Readable long mtd node := by
  cases node with
  | unopened errno => exact iff_of_true ⟨0, .inl rfl⟩ trivial
  | opened reads => exact ⟨clean_readable long mtd reads in_line writebuf, readable_clean long mtd reads in_line writebuf⟩

end Runs

def chunk512 : Chunk := ⟨['5', '1', '2', Char.ofNat 10], by decide, by decide⟩

-- A read that is to be tried again, with the sector size behind it.
def again : SysfsNode := .opened fun k => if k = 0 then .failed EAGAIN else .data chunk512

def smallPage : MtdDevInfo where
  subpage_size := 2048
  oob_size := 64
  page := by decide
  oob := by decide

theorem try_again_divides : Holds again chunk512 ∧ number (textOf chunk512) = 512 ∧
    atmelPmeccHeaderUpdate .bits64 2 smallPage again (fun _ => NUL) (fun _ => 0) = some .divideByZero ∧
    ¬ CleanFailure .bits64 smallPage again (fun _ => NUL) (fun _ => 0) := by
  refine ⟨⟨_, 1, rfl, ?_, rfl⟩, by decide, ?_, ?_⟩
  · intro j before
    have first : j = 0 := by omega
    rw [first, if_pos rfl]
  · rw [atmelPmeccHeaderUpdate, again, read_sysfs_opened, Option.map_some]
    rfl
  · apply zero_not_clean
    decide

end SummitSom.Flash
