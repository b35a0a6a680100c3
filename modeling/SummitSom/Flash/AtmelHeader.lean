import SummitSom.Bytes.Memory
import Mathlib.Algebra.Ring.Int.Defs
import Mathlib.Algebra.Ring.Nat

set_option autoImplicit false

namespace SummitSom.Flash

open Bytes

def ATMEL_HEADER_KEY : BitVec 32 := 0xC
def ATMEL_HEADER_KEY_OFFSET : Nat := 28
def ATMEL_HEADER_ECC_OFFSET_OFFSET : Nat := 18
def ATMEL_HEADER_SECTOR_SIZE_OFFSET : Nat := 16
def ATMEL_HEADER_ECC_BIT_REQ_OFFSET : Nat := 13
def ATMEL_HEADER_SPARE_SIZE_OFFSET : Nat := 4
def ATMEL_HEADER_SECTOR_PER_PAGE_OFFSET : Nat := 1
def ATMEL_HEADER_USE_PMECC_OFFSET : Nat := 0

structure MtdDevInfo where
  subpage_size : Int
  oob_size : Int
  page : 0 < subpage_size ∧ subpage_size < 2 ^ 31
  oob : 0 ≤ oob_size ∧ oob_size < 2 ^ 31

-- One more than the index of the lowest bit that is set, 0 without one.
def ffs (n : Int) : Nat :=
  match (List.range 32).find? fun i => (BitVec.ofInt 32 n).getLsbD i with
  | none => 0
  | some i => i + 1

def sectorSizeCode (sector_size : Int) : Option (BitVec 32) :=
  if sector_size = 512 then some 0 else if sector_size = 1024 then some 1 else none

def eccBitsReq (ecc_bits : Int) : Option (BitVec 32) :=
  if ecc_bits = 2 then some 0
  else if ecc_bits = 4 then some 1
  else if ecc_bits = 8 then some 2
  else if ecc_bits = 12 then some 3
  else if ecc_bits = 24 then some 4
  else none

def createAtmelHeaderWord (use_pmecc sector_per_page sector_size spare_size ecc_bits ecc_offset : Int) : BitVec 32 :=
  let sector_per_page_code := BitVec.ofInt 32 (ffs sector_per_page - 1)
  if ((1 : BitVec 32) <<< sector_per_page_code.toNat).toInt ≠ sector_per_page then 0 else
    match sectorSizeCode sector_size, eccBitsReq ecc_bits with
    | some sector_size_code, some ecc_bits_req =>
        ATMEL_HEADER_KEY <<< ATMEL_HEADER_KEY_OFFSET |||
          BitVec.ofInt 32 ecc_offset <<< ATMEL_HEADER_ECC_OFFSET_OFFSET |||
          sector_size_code <<< ATMEL_HEADER_SECTOR_SIZE_OFFSET |||
          ecc_bits_req <<< ATMEL_HEADER_ECC_BIT_REQ_OFFSET |||
          BitVec.ofInt 32 spare_size <<< ATMEL_HEADER_SPARE_SIZE_OFFSET |||
          sector_per_page_code <<< ATMEL_HEADER_SECTOR_PER_PAGE_OFFSET |||
          BitVec.ofInt 32 use_pmecc <<< ATMEL_HEADER_USE_PMECC_OFFSET
    | _, _ => 0

def pmeccGetEccBytes (cap sector_size : Int) : Int := ((12 + sector_size.tdiv 512) * cap + 7).tdiv 8

abbrev Buffer := Memory (BitVec 8)

def wordBytes (word : BitVec 32) : List (BitVec 8) :=
  [word.setWidth 8, (word >>> 8).setWidth 8, (word >>> 16).setWidth 8, (word >>> 24).setWidth 8]

-- The loop that copies the word over the front of the buffer.
def rewrite (word : BitVec 32) : Nat → Buffer → Buffer
  | 0, writebuf => writebuf
  | i + 1, writebuf => write (rewrite word i writebuf) (4 * i) (wordBytes word)

inductive HeaderUpdate where
  | divideByZero
  | returned (ok : Bool) (writebuf : Buffer)

def sectorPerPage (mtd : MtdDevInfo) (sector_size : Int) : Int := mtd.subpage_size.tdiv sector_size

def eccOffset (mtd : MtdDevInfo) (sector_size : Int) : Int :=
  mtd.oob_size - pmeccGetEccBytes 8 sector_size * sectorPerPage mtd sector_size

def headerWord (mtd : MtdDevInfo) (sector_size : Int) : BitVec 32 :=
  createAtmelHeaderWord 1 (sectorPerPage mtd sector_size) sector_size mtd.oob_size 8 (eccOffset mtd sector_size)

def finish (word : BitVec 32) (writebuf : Buffer) : HeaderUpdate :=
  if word ≠ 0 then .returned true (rewrite word 52 writebuf) else .returned false writebuf

-- atmel_pmecc_header_update, from what read_sysfs has returned on.
def headerUpdate (mtd : MtdDevInfo) (sector_size : Int) (writebuf : Buffer) : HeaderUpdate :=
  if sector_size ≠ -1 then
    if sector_size = 0 then .divideByZero
    else if mtd.subpage_size.tmod sector_size ≠ 0 then .returned false writebuf
    else finish (headerWord mtd sector_size) writebuf
  else finish 0 writebuf

theorem sector_size_coded (sector_size : Int) (code : BitVec 32) (coded : sectorSizeCode sector_size = some code) :
    (sector_size = 512 ∧ code = 0) ∨ (sector_size = 1024 ∧ code = 1) := by
  rw [sectorSizeCode] at coded
  split at coded
  · next small => exact .inl ⟨small, (Option.some.inj coded).symm⟩
  · split at coded
    · next great => exact .inr ⟨great, (Option.some.inj coded).symm⟩
    · cases coded

theorem ffs_power (k : Nat) (small : k < 31) : ffs (2 ^ k : Nat) = k + 1 := by
  have all : ∀ k, k < 31 → ffs (2 ^ k : Nat) = k + 1 := by decide +kernel
  exact all k small

theorem one_shifted (k : Nat) (small : k < 31) : ((1 : BitVec 32) <<< k).toInt = (2 ^ k : Nat) := by
  have all : ∀ k : Nat, k < 31 → ((1 : BitVec 32) <<< k).toInt = ((2 ^ k : Nat) : Int) := by decide +kernel
  exact all k small

-- The check of the code lets powers of two pass.
theorem power_checked (n : Int) (positive : 0 < n) :
    ((1 : BitVec 32) <<< (BitVec.ofInt 32 (ffs n - 1)).toNat).toInt = n → ∃ k, k < 31 ∧ n = (2 ^ k : Nat) := by
  generalize (BitVec.ofInt 32 (ffs n - 1)).toNat = code
  intro same
  rcases Nat.lt_trichotomy code 31 with small | top | large
  · exact ⟨code, small, same.symm.trans (one_shifted code small)⟩
  · subst top
    have negative : ((1 : BitVec 32) <<< 31).toInt = -2147483648 := by decide
    omega
  · have gone : (1 : BitVec 32) <<< code = 0 := BitVec.shiftLeft_eq_zero large
    have zero : (0 : BitVec 32).toInt = 0 := by decide
    rw [gone] at same
    omega

theorem power_code (k : Nat) (small : k < 31) : BitVec.ofInt 32 (ffs (2 ^ k : Nat) - 1) = BitVec.ofNat 32 k := by
  rw [ffs_power k small]
  have same : ((k + 1 : Nat) : Int) - 1 = (k : Int) := by omega
  rw [same]
  exact BitVec.ofInt_natCast 32 k

-- The header as the boot ROM reads it.
structure HeaderFields where
  use_pmecc : Nat
  sector_per_page_log : Nat
  spare_size : Nat
  ecc_bit_req : Nat
  sector_size_code : Nat
  ecc_offset : Nat
  key : Nat
deriving DecidableEq

def field (word : BitVec 32) (start size : Nat) : Nat := (word >>> start).toNat % 2 ^ size

def decode (word : BitVec 32) : HeaderFields where
  use_pmecc := field word 0 1
  sector_per_page_log := field word 1 3
  spare_size := field word 4 9
  ecc_bit_req := field word 13 3
  sector_size_code := field word 16 2
  ecc_offset := field word 18 9
  key := field word 28 4

structure Geometry extends MtdDevInfo where
  ecc_step_size : Int

-- The fields say what the header was built from.
structure Exact (geometry : Geometry) (fields : HeaderFields) : Prop where
  use_pmecc : fields.use_pmecc = 1
  pages : ((2 ^ fields.sector_per_page_log : Nat) : Int) * geometry.ecc_step_size = geometry.subpage_size
  spare_size : (fields.spare_size : Int) = geometry.oob_size
  strength : [2, 4, 8, 12, 24][fields.ecc_bit_req]? = some 8
  sector_size : ((512 * 2 ^ fields.sector_size_code : Nat) : Int) = geometry.ecc_step_size
  ecc_offset : (fields.ecc_offset : Int) = eccOffset geometry.toMtdDevInfo geometry.ecc_step_size
  key : fields.key = 0xC

def Representable (geometry : Geometry) : Prop := ∃ word, Exact geometry (decode word)

def wordAt (buffer : Buffer) (i : Nat) : BitVec 32 :=
  BitVec.ofNat 32 ((buffer (4 * i)).toNat + 256 * (buffer (4 * i + 1)).toNat + 65536 * (buffer (4 * i + 2)).toNat +
    16777216 * (buffer (4 * i + 3)).toNat)

structure Headed (geometry : Geometry) (before after : Buffer) (word : BitVec 32) : Prop where
  exact_fields : Exact geometry (decode word)
  words : ∀ i, i < 52 → wordAt after i = word
  rest : ∀ address, 4 * 52 ≤ address → after address = before address

structure HeaderSound (geometry : Geometry) (writebuf : Buffer) : Prop where
  written : ∀ after, headerUpdate geometry.toMtdDevInfo geometry.ecc_step_size writebuf = .returned true after →
    ∃ word, Headed geometry writebuf after word
  rejected : ¬ Representable geometry →
    headerUpdate geometry.toMtdDevInfo geometry.ecc_step_size writebuf = .returned false writebuf

-- The geometries that the checks let pass.
def Passes (geometry : Geometry) (k : Nat) : Prop :=
  (geometry.ecc_step_size = 512 ∨ geometry.ecc_step_size = 1024) ∧
    geometry.subpage_size = ((2 ^ k : Nat) : Int) * geometry.ecc_step_size

def eccBytes (step : Int) : Int := if step = 512 then 13 else 14

structure Bounded (geometry : Geometry) (k : Nat) : Prop where
  sectors : k < 8
  spare : geometry.oob_size < 512
  ecc : eccBytes geometry.ecc_step_size * ((2 ^ k : Nat) : Int) ≤ geometry.oob_size

theorem rewrite_rest (word : BitVec 32) (count : Nat) (writebuf : Buffer) (address : Nat) (outside : 4 * count ≤ address) :
    rewrite word count writebuf address = writebuf address := by
  induction count with
  | zero => rfl
  | succ count ih =>
      have beyond : ¬ Within (4 * count) (wordBytes word).length address := by
        change ¬ (4 * count ≤ address ∧ address < 4 * count + 4)
        omega
      rw [rewrite, write_outside _ _ _ _ beyond]
      exact ih (by omega)

theorem rewrite_byte (word : BitVec 32) (count : Nat) (writebuf : Buffer) (i j : Nat) (inside : i < count)
    (byte : j < (wordBytes word).length) : rewrite word count writebuf (4 * i + j) = (wordBytes word)[j] := by
  induction count with
  | zero => exact absurd inside (Nat.not_lt_zero i)
  | succ count ih =>
      have short : j < 4 := byte
      rw [rewrite]
      by_cases last : i = count
      · rw [last]
        exact write_cell _ _ _ j byte
      · have beyond : ¬ Within (4 * count) (wordBytes word).length (4 * i + j) := by
          change ¬ (4 * count ≤ 4 * i + j ∧ 4 * i + j < 4 * count + 4)
          omega
        rw [write_outside _ _ _ _ beyond]
        exact ih (by omega)

theorem rewrite_word (word : BitVec 32) (count : Nat) (writebuf : Buffer) (i : Nat) (inside : i < count) :
    wordAt (rewrite word count writebuf) i = word := by
  have first : rewrite word count writebuf (4 * i) = word.setWidth 8 := rewrite_byte word count writebuf i 0 inside (show 0 < 4 by decide)
  have second : rewrite word count writebuf (4 * i + 1) = (word >>> 8).setWidth 8 :=
    rewrite_byte word count writebuf i 1 inside (show 1 < 4 by decide)
  have third : rewrite word count writebuf (4 * i + 2) = (word >>> 16).setWidth 8 :=
    rewrite_byte word count writebuf i 2 inside (show 2 < 4 by decide)
  have fourth : rewrite word count writebuf (4 * i + 3) = (word >>> 24).setWidth 8 :=
    rewrite_byte word count writebuf i 3 inside (show 3 < 4 by decide)
  have bound := word.isLt
  rw [wordAt, first, second, third, fourth]
  apply BitVec.eq_of_toNat_eq
  simp only [BitVec.toNat_ofNat, BitVec.toNat_setWidth, BitVec.toNat_ushiftRight, Nat.shiftRight_eq_div_pow]
  omega

theorem or_field (high low start : Nat) (below : low < 2 ^ start) : high * 2 ^ start ||| low = high * 2 ^ start + low := by
  rw [← Nat.shiftLeft_eq, Nat.shiftLeft_add_eq_or_of_lt below]

theorem shifted_field (value start : Nat) (fits : value * 2 ^ start < 2 ^ 32) :
    (BitVec.ofNat 32 value <<< start).toNat = value * 2 ^ start := by
  have small : value < 2 ^ 32 := Nat.lt_of_le_of_lt (Nat.le_mul_of_pos_right value (Nat.two_pow_pos start)) fits
  rw [BitVec.toNat_shiftLeft, BitVec.toNat_ofNat, Nat.mod_eq_of_lt small, Nat.shiftLeft_eq, Nat.mod_eq_of_lt fits]

def packed (offset size_code req spare log use : Nat) : BitVec 32 :=
  ATMEL_HEADER_KEY <<< ATMEL_HEADER_KEY_OFFSET |||
    BitVec.ofNat 32 offset <<< ATMEL_HEADER_ECC_OFFSET_OFFSET |||
    BitVec.ofNat 32 size_code <<< ATMEL_HEADER_SECTOR_SIZE_OFFSET |||
    BitVec.ofNat 32 req <<< ATMEL_HEADER_ECC_BIT_REQ_OFFSET |||
    BitVec.ofNat 32 spare <<< ATMEL_HEADER_SPARE_SIZE_OFFSET |||
    BitVec.ofNat 32 log <<< ATMEL_HEADER_SECTOR_PER_PAGE_OFFSET |||
    BitVec.ofNat 32 use <<< ATMEL_HEADER_USE_PMECC_OFFSET

-- Fields that keep to their widths do not run into each other.
theorem packed_sum (offset size_code req spare log use : Nat) (fits : offset < 512 ∧ size_code < 4 ∧ req < 8 ∧ spare < 512 ∧
    log < 8 ∧ use < 2) :
    (packed offset size_code req spare log use).toNat =
      12 * 2 ^ 28 + (offset * 2 ^ 18 + (size_code * 2 ^ 16 + (req * 2 ^ 13 + (spare * 2 ^ 4 + (log * 2 ^ 1 + use * 2 ^ 0))))) := by
  obtain ⟨offset_fits, size_fits, req_fits, spare_fits, log_fits, use_fits⟩ := fits
  have key : (ATMEL_HEADER_KEY <<< ATMEL_HEADER_KEY_OFFSET).toNat = 12 * 2 ^ 28 := by decide
  rw [packed, BitVec.toNat_or, BitVec.toNat_or, BitVec.toNat_or, BitVec.toNat_or, BitVec.toNat_or, BitVec.toNat_or, key,
    shifted_field offset ATMEL_HEADER_ECC_OFFSET_OFFSET (by rw [ATMEL_HEADER_ECC_OFFSET_OFFSET]; omega),
    shifted_field size_code ATMEL_HEADER_SECTOR_SIZE_OFFSET (by rw [ATMEL_HEADER_SECTOR_SIZE_OFFSET]; omega),
    shifted_field req ATMEL_HEADER_ECC_BIT_REQ_OFFSET (by rw [ATMEL_HEADER_ECC_BIT_REQ_OFFSET]; omega),
    shifted_field spare ATMEL_HEADER_SPARE_SIZE_OFFSET (by rw [ATMEL_HEADER_SPARE_SIZE_OFFSET]; omega),
    shifted_field log ATMEL_HEADER_SECTOR_PER_PAGE_OFFSET (by rw [ATMEL_HEADER_SECTOR_PER_PAGE_OFFSET]; omega),
    shifted_field use ATMEL_HEADER_USE_PMECC_OFFSET (by rw [ATMEL_HEADER_USE_PMECC_OFFSET]; omega)]
  rw [Nat.or_assoc, Nat.or_assoc, Nat.or_assoc, Nat.or_assoc, Nat.or_assoc]
  unfold ATMEL_HEADER_ECC_OFFSET_OFFSET ATMEL_HEADER_SECTOR_SIZE_OFFSET ATMEL_HEADER_ECC_BIT_REQ_OFFSET
    ATMEL_HEADER_SPARE_SIZE_OFFSET ATMEL_HEADER_SECTOR_PER_PAGE_OFFSET ATMEL_HEADER_USE_PMECC_OFFSET
  -- From the lowest field up, what is below a field stays under its start.
  rw [or_field log _ 1 (by omega), or_field spare _ 4 (by omega), or_field req _ 13 (by omega),
    or_field size_code _ 16 (by omega), or_field offset _ 18 (by omega), or_field 12 _ 28 (by omega)]

theorem packed_decoded (offset size_code req spare log use : Nat) (fits : offset < 512 ∧ size_code < 4 ∧ req < 8 ∧ spare < 512 ∧
    log < 8 ∧ use < 2) :
    decode (packed offset size_code req spare log use) =
      { use_pmecc := use, sector_per_page_log := log, spare_size := spare, ecc_bit_req := req, sector_size_code := size_code,
        ecc_offset := offset, key := 0xC } := by
  have sum := packed_sum offset size_code req spare log use fits
  obtain ⟨offset_fits, size_fits, req_fits, spare_fits, log_fits, use_fits⟩ := fits
  simp only [decode, field, BitVec.toNat_ushiftRight, Nat.shiftRight_eq_div_pow, sum, HeaderFields.mk.injEq]
  omega

theorem passes_positive (geometry : Geometry) (k : Nat) (passes : Passes geometry k) : 0 < geometry.ecc_step_size := by
  have sizes := passes.1
  omega

theorem passes_small (geometry : Geometry) (k : Nat) (passes : Passes geometry k) : k < 31 := by
  obtain ⟨sizes, page⟩ := passes
  have wide : ((2 ^ k : Nat) : Int) < 2 ^ 31 := by
    have bound := geometry.page.2
    have positive : 0 < ((2 ^ k : Nat) : Int) := Int.natCast_pos.mpr (Nat.two_pow_pos k)
    rcases sizes with small | great
    · rw [small] at page
      omega
    · rw [great] at page
      omega
  exact (Nat.pow_lt_pow_iff_right (a := 2) (by decide)).mp (by omega)

theorem passes_sectors (geometry : Geometry) (k : Nat) (passes : Passes geometry k) :
    sectorPerPage geometry.toMtdDevInfo geometry.ecc_step_size = ((2 ^ k : Nat) : Int) := by
  have positive := passes_positive geometry k passes
  rw [sectorPerPage, passes.2]
  exact Int.mul_tdiv_cancel _ (by omega)

theorem passes_offset (geometry : Geometry) (k : Nat) (passes : Passes geometry k) :
    eccOffset geometry.toMtdDevInfo geometry.ecc_step_size =
      geometry.oob_size - eccBytes geometry.ecc_step_size * ((2 ^ k : Nat) : Int) := by
  have bytes : pmeccGetEccBytes 8 geometry.ecc_step_size = eccBytes geometry.ecc_step_size := by
    rcases passes.1 with small | great
    · rw [small]
      decide
    · rw [great]
      decide
  rw [eccOffset, passes_sectors geometry k passes, bytes]

theorem strength_coded : eccBitsReq 8 = some 2 := by decide

theorem step_coded (geometry : Geometry) (sizes : geometry.ecc_step_size = 512 ∨ geometry.ecc_step_size = 1024) :
    ∃ code < 2, geometry.ecc_step_size = ((512 * 2 ^ code : Nat) : Int) ∧
      sectorSizeCode geometry.ecc_step_size = some (BitVec.ofNat 32 code) := by
  rcases sizes with step | step
  · refine ⟨0, by decide, step, ?_⟩
    rw [step]
    decide
  · refine ⟨1, by decide, step, ?_⟩
    rw [step]
    decide

-- Past the checks, the word is the fields one over another.
theorem passes_word (geometry : Geometry) (k : Nat) (passes : Passes geometry k) :
    ∃ code < 2, geometry.ecc_step_size = ((512 * 2 ^ code : Nat) : Int) ∧
      headerWord geometry.toMtdDevInfo geometry.ecc_step_size =
        ATMEL_HEADER_KEY <<< ATMEL_HEADER_KEY_OFFSET |||
          BitVec.ofInt 32 (eccOffset geometry.toMtdDevInfo geometry.ecc_step_size) <<< ATMEL_HEADER_ECC_OFFSET_OFFSET |||
          BitVec.ofNat 32 code <<< ATMEL_HEADER_SECTOR_SIZE_OFFSET |||
          BitVec.ofNat 32 2 <<< ATMEL_HEADER_ECC_BIT_REQ_OFFSET |||
          BitVec.ofInt 32 geometry.oob_size <<< ATMEL_HEADER_SPARE_SIZE_OFFSET |||
          BitVec.ofNat 32 k <<< ATMEL_HEADER_SECTOR_PER_PAGE_OFFSET |||
          BitVec.ofNat 32 1 <<< ATMEL_HEADER_USE_PMECC_OFFSET := by
  have small := passes_small geometry k passes
  have checked : ((1 : BitVec 32) <<< (BitVec.ofNat 32 k).toNat).toInt = ((2 ^ k : Nat) : Int) := by
    rw [BitVec.toNat_ofNat, Nat.mod_eq_of_lt (by omega)]
    exact one_shifted k small
  have built := passes_sectors geometry k passes
  obtain ⟨code, below, step, coded⟩ := step_coded geometry passes.1
  refine ⟨code, below, step, ?_⟩
  simp only [headerWord, createAtmelHeaderWord, built, power_code k small, checked, coded, strength_coded]
  exact if_neg (not_not.mpr rfl)

theorem passes_nonzero (geometry : Geometry) (k : Nat) (passes : Passes geometry k) :
    headerWord geometry.toMtdDevInfo geometry.ecc_step_size ≠ 0 := by
  obtain ⟨code, _, _, word⟩ := passes_word geometry k passes
  intro zero
  have top : (ATMEL_HEADER_KEY <<< ATMEL_HEADER_KEY_OFFSET).getLsbD 31 = true := by decide
  have set : (headerWord geometry.toMtdDevInfo geometry.ecc_step_size).getLsbD 31 = true := by
    rw [word]
    simp only [BitVec.getLsbD_or, top, Bool.true_or]
  rw [zero] at set
  exact absurd set (by decide)

theorem header_update_passes (geometry : Geometry) (k : Nat) (passes : Passes geometry k) (writebuf : Buffer) :
    headerUpdate geometry.toMtdDevInfo geometry.ecc_step_size writebuf =
      .returned true (rewrite (headerWord geometry.toMtdDevInfo geometry.ecc_step_size) 52 writebuf) := by
  have positive := passes_positive geometry k passes
  have whole : geometry.subpage_size.tmod geometry.ecc_step_size = 0 := by
    rw [passes.2]
    exact Int.mul_tmod_left _ _
  rw [headerUpdate, if_pos (by omega), if_neg (by omega), if_neg (not_not.mpr whole), finish,
    if_pos (passes_nonzero geometry k passes)]

theorem header_word_sized (mtd : MtdDevInfo) (size : Int) (built : headerWord mtd size ≠ 0) : size = 512 ∨ size = 1024 := by
  rw [headerWord, createAtmelHeaderWord] at built
  split at built
  · exact absurd rfl built
  · split at built
    · next code _ coded _ => exact (sector_size_coded size code coded).imp And.left And.left
    · exact absurd rfl built

-- A word that is not 0 has gone past every check.
theorem word_passes (geometry : Geometry) (whole : geometry.subpage_size.tmod geometry.ecc_step_size = 0)
    (built : headerWord geometry.toMtdDevInfo geometry.ecc_step_size ≠ 0) : ∃ k, Passes geometry k := by
  have product : sectorPerPage geometry.toMtdDevInfo geometry.ecc_step_size * geometry.ecc_step_size = geometry.subpage_size :=
    Int.tdiv_mul_cancel (Int.dvd_of_tmod_eq_zero whole)
  have sizes := header_word_sized geometry.toMtdDevInfo geometry.ecc_step_size built
  rw [headerWord, createAtmelHeaderWord] at built
  split at built
  · exact absurd rfl built
  · next checked =>
      have positive : 0 < sectorPerPage geometry.toMtdDevInfo geometry.ecc_step_size :=
        Int.pos_of_mul_pos_left (by rw [product]; exact geometry.page.1) (by omega)
      obtain ⟨k, _, power⟩ := power_checked _ positive (not_not.mp checked)
      refine ⟨k, sizes, ?_⟩
      rw [← power]
      exact product.symm

theorem header_update_refused (geometry : Geometry) (nonzero : geometry.ecc_step_size ≠ 0)
    (refused : ¬ ∃ k, Passes geometry k) (writebuf : Buffer) :
    headerUpdate geometry.toMtdDevInfo geometry.ecc_step_size writebuf = .returned false writebuf := by
  have failed : finish 0 writebuf = .returned false writebuf := if_neg (by decide)
  rw [headerUpdate]
  by_cases read : geometry.ecc_step_size = -1
  · rw [if_neg (not_not.mpr read)]
    exact failed
  · rw [if_pos read, if_neg nonzero]
    split
    · rfl
    · next whole =>
        have zero : headerWord geometry.toMtdDevInfo geometry.ecc_step_size = 0 := by
          by_contra built
          exact refused (word_passes geometry (not_not.mp whole) built)
        rw [zero]
        exact failed

theorem sectors_agree (k log : Nat) (step : Int) (positive : 0 < step)
    (same : ((2 ^ log : Nat) : Int) * step = ((2 ^ k : Nat) : Int) * step) : log = k := by
  have powers : ((2 ^ log : Nat) : Int) = ((2 ^ k : Nat) : Int) := Int.eq_of_mul_eq_mul_right (by omega) same
  exact (Nat.pow_right_inj (by decide : 1 < 2)).mp (Int.natCast_inj.mp powers)

theorem exact_nonzero (geometry : Geometry) (fields : HeaderFields) (fits : Exact geometry fields) :
    geometry.ecc_step_size ≠ 0 := by
  have positive : 0 < 512 * 2 ^ fields.sector_size_code := Nat.mul_pos (by decide) (Nat.two_pow_pos _)
  rw [← fits.sector_size]
  omega

-- What the fields are wide enough for.
theorem exact_bounded (geometry : Geometry) (k : Nat) (passes : Passes geometry k) (word : BitVec 32)
    (fits : Exact geometry (decode word)) : Bounded geometry k := by
  have log := sectors_agree k _ _ (passes_positive geometry k passes) (fits.pages.trans passes.2)
  have offset := passes_offset geometry k passes
  refine ⟨?_, ?_, ?_⟩
  · rw [← log]
    exact Nat.mod_lt _ (by decide)
  · rw [← fits.spare_size]
    exact Int.ofNat_lt.mpr (Nat.mod_lt _ (by decide))
  · have positive := fits.ecc_offset
    omega

theorem bounded_exact (geometry : Geometry) (k : Nat) (passes : Passes geometry k) (bounded : Bounded geometry k) :
    Exact geometry (decode (headerWord geometry.toMtdDevInfo geometry.ecc_step_size)) := by
  obtain ⟨code, below, step, word⟩ := passes_word geometry k passes
  have offset := passes_offset geometry k passes
  have ecc_positive : 0 ≤ eccBytes geometry.ecc_step_size * ((2 ^ k : Nat) : Int) := by
    apply Int.mul_nonneg
    · rw [eccBytes]
      split <;> decide
    · exact Int.natCast_nonneg _
  have spare_bound := bounded.spare
  have ecc_bound := bounded.ecc
  have spare : geometry.oob_size = ((geometry.oob_size.toNat : Nat) : Int) := (Int.toNat_of_nonneg geometry.oob.1).symm
  have from_start : eccOffset geometry.toMtdDevInfo geometry.ecc_step_size =
      (((eccOffset geometry.toMtdDevInfo geometry.ecc_step_size).toNat : Nat) : Int) :=
    (Int.toNat_of_nonneg (by omega)).symm
  have fields : decode (headerWord geometry.toMtdDevInfo geometry.ecc_step_size) =
      { use_pmecc := 1, sector_per_page_log := k, spare_size := geometry.oob_size.toNat, ecc_bit_req := 2,
        sector_size_code := code, ecc_offset := (eccOffset geometry.toMtdDevInfo geometry.ecc_step_size).toNat, key := 0xC } := by
    rw [word, from_start, spare, BitVec.ofInt_natCast, BitVec.ofInt_natCast]
    exact packed_decoded _ code 2 _ k 1 ⟨by omega, by omega, by decide, by omega, bounded.sectors, by decide⟩
  rw [fields]
  exact
    { use_pmecc := rfl
      pages := passes.2.symm
      spare_size := spare.symm
      strength := rfl
      sector_size := step.symm
      ecc_offset := from_start.symm
      key := rfl }

theorem header_sound_iff (geometry : Geometry) :
    (∀ writebuf, HeaderSound geometry writebuf) ↔
      geometry.ecc_step_size ≠ 0 ∧ ∀ k, Passes geometry k → Bounded geometry k := by
  constructor
  · intro sound
    refine ⟨?_, ?_⟩
    · intro zero
      have crashed := (sound fun _ => 0).rejected fun ⟨_, fits⟩ => exact_nonzero geometry _ fits zero
      rw [headerUpdate, if_pos (by omega), if_pos zero] at crashed
      cases crashed
    · intro k passes
      obtain ⟨word, headed⟩ := (sound fun _ => 0).written _ (header_update_passes geometry k passes _)
      exact exact_bounded geometry k passes word headed.exact_fields
  · rintro ⟨nonzero, bounded⟩ writebuf
    refine ⟨?_, ?_⟩
    · intro after written
      by_cases passed : ∃ k, Passes geometry k
      · obtain ⟨k, passes⟩ := passed
        rw [header_update_passes geometry k passes] at written
        cases written
        refine ⟨_, bounded_exact geometry k passes (bounded k passes), ?_, ?_⟩
        · exact fun i inside => rewrite_word _ 52 writebuf i inside
        · exact fun address outside => rewrite_rest _ 52 writebuf address outside
      · rw [header_update_refused geometry nonzero passed] at written
        cases written
    · intro unrepresentable
      apply header_update_refused geometry nonzero
      rintro ⟨k, passes⟩
      exact unrepresentable ⟨_, bounded_exact geometry k passes (bounded k passes)⟩

-- Pages of 8 KiB with 640 spare bytes.
def wideSpare : Geometry where
  subpage_size := 8192
  oob_size := 640
  ecc_step_size := 512
  page := by decide
  oob := by decide

-- The spare size runs into the strength, which reads as 12 bits.
theorem wide_spare_corrupts : ¬ HeaderSound wideSpare (fun _ => 0) ∧
    headerUpdate wideSpare.toMtdDevInfo wideSpare.ecc_step_size (fun _ => 0) = .returned true (rewrite 0xC6C06809 52 fun _ => 0) ∧
    (decode 0xC6C06809).spare_size = 128 ∧ (decode 0xC6C06809).ecc_bit_req = 3 := by
  have passes : Passes wideSpare 4 := ⟨.inl rfl, by decide⟩
  have word : headerWord wideSpare.toMtdDevInfo wideSpare.ecc_step_size = 0xC6C06809 := by decide
  have update := header_update_passes wideSpare 4 passes fun _ => 0
  rw [word] at update
  refine ⟨?_, update, by decide, by decide⟩
  intro sound
  obtain ⟨other, headed⟩ := sound.written _ update
  have short := (exact_bounded wideSpare 4 passes other headed.exact_fields).spare
  exact absurd short (by decide)

end SummitSom.Flash
