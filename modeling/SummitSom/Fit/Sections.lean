import SummitSom.Fit.Assemble

set_option autoImplicit false

namespace SummitSom.Fit

open Dts

section Plain

theorem inset_blank (n : Nat) : (inset n).all blank = true := by
  rw [inset, List.all_replicate]
  cases n <;> rfl

theorem tabbed_blank (n : Nat) : (tabbed n).all blank = true := by
  rw [tabbed, List.all_replicate]
  cases n <;> rfl

-- Names that stand in the text as they are.
def Tidy (name : List Char) : Prop := name.all nameLetter = true ∧ name.all valueLetter = true

theorem tidy_append (name more : List Char) (first : Tidy name) (second : Tidy more) : Tidy (name ++ more) := by
  simp only [Tidy, List.all_append, first.1, first.2, second.1, second.2, Bool.and_self, and_self]

theorem tidy_word (word : Word) : Tidy word.text := ⟨word.whole, word.plain⟩

theorem tidy_behind (stem id : List Char) (first : Tidy stem) (given : stem ≠ []) (second : Tidy id) : Named (stem ++ id) :=
  ⟨List.append_ne_nil_of_left_ne_nil given id, (tidy_append stem id first second).1⟩

theorem value_stated (key : List Char) (value : Value) (named : Named key) : Stated (quoted key value.text) :=
  quoted_stated key value.text named (value_scan true value.text value.plain)

theorem text_stated (key value : List Char) (named : Named key) (plain : value.all valueLetter = true) :
    Stated (quoted key value) :=
  quoted_stated key value named (value_scan true value plain)

theorem incbin_stated (path : List Char) (plain : path.all valueLetter = true) : Stated (incbin path) :=
  framed_stated "data = /incbin/(\"".toList path ['"', ')'] (by decide) (by decide) (value_scan true path plain) (by decide)

theorem all_stated_cons (line : Option (List Char)) (body : List (Option (List Char))) (first : ∀ text, line = some text → Stated text)
    (rest : AllStated body) : AllStated (line :: body) := by
  intro text inside
  cases inside with
  | head => exact first text rfl
  | tail _ later => exact rest text later

theorem all_stated_some (text : List Char) (body : List (Option (List Char))) (first : Stated text) (rest : AllStated body) :
    AllStated (some text :: body) := by
  apply all_stated_cons (some text) body ?_ rest
  intro other same
  cases same
  exact first

theorem all_stated_nil : AllStated [] := fun _ inside => nomatch inside

theorem cell_line_stated (key : List Char) (value : Value) (named : Named key) (text : List Char)
    (shown : cellLine key value = some text) : Stated text := by
  rw [cellLine] at shown
  split at shown
  · cases shown
  · cases shown
    exact celled_stated key value.text named value.plain

end Plain

section Sections

variable (v : Vars)

def algoNode (path : Path) : List Entry := leaf path "hash-1".toList [some (quoted "algo".toList v.FIT_HASH_ALG.text)]

def cipherNode (path : Path) : List Entry :=
  leaf path "cipher".toList [some (quoted "algo".toList v.FIT_ENCRYPT_ALGO.text),
    some (quoted "key-name-hint".toList v.UBOOT_ENCRYPT_KEYNAME.text),
    some (quoted "iv-name-hint".toList v.UBOOT_ENCRYPT_IVNAME.text)]

def signatureNode (path : Path) (keyname : Value) (more : List (Option (List Char))) : List Entry :=
  leaf path "signature-1".toList (some (quoted "algo".toList (algorithms v)) ::
    some (quoted "key-name-hint".toList keyname.text) :: some (quoted "padding".toList v.FIT_PAD_ALG.text) :: more)

-- With encryption the signature lands in the node behind the image.
def securityNodes (path : Path) (name : List Char) : List Entry :=
  (if v.UBOOT_ENCRYPT_ENABLE then cipherNode v path else []) ++
    (if v.signsImages then
      signatureNode v (if v.UBOOT_ENCRYPT_ENABLE then "cipher".toList :: path else name :: path) v.UBOOT_SIGN_IMG_KEYNAME []
    else [])

-- An image. The setup image alone is not secured.
structure Image where
  name : List Char
  body : List (Option (List Char))
  secured : Bool

def Image.entries (path : Path) (image : Image) : List Entry :=
  leaf path image.name image.body ++ algoNode v (image.name :: path) ++
    (if image.secured then securityNodes v path image.name else [])

def sectionBegin (name : List Char) (body : List (Option (List Char))) : List Line :=
  (opening (inset 16) name :: body.map (maybe (inset 24))) ++
    [opening (inset 24) "hash-1".toList, stating (inset 32) (quoted "algo".toList v.FIT_HASH_ALG.text), ending (inset 24)]

theorem section_begin_end (name : List Char) (body : List (Option (List Char))) :
    sectionNode v name body = sectionBegin v name body ++ [ending (inset 16)] := by
  rw [sectionNode, sectionBegin, List.cons_append, List.cons_append, List.append_assoc]
  rfl

def cipherBegin : List Line :=
  opening (tabbed 3) "cipher".toList :: [some (quoted "algo".toList v.FIT_ENCRYPT_ALGO.text),
    some (quoted "key-name-hint".toList v.UBOOT_ENCRYPT_KEYNAME.text),
    some (quoted "iv-name-hint".toList v.UBOOT_ENCRYPT_IVNAME.text)].map (maybe (tabbed 4))

theorem cipher_begin_end : sectionCipher v = cipherBegin v ++ [ending (tabbed 3)] := rfl

theorem algorithms_plain : (algorithms v).all valueLetter = true := by
  rw [algorithms, List.all_append, List.all_cons, v.FIT_HASH_ALG.plain, v.FIT_SIGN_ALG.plain]
  rfl

variable (its : List Line) (path : Path) (entries : List Entry)

theorem algo_named : Named "algo".toList := ⟨by decide, rfl⟩

theorem hash_reads (reads : Reads its path entries) :
    Reads (its ++ [opening (inset 24) "hash-1".toList, stating (inset 32) (quoted "algo".toList v.FIT_HASH_ALG.text),
      ending (inset 24)]) path (entries ++ algoNode v path) := by
  have stated := all_stated_some _ [] (value_stated "algo".toList v.FIT_HASH_ALG algo_named) all_stated_nil
  exact reads_leaf its (inset 24) (inset 32) "hash-1".toList _ path entries (inset_blank 24) (inset_blank 32) ⟨by decide, rfl⟩
    stated reads

theorem begin_reads (name : List Char) (body : List (Option (List Char))) (named : Named name) (stated : AllStated body)
    (reads : Reads its path entries) :
    Reads (its ++ sectionBegin v name body) (name :: path) (entries ++ (leaf path name body ++ algoNode v (name :: path))) := by
  have begun := reads_begun its (inset 16) (inset 24) name body path entries (inset_blank 16) (inset_blank 24) named stated reads
  have hashed := hash_reads v _ (name :: path) _ begun
  rw [List.append_assoc, List.append_assoc] at hashed
  exact hashed

theorem node_reads (name : List Char) (body : List (Option (List Char))) (named : Named name) (stated : AllStated body)
    (reads : Reads its path entries) :
    Reads (its ++ sectionNode v name body) path (entries ++ (leaf path name body ++ algoNode v (name :: path))) := by
  rw [section_begin_end, ← List.append_assoc]
  exact reads_ending _ (inset 16) name path _ (inset_blank 16) (begin_reads v its path entries name body named stated reads)

theorem cipher_stated : AllStated [some (quoted "algo".toList v.FIT_ENCRYPT_ALGO.text),
    some (quoted "key-name-hint".toList v.UBOOT_ENCRYPT_KEYNAME.text),
    some (quoted "iv-name-hint".toList v.UBOOT_ENCRYPT_IVNAME.text)] :=
  all_stated_some _ _ (value_stated _ v.FIT_ENCRYPT_ALGO algo_named)
    (all_stated_some _ _ (value_stated _ v.UBOOT_ENCRYPT_KEYNAME ⟨by decide, rfl⟩)
      (all_stated_some _ _ (value_stated _ v.UBOOT_ENCRYPT_IVNAME ⟨by decide, rfl⟩) all_stated_nil))

theorem cipher_begin_reads (reads : Reads its path entries) :
    Reads (its ++ cipherBegin v) ("cipher".toList :: path) (entries ++ cipherNode v path) :=
  reads_begun its (tabbed 3) (tabbed 4) "cipher".toList _ path entries (tabbed_blank 3) (tabbed_blank 4) ⟨by decide, rfl⟩
    (cipher_stated v) reads

theorem cipher_reads (reads : Reads its path entries) :
    Reads (its ++ sectionCipher v) path (entries ++ cipherNode v path) := by
  rw [cipher_begin_end, ← List.append_assoc]
  exact reads_ending _ (tabbed 3) "cipher".toList path _ (tabbed_blank 3) (cipher_begin_reads v its path entries reads)

-- The signature goes into the node that sed has opened again.
theorem signature_reads (name : List Char) (reads : Reads its (name :: path) entries) :
    Reads (its ++ sectionSignature v) path (entries ++ signatureNode v (name :: path) v.UBOOT_SIGN_IMG_KEYNAME []) := by
  have algo := text_stated "algo".toList (algorithms v) algo_named (algorithms_plain v)
  have hint := value_stated "key-name-hint".toList v.UBOOT_SIGN_IMG_KEYNAME ⟨by decide, rfl⟩
  have padding := value_stated "padding".toList v.FIT_PAD_ALG ⟨by decide, rfl⟩
  have begun := reads_begun its (inset 24) (inset 32) "signature-1".toList _ (name :: path) entries (inset_blank 24)
    (inset_blank 32) ⟨by decide, rfl⟩ (all_stated_some _ _ algo (all_stated_some _ [] hint all_stated_nil)) reads
  have filled := reads_body _ (tabbed 4) [some (quoted "padding".toList v.FIT_PAD_ALG.text)] _ _ (tabbed_blank 4)
    (all_stated_some _ [] padding all_stated_nil) begun
  have closed := reads_ending _ (inset 24) "signature-1".toList (name :: path) _ (inset_blank 24) filled
  have ended := reads_ending _ (inset 16) name path _ (inset_blank 16) closed
  rw [List.append_assoc, List.append_assoc, List.append_assoc, List.append_assoc] at ended
  exact ended

theorem section_reads (name : List Char) (body : List (Option (List Char))) (named : Named name) (stated : AllStated body)
    (reads : Reads its path entries) :
    Reads (emitSection v name body its) path (entries ++ Image.entries v path ⟨name, body, true⟩) := by
  have begun := begin_reads v its path entries name body named stated reads
  have node := node_reads v its path entries name body named stated reads
  have cipher := cipher_reads v _ path _ node
  have cipher_begun := cipher_begin_reads v _ path _ node
  rw [emitSection, Image.entries, if_pos rfl, securityNodes]
  cases encrypts : v.UBOOT_ENCRYPT_ENABLE with
  | false =>
      rw [if_neg Bool.false_ne_true, if_neg Bool.false_ne_true, if_neg Bool.false_ne_true, List.nil_append]
      by_cases signs : v.signsImages = true
      · rw [if_pos signs, if_pos signs, section_begin_end, ← List.append_assoc, List.dropLast_concat, ← List.append_assoc]
        exact signature_reads v _ path _ name begun
      · rw [if_neg signs, if_neg signs, List.append_nil]
        exact node
  | true =>
      rw [if_pos rfl, if_pos rfl, if_pos rfl]
      by_cases signs : v.signsImages = true
      · rw [if_pos signs, if_pos signs, cipher_begin_end, ← List.append_assoc, List.dropLast_concat, ← List.append_assoc,
          ← List.append_assoc]
        exact signature_reads v _ path _ "cipher".toList cipher_begun
      · rw [if_neg signs, if_neg signs, List.append_nil, ← List.append_assoc]
        exact cipher

end Sections

end SummitSom.Fit
