import SummitSom.Fit.Whole

set_option autoImplicit false

namespace SummitSom.Fit

open Dts

section Depth

variable (v : Vars)

theorem leaf_path (path : Path) (name : List Char) (body : List (Option (List Char))) (entry : Entry)
    (inside : entry ∈ leaf path name body) : entry.path = name :: path := by
  cases entry with
  | node place => exact (leaf_node path place name body).mp inside
  | statement place text => exact ((leaf_statement path place name text body).mp inside).1

theorem said_path (path : Path) (body : List (Option (List Char))) (entry : Entry) (inside : entry ∈ said path body) :
    entry.path = path := by
  cases entry with
  | node place => exact absurd inside (said_node path place body)
  | statement place text => exact ((said_statement path place text body).mp inside).1

theorem security_deeper (path : Path) (name : List Char) (entry : Entry) (inside : entry ∈ securityNodes v path name) :
    entry.path = "cipher".toList :: path ∨ ∃ owner, entry.path = "signature-1".toList :: owner :: path := by
  rw [securityNodes] at inside
  cases List.mem_append.mp inside with
  | inl cipher =>
      split at cipher
      · exact .inl (leaf_path _ _ _ entry cipher)
      · cases cipher
  | inr signature =>
      split at signature
      · have place := leaf_path _ _ _ entry signature
        rw [place]
        split
        · exact .inr ⟨_, rfl⟩
        · exact .inr ⟨_, rfl⟩
      · cases signature

-- An entry of an image, or of the node behind it.
theorem image_deeper (path : Path) (image : Image) (entry : Entry) (inside : entry ∈ image.entries v path) :
    ∃ name above, entry.path = above ++ name :: path := by
  rw [Image.entries] at inside
  cases List.mem_append.mp inside with
  | inl own =>
      cases List.mem_append.mp own with
      | inl body => exact ⟨image.name, [], leaf_path _ _ _ entry body⟩
      | inr hash => exact ⟨image.name, ["hash-1".toList], leaf_path _ _ _ entry hash⟩
  | inr security =>
      split at security
      · rcases security_deeper v path image.name entry security with cipher | ⟨owner, signature⟩
        · exact ⟨"cipher".toList, [], cipher⟩
        · exact ⟨owner, ["signature-1".toList], signature⟩
      · cases security

theorem conf_deeper (conf : Conf) (entry : Entry) (inside : entry ∈ conf.entries v) :
    ∃ above, entry.path = above ++ confsPath := by
  rw [Conf.entries] at inside
  cases List.mem_append.mp inside with
  | inl own =>
      cases List.mem_append.mp own with
      | inl body =>
          cases List.mem_append.mp body with
          | inl first => exact ⟨[], said_path _ _ entry first⟩
          | inr named => exact ⟨[conf.name], leaf_path _ _ _ entry named⟩
      | inr hash => exact ⟨["hash-1".toList, conf.name], leaf_path _ _ _ entry hash⟩
  | inr signature =>
      split at signature
      · exact ⟨["signature-1".toList, conf.name], leaf_path _ _ _ entry signature⟩
      · cases signature

theorem start_shallow (entry : Entry) (inside : entry ∈ fitStart v) : entry.path.length < 2 ∨ entry = .node imagesPath := by
  simp only [fitStart, List.mem_cons, List.not_mem_nil, or_false] at inside
  rcases inside with rfl | rfl | rfl | rfl | rfl
  · exact .inl Nat.zero_lt_two
  · exact .inl Nat.one_lt_two
  · exact .inl Nat.one_lt_two
  · exact .inl Nat.one_lt_two
  · exact .inr rfl

theorem apart_paths (above more : Path) (name other : List Char) : above ++ name :: imagesPath ≠ more ++ other :: confsPath := by
  intro same
  have roots : imagesPath = confsPath := by
    have backs := congrArg (fun path => path.reverse.take 2) same
    simp only [imagesPath, confsPath, List.reverse_append, List.reverse_cons, List.reverse_nil, List.nil_append,
      List.cons_append, List.take_succ_cons, List.take_zero] at backs
    have words := (List.cons.inj (List.cons.inj backs).2).1
    exact absurd words (by decide)
  exact absurd roots (by decide)

end Depth

section Members

variable (v : Vars) (images : List Image) (confs : List Conf)

-- Below the images stand entries of images.
theorem image_entry (above : Path) (name : List Char) (entry : Entry) (place : entry.path = above ++ name :: imagesPath) :
    entry ∈ fitEntries v images confs ↔ ∃ image ∈ images, entry ∈ image.entries v imagesPath := by
  rw [fitEntries, List.mem_append, List.mem_append, List.mem_cons, List.mem_flatMap, List.mem_flatMap]
  constructor
  · rintro ((first | own) | rfl | ⟨conf, _, inside⟩)
    · have long : 2 < entry.path.length := by
        rw [place]
        simp only [imagesPath, List.length_append, List.length_cons, List.length_nil]
        omega
      rcases start_shallow v entry first with shallow | rfl
      · omega
      · exact absurd long (by decide)
    · exact own
    · have lengths := congrArg List.length place
      simp only [Entry.path, confsPath, imagesPath, List.length_append, List.length_cons, List.length_nil] at lengths
      omega
    · obtain ⟨more, other⟩ := conf_deeper v conf entry inside
      rw [place] at other
      cases more with
      | nil =>
          have lengths := congrArg List.length other
          simp only [confsPath, imagesPath, List.length_append, List.length_cons, List.length_nil] at lengths
          omega
      | cons first more =>
          obtain ⟨front, last, split⟩ := List.eq_nil_or_concat (first :: more) |>.resolve_left (List.cons_ne_nil _ _)
          rw [split, List.concat_eq_append, List.append_assoc] at other
          exact absurd other (apart_paths above front name last)
  · exact fun own => .inl (.inr own)

-- Below the configurations stand entries of configurations.
theorem conf_entry (above : Path) (name : List Char) (entry : Entry) (place : entry.path = above ++ name :: confsPath) :
    entry ∈ fitEntries v images confs ↔ ∃ conf ∈ confs, entry ∈ conf.entries v := by
  rw [fitEntries, List.mem_append, List.mem_append, List.mem_cons, List.mem_flatMap, List.mem_flatMap]
  constructor
  · rintro ((first | ⟨image, _, inside⟩) | rfl | own)
    · have long : 2 < entry.path.length := by
        rw [place]
        simp only [confsPath, List.length_append, List.length_cons, List.length_nil]
        omega
      rcases start_shallow v entry first with shallow | rfl
      · omega
      · exact absurd long (by decide)
    · obtain ⟨other, more, deeper⟩ := image_deeper v imagesPath image entry inside
      rw [place] at deeper
      exact absurd deeper.symm (apart_paths more above other name)
    · have lengths := congrArg List.length place
      simp only [Entry.path, confsPath, List.length_append, List.length_cons, List.length_nil] at lengths
      omega
    · exact own
  · exact fun own => .inr (.inr own)

theorem image_node (path place : Path) (image : Image) :
    .node place ∈ image.entries v path ↔ place = image.name :: path ∨ place = "hash-1".toList :: image.name :: path ∨
      (image.secured = true ∧ ((v.UBOOT_ENCRYPT_ENABLE = true ∧ place = "cipher".toList :: path) ∨
        (v.signsImages = true ∧
          place = "signature-1".toList :: (if v.UBOOT_ENCRYPT_ENABLE then "cipher".toList :: path else image.name :: path)))) := by
  rw [Image.entries, List.mem_append, List.mem_append, leaf_node, algoNode, leaf_node, or_assoc]
  refine or_congr_right (or_congr_right ?_)
  cases image.secured with
  | false => simp
  | true =>
      rw [if_pos rfl, securityNodes, List.mem_append]
      refine Iff.trans (or_congr ?_ ?_) ⟨fun either => ⟨rfl, either⟩, And.right⟩
      · cases v.UBOOT_ENCRYPT_ENABLE with
        | false => simp
        | true => rw [if_pos rfl, cipherNode, leaf_node]; simp
      · cases v.signsImages with
        | false => simp
        | true => rw [if_pos rfl, signatureNode, leaf_node]; simp

theorem conf_node (place : Path) (conf : Conf) :
    .node place ∈ conf.entries v ↔ place = conf.name :: confsPath ∨ place = "hash-1".toList :: conf.name :: confsPath ∨
      (v.signsConfs = true ∧ place = "signature-1".toList :: conf.name :: confsPath) := by
  rw [Conf.entries, List.mem_append, List.mem_append, List.mem_append, leaf_node, algoNode, leaf_node, or_assoc, or_assoc,
    or_iff_right (said_node _ _ _)]
  refine or_congr_right (or_congr_right ?_)
  cases v.signsConfs with
  | false => simp
  | true => rw [if_pos rfl, signatureNode, leaf_node]; simp

theorem conf_statement (name text : List Char) (conf : Conf) :
    .statement (name :: confsPath) text ∈ conf.entries v ↔ name = conf.name ∧ some text ∈ conf.body := by
  rw [Conf.entries, List.mem_append, List.mem_append, List.mem_append, said_statement, leaf_statement, algoNode, leaf_statement]
  constructor
  · rintro (((⟨same, _⟩ | ⟨same, inside⟩) | ⟨same, _⟩) | signature)
    · exact absurd same (List.cons_ne_self _ _)
    · exact ⟨(List.cons.inj same).1, inside⟩
    · exact absurd (List.cons.inj same).2.symm (List.cons_ne_self _ _)
    · split at signature
      · have same := ((leaf_statement _ _ _ _ _).mp signature).1
        exact absurd (List.cons.inj same).2.symm (List.cons_ne_self _ _)
      · cases signature
  · rintro ⟨rfl, inside⟩
    exact .inl (.inl (.inr ⟨rfl, inside⟩))

end Members

end SummitSom.Fit
