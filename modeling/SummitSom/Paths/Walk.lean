import Mathlib.Data.List.Basic
import Mathlib.Tactic.Common

set_option autoImplicit false

namespace Paths

-- A place as the names on the way from the root.
abbrev Dir := List String

def Below (dir other : Dir) : Prop := dir <+: other ∧ dir ≠ other

instance (dir other : Dir) : Decidable (Below dir other) := inferInstanceAs (Decidable (_ ∧ _))

inductive Node where
  | absent
  | directory
  | file
  | link (target : String)
deriving DecidableEq

-- A tree of files, where nothing is at the places that are not listed.
structure Tree where
  listed : List (Dir × Node)

def Tree.node (tree : Tree) (dir : Dir) : Node :=
  ((tree.listed.find? fun entry => entry.1 = dir).map Prod.snd).getD .absent

def Tree.set (tree : Tree) (dir : Dir) (node : Node) : Tree := ⟨(dir, node) :: tree.listed⟩

def Tree.Empty (tree : Tree) (dir : Dir) : Prop := ∀ other, Below dir other → tree.node other = .absent

theorem node_set (tree : Tree) (dir other : Dir) (node : Node) :
    (tree.set dir node).node other = if other = dir then node else tree.node other := by
  rw [Tree.node, Tree.set, List.find?_cons]
  by_cases same : other = dir
  · rw [if_pos same, decide_eq_true same.symm]
    rfl
  · rw [if_neg same, decide_eq_false (Ne.symm same)]
    rfl

theorem node_unlisted (tree : Tree) (dir : Dir) (unlisted : ∀ entry ∈ tree.listed, entry.1 ≠ dir) :
    tree.node dir = .absent := by
  rw [Tree.node, List.find?_eq_none.mpr fun entry inside => by simpa using unlisted entry inside]
  rfl

theorem empty_iff (tree : Tree) (dir : Dir) :
    (∀ entry ∈ tree.listed, Below dir entry.1 → tree.node entry.1 = .absent) ↔ tree.Empty dir := by
  constructor
  · intro listed other below
    by_cases there : ∃ entry ∈ tree.listed, entry.1 = other
    · obtain ⟨entry, inside, rfl⟩ := there
      exact listed entry inside below
    · exact node_unlisted tree other fun entry inside same => there ⟨entry, inside, same⟩
  · exact fun empty entry _ below => empty entry.1 below

instance (tree : Tree) (dir : Dir) : Decidable (tree.Empty dir) := decidable_of_iff _ (empty_iff tree dir)

-- A part of a path. A missing directory may be made for the parts of a path that
-- is given, and never for those of a link on the way.
structure Part where
  name : List Char
  made : Bool

def Part.found (part : Part) : Part := { part with made := false }

def Part.Stays (part : Part) : Prop := part.name = [] ∨ part.name = ['.']

def Part.Climbs (part : Part) : Prop := part.name = ['.', '.']

instance (part : Part) : Decidable part.Stays := inferInstanceAs (Decidable (_ ∨ _))

instance (part : Part) : Decidable part.Climbs := inferInstanceAs (Decidable (_ = _))

def parts (made : Bool) (path : String) : List Part := (path.toList.splitOn '/').map fun name => ⟨name, made⟩

def absolute (path : String) : Bool := path.toList.head? == some '/'

-- What moves on a walk: a position lies at a place, and ".." takes it up, a name
-- down, an absolute link to the top.
structure Compass (P : Type) where
  dir : P → Dir
  top : P
  up : P → P
  down : P → String → P

def places : Compass Dir where
  dir := id
  top := []
  up := List.dropLast
  down dir name := dir ++ [name]

structure Walked (P : Type) where
  tree : Tree
  looked : List Dir
  place : Option P

def Walked.behind {P : Type} (walked : Walked P) (dir : Dir) : Walked P := { walked with looked := dir :: walked.looked }

section Walk

variable {P : Type} (compass : Compass P)

def walkParts (follow : Tree → P → List Part → Walked P) : Tree → P → List Part → Walked P
  | tree, place, [] => ⟨tree, [], some place⟩
  | tree, place, part :: ahead =>
      if part.Stays then walkParts follow tree place ahead
      else if part.Climbs then walkParts follow tree (compass.up place) ahead
      else
        let name := String.ofList part.name
        let dir := compass.dir place ++ [name]
        match tree.node dir with
        | .absent =>
            if part.made then (walkParts follow (tree.set dir .directory) (compass.down place name) ahead).behind dir
            else ⟨tree, [dir], none⟩
        | .directory => (walkParts follow tree (compass.down place name) ahead).behind dir
        | .file => ⟨tree, [dir], none⟩
        | .link target =>
            (follow tree (if absolute target then compass.top else place) (parts false target ++ ahead)).behind dir

-- The walk along a path, which gives up at the link beyond the number of links.
def walk : Nat → Tree → P → List Part → Walked P
  | 0 => walkParts compass fun tree _ _ => ⟨tree, [], none⟩
  | links + 1 => walkParts compass (walk links)

def followed : Nat → Tree → P → List Part → Walked P
  | 0 => fun tree _ _ => ⟨tree, [], none⟩
  | links + 1 => walk compass links

theorem walk_end (links : Nat) (tree : Tree) (place : P) : walk compass links tree place [] = ⟨tree, [], some place⟩ := by
  cases links <;> rfl

section Turn

variable (links : Nat) (tree : Tree) (place : P) (part : Part) (ahead : List Part)

theorem walk_stays (stays : part.Stays) :
    walk compass links tree place (part :: ahead) = walk compass links tree place ahead := by
  cases links <;> exact if_pos stays

theorem walk_climbs (climbs : part.Climbs) :
    walk compass links tree place (part :: ahead) = walk compass links tree (compass.up place) ahead := by
  have goes : ¬ part.Stays := by
    rw [Part.Stays, climbs]
    decide
  cases links <;> exact (if_neg goes).trans (if_pos climbs)

theorem walk_looks (goes : ¬ part.Stays) (falls : ¬ part.Climbs) (dir : Dir)
    (here : compass.dir place ++ [String.ofList part.name] = dir) : walk compass links tree place (part :: ahead) =
      match tree.node dir with
      | .absent =>
          if part.made then
            (walk compass links (tree.set dir .directory) (compass.down place (String.ofList part.name)) ahead).behind dir
          else ⟨tree, [dir], none⟩
      | .directory => (walk compass links tree (compass.down place (String.ofList part.name)) ahead).behind dir
      | .file => ⟨tree, [dir], none⟩
      | .link target =>
          (followed compass links tree (if absolute target then compass.top else place)
            (parts false target ++ ahead)).behind dir := by
  subst here
  cases links <;> exact (if_neg goes).trans (if_neg falls)

end Turn

-- Induction over the parts ahead, and over the links that may still be followed.
theorem walk_induct {motive : Nat → List Part → Prop} (ended : ∀ links, motive links [])
    (next : ∀ links part ahead, motive links ahead → (∀ fewer, links = fewer + 1 → ∀ ahead, motive fewer ahead) →
      motive links (part :: ahead)) (links : Nat) (ahead : List Part) : motive links ahead := by
  induction links generalizing ahead with
  | zero =>
      induction ahead with
      | nil => exact ended 0
      | cons part ahead onward => exact next 0 part ahead onward fun fewer less => by cases less
  | succ links fewer =>
      induction ahead with
      | nil => exact ended (links + 1)
      | cons part ahead onward =>
          refine next (links + 1) part ahead onward fun other less => ?_
          cases less
          exact fewer

-- What every turn of a walk hands on holds of the walk.
theorem walk_keeps (held : Tree → Walked P → Prop) (ended : ∀ tree place, held tree ⟨tree, [], some place⟩)
    (lost : ∀ tree looked, held tree ⟨tree, looked, none⟩)
    (behind : ∀ tree walked dir, tree.node dir ≠ .absent → held tree walked → held tree (walked.behind dir))
    (made : ∀ tree walked dir, tree.node dir = .absent → held (tree.set dir .directory) walked →
      held tree (walked.behind dir)) (links : Nat) (ahead : List Part) (tree : Tree) (place : P) :
    held tree (walk compass links tree place ahead) := by
  induction links, ahead using walk_induct generalizing tree place with
  | ended links =>
      rw [walk_end]
      exact ended tree place
  | next links part ahead onward follow =>
      by_cases stays : part.Stays
      · rw [walk_stays compass links tree place part ahead stays]
        exact onward tree place
      by_cases climbs : part.Climbs
      · rw [walk_climbs compass links tree place part ahead climbs]
        exact onward tree (compass.up place)
      generalize here : compass.dir place ++ [String.ofList part.name] = dir
      rw [walk_looks compass links tree place part ahead stays climbs dir here]
      cases there : tree.node dir with
      | absent =>
          cases given : part.made with
          | true => exact made tree _ dir there (onward _ _)
          | false => exact lost tree _
      | directory => exact behind tree _ dir (by rw [there]; decide) (onward tree _)
      | file => exact lost tree _
      | link target =>
          apply behind tree _ dir (by rw [there]; intro same; cases same)
          cases links with
          | zero => exact lost tree []
          | succ links => exact follow links rfl _ tree _

-- A walk only adds directories where nothing was.
theorem walk_grown (links : Nat) (ahead : List Part) (tree : Tree) (place : P) (dir : Dir)
    (there : tree.node dir ≠ .absent) : (walk compass links tree place ahead).tree.node dir = tree.node dir := by
  revert there
  apply walk_keeps compass fun tree walked => tree.node dir ≠ .absent → walked.tree.node dir = tree.node dir
  · exact fun _ _ _ => rfl
  · exact fun _ _ _ => rfl
  · exact fun _ _ _ _ kept => kept
  · intro tree walked made missing kept there
    have other : dir ≠ made := fun same => there (same ▸ missing)
    have before : (tree.set made .directory).node dir = tree.node dir := by rw [node_set, if_neg other]
    exact (kept (by rwa [before])).trans before

theorem walk_found_tree (links : Nat) (ahead : List Part) (tree : Tree) (place : P) (found : ∀ part ∈ ahead, part.made = false) :
    (walk compass links tree place ahead).tree = tree := by
  induction links, ahead using walk_induct generalizing place with
  | ended links => rw [walk_end]
  | next links part ahead onward follow =>
      have rest : ∀ part ∈ ahead, part.made = false := fun part inside => found part (.tail _ inside)
      by_cases stays : part.Stays
      · rw [walk_stays compass links tree place part ahead stays]
        exact onward place rest
      by_cases climbs : part.Climbs
      · rw [walk_climbs compass links tree place part ahead climbs]
        exact onward (compass.up place) rest
      generalize here : compass.dir place ++ [String.ofList part.name] = dir
      rw [walk_looks compass links tree place part ahead stays climbs dir here]
      cases tree.node dir with
      | absent =>
          simp only [found part (.head _)]
          rfl
      | directory => exact onward _ rest
      | file => rfl
      | link target =>
          cases links with
          | zero => rfl
          | succ links =>
              apply follow links rfl
              intro part inside
              cases List.mem_append.mp inside with
              | inl linked =>
                  obtain ⟨name, _, rfl⟩ := List.mem_map.mp linked
                  rfl
              | inr later => exact rest part later

theorem parts_found (made : Bool) (path : String) : (parts made path).map Part.found = parts false path := by
  rw [parts, List.map_map]
  rfl

theorem found_parts (path : String) : ∀ part ∈ parts false path, part.made = false := by
  intro part inside
  obtain ⟨name, _, rfl⟩ := List.mem_map.mp inside
  rfl

-- A walk that comes to a place comes to it again in every tree that is the same
-- where it looked.
theorem walk_again (links : Nat) (ahead : List Part) (tree other : Tree) (place goal : P)
    (reached : (walk compass links tree place ahead).place = some goal)
    (agrees : ∀ dir ∈ (walk compass links tree place ahead).looked,
      other.node dir = (walk compass links tree place ahead).tree.node dir) :
    walk compass links other place (ahead.map Part.found) =
      ⟨other, (walk compass links tree place ahead).looked, some goal⟩ := by
  induction links, ahead using walk_induct generalizing tree place with
  | ended links =>
      rw [walk_end] at reached ⊢
      rw [← reached]
      exact walk_end compass links other place
  | next links part ahead onward follow =>
      rw [List.map_cons]
      by_cases stays : part.Stays
      · rw [walk_stays compass links tree place part ahead stays] at reached agrees ⊢
        rw [walk_stays compass links other place part.found _ stays]
        exact onward tree place reached agrees
      by_cases climbs : part.Climbs
      · rw [walk_climbs compass links tree place part ahead climbs] at reached agrees ⊢
        rw [walk_climbs compass links other place part.found _ climbs]
        exact onward tree _ reached agrees
      generalize here : compass.dir place ++ [String.ofList part.name] = dir
      have next := walk_looks compass links other place part.found (ahead.map Part.found) stays climbs dir here
      have now := walk_looks compass links tree place part ahead stays climbs dir here
      cases there : tree.node dir with
      | absent =>
          simp only [there] at now
          split at now
          · rw [now] at reached agrees ⊢
            have kept := agrees dir (.head _)
            have entered : (tree.set dir .directory).node dir = .directory := by rw [node_set, if_pos rfl]
            have grown := walk_grown compass links ahead (tree.set dir .directory)
              (compass.down place (String.ofList part.name)) dir (by rw [entered]; decide)
            rw [Walked.behind, grown, entered] at kept
            simp only [kept] at next
            have again := onward _ _ reached fun dir inside => agrees dir (.tail _ inside)
            exact next.trans (congrArg (Walked.behind · dir) again)
          · rw [now] at reached
            cases reached
      | directory =>
          simp only [there] at now
          rw [now] at reached agrees ⊢
          have kept := agrees dir (.head _)
          have grown := walk_grown compass links ahead tree (compass.down place (String.ofList part.name)) dir
            (by rw [there]; decide)
          rw [Walked.behind, grown, there] at kept
          simp only [kept] at next
          have again := onward _ _ reached fun dir inside => agrees dir (.tail _ inside)
          exact next.trans (congrArg (Walked.behind · dir) again)
      | file =>
          simp only [there] at now
          rw [now] at reached
          cases reached
      | link target =>
          simp only [there] at now
          rw [now] at reached agrees ⊢
          cases links with
          | zero => cases reached
          | succ links =>
              have kept := agrees dir (.head _)
              have grown := walk_grown compass links (parts false target ++ ahead) tree
                (if absolute target then compass.top else place) dir (by rw [there]; intro same; cases same)
              rw [Walked.behind, followed, grown, there] at kept
              simp only [kept] at next
              have again := follow links rfl (parts false target ++ ahead) tree _ reached
                fun dir inside => agrees dir (.tail _ inside)
              rw [List.map_append, parts_found] at again
              exact next.trans (congrArg (Walked.behind · dir) again)

-- A walk that comes to a place has found something wherever it looked.
theorem walk_looked (links : Nat) (ahead : List Part) (tree : Tree) (place goal : P)
    (reached : (walk compass links tree place ahead).place = some goal) (dir : Dir)
    (looked : dir ∈ (walk compass links tree place ahead).looked) :
    (walk compass links tree place ahead).tree.node dir ≠ .absent := by
  have kept := walk_keeps compass (fun tree walked => (∀ dir, tree.node dir ≠ .absent → walked.tree.node dir ≠ .absent) ∧
    (walked.place.isSome → ∀ dir ∈ walked.looked, walked.tree.node dir ≠ .absent)) ?_ ?_ ?_ ?_ links ahead tree place
  · exact kept.2 (by rw [reached]; rfl) dir looked
  · exact fun _ _ => ⟨fun _ there => there, fun _ _ inside => absurd inside List.not_mem_nil⟩
  · exact fun _ _ => ⟨fun _ there => there, fun lost => by cases lost⟩
  · intro tree walked dir there kept
    refine ⟨kept.1, fun found other inside => ?_⟩
    cases inside with
    | head => exact kept.1 dir there
    | tail _ inside => exact kept.2 found other inside
  · intro tree walked dir missing kept
    have made : walked.tree.node dir ≠ .absent := kept.1 dir (by rw [node_set, if_pos rfl]; decide)
    constructor
    · intro other there
      by_cases same : other = dir
      · exact same ▸ made
      · exact kept.1 other (by rwa [node_set, if_neg same])
    · intro found other inside
      cases inside with
      | head => exact made
      | tail _ inside => exact kept.2 found other inside

end Walk

-- Positions that can be read as others go the same way.
structure Reads {P Q : Type} (first : Compass P) (second : Compass Q) (read : P → Q) : Prop where
  dir : ∀ place, second.dir (read place) = first.dir place
  top : read first.top = second.top
  up : ∀ place, read (first.up place) = second.up (read place)
  down : ∀ place name, read (first.down place name) = second.down (read place) name

def Walked.map {P Q : Type} (read : P → Q) (walked : Walked P) : Walked Q :=
  ⟨walked.tree, walked.looked, walked.place.map read⟩

theorem walk_map {P Q : Type} (first : Compass P) (second : Compass Q) (read : P → Q) (reads : Reads first second read)
    (links : Nat) (ahead : List Part) (tree : Tree) (place : P) :
    walk second links tree (read place) ahead = (walk first links tree place ahead).map read := by
  induction links, ahead using walk_induct generalizing tree place with
  | ended links =>
      rw [walk_end, walk_end]
      rfl
  | next links part ahead onward follow =>
      by_cases stays : part.Stays
      · rw [walk_stays first links tree place part ahead stays, walk_stays second links tree _ part ahead stays]
        exact onward tree place
      by_cases climbs : part.Climbs
      · rw [walk_climbs first links tree place part ahead climbs, walk_climbs second links tree _ part ahead climbs, ← reads.up]
        exact onward tree (first.up place)
      generalize here : first.dir place ++ [String.ofList part.name] = dir
      rw [walk_looks first links tree place part ahead stays climbs dir here,
        walk_looks second links tree _ part ahead stays climbs dir (by rw [reads.dir]; exact here), ← reads.down]
      cases tree.node dir with
      | absent =>
          simp only
          split
          · exact congrArg (Walked.behind · dir) (onward _ _)
          · rfl
      | directory => exact congrArg (Walked.behind · dir) (onward _ _)
      | file => rfl
      | link target =>
          cases links with
          | zero => rfl
          | succ links =>
              simp only [followed, ← reads.top, ← apply_ite read]
              exact congrArg (Walked.behind · dir) (follow links rfl _ _ _)

structure Proper (name : String) : Prop where
  given : name ≠ ""
  dot : name ≠ "."
  dots : name ≠ ".."

theorem proper_goes (name : String) (made : Bool) (proper : Proper name) :
    ¬ (Part.mk name.toList made).Stays ∧ ¬ (Part.mk name.toList made).Climbs := by
  refine ⟨?_, fun climbs => proper.dots (String.toList_inj.mp climbs)⟩
  rintro (empty | dot)
  · exact proper.given (String.toList_inj.mp empty)
  · exact proper.dot (String.toList_inj.mp dot)

-- A directory that is where its names say, with no link on the way.
structure RealDir (tree : Tree) (path : String) (dir : Dir) : Prop where
  text : path.toList.splitOn '/' = [] :: dir.map String.toList
  proper : ∀ name ∈ dir, Proper name
  there : ∀ upper, upper <+: dir → tree.node upper = .directory

theorem walk_names (links : Nat) (tree : Tree) (made : Bool) (place names : Dir) (ahead : List Part)
    (proper : ∀ name ∈ names, Proper name) (there : ∀ upper, upper <+: names → tree.node (place ++ upper) = .directory) :
    (walk places links tree place (names.map (fun name => ⟨name.toList, made⟩) ++ ahead)).place =
      (walk places links tree (place ++ names) ahead).place := by
  induction names generalizing place with
  | nil => rw [List.append_nil, List.map_nil, List.nil_append]
  | cons name names ih =>
      obtain ⟨goes, falls⟩ := proper_goes name made (proper name (.head _))
      have first : tree.node (place ++ [name]) = .directory := there [name] (List.cons_prefix_cons.mpr ⟨rfl, List.nil_prefix⟩)
      have rest := ih (place ++ [name]) (fun other inside => proper other (.tail _ inside)) fun upper before => by
        rw [List.append_assoc]
        exact there (name :: upper) (List.cons_prefix_cons.mpr ⟨rfl, before⟩)
      rw [List.append_assoc] at rest
      rw [List.map_cons, List.cons_append, walk_looks places links tree place _ _ goes falls (place ++ [name])
        (by rw [String.ofList_toList]; rfl), first]
      rw [String.ofList_toList]
      exact rest

-- The walk along a path below such a directory is the walk from there.
theorem walk_real (links : Nat) (tree : Tree) (made : Bool) (root name : String) (dir : Dir) (real : RealDir tree root dir) :
    (walk places links tree [] (parts made (root ++ "/" ++ name))).place =
      (walk places links tree dir (parts made name)).place := by
  have split : (root ++ "/" ++ name).toList.splitOn '/' = root.toList.splitOn '/' ++ name.toList.splitOn '/' := by
    rw [String.toList_append, String.toList_append, List.append_assoc]
    exact List.splitOn_append_cons_of_beq _ _ rfl
  rw [parts, split, real.text, List.map_append, List.map_cons, List.cons_append, walk_stays _ _ _ _ _ _ (.inl rfl), List.map_map]
  exact walk_names links tree made [] dir _ real.proper real.there

-- A way from a directory: how far it climbs, and the names it then goes down.
structure Way where
  ups : Nat
  names : List String
deriving DecidableEq

def Way.from (way : Way) (dir : Dir) : Dir := dir.take (dir.length - way.ups) ++ way.names

def ways (root : Dir) : Compass Way where
  dir way := way.from root
  top := ⟨root.length, []⟩
  up way := if way.names = [] then { way with ups := way.ups + 1 } else { way with names := way.names.dropLast }
  down way name := { way with names := way.names ++ [name] }

theorem ways_read (root : Dir) : Reads (ways root) places fun way => way.from root := by
  refine ⟨fun _ => rfl, ?_, ?_, ?_⟩
  · simp [ways, places, Way.from]
  · intro way
    simp only [ways, places]
    by_cases climbed : way.names = []
    · rw [if_pos climbed, Way.from, Way.from, climbed, List.append_nil, List.append_nil, List.dropLast_eq_take,
        List.length_take, List.take_take]
      congr 1
      dsimp only
      omega
    · rw [if_neg climbed, Way.from, Way.from, List.dropLast_append_of_ne_nil climbed]
  · intro way name
    simp only [ways, places, Way.from, List.append_assoc]

theorem way_place (links : Nat) (tree : Tree) (root : Dir) (ahead : List Part) :
    (walk places links tree root ahead).place =
      (walk (ways root) links tree ⟨0, []⟩ ahead).place.map fun way => way.from root := by
  have here : root = Way.from ⟨0, []⟩ root := by simp [Way.from]
  have mapped := walk_map (ways root) places (fun way => way.from root) (ways_read root) links ahead tree ⟨0, []⟩
  rw [← here] at mapped
  rw [mapped]
  rfl

-- The way leads to a child of the directory exactly if it goes down what leads
-- back to it, and one name more.
theorem way_child_iff (way : Way) (root : Dir) (child : String) :
    way.from root = root ++ [child] ↔ way.names = root.drop (root.length - way.ups) ++ [child] := by
  have parts := List.take_append_drop (root.length - way.ups) root
  rw [Way.from]
  nth_rewrite 3 [← parts]
  rw [List.append_assoc, List.append_cancel_left_eq]

end Paths
