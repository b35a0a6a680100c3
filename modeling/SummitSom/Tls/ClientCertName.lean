import SummitSom.Marks.Pieces
import Mathlib.Data.Fintype.Prod

set_option autoImplicit false

namespace SummitSom.Tls

open Marks

abbrev Text := List Char

-- The peer certificate's subject: RDNs of attribute types and values.
abbrev Subject := List (List (String × Text))

inductive ShortName where
  | CN
  | L
  | ST
  | O
  | OU
  | C
  | STREET
  | DC
  | UID
deriving DecidableEq

instance : Fintype ShortName where
  elems := {.CN, .L, .ST, .O, .OU, .C, .STREET, .DC, .UID}
  complete short := by cases short <;> decide

def ShortName.text : ShortName → Text
  | .CN => "CN".toList
  | .L => "L".toList
  | .ST => "ST".toList
  | .O => "O".toList
  | .OU => "OU".toList
  | .C => "C".toList
  | .STREET => "STREET".toList
  | .DC => "DC".toList
  | .UID => "UID".toList

def RDNS_MAPPING : List (String × ShortName) :=
  [("commonName", .CN), ("localityName", .L), ("stateOrProvinceName", .ST), ("organizationName", .O),
    ("organizationalUnitName", .OU), ("countryName", .C), ("streetAddress", .STREET), ("domainComponent", .DC),
    ("userId", .UID)]

def TLS_VERSION_MAP : List (String × Nat) :=
  [("TLSv1", 0x0301), ("TLSv1.1", 0x0302), ("TLSv1.2", 0x0303), ("TLSv1.3", 0x0304)]

-- An SSL object without a peer certificate gives none, or an empty dictionary.
structure SslObject (Item : Type) where
  peercert : Option Subject
  binary_form : List UInt8
  version : Option String
  cipher : List Item

structure TlsInfo (Item : Type) where
  server_cert : Option Text
  client_cert_chain : List Text
  client_cert_name : Option Text
  client_cert_error : Option Text
  tls_version : Option Nat
  cipher_suite : List Item

def mappedEntry (entry : String × Text) : Option (ShortName × Text) :=
  (RDNS_MAPPING.lookup entry.1).map fun short => (short, entry.2)

-- The attributes of a mapped type, in the order they are printed in.
def mappedRdn (rdn : List (String × Text)) : List (ShortName × Text) := rdn.reverse.filterMap mappedEntry

def entryString (entry : ShortName × Text) : Text := entry.1.text ++ (" = ".toList ++ entry.2)

def rdnString (rdn : List (String × Text)) : Text := "+".toList.intercalate ((mappedRdn rdn).map entryString)

def clientCertName (subject : Subject) : Text :=
  let rdn_strings := subject.map rdnString
  if rdn_strings = [] then [] else ", ".toList.intercalate rdn_strings

def getTlsInfo {Item : Type} (DER_cert_to_PEM_cert : List UInt8 → Text) (ssl_object : SslObject Item) : Option (TlsInfo Item) :=
  ssl_object.peercert.map fun subject =>
    { server_cert := none
      client_cert_chain := [DER_cert_to_PEM_cert ssl_object.binary_form]
      client_cert_name := some (clientCertName subject)
      client_cert_error := none
      tls_version := ssl_object.version.bind fun version => TLS_VERSION_MAP.lookup version
      cipher_suite := ssl_object.cipher }

-- What the name shows of a subject. An empty one shows like a single RDN of
-- which no type is mapped.
def shown (subject : Subject) : List (List (ShortName × Text)) :=
  if subject = [] then [[]] else subject.map mappedRdn

-- The first attribute of an RDN comes behind a comma, the others behind a plus.
def certMarks : MarkSet Char (Bool × ShortName) where
  delimiter letter := letter == ',' || letter == '+'
  gap := ", ".toList
  mark kind := (if kind.1 then ", ".toList else "+".toList) ++ (kind.2.text ++ " = ".toList)
  gap_opens := by decide
  mark_opens := by decide +kernel
  apart := by decide +kernel
  longer := by decide +kernel

def Clear (subject : Subject) : Prop :=
  ∀ rdn ∈ subject, ∀ entry ∈ rdn, mappedEntry entry ≠ none → Free certMarks entry.2

def rdnPieces : List (ShortName × Text) → List (Piece Char (Bool × ShortName))
  | [] => [.gap]
  | first :: others => .value (true, first.1) first.2 :: others.map fun entry => .value (false, entry.1) entry.2

def pieces (rdns : List (List (ShortName × Text))) : List (Piece Char (Bool × ShortName)) := rdns.flatMap rdnPieces

theorem intercalate_cons (separator first : Text) (rest : List Text) :
    separator.intercalate (first :: rest) = first ++ rest.flatMap fun part => separator ++ part := by
  induction rest generalizing first with
  | nil => simp [List.intercalate]
  | cons second rest ih =>
      have step : separator.intercalate (first :: second :: rest) =
          first ++ (separator ++ separator.intercalate (second :: rest)) := by
        simp [List.intercalate, List.intersperse]
      rw [step, ih second, List.flatMap_cons, List.append_assoc]

theorem plus_text (others : List (ShortName × Text)) (rest : List (Piece Char (Bool × ShortName))) :
    text certMarks ((others.map fun entry => .value (false, entry.1) entry.2) ++ rest) =
      (others.map entryString).flatMap (fun part => "+".toList ++ part) ++ text certMarks rest := by
  induction others with
  | nil => rfl
  | cons entry others ih =>
      rw [List.map_cons, List.cons_append, text, ih, List.map_cons, List.flatMap_cons, entryString]
      simp only [certMarks, Bool.false_eq_true, if_false, List.append_assoc]

theorem rdn_text (entries : List (ShortName × Text)) (rest : List (Piece Char (Bool × ShortName))) :
    text certMarks (rdnPieces entries ++ rest) =
      (", ".toList ++ "+".toList.intercalate (entries.map entryString)) ++ text certMarks rest := by
  cases entries with
  | nil => rfl
  | cons first others =>
      rw [rdnPieces, List.cons_append, text, plus_text, List.map_cons, intercalate_cons, entryString]
      simp only [certMarks, if_true, List.append_assoc]

theorem pieces_text (rdns : List (List (ShortName × Text))) :
    text certMarks (pieces rdns) =
      (rdns.map fun entries => "+".toList.intercalate (entries.map entryString)).flatMap fun part => ", ".toList ++ part := by
  induction rdns with
  | nil => rfl
  | cons entries rdns ih => rw [pieces, List.flatMap_cons, rdn_text, List.map_cons, List.flatMap_cons, ← ih, pieces]

theorem name_text (subject : Subject) : ", ".toList ++ clientCertName subject = text certMarks (pieces (shown subject)) := by
  cases subject with
  | nil => rfl
  | cons rdn subject =>
      rw [clientCertName, shown, if_neg (by simp), pieces_text]
      simp only [List.map_cons, if_neg (List.cons_ne_nil _ _), intercalate_cons, List.flatMap_cons, List.map_map, rdnString,
        List.append_assoc]
      rfl

-- The further attributes of an RDN end where the next one begins.
theorem others_unique (one other : List (ShortName × Text)) (rdns others : List (List (ShortName × Text)))
    (same : (one.map fun entry => Piece.value (false, entry.1) entry.2) ++ pieces rdns =
      (other.map fun entry => Piece.value (false, entry.1) entry.2) ++ pieces others) :
    one = other ∧ pieces rdns = pieces others := by
  have next : ∀ (rdns : List (List (ShortName × Text))) (entry : ShortName × Text) (rest : List (Piece Char (Bool × ShortName))),
      pieces rdns ≠ .value (false, entry.1) entry.2 :: rest := by
    intro rdns entry rest here
    cases rdns with
    | nil => exact absurd here (by simp [pieces])
    | cons entries rdns =>
        cases entries with
        | nil => exact absurd here (by simp [pieces, rdnPieces])
        | cons first entries => exact absurd here (by simp [pieces, rdnPieces])
  induction one generalizing other with
  | nil =>
      cases other with
      | nil => exact ⟨rfl, same⟩
      | cons entry other => exact absurd same (next rdns entry _)
  | cons entry one ih =>
      cases other with
      | nil => exact absurd same.symm (next others entry _)
      | cons another other =>
          simp only [List.map_cons, List.cons_append, List.cons.injEq, Piece.value.injEq, Prod.mk.injEq, true_and] at same
          obtain ⟨entries, rest⟩ := ih other same.2
          exact ⟨by rw [Prod.ext same.1.1 same.1.2, entries], rest⟩

theorem pieces_injective (rdns others : List (List (ShortName × Text))) (same : pieces rdns = pieces others) :
    rdns = others := by
  induction rdns generalizing others with
  | nil =>
      cases others with
      | nil => rfl
      | cons entries others => cases entries <;> exact absurd same (by simp [pieces, rdnPieces])
  | cons entries rdns ih =>
      cases others with
      | nil => cases entries <;> exact absurd same (by simp [pieces, rdnPieces])
      | cons another others =>
          rw [pieces, pieces, List.flatMap_cons, List.flatMap_cons] at same
          cases entries with
          | nil =>
              cases another with
              | nil => rw [ih others (List.append_cancel_left same)]
              | cons first another => exact absurd same (by simp [rdnPieces])
          | cons first entries =>
              cases another with
              | nil => exact absurd same (by simp [rdnPieces])
              | cons head another =>
                  simp only [rdnPieces, List.cons_append, List.cons.injEq, Piece.value.injEq, Prod.mk.injEq, true_and] at same
                  obtain ⟨rest, later⟩ := others_unique entries another rdns others same.2
                  rw [Prod.ext same.1.1 same.1.2, rest, ih others later]

theorem pieces_value (rdns : List (List (ShortName × Text))) (kind : Bool × ShortName) (content : Text)
    (there : .value kind content ∈ pieces rdns) : ∃ entries ∈ rdns, (kind.2, content) ∈ entries := by
  obtain ⟨entries, present, inside⟩ := List.mem_flatMap.mp there
  refine ⟨entries, present, ?_⟩
  cases entries with
  | nil => exact absurd inside (by simp [rdnPieces])
  | cons first others =>
      rcases List.mem_cons.mp inside with leading | following
      · simp only [Piece.value.injEq] at leading
        rw [leading.1, leading.2]
        exact List.mem_cons_self
      · obtain ⟨entry, further, same⟩ := List.mem_map.mp following
        simp only [Piece.value.injEq] at same
        rw [← same.1, ← same.2]
        exact List.mem_cons_of_mem _ further

theorem clear_pieces (subject : Subject) (clear : Clear subject) : AllFree certMarks (pieces (shown subject)) := by
  intro kind content there
  obtain ⟨entries, present, inside⟩ := pieces_value _ kind content there
  rw [shown] at present
  split at present
  · rw [List.mem_singleton.mp present] at inside
    exact absurd inside List.not_mem_nil
  · obtain ⟨rdn, listed, rfl⟩ := List.mem_map.mp present
    obtain ⟨entry, among, printed⟩ := List.mem_filterMap.mp inside
    have value : entry.2 = content := by
      obtain ⟨short, _, same⟩ := Option.map_eq_some_iff.mp printed
      exact (Prod.mk.inj same).2
    exact value ▸ clear rdn listed entry (List.mem_reverse.mp among) (by rw [printed]; exact Option.some_ne_none _)

section Names

variable {Item : Type} (DER_cert_to_PEM_cert : List UInt8 → Text) (one other : SslObject Item) (subject another : Subject)

theorem name_reported (present : one.peercert = some subject) :
    (getTlsInfo DER_cert_to_PEM_cert one).map TlsInfo.client_cert_name = some (some (clientCertName subject)) := by
  rw [getTlsInfo, present]
  rfl

theorem client_cert_name_iff (present : one.peercert = some subject) (there : other.peercert = some another)
    (clear : Clear subject) (clean : Clear another) :
    (getTlsInfo DER_cert_to_PEM_cert one).map TlsInfo.client_cert_name =
      (getTlsInfo DER_cert_to_PEM_cert other).map TlsInfo.client_cert_name ↔ shown subject = shown another := by
  rw [name_reported _ one subject present, name_reported _ other another there, Option.some_inj, Option.some_inj]
  constructor
  · intro same
    have texts := congrArg (", ".toList ++ ·) same
    simp only [name_text] at texts
    exact pieces_injective _ _ (text_injective certMarks _ _ (clear_pieces subject clear) (clear_pieces another clean) texts)
  · intro same
    refine (List.append_right_inj ", ".toList).mp ?_
    rw [name_text, name_text, same]

end Names

def peer (subject : Subject) : SslObject Unit := ⟨some subject, [], some "TLSv1.3", []⟩

def named (value : String) : Subject := [[("countryName", "US".toList)], [("commonName", value.toList)]]

theorem named_clear (value : String) (free : Free certMarks value.toList) : Clear (named value) := by
  intro rdn there entry among _
  have country : Free certMarks "US".toList := ⟨by decide +kernel, by decide +kernel⟩
  simp only [named, List.mem_cons, List.not_mem_nil, or_false] at there
  rcases there with rfl | rfl
  · rw [List.mem_singleton.mp among]
    exact country
  · rw [List.mem_singleton.mp among]
    exact free

theorem client_cert_name_named :
    (getTlsInfo (fun _ => []) (peer (named "one"))).map TlsInfo.client_cert_name ≠
      (getTlsInfo (fun _ => []) (peer (named "two"))).map TlsInfo.client_cert_name :=
  (client_cert_name_iff (fun _ => []) (peer (named "one")) (peer (named "two")) (named "one") (named "two") rfl rfl
    (named_clear "one" ⟨by decide +kernel, by decide +kernel⟩)
    (named_clear "two" ⟨by decide +kernel, by decide +kernel⟩)).not.mpr (by decide)

-- An attribute whose type has no short name does not show.
theorem client_cert_name_mail : ¬ ∀ (DER_cert_to_PEM_cert : List UInt8 → Text) (one other : SslObject Unit)
    (subject another : Subject), one.peercert = some subject → other.peercert = some another → subject ≠ another →
    (getTlsInfo DER_cert_to_PEM_cert one).map TlsInfo.client_cert_name ≠
      (getTlsInfo DER_cert_to_PEM_cert other).map TlsInfo.client_cert_name := by
  intro all
  exact all (fun _ => []) (peer [[("emailAddress", ['a'])]]) (peer [[("emailAddress", ['b'])]]) _ _ rfl rfl (by decide) rfl

end SummitSom.Tls
