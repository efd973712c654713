import AnoPki.Core.Ocsp
import AnoPki.Foundation.Fields
import AnoPki.Foundation.Strings

/-! # Subject alternative names of a certificate

The core hands the names of a request to OpenSSL as one configuration text, a list of entries with a
comma between them, and takes no care that a name holds a comma itself. The text names exactly what
was requested when every name stands in it as OpenSSL reads it back. -/
namespace AnoPki.Core

open Foundation List Text

def appendAltName (altNames kind value : Text) : Text :=
  (if altNames = [] then [] else altNames ++ [',']) ++ kind ++ value

/-- The text of the extension; there is no extension when no name is requested. -/
def addSubjectAltNames (request : IssueRequest) : Option Text :=
  let altNames := request.dnsNames.foldl (fun altNames dnsName =>
    appendAltName altNames "DNS:" dnsName) []
  let altNames := request.ipAddresses.foldl (fun altNames ipAddress =>
    appendAltName altNames "IP:" ipAddress) altNames
  if altNames = [] then none else some altNames

/-- The blanks of a configuration text. -/
def isConfSpace (c : Char) : Bool := [' ', '\t', '\n', '\x0b', '\x0c', '\r'].contains c

/-- A piece of a configuration text: a type, and a value behind the first colon. -/
def confValue (piece : Text) : Text × Option Text :=
  match piece.cut ':' with
  | none => (piece.trim isConfSpace, none)
  | some (name, value) => (name.trim isConfSpace, some (value.trim isConfSpace))

/-- How `X509V3_EXT_conf_nid` reads the text, which ends at its first zero character. -/
def confValues (text : Text) : List (Text × Option Text) :=
  ((cString text).splitOn ',').map confValue

/-- The entries that OpenSSL finds for a request. -/
def subjectAltNames (request : IssueRequest) : List (Text × Option Text) :=
  ((addSubjectAltNames request).map confValues).getD []

inductive AltNameKind where
  | dns
  | ip
deriving DecidableEq, Repr

def AltNameKind.text : AltNameKind → Text
  | dns => "DNS"
  | ip => "IP"

/-- The names a request asks for: its DNS names and then its IP addresses. -/
def requestedAltNames (dnsNames ipAddresses : List Text) : List (AltNameKind × Text) :=
  dnsNames.map (fun dnsName => (.dns, dnsName)) ++ ipAddresses.map fun ipAddress => (.ip, ipAddress)

/-- A name that stands for itself in a configuration text. -/
structure Plain (name : Text) : Prop where
  comma : ',' ∉ name
  zero : Char.ofNat 0 ∉ name
  trimmed : name.trim isConfSpace = name

instance (name : Text) : Decidable (Plain name) :=
  decidable_of_iff (',' ∉ name ∧ Char.ofNat 0 ∉ name ∧ name.trim isConfSpace = name)
    ⟨fun ⟨comma, zero, trimmed⟩ => ⟨comma, zero, trimmed⟩,
      fun plain => ⟨plain.comma, plain.zero, plain.trimmed⟩⟩

/-- What is read from a configuration text is plain, whatever the text. -/
theorem plain_of_mem_confValues {text kind value}
    (member : (kind, some value) ∈ confValues text) : Plain value := by
  obtain ⟨piece, inside, read⟩ := mem_map.mp member
  rw [confValue] at read
  split at read
  case h_1 => cases read
  case h_2 name rest found =>
    obtain ⟨-, same⟩ := Prod.mk.inj read
    cases same
    have part : rest.trim isConfSpace ⊆ piece := by
      intro c here
      rw [cut_eq_some found]
      exact mem_append_right _ (mem_cons_of_mem _ (trim_subset _ _ here))
    refine ⟨fun comma => not_mem_of_mem_splitOn inside (part comma), ?_, trim_trim _ _⟩
    intro zero
    have within := mem_takeWhile_imp (subset_of_mem_splitOn inside (part zero))
    simp at within

/-- An entry with a plain value is read as it was written. -/
theorem confValue_entry {kind value} (colon : ':' ∉ kind)
    (trimmed : kind.trim isConfSpace = kind) (plain : Plain value) :
    confValue (kind ++ ':' :: value) = (kind, some value) := by
  rw [confValue, cut_append colon]
  simp only [trimmed, plain.trimmed]

/-- A name as it is written: its kind, a colon and the name. -/
def altNameText (entry : AltNameKind × Text) : Text := entry.1.text ++ ':' :: entry.2

theorem altNameText_ne_nil (entry : AltNameKind × Text) : altNameText entry ≠ [] := by
  simp [altNameText]

/-- One more name stands behind a comma. -/
theorem appendAltName_eq {altNames} (written : altNames ≠ []) (entry : AltNameKind × Text) :
    appendAltName altNames (entry.1.text ++ [':']) entry.2 =
      altNames ++ ',' :: altNameText entry := by
  simp [appendAltName, altNameText, written]

theorem foldl_appendAltName {altNames} (written : altNames ≠ [])
    (entries : List (AltNameKind × Text)) :
    entries.foldl (fun altNames entry => appendAltName altNames (entry.1.text ++ [':']) entry.2)
      altNames = [','].intercalate (altNames :: entries.map altNameText) := by
  induction entries generalizing altNames with
  | nil => simp
  | cons entry entries ih =>
    have longer : altNames ++ ',' :: altNameText entry ≠ [] := by simp [written]
    rw [foldl_cons, appendAltName_eq written, ih longer, map_cons]
    cases entries <;> simp [List.intercalate, append_assoc]

theorem addSubjectAltNames_eq (request : IssueRequest) : addSubjectAltNames request =
      if requestedAltNames request.dnsNames request.ipAddresses = [] then none
      else some ([','].intercalate
        ((requestedAltNames request.dnsNames request.ipAddresses).map altNameText)) := by
  have folded : addSubjectAltNames request =
      let altNames := (requestedAltNames request.dnsNames request.ipAddresses).foldl
        (fun altNames entry => appendAltName altNames (entry.1.text ++ [':']) entry.2) []
      if altNames = [] then none else some altNames := by
    rw [requestedAltNames, foldl_append, foldl_map, foldl_map]
    rfl
  rw [folded]
  cases requestedAltNames request.dnsNames request.ipAddresses with
  | nil => rfl
  | cons entry entries =>
    have first : appendAltName [] (entry.1.text ++ [':']) entry.2 = altNameText entry := by
      simp [appendAltName, altNameText]
    have nonempty : [','].intercalate (altNameText entry :: entries.map altNameText) ≠ [] := by
      cases entries <;> simp [List.intercalate, altNameText_ne_nil]
    simp only [foldl_cons, first, foldl_appendAltName (altNameText_ne_nil entry),
      map_cons, reduceCtorEq, nonempty, if_false]

theorem mem_requestedAltNames_iff {dnsNames ipAddresses name} : name ∈ dnsNames ++ ipAddresses ↔
      ∃ kind, (kind, name) ∈ requestedAltNames dnsNames ipAddresses := by
  constructor
  · intro member
    rcases mem_append.mp member with member | member
    · exact ⟨.dns, mem_append_left _ (mem_map_of_mem member)⟩
    · exact ⟨.ip, mem_append_right _ (mem_map_of_mem member)⟩
  · rintro ⟨kind, member⟩
    rcases mem_append.mp member with member | member <;>
      obtain ⟨_, inside, same⟩ := mem_map.mp member <;>
      cases same
    · exact mem_append_left _ inside
    · exact mem_append_right _ inside

/-- Plain names are read back one by one. -/
theorem confValues_intercalate {entries} (nonempty : entries ≠ [])
    (plain : ∀ entry ∈ entries, Plain entry.2) :
    confValues ([','].intercalate (entries.map altNameText)) =
      entries.map fun entry => (entry.1.text, some entry.2) := by
  have kinds : ∀ kind : AltNameKind, ',' ∉ kind.text ∧ ':' ∉ kind.text ∧
      Char.ofNat 0 ∉ kind.text ∧ kind.text.trim isConfSpace = kind.text := by
    intro kind
    cases kind <;> decide
  have apart : ∀ text ∈ entries.map altNameText, ',' ∉ text := by
    intro text member
    obtain ⟨entry, inside, rfl⟩ := mem_map.mp member
    simp [altNameText, (kinds entry.1).1, (plain entry inside).comma]
  have whole : cString ([','].intercalate (entries.map altNameText)) =
      [','].intercalate (entries.map altNameText) := by
    apply takeWhile_eq_self_iff.mpr
    intro c inside
    refine decide_eq_true fun zero => ?_
    rw [zero] at inside
    rcases mem_intercalate inside with here | ⟨text, member, here⟩
    · simp at here
    · obtain ⟨entry, entered, rfl⟩ := mem_map.mp member
      rcases mem_append.mp here with here | here
      · exact (kinds entry.1).2.2.1 here
      · exact (plain entry entered).zero (mem_of_ne_of_mem (by decide) here)
  rw [confValues, whole, splitOn_intercalate _ apart (by simpa using nonempty), map_map]
  apply map_congr_left
  intro entry inside
  exact confValue_entry (kinds entry.1).2.1 (kinds entry.1).2.2.2 (plain entry inside)

/-- OpenSSL finds exactly the names of a request when, and only when, each of them is plain. -/
theorem subjectAltNames_eq_iff (request : IssueRequest) :
    subjectAltNames request = (requestedAltNames request.dnsNames request.ipAddresses).map
        (fun entry => (entry.1.text, some entry.2)) ↔
      ∀ name ∈ request.dnsNames ++ request.ipAddresses, Plain name := by
  simp only [mem_requestedAltNames_iff, forall_exists_index]
  rw [subjectAltNames, addSubjectAltNames_eq]
  by_cases empty : requestedAltNames request.dnsNames request.ipAddresses = []
  · rw [if_pos empty, empty]
    exact iff_of_true rfl fun name kind member => nomatch member
  · rw [if_neg empty, Option.map_some, Option.getD_some]
    constructor
    · intro same name kind member
      apply plain_of_mem_confValues
      rw [same]
      exact mem_map_of_mem member
    · intro plain
      exact confValues_intercalate empty fun entry member => plain entry.2 entry.1 member

end AnoPki.Core
