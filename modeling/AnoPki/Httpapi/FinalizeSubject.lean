import AnoPki.Core.Subject
import AnoPki.Domain.Types
import AnoPki.Foundation.Base64
import AnoPki.Foundation.Strings

/-! # The subject of an ACME certificate

A client that finalizes an order sends its request for a certificate in DER. The service prints the
subject of that request as `pkix.Name` does, with commas and backslashes, and hands the text to the
core, which looks for slashes. -/
namespace AnoPki.Httpapi

open Foundation Domain AnoPki.Core List Text ErrKind

variable {type : AttributeType} {value text : Text} {c : Char} {rdn : List (AttributeType × Text)}

/-- The attributes of a parsed name in their order; every value is a string. -/
abbrev PkixName := List (AttributeType × Text)

def attributeTypeNames : List (AttributeType × Text) :=
  [([2, 5, 4, 6], ['C']), ([2, 5, 4, 10], ['O']), ([2, 5, 4, 11], ['O', 'U']),
    (commonName, ['C', 'N']), (serialNumber, "SERIALNUMBER"), ([2, 5, 4, 7], ['L']),
    ([2, 5, 4, 8], ['S', 'T']), ([2, 5, 4, 9], "STREET"), ([2, 5, 4, 17], "POSTALCODE")]

/-- Write a backslash before a sign, before a blank at either end and before a number sign in
front. -/
def escapeFrom (first : Bool) : Text → Text
  | [] => []
  | c :: rest =>
    if c = ',' ∨ c = '+' ∨ c = '"' ∨ c = '\\' ∨ c = '<' ∨ c = '>' ∨ c = ';' ∨
        c = ' ' ∧ (first ∨ rest = []) ∨ c = '#' ∧ first then
      '\\' :: c :: escapeFrom false rest
    else c :: escapeFrom false rest

def escapeValue (value : Text) : Text := escapeFrom true value

def oidString (type : AttributeType) : Text := intercalate ['.'] (type.map decimal)

/-- The characters of a `PrintableString`. -/
def isPrintableString (c : Char) : Bool :=
  c.isAlphanum || '&' < c && c ≤ ')' || '+' ≤ c && c ≤ '/' || c = ' ' || c =
    ':' || c = '=' || c = '?'

def derLength (n : Nat) : List UInt8 :=
  if n < 128 then [UInt8.ofNat n]
  else
    let octets := ((Nat.digits 256 n).reverse).map UInt8.ofNat
    UInt8.ofNat (128 + octets.length) :: octets

/-- `asn1.Marshal` of a string. -/
def derString (value : Text) : List UInt8 :=
  (if value.all isPrintableString then 0x13 else 0x0c) :: derLength value.utf8.length ++ value.utf8

/-- A type and its value; the value of a type without a name is written in DER. -/
def attributeString (entry : AttributeType × Text) : Text :=
  match attributeTypeNames.lookup entry.1 with
  | some name => name ++ '=' :: escapeValue entry.2
  | none => oidString entry.1 ++ '=' :: '#' :: hexEncode (derString entry.2)

def rdnString (rdn : List (AttributeType × Text)) : Text :=
  intercalate ['+'] (rdn.map attributeString)

/-- The parts of a name, the last one first. -/
def rdnSequenceString (rdns : List (List (AttributeType × Text))) : Text :=
  intercalate [','] (rdns.reverse.map rdnString)

namespace PkixName

variable (names : PkixName)

def valuesOf (type : AttributeType) : List Text := (names.filter (·.1 = type)).map (·.2)

/-- The types that a parsed name keeps all values of, in the order in which they are printed. -/
def repeatedTypes : List AttributeType :=
  [[2, 5, 4, 6], [2, 5, 4, 10], [2, 5, 4, 11], [2, 5, 4, 7], [2, 5, 4, 8],
    [2, 5, 4, 9], [2, 5, 4, 17]]

/-- The types that a parsed name keeps the last value of. -/
def singleTypes : List AttributeType := [commonName, serialNumber]

/-- All values of a type make one part. -/
def repeatedPart (type : AttributeType) : Option (List (AttributeType × Text)) :=
  match names.valuesOf type with
  | [] => none
  | values => some (values.map fun value => (type, value))

def singlePart (type : AttributeType) : Option (List (AttributeType × Text)) :=
  match (names.valuesOf type).getLast? with
  | none => none
  | some value => if value = [] then none else some [(type, value)]

def toRDNSequence : List (List (AttributeType × Text)) :=
  repeatedTypes.filterMap names.repeatedPart ++ singleTypes.filterMap names.singlePart

/-- The values of other types come first, so that they are printed last. -/
def rdnSequence : List (List (AttributeType × Text)) :=
  (names.filter fun entry => !(repeatedTypes ++ singleTypes).contains entry.1).map ([·]) ++
    names.toRDNSequence

def string : Text := rdnSequenceString names.rdnSequence

end PkixName

section Finalizing

/-- What the service reads of a certificate request; addresses as they are printed. -/
structure CertificateRequest where
  subject : PkixName
  dnsNames : List Text
  ipAddresses : List (Option Text)
deriving DecidableEq

structure FinalizeACMEOrderRequest where
  csrPEM : Text := []
  csr : Text := []
  requestedSubject : Text := []
deriving DecidableEq

/-- The decoders of the standard library. -/
structure RequestReader where
  /-- Base64 with padding (`base64.URLEncoding`). -/
  urlDecode : Text → Option (List UInt8)
  /-- `x509.ParseCertificateRequest`. -/
  parse : List UInt8 → Option CertificateRequest
  pemEncode : List UInt8 → Text

variable (reader : RequestReader)

def decodeACMECSR (encoded : Text) : Option (List UInt8) :=
  match Base64.rawURLDecode encoded with
  | some der => some der
  | none => reader.urlDecode encoded

def acmeDefaultSubjectFromCSR (csr : CertificateRequest) : Text :=
  match csr.dnsNames.find? fun name => name.trimSpace ≠ [] with
  | some name => PkixName.string [(commonName, name)]
  | none =>
    match csr.ipAddresses.findSome? id with
    | some ip => PkixName.string [(commonName, ip)]
    | none => []

/-- The request in PEM and the subject to ask the core for. -/
def normalizeACMEFinalizeRequest (req : FinalizeACMEOrderRequest) : Except Err (Text × Text) :=
  if req.csrPEM.trimSpace ≠ [] then .ok (req.csrPEM, req.requestedSubject)
  else if req.csr.trimSpace = [] then .error invalidRequest.err
  else
    match decodeACMECSR reader req.csr with
    | none => .error invalidRequest.err
    | some der =>
      match reader.parse der with
      | none => .error invalidRequest.err
      | some csr =>
        let subject := if req.requestedSubject.trimSpace = [] then csr.subject.string
          else req.requestedSubject
        let subject := if subject.trimSpace = [] then acmeDefaultSubjectFromCSR csr else subject
        if subject.trimSpace = [] then .error invalidRequest.err
        else .ok (reader.pemEncode der, subject)

end Finalizing

/-- A byte below 128 stands for its own character. -/
theorem mem_of_mem_utf8 (ascii : c.toNat < 128) (inside : UInt8.ofNat c.toNat ∈ text.utf8) :
    c ∈ text := by
  obtain ⟨d, there, encoded⟩ := mem_flatMap.mp inside
  suffices same : c = d by rwa [same]
  apply Char.toNat_inj.mp
  have value : d.val.toNat = d.toNat := rfl
  rw [String.utf8EncodeChar, value] at encoded
  -- In a longer sequence every byte is at least 128.
  split_ifs at encoded <;> simp only [mem_cons, not_mem_nil, or_false, ← UInt8.toNat_inj,
    UInt8.toNat_ofNat'] at encoded <;> omega

theorem slash_mem_utf8_iff : slash ∈ text.utf8 ↔ '/' ∈ text := by
  constructor
  · exact fun inside => mem_of_mem_utf8 (c := '/') (by decide) inside
  · intro inside
    exact mem_flatMap.mpr ⟨'/', inside, by decide⟩

theorem trimSpace_ne_nil (inside : c ∈ text) (kept : isSpace c = false) :
    text.trimSpace ≠ [] := by
  intro gone
  rw [trimSpace, trim, rdropWhile_eq_nil_iff] at gone
  have dropped : text.dropWhile isSpace = [] := by
    rw [← dropWhile_idempotent, dropWhile_eq_nil_iff]
    exact gone
  rw [dropWhile_eq_nil_iff] at dropped
  simp [dropped c inside] at kept

theorem mem_attributeTypeNames {name} (named : attributeTypeNames.lookup type = some name) :
    (type, name) ∈ attributeTypeNames := by
  obtain ⟨front, back, whole, -⟩ := lookup_eq_some_iff.mp named
  rw [whole]
  simp

theorem mem_oidString (inside : c ∈ oidString type) : c = '.' ∨ c.isDigit := by
  rcases mem_intercalate inside with dot | ⟨text, listed, here⟩
  · exact .inl (mem_singleton.mp dot)
  · obtain ⟨n, -, rfl⟩ := mem_map.mp listed
    exact .inr (isDigit_of_mem_decimal here)

theorem slash_not_mem_escapeFrom (apart : '/' ∉ value) (first : Bool) :
    '/' ∉ escapeFrom first value := by
  induction value generalizing first with
  | nil => exact not_mem_nil
  | cons c rest ih =>
    rw [mem_cons, not_or] at apart
    have later := ih apart.2 false
    rw [escapeFrom]
    split
    · simp [apart.1, later]
    · simp [apart.1, later]

theorem slash_not_mem_hexEncode (bytes : List UInt8) : '/' ∉ hexEncode bytes := by
  have digits : ∀ n < 16, '/' ≠ Nat.digitChar n := by decide
  intro inside
  obtain ⟨byte, -, here⟩ := mem_flatMap.mp inside
  have bound := byte.toNat_lt
  simp only [hexByte, mem_cons, not_mem_nil, or_false] at here
  rcases here with same | same
  · exact digits _ (by omega) same
  · exact digits _ (by omega) same

theorem slash_not_mem_attributeString {entry} (apart : '/' ∉ entry.2) :
    '/' ∉ attributeString entry := by
  rw [attributeString]
  split
  · next name named =>
    have plain : ∀ pair ∈ attributeTypeNames, '/' ∉ pair.2 := by decide
    have plain := plain _ (mem_attributeTypeNames named)
    have escaped := slash_not_mem_escapeFrom apart true
    rw [mem_append, mem_cons, not_or, not_or]
    exact ⟨plain, by decide, escaped⟩
  · have number : '/' ∉ oidString entry.1 := by
      intro inside
      rcases mem_oidString inside with same | digit
      · cases same
      · cases digit
    simp [number, slash_not_mem_hexEncode]

namespace PkixName

variable {names : PkixName}

theorem mem_valuesOf : value ∈ names.valuesOf type ↔ (type, value) ∈ names := by
  simp [valuesOf]

theorem repeatedPart_eq_some : names.repeatedPart type = some rdn ↔
      names.valuesOf type ≠ [] ∧ rdn = (names.valuesOf type).map fun value => (type, value) := by
  rw [repeatedPart]
  cases names.valuesOf type with
  | nil => simp
  | cons value values => simp [eq_comm]

theorem singlePart_eq_some : names.singlePart type = some rdn ↔
      ∃ value, (names.valuesOf type).getLast? = some value ∧ value ≠ [] ∧
      rdn = [(type, value)] := by
  rw [singlePart]
  cases (names.valuesOf type).getLast? with
  | none => simp
  | some value =>
    by_cases empty : value = []
    · simp [empty]
    · simp [empty, eq_comm]

/-- The parts of a name are made of its attributes, and none is empty. -/
theorem mem_rdnSequence (inside : rdn ∈ names.rdnSequence) : rdn ≠ [] ∧ rdn ⊆ names := by
  rw [rdnSequence, toRDNSequence, mem_append, mem_append, mem_map, mem_filterMap,
    mem_filterMap] at inside
  rcases inside with ⟨entry, other, rfl⟩ | ⟨type, -, part⟩ | ⟨type, -, part⟩
  · exact ⟨cons_ne_nil _ _, by simpa using (mem_filter.mp other).1⟩
  · obtain ⟨filled, rfl⟩ := repeatedPart_eq_some.mp part
    refine ⟨by simpa using filled, fun entry listed => ?_⟩
    obtain ⟨value, given, rfl⟩ := mem_map.mp listed
    exact mem_valuesOf.mp given
  · obtain ⟨value, last, -, rfl⟩ := singlePart_eq_some.mp part
    exact ⟨cons_ne_nil _ _, by simpa using mem_valuesOf.mp (mem_of_getLast? last)⟩

/-- A name without a text has a common name or a serial number that is empty. -/
theorem empty_of_rdnSequence (filled : names ≠ []) (gone : names.rdnSequence = []) :
    ∃ type, (type = commonName ∨ type = serialNumber) ∧ (type, []) ∈ names := by
  rw [rdnSequence, toRDNSequence, append_eq_nil_iff, append_eq_nil_iff, map_eq_nil_iff,
    filter_eq_nil_iff, filterMap_eq_nil_iff, filterMap_eq_nil_iff] at gone
  obtain ⟨named, repeated, single⟩ := gone
  obtain ⟨⟨type, value⟩, inside⟩ := exists_mem_of_ne_nil _ filled
  have listed : type ∈ repeatedTypes ++ singleTypes := by
    simpa [or_iff_not_imp_left] using named _ inside
  have values : names.valuesOf type ≠ [] := ne_nil_of_mem (mem_valuesOf.mpr inside)
  rcases mem_append.mp listed with many | one
  · have part := repeatedPart_eq_some.mpr ⟨values, rfl⟩
    rw [repeated type many] at part
    cases part
  · have last := getLast?_eq_some_getLast values
    have empty : (names.valuesOf type).getLast values = [] := by
      by_contra other
      have part := singlePart_eq_some.mpr ⟨_, last, other, rfl⟩
      rw [single type one] at part
      cases part
    rw [empty] at last
    exact ⟨type, by simpa [singleTypes] using one, mem_valuesOf.mp (mem_of_getLast? last)⟩

theorem string_ne_blank (parts : names.rdnSequence ≠ []) : names.string.trimSpace ≠ [] := by
  obtain ⟨rdn, listed⟩ := exists_mem_of_ne_nil _ parts
  obtain ⟨entry, inside⟩ := exists_mem_of_ne_nil _ (mem_rdnSequence listed).1
  have sign : '=' ∈ attributeString entry := by
    rw [attributeString]
    split <;> simp
  refine trimSpace_ne_nil (c := '=') ?_ (by decide)
  refine mem_intercalate_of_mem (mem_map_of_mem (mem_reverse.mpr listed)) ?_
  exact mem_intercalate_of_mem (mem_map_of_mem inside) sign

theorem slash_not_mem_string (apart : ∀ entry ∈ names, '/' ∉ entry.2) : '/' ∉ names.string := by
  intro inside
  rcases mem_intercalate inside with comma | ⟨text, listed, here⟩
  · cases mem_singleton.mp comma
  obtain ⟨rdn, part, rfl⟩ := mem_map.mp listed
  rcases mem_intercalate here with plus | ⟨text, listed, here⟩
  · cases mem_singleton.mp plus
  obtain ⟨entry, there, rfl⟩ := mem_map.mp listed
  have given := (mem_rdnSequence (mem_reverse.mp part)).2 there
  exact slash_not_mem_attributeString (apart entry given) here

/-- A single attribute is one part, unless it is an empty common name or serial number. -/
theorem string_alone (filled : type = commonName ∨ type = serialNumber → value ≠ []) :
    string [(type, value)] = attributeString (type, value) := by
  have alone : rdnSequence [(type, value)] = [[(type, value)]] := by
    by_cases listed : type ∈ repeatedTypes ++ singleTypes
    · simp only [repeatedTypes, singleTypes, cons_append, nil_append, mem_cons,
        not_mem_nil, or_false] at listed
      rcases listed with rfl | rfl | rfl | rfl | rfl | rfl | rfl | rfl | rfl
      case inr.inr.inr.inr.inr.inr.inr.inl =>
        obtain ⟨c, rest, rfl⟩ := exists_cons_of_ne_nil (filled (.inl rfl))
        rfl
      case inr.inr.inr.inr.inr.inr.inr.inr =>
        obtain ⟨c, rest, rfl⟩ := exists_cons_of_ne_nil (filled (.inr rfl))
        rfl
      all_goals rfl
    · have absent : ∀ other ∈ repeatedTypes ++ singleTypes,
          valuesOf [(type, value)] other = [] := by
        intro other inside
        simp [valuesOf, ne_of_mem_of_not_mem inside listed |>.symm]
      have repeated : repeatedTypes.filterMap (repeatedPart [(type, value)]) = [] := by
        rw [filterMap_eq_nil_iff]
        intro other inside
        simp [repeatedPart, absent other (mem_append_left _ inside)]
      have single : singleTypes.filterMap (singlePart [(type, value)]) = [] := by
        rw [filterMap_eq_nil_iff]
        intro other inside
        simp [singlePart, absent other (mem_append_right _ inside)]
      have kept : (!(repeatedTypes ++ singleTypes).contains type) = true := by simpa using listed
      rw [rdnSequence, toRDNSequence, repeated, single, filter_singleton]
      rw [kept]
      rfl
  simp [string, alone, rdnSequenceString, rdnString]

end PkixName

section Subjects

variable {types : NameTypes} {reader : RequestReader} {req : FinalizeACMEOrderRequest}
  {csr : CertificateRequest}

/-- A finalize request with a request in DER and no subject of its own. -/
structure Carries (reader : RequestReader) (req : FinalizeACMEOrderRequest)
    (csr : CertificateRequest) : Prop where
  noPEM : req.csrPEM.trimSpace = []
  noSubject : req.requestedSubject.trimSpace = []
  filled : req.csr.trimSpace ≠ []
  parsed : (decodeACMECSR reader req.csr).bind reader.parse = some csr

/-- A value that both syntaxes write alike, under a type that the core finds by its printed name. -/
structure SharedSyntax (types : NameTypes) (type : AttributeType) (value : Text) : Prop where
  known : ∃ name, attributeTypeNames.lookup type = some name ∧ types.find name.utf8 = some type
  plain : escapeValue value = value
  apart : '/' ∉ value
  short : value.utf8.length ≤ 2147483647
  taken : types.takes type value.utf8 = true

/-- The subject of the request as entries of a certificate. -/
def CertificateRequest.entries (csr : CertificateRequest) : X509Name :=
  csr.subject.map fun entry => (entry.1, entry.2.utf8)

/-- The subject that is chosen: the printed one, or one from the names when that is blank. -/
theorem normalizeFinalize_ok (carries : Carries reader req csr)
    (printed : csr.subject.string.trimSpace ≠ []) :
    ∃ pem, normalizeACMEFinalizeRequest reader req = .ok (pem, csr.subject.string) := by
  obtain ⟨der, decoded, parsed⟩ := Option.bind_eq_some_iff.mp carries.parsed
  refine ⟨reader.pemEncode der, ?_⟩
  rw [normalizeACMEFinalizeRequest, if_neg (not_not.mpr carries.noPEM),
    if_neg carries.filled, decoded]
  dsimp only
  rw [parsed]
  dsimp only
  rw [if_pos carries.noSubject, if_neg printed, if_neg printed]

theorem length_le_utf8 (text : Text) : text.length ≤ text.utf8.length := by
  induction text with
  | nil => exact Nat.le_refl _
  | cons c rest ih =>
    have one : 1 ≤ (String.utf8EncodeChar c).length := by
      rw [String.length_utf8EncodeChar]
      exact Char.utf8Size_pos c
    rw [show utf8 (c :: rest) = String.utf8EncodeChar c ++ utf8 rest from rfl,
      length_append, length_cons]
    omega

/-- The names of types are keys that the core takes whole. -/
theorem attributeTypeNames_keys : ∀ pair ∈ attributeTypeNames, pair.2.utf8 ≠ [] ∧
    equalsSign ∉ pair.2.utf8 ∧ pair.2.utf8.takeWhile (· ≠ 0) = pair.2.utf8 := by
  decide

/-- The entry that the core reads from a single printed attribute. -/
theorem addSubjectPart_attributeString :
    addSubjectPart types (attributeString (type, value)).utf8 = some (type, value.utf8) ↔
      (∃ name, attributeTypeNames.lookup type = some name ∧ types.find name.utf8 = some type) ∧
        escapeValue value = value ∧ value.utf8.length ≤ 2147483647 ∧
        types.takes type value.utf8 = true := by
  have sign (rest : Text) : utf8 ('=' :: rest) = equalsSign :: rest.utf8 := rfl
  rw [attributeString]
  cases named : attributeTypeNames.lookup type with
  | none =>
    have number : equalsSign ∉ (oidString type).utf8 := by
      intro inside
      rcases mem_oidString (mem_of_mem_utf8 (c := '=') (by decide) inside) with same | digit
      · cases same
      · cases digit
    rw [utf8_append, sign, addSubjectPart_split number]
    constructor
    · rintro ⟨-, -, -, -, same⟩
      -- The hexadecimal text is longer than the value.
      have length := congrArg length (utf8_injective same)
      have bytes := length_le_utf8 value
      simp only [length_cons, length_hexEncode, derString, length_append] at length
      omega
    · rintro ⟨⟨name, absurdity, -⟩, -⟩
      cases absurdity
  | some name =>
    obtain ⟨filled, apart, whole⟩ := attributeTypeNames_keys _ (mem_attributeTypeNames named)
    rw [utf8_append, sign, addSubjectPart_split apart, whole]
    constructor
    · rintro ⟨-, short, found, taken, same⟩
      have same := utf8_injective same
      rw [same] at short taken
      exact ⟨⟨name, rfl, found⟩, same, short, taken⟩
    · rintro ⟨⟨other, listed, found⟩, same, short, taken⟩
      cases listed
      rw [same]
      exact ⟨filled, short, found, taken, rfl⟩

/-- A subject whose values the core takes is printed. -/
theorem string_ne_blank_of_taken {names : PkixName} (filled : names ≠ [])
    (taken : ∀ entry ∈ names, types.takes entry.1 entry.2.utf8 = true) :
    names.string.trimSpace ≠ [] := by
  refine PkixName.string_ne_blank fun gone => ?_
  obtain ⟨type, which, inside⟩ := PkixName.empty_of_rdnSequence filled gone
  have empty := taken _ inside
  rw [show utf8 [] = [] from rfl, types.takes_filled which] at empty
  cases empty

theorem string_alone_of_taken (taken : types.takes type value.utf8 = true) :
    PkixName.string [(type, value)] = attributeString (type, value) := by
  refine PkixName.string_alone fun which empty => ?_
  rw [empty, show utf8 [] = [] from rfl, types.takes_filled which] at taken
  cases taken

/-- A printed subject without slashes is one part. -/
theorem fields_string {names : PkixName} (printed : names.string.trimSpace ≠ [])
    (apart : ∀ entry ∈ names, '/' ∉ entry.2) :
    fields slash names.string.utf8 = [names.string.utf8] := by
  refine fields_alone (fun slashed => ?_) fun empty => printed ?_
  · exact PkixName.slash_not_mem_string apart (slash_mem_utf8_iff.mp slashed)
  · rw [@utf8_injective _ [] empty]
    rfl

/-- The certificate has the subject of the request exactly when that is a single attribute that both
syntaxes write alike. -/
theorem finalized_subject_iff (types : NameTypes) (reader : RequestReader)
    {req : FinalizeACMEOrderRequest} {csr : CertificateRequest} (carries : Carries reader req csr)
    (filled : csr.subject ≠ []) :
    (∃ pem subject, normalizeACMEFinalizeRequest reader req = .ok (pem, subject) ∧
        makeSubjectFromRequest types subject.utf8 = some csr.entries) ↔
      ∃ type value, csr.subject = [(type, value)] ∧ SharedSyntax types type value := by
  constructor
  · rintro ⟨pem, subject, normalized, made⟩
    have entries : ∀ entry ∈ csr.subject, Made types (entry.1, entry.2.utf8) :=
      fun entry inside => makeSubject_made made _ (mem_map_of_mem inside)
    have apart : ∀ entry ∈ csr.subject, '/' ∉ entry.2 :=
      fun entry inside slashed => (entries entry inside).apart (slash_mem_utf8_iff.mpr slashed)
    have printed := string_ne_blank_of_taken filled fun entry inside => (entries entry inside).taken
    obtain ⟨pem', normalized'⟩ := normalizeFinalize_ok carries printed
    cases Except.ok.inj (normalized'.symm.trans normalized)
    rw [makeSubject_eq_some, fields_string printed apart, CertificateRequest.entries,
      forall₂_map_right_iff, forall₂_cons_left_iff] at made
    obtain ⟨⟨type, value⟩, rest, here, ends, alone⟩ := made
    rw [forall₂_nil_left_iff.mp ends] at alone
    obtain ⟨-, apart, -, taken⟩ := entries (type, value) (by simp [alone])
    rw [alone, string_alone_of_taken taken] at here
    obtain ⟨known, plain, short, taken⟩ := addSubjectPart_attributeString.mp here
    exact ⟨type, value, alone, known, plain, mt slash_mem_utf8_iff.mpr apart, short, taken⟩
  · rintro ⟨type, value, alone, known, plain, apart, short, taken⟩
    have printed : csr.subject.string.trimSpace ≠ [] :=
      @string_ne_blank_of_taken types _ filled (by simpa [alone] using taken)
    obtain ⟨pem, normalized⟩ := normalizeFinalize_ok carries printed
    refine ⟨pem, _, normalized, ?_⟩
    rw [makeSubject_eq_some, fields_string printed (by simpa [alone] using apart),
      CertificateRequest.entries, alone, string_alone_of_taken taken]
    exact .cons (addSubjectPart_attributeString.mpr ⟨known, plain, short, taken⟩) .nil

/-- A reader that finds a request with some subject in every document. -/
def requestOf (subject : PkixName) : RequestReader where
  urlDecode _ := none
  parse _ := some { subject, dnsNames := [['a', '.', 't', 'e', 's', 't']], ipAddresses := [] }
  pemEncode _ := []

/-- A single common name. -/
theorem web_subject_finalized :
    ∃ pem subject, normalizeACMEFinalizeRequest (requestOf [(commonName, ['w', 'e', 'b'])])
        { csr := ['A', 'A'] } = .ok (pem, subject) ∧
      makeSubjectFromRequest shortTypes subject.utf8 = some [(commonName, [119, 101, 98])] :=
  (@finalized_subject_iff shortTypes (requestOf [(commonName, ['w', 'e', 'b'])])
      { csr := ['A', 'A'] } ⟨[(commonName, ['w', 'e', 'b'])], [['a', '.', 't', 'e', 's', 't']], []⟩
      ⟨by decide, by decide, by decide, by decide⟩ (by decide)).mpr
    ⟨commonName, ['w', 'e', 'b'], rfl,
      ⟨['C', 'N'], rfl, rfl⟩, by decide, by decide, by decide, by decide⟩

/-- An organization and a common name become one common name, with a comma inside. -/
theorem organization_subject_merged :
    normalizeACMEFinalizeRequest
        (requestOf [([2, 5, 4, 10], ['O', 'p', 's']), (commonName, ['w', 'e', 'b'])])
      { csr := ['A', 'A'] } = .ok ([], "CN=web,O=Ops".toList) ∧
        makeSubjectFromRequest shortTypes (utf8 "CN=web,O=Ops") =
      some [(commonName, utf8 "web,O=Ops")] ∧ [(commonName, utf8 "web,O=Ops")] ≠
        [([2, 5, 4, 10], utf8 ['O', 'p', 's']), (commonName, utf8 ['w', 'e', 'b'])] := by
  decide +kernel

end Subjects

end AnoPki.Httpapi
