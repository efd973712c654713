import AnoPki.Core.JsonParser

/-! # The requests of the core

The records the core works on and the functions that build them from a parsed request file. Lists of
records travel as parallel arrays, which must have one length. -/
namespace AnoPki.Core

open Foundation

structure IssueRequest where
  csrPem : Text
  issuerCertificatePem : Text
  issuerKeyRef : Text
  aiaUrl : Text
  crlDistributionPoints : List Text
  subject : Text
  dnsNames : List Text
  ipAddresses : List Text
  notBefore : Text
  notAfter : Text
  signatureAlgorithm : Text
  profileId : Text
  basicConstraintsCritical : Bool
  basicConstraintsCa : Bool
  basicConstraintsMaxPathLen : Int
  keyUsageCritical : Bool
  keyUsage : List Text
  extendedKeyUsageCritical : Bool
  extendedKeyUsage : List Text
  subjectKeyIdentifier : Bool
  authorityKeyIdentifier : Bool
deriving DecidableEq, Repr

structure RevokedCertificate where
  serialNumber : Text
  revokedAt : Text
  reason : Text
deriving DecidableEq, Repr

structure GenerateCRLRequest where
  issuerCertificatePem : Text
  issuerKeyRef : Text
  crlNumber : Int
  thisUpdate : Text
  nextUpdate : Text
  revokedCertificates : List RevokedCertificate
deriving DecidableEq, Repr

structure OCSPCertificateStatus where
  serialNumber : Text
  status : Text
  revokedAt : Text
  revocationReason : Text
  hashAlgorithm : Text
  issuerNameHash : Text
  issuerKeyHash : Text
deriving DecidableEq, Repr

structure GenerateOCSPResponseRequest where
  requestDer : List UInt8
  issuerCertificatePem : Text
  issuerKeyRef : Text
  thisUpdate : Text
  nextUpdate : Text
  certificates : List OCSPCertificateStatus
deriving DecidableEq, Repr

def issueRequestFromJson (json : Text) : Option IssueRequest := do
  let object ← JsonParser.parseObject json
  return {
    csrPem := ← getStringField object "csr_pem"
    issuerCertificatePem := ← getStringField object "issuer_certificate_pem"
    issuerKeyRef := ← getStringField object "issuer_key_ref"
    aiaUrl := ← getStringField object "aia_url"
    crlDistributionPoints := ← getStringArrayField object "crl_distribution_points"
    subject := ← getStringField object "subject"
    dnsNames := ← getStringArrayField object "dns_names"
    ipAddresses := ← getStringArrayField object "ip_addresses"
    notBefore := ← getStringField object "not_before"
    notAfter := ← getStringField object "not_after"
    signatureAlgorithm := ← getStringField object "signature_algorithm"
    profileId := ← getStringField object "profile_id"
    basicConstraintsCritical := ← getBoolField object "basic_constraints_critical"
    basicConstraintsCa := ← getBoolField object "basic_constraints_ca"
    basicConstraintsMaxPathLen := ← getIntField object "basic_constraints_max_path_len" (-1)
    keyUsageCritical := ← getBoolField object "key_usage_critical"
    keyUsage := ← getStringArrayField object "key_usage"
    extendedKeyUsageCritical := ← getBoolField object "extended_key_usage_critical"
    extendedKeyUsage := ← getStringArrayField object "extended_key_usage"
    subjectKeyIdentifier := ← getBoolField object "subject_key_identifier"
    authorityKeyIdentifier := ← getBoolField object "authority_key_identifier" }

/-- The record at an index of the parallel arrays of a CRL request. -/
def revokedCertificate (serials revokedAtTimes reasons : List Text) (index : Nat) :
    RevokedCertificate where
  serialNumber := serials.getD index []
  revokedAt := revokedAtTimes.getD index []
  reason := reasons.getD index []

def crlRequestFromJson (json : Text) : Option GenerateCRLRequest := do
  let object ← JsonParser.parseObject json
  let issuerCertificatePem ← getStringField object "issuer_certificate_pem"
  let issuerKeyRef ← getStringField object "issuer_key_ref"
  let crlNumber ← getInt64Field object "crl_number" 0
  let thisUpdate ← getStringField object "this_update"
  let nextUpdate ← getStringField object "next_update"
  let serials ← getStringArrayField object "revoked_serial_numbers"
  let revokedAtTimes ← getStringArrayField object "revoked_at_times"
  let reasons ← getStringArrayField object "revocation_reasons"
  if serials.length ≠ revokedAtTimes.length ∨ serials.length ≠ reasons.length then none
  else
    return {
      issuerCertificatePem, issuerKeyRef, crlNumber, thisUpdate, nextUpdate
      revokedCertificates := (List.range serials.length).map
        (revokedCertificate serials revokedAtTimes reasons) }

/-- The record at an index of the parallel arrays of an OCSP request. An entry of an empty optional
array stays empty. -/
def ocspCertificateStatus (serials statuses revokedAtTimes reasons hashAlgorithms issuerNameHashes
    issuerKeyHashes : List Text) (index : Nat) : OCSPCertificateStatus where
  serialNumber := serials.getD index []
  status := statuses.getD index []
  revokedAt := revokedAtTimes.getD index []
  revocationReason := reasons.getD index []
  hashAlgorithm := hashAlgorithms.getD index []
  issuerNameHash := issuerNameHashes.getD index []
  issuerKeyHash := issuerKeyHashes.getD index []

def ocspResponseRequestFromJson (json : Text) (requestDer : List UInt8) :
    Option GenerateOCSPResponseRequest := do
  let object ← JsonParser.parseObject json
  let issuerCertificatePem ← getStringField object "issuer_certificate_pem"
  let issuerKeyRef ← getStringField object "issuer_key_ref"
  let thisUpdate ← getStringField object "this_update"
  let nextUpdate ← getStringField object "next_update"
  let serials ← getStringArrayField object "serial_numbers"
  let statuses ← getStringArrayField object "statuses"
  let hashAlgorithms ← getStringArrayField object "hash_algorithms"
  let issuerNameHashes ← getStringArrayField object "issuer_name_hashes"
  let issuerKeyHashes ← getStringArrayField object "issuer_key_hashes"
  let revokedAtTimes ← getStringArrayField object "revoked_at_times"
  let reasons ← getStringArrayField object "revocation_reasons"
  if serials.length ≠ statuses.length ∨ serials.length ≠ revokedAtTimes.length ∨
      serials.length ≠ reasons.length then none
  else if (hashAlgorithms ≠ [] ∧ hashAlgorithms.length ≠ serials.length) ∨
      (issuerNameHashes ≠ [] ∧ issuerNameHashes.length ≠ serials.length) ∨
      (issuerKeyHashes ≠ [] ∧ issuerKeyHashes.length ≠ serials.length) then none
  else
    return {
      requestDer, issuerCertificatePem, issuerKeyRef, thisUpdate, nextUpdate
      certificates := (List.range serials.length).map (ocspCertificateStatus serials statuses
        revokedAtTimes reasons hashAlgorithms issuerNameHashes issuerKeyHashes) }

end AnoPki.Core
