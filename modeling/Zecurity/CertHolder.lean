import Mathlib.Data.List.DropRight
import Zecurity.PostureEvaluation
import Zecurity.Runs

/-!
The connector's certificate material: how it is loaded, how a renewal reply is checked
(`CertHolder::load`, `verify_renewed` and `build_material` in
`connector/src/tls/cert_holder.rs`), and which issuers of revocation lists the CA bundle yields
(`crl_issuers` in `connector/src/crl.rs`).

The readers of PEM, X.509 certificates and keys and the check of a signature are functions of
which one thing is assumed: a text that is put together from two is read as one after the other.
-/

namespace Zecurity.CertHolder

open Checks
open PostureEvaluation (isSpace)

/-- An extension: not parsed, absent, or with a value. -/
inductive Extension (α : Type)
  | malformed
  | absent
  | present (value : α)

inductive GeneralName
  | uri (uri : String)
  | other

structure KeyUsage where
  keyCertSign : Bool
  crlSign : Bool

structure Certificate where
  subject : String
  issuer : String
  publicKey : String
  rawSerial : List UInt8
  notBefore : Int
  notAfter : Int
  subjectAlternativeName : Extension (List GeneralName)
  isCa : Bool
  keyUsage : Extension KeyUsage
  /-- the path length constraint of the basic constraints -/
  pathLen : Extension (Option ℕ)

/-- The characters of a file. -/
abbrev Pem := List Char

def trimEnd (text : Pem) : Pem := text.rdropWhile isSpace

/-- What the libraries answer. -/
structure Libraries (Der : Type) where
  certs : Pem → Option (List Der)
  certs_joined : ∀ first second ders ders', certs first = some ders → certs second = some ders' →
    certs (trimEnd first ++ '\n' :: trimEnd second) = some (ders ++ ders')
  certificate : Der → Option Certificate
  trailing : Der → Bool
  verifySignature : Certificate → String → Bool
  keySpkiDer : String → Except String String
  privateKey : String → Except String Unit
  certifiedKey : List Der → String → Bool

/-- The three files, and what was read of them. -/
structure CertStore where
  certPem : Pem
  keyPem : String
  workspaceCaPem : Pem
  deriving DecidableEq

structure CertMaterial (Der : Type) where
  store : CertStore
  serialHex : List Char
  notAfterUnix : Int
  certifiedKey : List Der
  deriving DecidableEq

structure Holder (Der : Type) where
  spiffeId : String
  keySpkiDer : String
  current : CertMaterial Der
  deriving DecidableEq

/-- A field of the reply. -/
structure Field where
  pem : Pem
  utf8 : Bool

variable {Der : Type} (lib : Libraries Der)

def parsePemChain (pem : Pem) (label : String) : Except String (List Der) := do
  let chain ← orFail ("parse " ++ label ++ " PEM") (lib.certs pem)
  ensure (chain ≠ []) (label ++ " PEM contains no certificates")
  return chain

def spiffeUris (cert : Certificate) : List String :=
  match cert.subjectAlternativeName with
  | .present names => names.filterMap fun
    | .uri uri => if uri.startsWith "spiffe://" then some uri else none
    | .other => none
  | _ => []

/-- Lowercase hex without leading zeros. -/
def serialHex (rawSerial : List UInt8) : List Char :=
  let hex := rawSerial.flatMap fun b => [Nat.digitChar (b.toNat / 16), Nat.digitChar (b.toNat % 16)]
  let trimmed := hex.dropWhile (· = '0')
  if trimmed = [] then ['0'] else trimmed

/-- `format!("{}\n{}", first.trim_end(), second.trim_end())`. -/
def joined (first second : Field) : Pem := trimEnd first.pem ++ '\n' :: trimEnd second.pem

def verifyRenewed [DecidableEq Der] (current : CertMaterial Der) (spiffeId keySpkiDer : String)
    (leafPem workspaceCaPem intermediateCaPem : Field) (now : Int) : Except String CertStore := do
  let leafChain ← parsePemChain lib leafPem.pem "renewed certificate"
  ensure (leafChain.length = 1)
    ("renewed certificate PEM must contain exactly one certificate, got "
      ++ toString leafChain.length)
  let leaf ← orFail "parse renewed certificate" (leafChain.head?.bind lib.certificate)
  ensure (spiffeUris leaf = [spiffeId]) ("renewed certificate is not for " ++ spiffeId)
  ensure (leaf.publicKey = keySpkiDer)
    "renewed certificate is not for the connector's existing key"
  let currentBundle ← parsePemChain lib current.store.workspaceCaPem "current CA bundle"
  let newWorkspace ← parsePemChain lib workspaceCaPem.pem "returned Workspace CA"
  let newIntermediate ← parsePemChain lib intermediateCaPem.pem "returned Intermediate CA"
  ensure (newWorkspace.head? = currentBundle.head?)
    "returned Workspace CA does not match the pinned Workspace CA"
  ensure (newIntermediate.getLast? = currentBundle.getLast?)
    "returned Intermediate CA does not match the pinned Intermediate CA"
  let workspaceCa ← orFail "parse Workspace CA" (newWorkspace.head?.bind lib.certificate)
  ensure (lib.verifySignature leaf workspaceCa.publicKey)
    "renewed certificate is not signed by the Workspace CA"
  ensure (serialHex leaf.rawSerial ≠ current.serialHex)
    "controller returned the current certificate, not a renewal"
  ensure (now < leaf.notAfter) "renewed certificate is already expired"
  ensure leafPem.utf8 "renewed certificate is not UTF-8"
  ensure workspaceCaPem.utf8 "Workspace CA is not UTF-8"
  ensure intermediateCaPem.utf8 "Intermediate CA is not UTF-8"
  return {
    certPem := joined leafPem workspaceCaPem
    keyPem := current.store.keyPem
    workspaceCaPem := joined workspaceCaPem intermediateCaPem }

/-- The certificate file of a material: its chain and its leaf, which is for the SPIFFE id and
the key. -/
def checkedLeaf (spiffeId keySpkiDer : String) (certPem : Pem) (keyPem : String) :
    Except String (List Der × Certificate) := do
  let chain ← parsePemChain lib certPem "connector certificate"
  let leaf ← orFail "parse connector certificate" (chain.head?.bind lib.certificate)
  ensure (spiffeId ∈ spiffeUris leaf) ("connector certificate is not for " ++ spiffeId)
  ensure (leaf.publicKey = keySpkiDer) "connector certificate does not belong to connector.key"
  lib.privateKey keyPem
  ensure (lib.certifiedKey chain keyPem) "build rustls key for connector certificate"
  return (chain, leaf)

def buildMaterial (spiffeId keySpkiDer : String) (store : CertStore) :
    Except String (CertMaterial Der) := do
  let (chain, leaf) ← checkedLeaf lib spiffeId keySpkiDer store.certPem store.keyPem
  return ⟨store, serialHex leaf.rawSerial, leaf.notAfter, chain⟩

/-- `CertHolder::load`, on the files that `CertStore::load` reads. -/
def load (store : CertStore) (spiffeId : String) : Except String (Holder Der) := do
  let keySpkiDer ← lib.keySpkiDer store.keyPem
  let material ← buildMaterial lib spiffeId keySpkiDer store
  return ⟨spiffeId, keySpkiDer, material⟩

/-- What `install_renewed` does before it writes. -/
def renewed [DecidableEq Der] (h : Holder Der)
    (leafPem workspaceCaPem intermediateCaPem : Field) (now : Int) :
    Except String (CertMaterial Der) := do
  let store ← verifyRenewed lib h.current h.spiffeId h.keySpkiDer leafPem workspaceCaPem
    intermediateCaPem now
  buildMaterial lib h.spiffeId h.keySpkiDer store

/-! ### The issuers of revocation lists -/

/-- The two issuers, by the bytes that their PEM texts encode. -/
structure CrlIssuers (Der : Type) where
  workspaceCa : Der
  intermediate : Der

def issuerCertificates (pem : Pem) (label : String) : Except String (List Der) :=
  orFail ("failed to parse " ++ label) (lib.certs pem)

def parseCrlSigningCa (der : Der) (label : String) (now : Int) : Except String Certificate := do
  let cert ← orFail (label ++ " parse error") (lib.certificate der)
  ensure (lib.trailing der = false) ("trailing data after " ++ label)
  ensure cert.isCa (label ++ " is not a CA certificate")
  match cert.keyUsage with
  | .malformed => throw (label ++ " key usage")
  | .absent => throw (label ++ " has no key usage")
  | .present usage =>
    ensure (usage.keyCertSign ∧ usage.crlSign) (label ++ " may not sign certificates and CRLs")
    ensure (cert.notBefore ≤ now ∧ now ≤ cert.notAfter) (label ++ " is outside its validity period")
    return cert

def issuedBy (child issuer : Certificate) : Bool :=
  child.issuer = issuer.subject ∧ lib.verifySignature child issuer.publicKey

/-- Which of two certificates issued the other: the Workspace CA and the Intermediate. -/
def roles (first second : Der × Certificate) :
    Except String ((Der × Certificate) × (Der × Certificate)) :=
  match issuedBy lib first.2 second.2, issuedBy lib second.2 first.2 with
  | true, false => .ok (first, second)
  | false, true => .ok (second, first)
  | true, true => .error "CA bundle certificates certify each other"
  | false, false => .error "CA bundle is not a Workspace CA issued by the Platform Intermediate"

def crlIssuers [DecidableEq Der] (bundlePem : Pem) (now : Int) :
    Except String (CrlIssuers Der) := do
  let ders ← issuerCertificates lib bundlePem "CA bundle"
  match ders with
  | [firstDer, secondDer] =>
    ensure (firstDer ≠ secondDer) "CA bundle contains the same certificate twice"
    let first ← parseCrlSigningCa lib firstDer "first CA bundle certificate" now
    let second ← parseCrlSigningCa lib secondDer "second CA bundle certificate" now
    ensure (first.subject ≠ second.subject) "CA bundle certificates have the same subject"
    let (workspace, intermediate) ← roles lib (firstDer, first) (secondDer, second)
    ensure (issuedBy lib intermediate.2 intermediate.2 = false)
      "Platform Intermediate must not be self-signed"
    ensure (issuedBy lib workspace.2 workspace.2 = false) "Workspace CA must not be self-signed"
    match intermediate.2.pathLen with
    | .malformed => throw "Platform Intermediate basic constraints"
    | .present (some 0) =>
      throw "Platform Intermediate may not issue CA certificates (path length 0)"
    | _ => return ⟨workspace.1, intermediate.1⟩
  | ders =>
    throw ("CA bundle must be exactly the Workspace CA and the Platform Intermediate, got "
      ++ toString ders.length ++ " certificates")

/-! ### What the functions do -/

variable {lib} {spiffeId keySpkiDer : String} {store : CertStore} {now : Int} {bun : Pem}
  {chain : List Der}

lemma parsePemChain_ok {pem label} (h : parsePemChain lib pem label = .ok chain) :
    lib.certs pem = some chain ∧ chain ≠ [] := by
  simp only [parsePemChain, bind_eq_ok, orFail_eq_ok, ensure_eq_ok] at h
  obtain ⟨chain', hc, -, hne, hch⟩ := h
  cases hch
  exact ⟨hc, hne⟩

/-- **A reply that passes**: its fields are read, the first certificate of its Workspace CA and
the last one of its Intermediate are those of the bundle, and the new files are put together from
its fields. -/
lemma verifyRenewed_ok [DecidableEq Der] {cur leafPem ca ica}
    (h : verifyRenewed lib cur spiffeId keySpkiDer leafPem ca ica now = .ok store) :
    ∃ bundle workspace intermediate, lib.certs cur.store.workspaceCaPem = some bundle ∧
      lib.certs ca.pem = some workspace ∧ workspace ≠ [] ∧
      lib.certs ica.pem = some intermediate ∧ intermediate ≠ [] ∧
      workspace.head? = bundle.head? ∧ intermediate.getLast? = bundle.getLast? ∧
      store = ⟨joined leafPem ca, cur.store.keyPem, joined ca ica⟩ := by
  simp only [verifyRenewed, bind_eq_ok, orFail_eq_ok, ensure_eq_ok] at h
  obtain ⟨-, -, -, -, -, -, -, -, -, -, bundle, hb, workspace, hw, intermediate,
    hi, -, hf, -, hl, -, -, -, -, -, -, -, -, -, -, -, -, -, -, hs⟩ := h
  obtain ⟨hw, hne⟩ := parsePemChain_ok hw
  obtain ⟨hi, hne'⟩ := parsePemChain_ok hi
  exact ⟨bundle, workspace, intermediate, (parsePemChain_ok hb).1, hw, hne,
    hi, hne', hf, hl, (Except.ok.inj hs).symm⟩

lemma checkedLeaf_ok {certPem keyPem leaf}
    (h : checkedLeaf lib spiffeId keySpkiDer certPem keyPem = .ok (chain, leaf)) :
    lib.certs certPem = some chain ∧ chain.head?.bind lib.certificate = some leaf ∧
      spiffeId ∈ spiffeUris leaf ∧ leaf.publicKey = keySpkiDer := by
  simp only [checkedLeaf, bind_eq_ok, orFail_eq_ok, ensure_eq_ok] at h
  obtain ⟨chain', hc, leaf', hl, -, hs, -, hk, -, -, -, -, heq⟩ := h
  obtain ⟨rfl, rfl⟩ := Prod.mk.inj (Except.ok.inj heq)
  exact ⟨(parsePemChain_ok hc).1, hl, hs, hk⟩

lemma buildMaterial_ok_iff {mat} :
    buildMaterial lib spiffeId keySpkiDer store = .ok mat ↔
      ∃ chain leaf, checkedLeaf lib spiffeId keySpkiDer store.certPem store.keyPem =
          .ok (chain, leaf) ∧ mat = ⟨store, serialHex leaf.rawSerial, leaf.notAfter, chain⟩ := by
  simp only [buildMaterial, bind_eq_ok, Prod.exists]
  refine exists_congr fun chain => exists_congr fun leaf => and_congr_right fun _ => ?_
  exact ⟨fun h => (Except.ok.inj h).symm, fun h => by rw [h]; rfl⟩

lemma load_ok_iff {h} :
    load lib store spiffeId = .ok h ↔ lib.keySpkiDer store.keyPem = .ok h.keySpkiDer ∧
      h.spiffeId = spiffeId ∧ buildMaterial lib spiffeId h.keySpkiDer store = .ok h.current := by
  simp only [load, bind_eq_ok]
  constructor
  · rintro ⟨keySpkiDer, hk, material, hm, heq⟩
    cases heq
    exact ⟨hk, rfl, hm⟩
  · rintro ⟨hk, rfl, hm⟩
    exact ⟨h.keySpkiDer, hk, h.current, hm, rfl⟩

lemma crlIssuers_congr [DecidableEq Der] {bun'} (h : lib.certs bun = lib.certs bun') (now : Int) :
    crlIssuers lib bun now = crlIssuers lib bun' now := by
  simp only [crlIssuers, issuerCertificates, h]

lemma certs_of_crlIssuers [DecidableEq Der] {iss} (h : crlIssuers lib bun now = .ok iss) :
    ∃ first second, lib.certs bun = some [first, second] := by
  simp only [crlIssuers, issuerCertificates, bind_eq_ok, orFail_eq_ok] at h
  obtain ⟨ders, hd, h⟩ := h
  split at h
  · next first second => exact ⟨first, second, hd⟩
  · cases h

end Zecurity.CertHolder
