import Mathlib.Data.Int.Order.Basic
import Mathlib.Tactic.Common

/-!
The shield's workspace revocation list (`shield/src/crl.rs`) and the verdict on a connector
(`crl_verdict` in `shield/src/control_stream.rs`).

Of the certificates and lists, what the checks read is kept: a list says which key its signature
verifies under. Unix times are seconds; instants are nanoseconds of the monotonic clock.
-/

namespace Zecurity.WorkspaceCrl

abbrev Serial := List UInt8

instance : LawfulBEq Serial := inferInstance

/-! ### Verifying a list -/

/-- A key identifier extension: absent, not parsed as one, without an identifier, or with one. -/
inductive KeyId
  | absent
  | malformed
  | unnamed
  | key (id : List UInt8)

structure IssuerCert where
  subject : String
  subjectKeyId : KeyId
  publicKey : String

structure Crl where
  issuer : String
  authorityKeyId : KeyId
  /-- the key that the signature verifies under, if any -/
  signer : Option String
  lastUpdate : Int
  nextUpdate : Option Int
  revoked : List Serial

/-- The bytes of a list: what they parse to, and whether bytes are left. -/
structure Der where
  crl : Option Crl
  remaining : Bool

structure ValidCrl where
  revoked : List Serial
  thisUpdate : Int
  nextUpdate : Int

def validateUpdateTimes (thisUpdate : Int) (nextUpdate : Option Int) (now : Int) :
    Except String Int :=
  if now < thisUpdate then .error "CRL thisUpdate is in the future"
  else
    match nextUpdate with
    | none => .error "CRL is missing nextUpdate"
    | some nextUpdate =>
      if nextUpdate ≤ thisUpdate then .error "CRL nextUpdate is not after thisUpdate"
      else if nextUpdate ≤ now then .error "CRL has expired"
      else .ok nextUpdate

def crlKeyId : KeyId → Except String (List UInt8)
  | .absent => .error "CRL has no Authority Key Identifier"
  | .malformed => .error "CRL AKI extension is malformed"
  | .unnamed => .error "CRL AKI has no key identifier"
  | .key id => .ok id

def issuerKeyId : KeyId → Except String (List UInt8)
  | .absent => .error "issuer CA has no Subject Key Identifier"
  | .malformed | .unnamed => .error "issuer CA SKI extension is malformed"
  | .key id => .ok id

/-- The checks against the issuer; the file of the issuer must be one certificate. -/
def validateIssuer (crl : Crl) (issuerCaPem : List IssuerCert) : Except String Unit :=
  match issuerCaPem with
  | [issuer] =>
    if crl.issuer ≠ issuer.subject then
      .error "crl issuer does not match expected ca subject"
    else
      match crlKeyId crl.authorityKeyId with
      | .error err => .error err
      | .ok crlKey =>
        match issuerKeyId issuer.subjectKeyId with
        | .error err => .error err
        | .ok issuerKey =>
          if crlKey ≠ issuerKey then
            .error "CRL Authority Key Identifier does not match issuer CA"
          else if crl.signer ≠ some issuer.publicKey then
            .error "CRL signature verification failed"
          else .ok ()
  | certs =>
    .error ("CRL issuer must be exactly one CA certificate, got " ++ toString certs.length)

def validateCrl (crl : Crl) (issuerCaPem : List IssuerCert) (now : Int) : Except String ValidCrl :=
  match validateIssuer crl issuerCaPem with
  | .error err => .error err
  | .ok () =>
    match validateUpdateTimes crl.lastUpdate crl.nextUpdate now with
    | .error err => .error err
    | .ok nextUpdate => .ok ⟨crl.revoked, crl.lastUpdate, nextUpdate⟩

def verified (der : Der) (workspaceCaPem : List IssuerCert) (now : Int) : Except String ValidCrl :=
  match der.crl with
  | none => .error "CRL parse error"
  | some crl =>
    if der.remaining then .error "trailing data after crl"
    else validateCrl crl workspaceCaPem now

/-! ### The store -/

inductive RevocationStatus
  | revoked
  | notRevoked
  | unavailable

structure CrlStore where
  current : Option ValidCrl
  /-- since when the shield is asked without a list valid then -/
  noValidSince : Option ℕ

def CrlStore.default : CrlStore := ⟨none, none⟩

/-- A new process starts from the saved list, if that still verifies under the stored CA. -/
def load (saved : Option Der) (issuers : Option (List IssuerCert)) (now : Int) : CrlStore :=
  match saved, issuers with
  | some der, some workspaceCaPem =>
    match verified der workspaceCaPem now with
    | .ok crl => { CrlStore.default with current := some crl }
    | .error _ => .default
  | _, _ => .default

/-- The store after an offer, and the list if it was installed. -/
def offer (store : CrlStore) (der : Der) (workspaceCaPem : List IssuerCert) (now : Int) :
    Except String (CrlStore × Option ValidCrl) :=
  match verified der workspaceCaPem now with
  | .error err => .error err
  | .ok crl =>
    if store.current.any fun c => crl.thisUpdate ≤ c.thisUpdate then .ok (store, none)
    else .ok ({ store with current := some crl }, some crl)

/-- The list is valid now. -/
def Holds (store : CrlStore) (now : Int) : Prop :=
  ∃ crl, store.current = some crl ∧ now < crl.nextUpdate

def holds (store : CrlStore) (now : Int) : Bool := store.current.any fun crl => now < crl.nextUpdate

variable {store : CrlStore} {now nowUnix : Int} {der : Der} {workspaceCaPem : List IssuerCert}
  {crl : ValidCrl}

lemma holds_iff : holds store now = true ↔ Holds store now := by
  simp [holds, Holds, Option.any_eq_true]

instance (store : CrlStore) (now : Int) : Decidable (Holds store now) :=
  decidable_of_iff _ holds_iff

def withoutValidCrl (store : CrlStore) (nowUnix : Int) (now : ℕ) : CrlStore × Option ℕ :=
  if holds store nowUnix then ({ store with noValidSince := none }, none)
  else
    let since := store.noValidSince.getD now
    ({ store with noValidSince := some since }, some (now - since))

def check (store : CrlStore) (serial : Serial) (now : Int) : CrlStore × RevocationStatus :=
  match store.current with
  | none => (store, .unavailable)
  | some crl =>
    if now < crl.nextUpdate then
      ({ store with noValidSince := none },
        if serial ∈ crl.revoked then .revoked else .notRevoked)
    else (store, .unavailable)

/-! ### The verdict -/

def crlFirstWait : ℕ := 30000000000

def revokedInCrl : String := "its certificate is in the workspace CRL"

def noVerifiedCert : String := "no verified connector certificate"

def noValidCrl : String := "no workspace CRL valid now (none received, or past its nextUpdate)"

def crlVerdict (store : CrlStore) (serial : Option Serial) (nowUnix : Int) (now : ℕ) :
    CrlStore × Except String Unit :=
  match serial with
  | none => (store, .error noVerifiedCert)
  | some serial =>
    let r := check store serial nowUnix
    match r.2 with
    | .notRevoked => (r.1, .ok ())
    | .revoked => (r.1, .error revokedInCrl)
    | .unavailable =>
      let w := withoutValidCrl r.1 nowUnix now
      match w.2 with
      | some waited => (w.1, if crlFirstWait ≤ waited then .error noValidCrl else .ok ())
      | none => (w.1, .ok ())

/-! ### What the functions do -/

/-- What the bytes say, if they are a list with a time for the next one. -/
def Der.contents (der : Der) : Option ValidCrl :=
  der.crl.bind fun crl => crl.nextUpdate.map fun next => ⟨crl.revoked, crl.lastUpdate, next⟩

lemma validateUpdateTimes_ok {thisUpdate nextUpdate next}
    (h : validateUpdateTimes thisUpdate nextUpdate now = .ok next) :
    nextUpdate = some next ∧ thisUpdate ≤ now ∧ now < next := by
  unfold validateUpdateTimes at h
  grind

lemma verified_ok (h : verified der workspaceCaPem now = .ok crl) :
    der.contents = some crl ∧ crl.thisUpdate ≤ now ∧ now < crl.nextUpdate := by
  unfold verified at h
  split at h
  · cases h
  · next parsed hp =>
    split at h
    · cases h
    · unfold validateCrl at h
      split at h
      · cases h
      · split at h <;> cases h
        next next hn =>
          obtain ⟨hs, ht, hlt⟩ := validateUpdateTimes_ok hn
          exact ⟨by simp [Der.contents, hp, hs], ht, hlt⟩

lemma load_cases (saved : Option Der) (iss : Option (List IssuerCert)) (now : Int) :
    load saved iss now = .default ∨
      ∃ der crl, saved = some der ∧ der.contents = some crl ∧ now < crl.nextUpdate ∧
        load saved iss now = ⟨some crl, none⟩ := by
  unfold load
  split
  · next der workspaceCaPem =>
    split
    · next crl hok =>
      obtain ⟨hc, -, hlt⟩ := verified_ok hok
      exact .inr ⟨der, crl, rfl, hc, hlt, rfl⟩
    · exact .inl rfl
  · exact .inl rfl

variable {store' : CrlStore} {sn : Serial}

lemma offer_installed (h : offer store der workspaceCaPem now = .ok (store', some crl)) :
    store' = { store with current := some crl } ∧ verified der workspaceCaPem now = .ok crl ∧
      ∀ c, store.current = some c → c.thisUpdate < crl.thisUpdate := by
  unfold offer at h
  grind

lemma offer_refused (h : offer store der workspaceCaPem now = .ok (store', none)) :
    store' = store := by
  unfold offer at h
  grind

lemma crlVerdict_of_holds {now} (hc : store.current = some crl) (hv : nowUnix < crl.nextUpdate) :
    crlVerdict store (some sn) nowUnix now = ({ store with noValidSince := none },
        if sn ∈ crl.revoked then .error revokedInCrl else .ok ()) := by
  by_cases hl : sn ∈ crl.revoked <;>
    simp [crlVerdict, check, hc, hv, hl]

lemma crlVerdict_of_not_holds {now} (h : ¬ Holds store nowUnix) :
    crlVerdict store (some sn) nowUnix now =
      ({ store with noValidSince := some (store.noValidSince.getD now) },
        if crlFirstWait ≤ now - store.noValidSince.getD now then .error noValidCrl
        else .ok ()) := by
  have hch : check store sn nowUnix = (store, .unavailable) := by
    unfold check
    split
    · rfl
    · next crl hc => rw [if_neg fun hlt => h ⟨crl, hc, hlt⟩]
  have hh : holds store nowUnix = false := by
    rw [← Bool.not_eq_true, holds_iff]
    exact h
  simp [crlVerdict, hch, withoutValidCrl, hh]

end Zecurity.WorkspaceCrl
