import Zecurity.CrlRevocation

/-!
The revocation lists of a connector and of a client (`CrlManager` in `connector/src/crl.rs` and in
`client/src/crl.rs`), over every sequence of responses and checks.

A list that validates replaces the one that is cached, whatever their times; neither cache keeps
`thisUpdate`. The two managers differ in the texts of their errors and in the order of the checks
of times. `installed` records the lists as they were signed.
-/

namespace Zecurity.CrlManager

open WorkspaceCrl Runs
open CrlRevocation (Cleared)

/-- Whose manager it is. -/
inductive Owner
  | connector
  | client

/-- `ValidCrl` of the two sources. -/
structure CachedCrl where
  revoked : List Serial
  nextUpdate : Int

/-! ### Validating a list -/

/-- The connector's checks are the shield's, to the word. -/
def connectorValidateCrl (crl : Crl) (issuerCaPem : List IssuerCert) (now : Int) :
    Except String CachedCrl := do
  validateIssuer crl issuerCaPem
  let nextUpdate ← validateUpdateTimes crl.lastUpdate crl.nextUpdate now
  return ⟨crl.revoked, nextUpdate⟩

def clientKeyId : KeyId → Except String (List UInt8)
  | .absent => .error "CRL has no Authority Key Identifier"
  | .malformed => .error "CRL AKI is malformed"
  | .unnamed => .error "CRL AKI has no key identifier"
  | .key id => .ok id

def clientIssuerKeyId : KeyId → Except String (List UInt8)
  | .absent => .error "issuer has no SKI"
  | .malformed | .unnamed => .error "issuer SKI is malformed"
  | .key id => .ok id

def clientValidateIssuer (crl : Crl) (issuerCaPem : List IssuerCert) : Except String Unit :=
  match issuerCaPem with
  | [issuer] => do
    if crl.issuer ≠ issuer.subject then throw "CRL issuer does not match expected CA"
    let aki ← clientKeyId crl.authorityKeyId
    let ski ← clientIssuerKeyId issuer.subjectKeyId
    if aki ≠ ski then throw "CRL AKI does not match issuer SKI"
    if crl.signer ≠ some issuer.publicKey then throw "CRL signature verification failed"
  | certs => throw ("CRL issuer must be exactly one CA certificate, got " ++ toString certs.length)

def checkUpdateTimes (thisUpdate nextUpdate now : Int) : Except String Unit :=
  if now < thisUpdate ∨ nextUpdate ≤ thisUpdate ∨ nextUpdate ≤ now then
    .error "CRL validity window is not current"
  else .ok ()

def clientValidateCrl (crl : Crl) (issuerCaPem : List IssuerCert) (now : Int) :
    Except String CachedCrl := do
  clientValidateIssuer crl issuerCaPem
  match crl.nextUpdate with
  | none => throw "CRL is missing nextUpdate"
  | some nextUpdate =>
    checkUpdateTimes crl.lastUpdate nextUpdate now
    return ⟨crl.revoked, nextUpdate⟩

def Owner.validateCrl : Owner → Crl → List IssuerCert → Int → Except String CachedCrl
  | .connector => connectorValidateCrl
  | .client => clientValidateCrl

def Owner.trailingData : Owner → String
  | .connector => "trailing data after crl"
  | .client => "trailing data after CRL"

/-! ### The manager -/

variable (m : Owner)

def verified (der : Der) (issuerCaPem : List IssuerCert) (now : Int) : Except String CachedCrl :=
  match der.crl with
  | none => .error "CRL parse error"
  | some crl =>
    if der.remaining then .error m.trailingData
    else m.validateCrl crl issuerCaPem now

/-- The cache after a response, and what the caller gets. -/
def installVerifiedDer (cache : Option CachedCrl) (der : Der) (issuerCaPem : List IssuerCert)
    (now : Int) : Option CachedCrl × Except String Unit :=
  match verified m der issuerCaPem now with
  | .error err => (cache, .error err)
  | .ok validated => (some validated, .ok ())

def check (cache : Option CachedCrl) (serial : Serial) (now : Int) : RevocationStatus :=
  match cache with
  | some cache =>
    if now < cache.nextUpdate then
      if serial ∈ cache.revoked then .revoked else .notRevoked
    else .unavailable
  | none => .unavailable

structure State where
  cache : Option CachedCrl
  now : Int
  installed : List ValidCrl

inductive Action
  | tick (now : Int)
  | response (der : Der) (issuerCaPem : List IssuerCert)

def step (s : State) : Action → Option State
  | .tick now => if s.now ≤ now then some { s with now := now } else none
  | .response der issuerCaPem =>
    let r := installVerifiedDer m s.cache der issuerCaPem s.now
    some { s with
      cache := r.1
      installed := if r.2.isOk then der.contents.toList ++ s.installed else s.installed }

/-- `CrlManager::new`. -/
def start (now : Int) : State := ⟨none, now, []⟩

/-- Only a cleared serial is answered with `NotRevoked`, and a response that is refused changes
no answer. -/
structure Remembers (s : State) (a : Action) (s' : State) : Prop where
  cleared : ∀ serial, check s'.cache serial s'.now = .notRevoked → Cleared s'.installed serial
  refused : ∀ der issuerCaPem err, a = .response der issuerCaPem →
    (installVerifiedDer m s.cache der issuerCaPem s.now).2 = .error err →
    ∀ serial now, check s'.cache serial now = check s.cache serial now

/-! ### The condition -/

/-- A list that forgets nothing of another: a later one, or one of the same second that lists as
much. -/
def Follows (crl last : ValidCrl) : Prop :=
  last.thisUpdate < crl.thisUpdate ∨
    last.thisUpdate = crl.thisUpdate ∧ last.revoked ⊆ crl.revoked

instance (crl last : ValidCrl) : Decidable (Follows crl last) :=
  inferInstanceAs (Decidable (_ ∨ _))

instance : IsTrans ValidCrl Follows where
  trans := by
    rintro c b a (hcb | ⟨hcb, hsub⟩) (hba | ⟨hba, hsub'⟩)
    · exact .inl (hba.trans hcb)
    · exact .inl (hba.trans_lt hcb)
    · exact .inl (hba.trans_eq hcb)
    · exact .inr ⟨hba.trans hcb, List.Subset.trans hsub' hsub⟩

/-- A response that validates follows the list that was installed last. -/
def InOrder (s : State) : Action → Prop
  | .tick _ => True
  | .response der issuerCaPem => (verified m der issuerCaPem s.now).isOk = true →
      ∀ crl ∈ der.contents, ∀ last ∈ s.installed.head?, Follows crl last

instance (s : State) : ∀ a, Decidable (InOrder m s a)
  | .tick _ => inferInstanceAs (Decidable True)
  | .response _ _ => inferInstanceAs (Decidable (_ → _))

/-! ### What is installed -/

variable {ca : List IssuerCert} {now : Int} {validated : CachedCrl} {s : State} {crl : Crl}
  {der : Der}

lemma connectorValidateCrl_ok (h : connectorValidateCrl crl ca now = .ok validated) :
    crl.nextUpdate = some validated.nextUpdate ∧ validated.revoked = crl.revoked := by
  unfold connectorValidateCrl at h
  rcases hi : validateIssuer crl ca with err | _
  · rw [hi] at h
    cases h
  rw [hi] at h
  rcases ht : validateUpdateTimes crl.lastUpdate crl.nextUpdate now with err | nextUpdate
  · rw [ht] at h
    cases h
  rw [ht] at h
  cases h
  exact ⟨(validateUpdateTimes_ok ht).1, rfl⟩

lemma clientValidateCrl_ok (h : clientValidateCrl crl ca now = .ok validated) :
    crl.nextUpdate = some validated.nextUpdate ∧ validated.revoked = crl.revoked := by
  unfold clientValidateCrl at h
  rcases hi : clientValidateIssuer crl ca with err | _
  · rw [hi] at h
    cases h
  rw [hi] at h
  rcases hn : crl.nextUpdate with _ | nextUpdate
  · rw [hn] at h
    cases h
  rw [hn] at h
  rcases ht : checkUpdateTimes crl.lastUpdate nextUpdate now with err | _
  · simp only [ht] at h
    cases h
  simp only [ht] at h
  cases h
  exact ⟨rfl, rfl⟩

variable {m}

lemma verified_ok (h : verified m der ca now = .ok validated) :
    ∃ crl, der.contents = some crl ∧ validated.revoked = crl.revoked := by
  unfold verified at h
  split at h
  · cases h
  · next crl hc =>
    split at h
    · cases h
    · have hok : crl.nextUpdate = some validated.nextUpdate ∧ validated.revoked = crl.revoked := by
        cases m with
        | connector => exact connectorValidateCrl_ok h
        | client => exact clientValidateCrl_ok h
      refine ⟨⟨crl.revoked, crl.lastUpdate, validated.nextUpdate⟩, ?_, hok.2⟩
      simp only [Der.contents, hc, Option.bind_some, hok.1, Option.map_some]

lemma step_response {s'} (hs : step m s (.response der ca) = some s') :
    (∃ err, verified m der ca s.now = .error err ∧ s' = s) ∨
      ∃ validated crl, verified m der ca s.now = .ok validated ∧
        der.contents = some crl ∧ validated.revoked = crl.revoked ∧
        s' = { s with cache := some validated, installed := crl :: s.installed } := by
  cases hs
  rcases hv : verified m der ca s.now with err | validated
  · exact .inl ⟨err, rfl, by simp [installVerifiedDer, hv, Except.isOk, Except.toBool]⟩
  · obtain ⟨crl, hc, hr⟩ := verified_ok hv
    exact .inr ⟨validated, crl, rfl, hc, hr, by
      simp [installVerifiedDer, hv, Except.isOk, Except.toBool, hc]⟩

/-! ### The invariant -/

/-- The cache is the last list that was installed, and each list follows those before it. -/
structure Inv (s : State) : Prop where
  cached : ∀ cache, s.cache = some cache →
    ∃ last, s.installed.head? = some last ∧ cache.revoked = last.revoked
  ordered : s.installed.Pairwise Follows

lemma inv_start (now : Int) : Inv (start now) where
  cached := nofun
  ordered := .nil

lemma Inv.next (s : State) (a : Action) (s' : State) (h : Inv s) (hok : InOrder m s a)
    (hs : step m s a = some s') : Inv s' := by
  cases a with
  | tick now =>
    obtain ⟨-, rfl⟩ := Option.ite_some_none_eq_some.1 hs
    exact ⟨h.cached, h.ordered⟩
  | response der ca =>
    rcases step_response hs with ⟨_, _, rfl⟩ | ⟨validated, crl, hv, hc, hr, rfl⟩
    · exact h
    · have hf := hok (by rw [hv]; rfl) crl hc
      refine ⟨fun cache hcc => ?_, ?_⟩
      · cases hcc
        exact ⟨crl, rfl, hr⟩
      · rcases hi : s.installed with _ | ⟨last, rest⟩
        · exact List.pairwise_singleton Follows crl
        · refine List.pairwise_cons_cons_iff_of_trans.2 ⟨hf last ?_, ?_⟩
          · rw [hi]
            rfl
          · rw [← hi]
            exact h.ordered

/-- A serial that the cache does not list is cleared: the list that lists it is not the last one,
and not of its second either. -/
lemma Inv.cleared (h : Inv s) {serial} (hc : check s.cache serial now = .notRevoked) :
    Cleared s.installed serial := by
  intro after crl before heq hl
  unfold check at hc
  split at hc
  case h_2 => cases hc
  case h_1 cache hcc =>
    obtain ⟨last, hls, hr⟩ := h.cached cache hcc
    have hn : serial ∉ last.revoked := by
      intro hm
      rw [← hr] at hm
      simp only [hm, if_true] at hc
      split at hc <;> cases hc
    rw [heq] at hls
    cases after with
    | nil =>
      cases hls
      exact absurd hl hn
    | cons newest after =>
      obtain rfl := Option.some.inj hls
      have ho := h.ordered
      rw [heq, List.cons_append] at ho
      rcases (List.pairwise_cons.1 ho).1 crl (by simp) with hlt | ⟨-, hsub⟩
      · exact ⟨newest, List.mem_cons_self, hlt, hn⟩
      · exact absurd (hsub hl) hn

lemma Inv.remembers (s : State) (a : Action) (s' : State) (h : Inv s) (hok : InOrder m s a)
    (hs : step m s a = some s') : Remembers m s a s' where
  cleared := fun _ hc => (Inv.next s a s' h hok hs).cleared hc
  refused := by
    rintro der ca err rfl he sn now
    rcases step_response hs with ⟨_, _, rfl⟩ | ⟨validated, crl, hv, -⟩
    · rfl
    · rw [installVerifiedDer, hv] at he
      cases he

/-- **A revocation is not forgotten**, by the manager of a connector or of a client, in every run
whose responses come in order. -/
theorem revocations_remembered (m : Owner) (now : Int) {acts : List Action}
    (hmeets : Meets (step m) (InOrder m) (start now) acts) :
    Always (step m) (Remembers m) (start now) acts :=
  always_of_meets Inv.next Inv.remembers (inv_start now) hmeets

/-! ### A list that is replayed -/

def signedBy (issuer : IssuerCert) (thisUpdate nextUpdate : Int) (revoked : List Serial) : Action :=
  .response ⟨some ⟨issuer.subject, issuer.subjectKeyId, some issuer.publicKey, thisUpdate,
    some nextUpdate, revoked⟩, false⟩ [issuer]

def issuerCa : IssuerCert := ⟨"CA", .key [1], "key"⟩

/-- Serial 7 is revoked, the same list comes again, and a response does not validate. -/
def inOrder : List Action :=
  [signedBy issuerCa 50 1000 [], signedBy issuerCa 100 1000 [[7]], .tick 150,
    signedBy issuerCa 100 1000 [[7]], .response ⟨none, false⟩ [issuerCa]]

/-- Serial 7 is revoked, and the list from before comes once more. -/
def replayed : List Action :=
  [signedBy issuerCa 50 1000 [], signedBy issuerCa 100 1000 [[7]], signedBy issuerCa 50 1000 []]

theorem revocations_remembered_inOrder :
    Meets (step .connector) (InOrder .connector) (start 100) inOrder ∧
      Always (step .connector) (Remembers .connector) (start 100) inOrder := by
  have hm : Meets (step .connector) (InOrder .connector) (start 100) inOrder := by decide +kernel
  exact ⟨hm, revocations_remembered .connector 100 hm⟩

/-- An older list that is still valid makes each manager forget what it had seen. -/
theorem revocation_forgotten :
    ¬ Always (step .connector) (Remembers .connector) (start 100) replayed ∧
      ¬ Always (step .client) (Remembers .client) (start 100) replayed := by
  constructor
  all_goals
    intro h
    have hl := h (replayed.take 2) (signedBy issuerCa 50 1000 []) [] _ _ rfl rfl rfl
    -- the last list is not later than the one that lists serial 7
    obtain ⟨later, hm, hlt, -⟩ :=
      hl.cleared [7] rfl [⟨[], 50, 1000⟩] ⟨[[7]], 100, 1000⟩ [⟨[], 50, 1000⟩] rfl (by decide)
    obtain rfl := List.mem_singleton.1 hm
    exact absurd hlt (by decide)

end Zecurity.CrlManager
