import Zecurity.CertHolder
import Zecurity.Runs

/-!
Whether renewals keep the connector's trust anchors (`CertHolder::install_renewed` and
`write_atomic` in `connector/src/tls/cert_holder.rs`), over every sequence of replies, file
operations, crashes and restarts.

A file is replaced by a rename; the temporary file before it is never read. A crash of the process
keeps the directory as it is; a power failure goes back to what was written through, which the
sync of the directory does, and the system at any time. An operation that fails ends the call.
`renewedFrom` records which certificate was current when the one on disk was made.
-/

namespace Zecurity.TrustAnchors

open CertHolder Option Runs
open PostureEvaluation (isSpace)

variable {Der : Type}

/-- The operation that comes next. -/
inductive Op
  | writeBundle
  | renameBundle
  | syncBundle
  | writeCert
  | renameCert
  | syncCert
  | publish
  deriving DecidableEq

structure Install (Der : Type) where
  material : CertMaterial Der
  op : Op

structure State (Der : Type) where
  disk : CertStore
  /-- what a power failure goes back to -/
  durable : CertStore
  holder : Option (Holder Der)
  /-- the call that has the `install_lock` and has checked its reply -/
  install : Option (Install Der)
  now : Int
  renewedFrom : Option (Pem)

inductive Action
  | tick (now : Int)
  | reply (leafPem workspaceCaPem intermediateCaPem : Field)
  | proceed
  | fail
  | writeBackBundle
  | writeBackCert
  | crash (power : Bool)
  | restart

def perform (s : State Der) (h : Holder Der) (material : CertMaterial Der) : Op → State Der
  | .writeBundle => { s with install := some ⟨material, .renameBundle⟩ }
  | .renameBundle =>
    { s with
      disk := { s.disk with workspaceCaPem := material.store.workspaceCaPem }
      install := some ⟨material, .syncBundle⟩ }
  | .syncBundle => { s with durable := s.disk, install := some ⟨material, .writeCert⟩ }
  | .writeCert => { s with install := some ⟨material, .renameCert⟩ }
  | .renameCert =>
    { s with
      disk := { s.disk with certPem := material.store.certPem }
      install := some ⟨material, .syncCert⟩
      renewedFrom := some h.current.store.certPem }
  | .syncCert => { s with durable := s.disk, install := some ⟨material, .publish⟩ }
  | .publish => { s with holder := some { h with current := material }, install := none }

variable (lib : Libraries Der) (spiffeId : String)

def step [DecidableEq Der] (s : State Der) : Action → Option (State Der)
  | .tick now => some { s with now := now }
  | .reply leafPem workspaceCaPem intermediateCaPem =>
    match s.holder, s.install with
    | some h, none =>
      match renewed lib h leafPem workspaceCaPem intermediateCaPem s.now with
      | .error _ => some s
      | .ok material => some { s with install := some ⟨material, .writeBundle⟩ }
    | _, _ => none
  | .proceed =>
    match s.holder, s.install with
    | some h, some i => some (perform s h i.material i.op)
    | _, _ => none
  | .fail =>
    match s.install with
    | some i => if i.op = .publish then none else some { s with install := none }
    | none => none
  | .writeBackBundle =>
    some { s with durable := { s.durable with workspaceCaPem := s.disk.workspaceCaPem } }
  | .writeBackCert => some { s with durable := { s.durable with certPem := s.disk.certPem } }
  | .crash power =>
    some { s with
      disk := if power then s.durable else s.disk
      holder := none
      install := none }
  | .restart =>
    match s.holder, load lib s.disk spiffeId with
    | none, .ok h => some { s with holder := some h }
    | _, _ => none

/-- A connector that has loaded its files. -/
def start (files : CertStore) (h : Holder Der) (now : Int) : State Der :=
  ⟨files, files, some h, none, now, none⟩

/-! ### The property and the condition -/

/-- What holds of a connector that was started from these files. -/
structure Anchored [DecidableEq Der] (files : CertStore) (s : State Der) : Prop where
  anchors : ∀ der, der ∈ (lib.certs s.disk.workspaceCaPem).getD [] ↔
    der ∈ (lib.certs files.workspaceCaPem).getD []
  issuers : ∀ now, crlIssuers lib s.disk.workspaceCaPem now =
    crlIssuers lib files.workspaceCaPem now
  published : ∀ h, s.holder = some h → h.current.store.certPem = s.disk.certPem ∨
    s.renewedFrom = some h.current.store.certPem
  identity : ∀ h, s.holder = some h → ∃ leaf,
    h.current.certifiedKey.head?.bind lib.certificate = some leaf ∧
      spiffeId ∈ spiffeUris leaf ∧ lib.keySpkiDer files.keyPem = .ok leaf.publicKey
  loads : ∃ h, load lib s.disk spiffeId = .ok h

/-- The two CA fields of a reply hold one certificate each, where they are read at all. -/
def SingleCas : Action → Prop
  | .reply _ workspaceCaPem intermediateCaPem =>
    (∀ ders ∈ lib.certs workspaceCaPem.pem, ders.length ≤ 1) ∧
      ∀ ders ∈ lib.certs intermediateCaPem.pem, ders.length ≤ 1
  | _ => True

instance : ∀ a, Decidable (SingleCas lib a)
  | .reply _ _ _ => inferInstanceAs (Decidable (_ ∧ _))
  | .tick _ | .proceed | .fail | .writeBackBundle | .writeBackCert | .crash _ | .restart =>
    inferInstanceAs (Decidable True)

/-! ### The invariant -/

/-- Files with the two certificates of the bundle and the key, which load. -/
structure Sound (bundle : Der × Der) (keyPem : String) (store : CertStore) : Prop where
  bundle : lib.certs store.workspaceCaPem = some [bundle.1, bundle.2]
  key : store.keyPem = keyPem
  loads : ∃ h, load lib store spiffeId = .ok h

/-- Material of sound files, for the key of the holder. -/
structure SoundMaterial (bundle : Der × Der) (keyPem keySpkiDer : String)
    (material : CertMaterial Der) : Prop where
  store : Sound lib spiffeId bundle keyPem material.store
  built : buildMaterial lib spiffeId keySpkiDer material.store = .ok material

structure SoundHolder (bundle : Der × Der) (keyPem : String) (h : Holder Der) : Prop where
  named : h.spiffeId = spiffeId
  key : lib.keySpkiDer keyPem = .ok h.keySpkiDer
  current : SoundMaterial lib spiffeId bundle keyPem h.keySpkiDer h.current

structure Inv (bundle : Der × Der) (keyPem : String) (s : State Der) : Prop where
  disk : Sound lib spiffeId bundle keyPem s.disk
  durable : Sound lib spiffeId bundle keyPem s.durable
  holder : ∀ h, s.holder = some h → SoundHolder lib spiffeId bundle keyPem h
  install : ∀ i, s.install = some i → ∃ h, s.holder = some h ∧
    SoundMaterial lib spiffeId bundle keyPem h.keySpkiDer i.material
  renamed : ∀ i, s.install = some i → i.op = .syncCert ∨ i.op = .publish →
    s.disk.certPem = i.material.store.certPem
  published : ∀ h, s.holder = some h → h.current.store.certPem = s.disk.certPem ∨
    s.renewedFrom = some h.current.store.certPem

variable {lib spiffeId} {bundle : Der × Der} {keyPem keySpkiDer : String} {store other : CertStore}
  {holder : Holder Der} {leafPem workspaceCaPem intermediateCaPem : Field} {s : State Der}
  {i : Install Der}

lemma Sound.withBundle (h : Sound lib spiffeId bundle keyPem store)
    (ho : Sound lib spiffeId bundle keyPem other) :
    Sound lib spiffeId bundle keyPem
      { store with workspaceCaPem := other.workspaceCaPem } where
  bundle := ho.bundle
  key := h.key
  loads := by
    obtain ⟨holder, hld⟩ := h.loads
    obtain ⟨hk, hs, hb⟩ := load_ok_iff.1 hld
    obtain ⟨chain, leaf, hl, -⟩ := buildMaterial_ok_iff.1 hb
    exact ⟨⟨spiffeId, holder.keySpkiDer, _⟩,
      load_ok_iff.2 ⟨hk, rfl, buildMaterial_ok_iff.2 ⟨chain, leaf, hl, rfl⟩⟩⟩

lemma Sound.withCert (h : Sound lib spiffeId bundle keyPem store)
    (ho : Sound lib spiffeId bundle keyPem other) :
    Sound lib spiffeId bundle keyPem { store with certPem := other.certPem } := by
  have hc := ho.withBundle h
  have heq : { other with workspaceCaPem := store.workspaceCaPem } =
      { store with certPem := other.certPem } := by
    rw [CertStore.mk.injEq]
    exact ⟨rfl, ho.key.trans h.key.symm, rfl⟩
  rwa [heq] at hc

lemma Sound.soundHolder (h : Sound lib spiffeId bundle keyPem store)
    (hl : load lib store spiffeId = .ok holder) :
    SoundHolder lib spiffeId bundle keyPem holder ∧ holder.current.store = store := by
  obtain ⟨hk, hsp, hb⟩ := load_ok_iff.1 hl
  have hs : holder.current.store = store := by
    obtain ⟨_, _, -, hm⟩ := buildMaterial_ok_iff.1 hb
    rw [hm]
  rw [h.key] at hk
  refine ⟨⟨hsp, hk, ?_, ?_⟩, hs⟩
  · rwa [hs]
  · rwa [hs]

/-- **A reply that passes** with one certificate in each CA field leads to the same bundle. -/
lemma SoundHolder.renewed [DecidableEq Der] {h} (hh : SoundHolder lib spiffeId bundle keyPem h)
    {now material}
    (hr : renewed lib h leafPem workspaceCaPem intermediateCaPem now = .ok material)
    (hok : SingleCas lib (.reply leafPem workspaceCaPem intermediateCaPem)) :
    SoundMaterial lib spiffeId bundle keyPem h.keySpkiDer material := by
  obtain ⟨store, hv, hb⟩ := Checks.bind_eq_ok.1 hr
  have hs : material.store = store := by
    obtain ⟨_, _, -, hm⟩ := buildMaterial_ok_iff.1 hb
    rw [hm]
  rw [hh.named, ← hs] at hb
  obtain ⟨ders, workspace, intermediate, hd, hwr, hne, hin, hne', hf, hl, hj⟩ := verifyRenewed_ok hv
  cases hd.symm.trans hh.current.store.bundle
  -- a list with at most one certificate that has a first or a last one is that one
  have hw : workspace = [bundle.1] := by
    have hle := hok.1 workspace hwr
    match workspace, hne, hle, hf with
    | [der], _, _, hf => exact congrArg (· :: []) (some.inj hf)
  have hi : intermediate = [bundle.2] := by
    have hle := hok.2 intermediate hin
    match intermediate, hne', hle, hl with
    | [der], _, _, hl => exact congrArg (· :: []) (some.inj hl)
  have hk : material.store.keyPem = keyPem := by
    rw [hs, hj]
    exact hh.current.store.key
  refine ⟨⟨?_, hk, ?_⟩, hb⟩
  · rw [hw] at hwr
    rw [hi] at hin
    rw [hs, hj]
    exact lib.certs_joined _ _ _ _ hwr hin
  · refine ⟨⟨spiffeId, h.keySpkiDer, material⟩, load_ok_iff.2 ⟨?_, rfl, hb⟩⟩
    rw [hk]
    exact hh.key

/-! ### One step -/

lemma Inv.reply [DecidableEq Der] {s'} (h : Inv lib spiffeId bundle keyPem s)
    (hok : SingleCas lib (.reply leafPem workspaceCaPem intermediateCaPem))
    (hs : step lib spiffeId s (.reply leafPem workspaceCaPem intermediateCaPem) = some s') :
    Inv lib spiffeId bundle keyPem s' := by
  dsimp only [step] at hs
  split at hs
  case h_2 => cases hs
  case h_1 holder hh _ =>
    split at hs
    · cases hs
      exact h
    · next mat hr =>
      cases hs
      refine { h with install := ?_, renamed := ?_ }
      · intro i hi
        cases hi
        exact ⟨holder, hh, (h.holder holder hh).renewed hr hok⟩
      · intro i hi hop
        cases hi
        rcases hop with hop | hop <;> cases hop

lemma Inv.goesOn (h : Inv lib spiffeId bundle keyPem s) (hi : s.install = some i) (op : Op)
    (hop : op ≠ .syncCert ∧ op ≠ .publish) :
    Inv lib spiffeId bundle keyPem { s with install := some ⟨i.material, op⟩ } := { h with
    install := by
      intro i' hi'
      cases hi'
      exact h.install i hi
    renamed := by
      intro i' hi' hop'
      cases hi'
      rcases hop' with hop' | hop'
      · exact absurd hop' hop.1
      · exact absurd hop' hop.2 }

lemma Inv.perform (h : Inv lib spiffeId bundle keyPem s) (hh : s.holder = some holder)
    (hi : s.install = some i) :
    Inv lib spiffeId bundle keyPem (perform s holder i.material i.op) := by
  obtain ⟨holder', hh', hm⟩ := h.install i hi
  cases hh.symm.trans hh'
  have hr := h.renamed i hi
  rcases i with ⟨material, op⟩
  cases op with
  | writeBundle => exact h.goesOn hi .renameBundle (by decide)
  | renameBundle =>
    exact { h.goesOn hi .syncBundle (by decide) with disk := h.disk.withBundle hm.store }
  | syncBundle => exact { h.goesOn hi .writeCert (by decide) with durable := h.disk }
  | writeCert => exact h.goesOn hi .renameCert (by decide)
  | renameCert =>
    refine ⟨h.disk.withCert hm.store, h.durable, h.holder, ?_, ?_, ?_⟩
    · intro i' hi'
      cases hi'
      exact ⟨holder, hh, hm⟩
    · intro i' hi' _
      cases hi'
      rfl
    · intro holder' hh'
      cases hh.symm.trans hh'
      exact .inr rfl
  | syncCert =>
    refine { h with durable := h.disk, install := ?_, renamed := ?_ }
    · intro i' hi'
      cases hi'
      exact ⟨holder, hh, hm⟩
    · intro i' hi' _
      cases hi'
      exact hr (.inl rfl)
  | publish =>
    refine ⟨h.disk, h.durable, ?_, by rintro _ ⟨⟩, by rintro _ ⟨⟩, ?_⟩
    · intro holder' hh'
      cases hh'
      have hs := h.holder holder hh
      exact ⟨hs.named, hs.key, hm⟩
    · intro holder' hh'
      cases hh'
      exact .inl (hr (.inr rfl)).symm

lemma Inv.next [DecidableEq Der] (s : State Der) (a : Action) (s' : State Der)
    (h : Inv lib spiffeId bundle keyPem s) (hok : SingleCas lib a)
    (hs : step lib spiffeId s a = some s') : Inv lib spiffeId bundle keyPem s' := by
  cases a <;> dsimp only [step] at hs
  case tick now =>
    cases hs
    exact { h with }
  case reply leafPem workspaceCaPem intermediateCaPem => exact h.reply hok hs
  case proceed =>
    split at hs <;> cases hs
    next holder i hh hi => exact h.perform hh hi
  case fail =>
    split at hs
    · split at hs <;> cases hs
      exact { h with install := by simp, renamed := by simp }
    · cases hs
  case writeBackBundle =>
    cases hs
    exact { h with durable := h.durable.withBundle h.disk }
  case writeBackCert =>
    cases hs
    exact { h with durable := h.durable.withCert h.disk }
  case crash power =>
    cases hs
    refine ⟨?_, h.durable, by simp, by simp, by simp, by simp⟩
    cases power with
    | true => exact h.durable
    | false => exact h.disk
  case restart =>
    split at hs
    case h_2 => cases hs
    case h_1 holder hn hl =>
      cases hs
      obtain ⟨hh, hst⟩ := h.disk.soundHolder hl
      refine ⟨h.disk, h.durable, ?_, ?_, h.renamed, ?_⟩
      · intro holder' hh'
        cases hh'
        exact hh
      · intro i hi
        obtain ⟨_, hsm, -⟩ := h.install i hi
        cases hn.symm.trans hsm
      · intro holder' hh'
        cases hh'
        exact .inl (by rw [hst])

lemma Inv.anchored [DecidableEq Der] {files} (h : Inv lib spiffeId bundle files.keyPem s)
    (hf : lib.certs files.workspaceCaPem = some [bundle.1, bundle.2]) :
    Anchored lib spiffeId files s where
  anchors := fun der => by rw [h.disk.bundle, hf]
  issuers := crlIssuers_congr (h.disk.bundle.trans hf.symm)
  published := h.published
  identity := by
    intro holder hh
    obtain ⟨-, hk, -, hb⟩ := h.holder holder hh
    obtain ⟨chain, leaf, hl, hm⟩ := buildMaterial_ok_iff.1 hb
    obtain ⟨-, hhd, hs, hp⟩ := checkedLeaf_ok hl
    refine ⟨leaf, ?_, hs, ?_⟩
    · rw [hm]
      exact hhd
    · rw [hp]
      exact hk
  loads := h.disk.loads

/-- **Renewals keep the trust anchors**, in every run from files that load and yield the issuers
of revocation lists, if the CA fields of the replies hold single certificates. -/
theorem trust_anchors_kept [DecidableEq Der] {files : CertStore} {h : Holder Der} {now : Int}
    {issuers : CrlIssuers Der} {acts : List Action} (hload : load lib files spiffeId = .ok h)
    (hissuers : crlIssuers lib files.workspaceCaPem now = .ok issuers)
    (hmeets : Meets (step lib spiffeId) (fun _ a => SingleCas lib a) (start files h now) acts) :
    Always (step lib spiffeId) (fun _ _ s' => Anchored lib spiffeId files s') (start files h now)
      acts := by
  obtain ⟨first, second, hf⟩ := certs_of_crlIssuers hissuers
  have hsn : Sound lib spiffeId (first, second) files.keyPem files := ⟨hf, rfl, h, hload⟩
  obtain ⟨hh, hst⟩ := hsn.soundHolder hload
  refine always_of_meets (I := Inv lib spiffeId (first, second) files.keyPem) Inv.next ?_ ?_ hmeets
  · exact fun s a s' hi hok hs => (Inv.next s a s' hi hok hs).anchored hf
  · refine ⟨hsn, hsn, ?_, by rintro _ ⟨⟩, by rintro _ ⟨⟩, ?_⟩
    · intro h' hh'
      cases hh'
      exact hh
    · intro h' hh'
      cases hh'
      exact .inl (by rw [hst]; rfl)

/-! ### A certificate that comes along -/

def exampleCertificate (subject issuer : Char) (rawSerial : List UInt8) (isCa : Bool) :
    Certificate where
  subject := subject.toString
  issuer := issuer.toString
  publicKey := subject.toString
  rawSerial := rawSerial
  notBefore := 0
  notAfter := 1000
  subjectAlternativeName := .present [.uri "spiffe://connector"]
  isCa := isCa
  keyUsage := .present ⟨true, true⟩
  pathLen := .absent

lemma filter_trimEnd (text : Pem) :
    (trimEnd text).filter (!isSpace ·) = text.filter (!isSpace ·) := by
  induction text using List.reverseRecOn with
  | nil => rfl
  | append_singleton text c ih =>
    unfold trimEnd at ih ⊢
    rw [List.rdropWhile_concat]
    split
    · next hc => simp [ih, hc]
    · rfl

/-- A certificate's text is one character, and a key is named by its owner: the Workspace CA `w`,
the Intermediate `i`, the connector `c` with its certificates `l` and `r`, and `f` of another. -/
def exampleLibraries : Libraries Char where
  certs text := some (text.filter (!isSpace ·))
  certs_joined first second _ _ h h' := by
    cases h
    cases h'
    rw [List.filter_append, List.filter_cons_of_neg (by decide), filter_trimEnd, filter_trimEnd]
  certificate der :=
    if der = 'w' then some (exampleCertificate 'w' 'i' [1] true)
    else if der = 'i' then some (exampleCertificate 'i' 'o' [2] true)
    else if der = 'l' then some (exampleCertificate 'c' 'w' [3] false)
    else if der = 'r' then some (exampleCertificate 'c' 'w' [4] false)
    else if der = 'f' then some (exampleCertificate 'f' 'f' [5] true)
    else none
  trailing _ := false
  verifySignature cert key := cert.issuer = key
  keySpkiDer _ := .ok "c"
  privateKey _ := .ok ()
  certifiedKey _ _ := true

def exampleFiles : CertStore := ⟨['l', '\n', 'w'], "key", ['w', '\n', 'i']⟩

def exampleHolder : Holder Char :=
  ⟨"spiffe://connector", "c", exampleFiles, ['3'], 1000, ['l', 'w']⟩

def install (workspaceCaPem intermediateCaPem : Pem) : List Action :=
  [Action.reply ⟨['r', '\n'], true⟩ ⟨workspaceCaPem, true⟩ ⟨intermediateCaPem, true⟩,
    .proceed, .proceed, .proceed, .proceed, .proceed]

lemma load_exampleFiles :
    load exampleLibraries exampleFiles "spiffe://connector" = .ok exampleHolder := by
  decide +kernel

lemma crlIssuers_exampleFiles :
    crlIssuers exampleLibraries exampleFiles.workspaceCaPem 10 = .ok ⟨'w', 'i'⟩ := by
  rfl

/-- A renewal, with a power failure after the certificate's rename, and a restart. -/
def renewedOnce : List Action := install ['w'] ['i'] ++ [.crash true, .restart]

/-- A reply whose Workspace CA field has a second certificate. -/
def renewedWithAnother : List Action := install ['w', '\n', 'f'] ['i']

theorem trust_anchors_kept_renewedOnce :
    Meets (step exampleLibraries "spiffe://connector") (fun _ a => SingleCas exampleLibraries a)
        (start exampleFiles exampleHolder 10) renewedOnce ∧
      Always (step exampleLibraries "spiffe://connector")
        (fun _ _ s' => Anchored exampleLibraries "spiffe://connector" exampleFiles s')
        (start exampleFiles exampleHolder 10) renewedOnce := by
  have hm : Meets (step exampleLibraries "spiffe://connector")
      (fun _ a => SingleCas exampleLibraries a) (start exampleFiles exampleHolder 10)
      renewedOnce := by
    decide +kernel
  exact ⟨hm, trust_anchors_kept load_exampleFiles crlIssuers_exampleFiles hm⟩

/-- The second certificate is written to the bundle, which then yields no issuers. -/
theorem foreign_certificate_anchored :
    ∃ s, exec (step exampleLibraries "spiffe://connector") (start exampleFiles exampleHolder 10)
        renewedWithAnother = some s ∧
      exampleLibraries.certs s.disk.workspaceCaPem =
        some ['w', 'f', 'i'] ∧
      exampleLibraries.certs exampleFiles.workspaceCaPem = some ['w', 'i'] ∧
      (crlIssuers exampleLibraries s.disk.workspaceCaPem 10).toBool = false := by
  decide +kernel

end Zecurity.TrustAnchors
