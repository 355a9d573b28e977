import Zecurity.Runs
import Zecurity.StateFile
import Zecurity.WorkspaceCrl

/-!
Whether a revoked connector stays refused (`CrlStore` in `shield/src/crl.rs`, `crl_verdict` in
`shield/src/control_stream.rs`), over every sequence of offers, verdicts and restarts.

One task handles the messages, so each call is one step. Both clocks only go on. `installed` and
`asked` record what happened.
-/

namespace Zecurity.CrlRevocation

open WorkspaceCrl Runs List
open StateFile (Write)

structure State where
  store : CrlStore
  /-- `workspace.crl`; `none` also where it does not parse -/
  saved : Option Der
  nowUnix : Int
  now : ℕ
  installed : List ValidCrl
  /-- when the shield was asked without a valid list, since it last had one -/
  asked : List ℕ

inductive Action
  | tick (nowUnix : Int) (now : ℕ)
  | offer (der : Der) (workspaceCaPem : List IssuerCert) (w : Write)
  | verdict (serial : Option Serial)
  | restart (issuers : Option (List IssuerCert))

def written (w : Write) (saved : Option Der) (der : Der) : Option Der :=
  match w with
  | .done => some der
  | .kept => saved
  | .torn => none

def step (s : State) : Action → Option State
  | .tick nowUnix now =>
    if s.nowUnix ≤ nowUnix ∧ s.now ≤ now then some { s with nowUnix := nowUnix, now := now }
    else none
  | .offer der workspaceCaPem w =>
    match offer s.store der workspaceCaPem s.nowUnix with
    | .error _ => some s
    | .ok (store, none) => some { s with store := store }
    | .ok (store, some crl) =>
      some { s with
        store := store
        saved := written w s.saved der
        installed := crl :: s.installed
        asked := [] }
  | .verdict serial =>
    let store := (crlVerdict s.store serial s.nowUnix s.now).1
    if serial.isNone then some { s with store := store }
    else
      some { s with
        store := store
        asked := if holds s.store s.nowUnix then [] else s.now :: s.asked }
  | .restart issuers =>
    let store := load s.saved issuers s.nowUnix
    some { s with
      store := store
      asked := if store.current.isSome then [] else s.asked }

def start (nowUnix : Int) (now : ℕ) : State := ⟨.default, none, nowUnix, now, [], []⟩

/-- Every list that lists the serial was followed by a later one that does not. -/
def Cleared (installed : List ValidCrl) (serial : Serial) : Prop :=
  ∀ after crl before, installed = after ++ crl :: before → serial ∈ crl.revoked →
    ∃ later ∈ after, crl.thisUpdate < later.thisUpdate ∧ serial ∉ later.revoked

/-- A verdict of `Ok` is for a serial that is cleared, and no wait for a list is over. -/
def StaysRefused (s : State) (a : Action) (_ : State) : Prop :=
  ∀ serial, a = .verdict serial → (crlVerdict s.store serial s.nowUnix s.now).2 = .ok () →
    (∀ value, serial = some value → Cleared s.installed value) ∧
      ∀ t ∈ s.asked, s.now - t < crlFirstWait

/-! ### The condition -/

/-- The last list that was installed lists the serial. -/
def ListedLast (s : State) (serial : Serial) : Prop :=
  ∃ crl, s.installed.head? = some crl ∧ serial ∈ crl.revoked

/-- No valid list is held, and the wait for one is not over. -/
def InGrace (s : State) : Prop :=
  ¬ Holds s.store s.nowUnix ∧ s.now - s.store.noValidSince.getD s.now < crlFirstWait

/-- What is asked of each call: an offer that verifies, where it is later than the list held or
none is held, is later than the last one installed, and its write does not leave an older file;
no serial that the last list lists is asked about in the grace; and a restart finds a valid list,
unless the shield was not waiting for one. -/
def KeepsList (s : State) : Action → Prop
  | .tick _ _ => True
  | .offer der workspaceCaPem w => ∀ crl, verified der workspaceCaPem s.nowUnix = .ok crl →
      (∀ held, s.store.current = some held → held.thisUpdate < crl.thisUpdate) →
      (∀ last, s.installed.head? = some last → last.thisUpdate < crl.thisUpdate) ∧ w ≠ .kept
  | .verdict serial => ∀ value, serial = some value → InGrace s → ¬ ListedLast s value
  | .restart issuers => s.asked = [] ∨ ∃ der workspaceCaPem crl, s.saved = some der ∧
      issuers = some workspaceCaPem ∧ verified der workspaceCaPem s.nowUnix = .ok crl

/-! ### The invariant -/

structure Inv (s : State) : Prop where
  held : ∀ crl, s.store.current = some crl → s.installed.head? = some crl
  onDisk : ∀ der crl, s.saved = some der → der.contents = some crl →
    s.installed.head? = some crl
  increasing : s.installed.Pairwise fun later earlier => earlier.thisUpdate < later.thisUpdate
  past : ∀ since, s.store.noValidSince = some since → since ≤ s.now
  waiting : ∀ t ∈ s.asked, ∃ since, s.store.noValidSince = some since ∧ since ≤ t
  without : s.asked ≠ [] → ¬ Holds s.store s.nowUnix

lemma inv_start (nowUnix : Int) (now : ℕ) : Inv (start nowUnix now) where
  held := nofun
  onDisk := nofun
  increasing := .nil
  past := nofun
  waiting := nofun
  without := fun h => absurd rfl h

lemma cleared_of_not_listedLast {s} (hinv : Inv s) {serial} (h : ¬ ListedLast s serial) :
    Cleared s.installed serial := by
  intro after crl before heq hl
  cases after with
  | nil =>
    refine absurd ⟨crl, ?_, hl⟩ h
    rw [heq, nil_append, List.head?_cons]
  | cons last after =>
    have hi := hinv.increasing
    rw [heq, cons_append] at hi
    have hlt := (pairwise_cons.1 hi).1 crl (by simp)
    refine ⟨last, mem_cons_self, hlt, fun hm => h ⟨last, ?_, hm⟩⟩
    rw [heq, cons_append, List.head?_cons]

/-! ### One step -/

lemma getD_noValidSince_le {s} (hi : Inv s) : s.store.noValidSince.getD s.now ≤ s.now := by
  rcases hs : s.store.noValidSince with _ | since
  · exact le_rfl
  · exact hi.past since hs

lemma inv_step (s : State) (a : Action) (s' : State) (hinv : Inv s) (hok : KeepsList s a)
    (hs : step s a = some s') : Inv s' := by
  cases a with
  | tick nowUnix now =>
    simp only [step] at hs
    split at hs <;> cases hs
    next hle =>
      refine { hinv with past := fun since h => (hinv.past since h).trans hle.2, without := ?_ }
      -- a list that was not valid does not become valid again
      rintro ha ⟨crl, hcr, hlt⟩
      exact hinv.without ha ⟨crl, hcr, hle.1.trans_lt hlt⟩
  | offer der workspaceCaPem w =>
    simp only [step] at hs
    split at hs
    · cases hs
      exact hinv
    · next store ho =>
      cases hs
      obtain rfl := offer_refused ho
      exact hinv
    · next store crl ho =>
      cases hs
      obtain ⟨rfl, hv, hn⟩ := offer_installed ho
      obtain ⟨hls, hw⟩ := hok crl hv hn
      obtain ⟨hcn, -, -⟩ := verified_ok hv
      refine ⟨fun c hc => hc, ?_, ?_, hinv.past, by simp, fun h => absurd rfl h⟩
      · intro der' crl' hsv hc'
        cases w with
        | done =>
          cases hsv
          rw [← hc', hcn]
          rfl
        | kept => exact absurd rfl hw
        | torn => cases hsv
      · refine pairwise_cons.2 ⟨fun old he => ?_, hinv.increasing⟩
        rcases hi : s.installed with _ | ⟨last, rest⟩
        · rw [hi] at he
          cases he
        · have hlt : last.thisUpdate < crl.thisUpdate := hls last (by rw [hi]; rfl)
          have hin := hinv.increasing
          rw [hi] at hin he
          rcases mem_cons.1 he with rfl | hr
          · exact hlt
          · exact ((pairwise_cons.1 hin).1 old hr).trans hlt
  | verdict sn =>
    rcases sn with _ | value
    · cases hs
      exact hinv
    · cases hs
      by_cases hh : Holds s.store s.nowUnix
      · obtain ⟨crl, hcr, hvl⟩ := hh
        rw [crlVerdict_of_holds hcr hvl, if_pos (holds_iff.2 ⟨crl, hcr, hvl⟩)]
        exact { hinv with
          past := by simp
          waiting := by simp
          without := fun h => absurd rfl h }
      · rw [crlVerdict_of_not_holds hh, if_neg fun h => hh (holds_iff.1 h)]
        refine { hinv with past := ?_, waiting := ?_, without := fun _ => hh }
        · intro since hsn
          cases hsn
          exact getD_noValidSince_le hinv
        · intro t ht
          rcases mem_cons.1 ht with rfl | ht
          · exact ⟨_, rfl, getD_noValidSince_le hinv⟩
          · obtain ⟨since, hsn, hle⟩ := hinv.waiting t ht
            exact ⟨since, by rw [hsn]; rfl, hle⟩
  | restart iss =>
    cases hs
    rcases load_cases s.saved iss s.nowUnix with hl | ⟨der, crl, hsv, hcn, -, hl⟩
    · -- nothing was loaded, so by the condition the shield was not waiting
      have ha : s.asked = [] := by
        rcases hok with ha | ⟨der, workspaceCaPem, crl, hsv, hiss, hv⟩
        · exact ha
        · rw [hsv, hiss] at hl
          simp [load, hv, CrlStore.default] at hl
      rw [hl, ha]
      exact ⟨by rintro _ ⟨⟩, hinv.onDisk, hinv.increasing, by rintro _ ⟨⟩,
        by simp, fun h => absurd rfl h⟩
    · rw [hl]
      refine ⟨?_, hinv.onDisk, hinv.increasing, by simp, by simp, fun h => absurd rfl h⟩
      intro c hc
      cases hc
      exact hinv.onDisk der crl hsv hcn

/-- **One verdict** of `Ok` is for a cleared serial, with no wait over. -/
lemma staysRefused_step (s : State) (a : Action) (s' : State) (hi : Inv s)
    (hok : KeepsList s a) (_ : step s a = some s') : StaysRefused s a s' := by
  rintro sn rfl hv
  rcases sn with _ | value
  · cases hv
  by_cases hh : Holds s.store s.nowUnix
  · obtain ⟨crl, hc, hvl⟩ := hh
    rw [crlVerdict_of_holds hc hvl] at hv
    simp only at hv
    split at hv
    · cases hv
    · next hn =>
      refine ⟨?_, fun t ht => ?_⟩
      · rintro value' heq
        cases heq
        refine cleared_of_not_listedLast hi ?_
        rintro ⟨last, hls, hl⟩
        cases (hi.held crl hc).symm.trans hls
        exact hn hl
      · exact absurd ⟨crl, hc, hvl⟩ (hi.without (ne_nil_of_mem ht))
  · rw [crlVerdict_of_not_holds hh] at hv
    split at hv
    · cases hv
    · next hw =>
      have hg : s.now - s.store.noValidSince.getD s.now < crlFirstWait := Nat.lt_of_not_le hw
      refine ⟨?_, fun t ht => ?_⟩
      · rintro value' heq
        exact cleared_of_not_listedLast hi (hok value' heq ⟨hh, hg⟩)
      · obtain ⟨since, hs, hle⟩ := hi.waiting t ht
        rw [hs, Option.getD_some] at hg
        exact lt_of_le_of_lt (Nat.sub_le_sub_left hle s.now) hg

/-- **A revoked connector stays refused**, in every run of a fresh shield whose calls meet the
condition. -/
theorem staysRefused_of_keepsList (nowUnix : Int) (now : ℕ) {acts : List Action}
    (hmeets : Meets step KeepsList (start nowUnix now) acts) :
    Always step StaysRefused (start nowUnix now) acts :=
  always_of_meets inv_step staysRefused_step (inv_start nowUnix now) hmeets

/-! ### A revoked connector that withholds the next list -/

def workspaceCa : IssuerCert := ⟨"workspace CA", .key [1], "workspace key"⟩

/-- A list that the Workspace CA signed. -/
def signedCrl (thisUpdate nextUpdate : Int) (revoked : List Serial) : Der :=
  ⟨some ⟨"workspace CA", .key [1], some "workspace key", thisUpdate, some nextUpdate, revoked⟩,
    false⟩

def offers (thisUpdate nextUpdate : Int) (revoked : List Serial) : Action :=
  .offer (signedCrl thisUpdate nextUpdate revoked) [workspaceCa] .done

/-- A list that revokes serial 7, a restart, and the connector asks to act. -/
def revokedThenRestarted : List Action :=
  [offers 100 1000 [[7]], .restart (some [workspaceCa]), .verdict (some [7]), .verdict (some [8])]

/-- The connector asks to act when the list has expired. -/
def askedAfterExpiry : List Action :=
  [offers 100 1000 [[7]], .tick 1000 5, .verdict (some [7])]

/-- The list has expired at a restart, and the connector offers an older one. -/
def olderAfterRestart : List Action :=
  [offers 100 1000 [[7]], .tick 1000 5, .restart (some [workspaceCa]), offers 50 2000 [],
    .verdict (some [7])]

/-- The shield restarts after it has waited long enough. -/
def waitRestarted : List Action :=
  [.verdict (some [8]), .tick 100 30000000000, .restart none, .verdict (some [8])]

theorem staysRefused_revokedThenRestarted :
    Meets step KeepsList (start 100 0) revokedThenRestarted ∧
      Always step StaysRefused (start 100 0) revokedThenRestarted := by
  have hm : Meets step KeepsList (start 100 0) revokedThenRestarted := by
    refine .cons rfl ?_ (.cons rfl (.inl rfl) (.cons rfl ?_ (.cons rfl ?_ trivial)))
    · exact fun _ _ _ => ⟨by rintro _ ⟨⟩, by decide⟩
    · exact fun _ _ hg => absurd ⟨_, rfl, by decide⟩ hg.1
    · exact fun _ _ hg => absurd ⟨_, rfl, by decide⟩ hg.1
  exact ⟨hm, staysRefused_of_keepsList 100 0 hm⟩

/-- A serial that the list lists gets `Ok` in the grace after the list's expiry, and, after a
restart, from an older list; and a restart begins the wait again. -/
theorem accepted_again :
    ¬ Always step StaysRefused (start 100 0) askedAfterExpiry ∧
      ¬ Always step StaysRefused (start 100 0) olderAfterRestart ∧
      ¬ Always step StaysRefused (start 100 0) waitRestarted := by
  refine ⟨fun h => ?_, fun h => ?_, fun h => ?_⟩
  · obtain ⟨hc, -⟩ := h (askedAfterExpiry.take 2) (.verdict (some [7])) [] _ _ rfl rfl rfl
      (some [7]) rfl rfl
    obtain ⟨_, hm, -⟩ := hc [7] rfl [] ⟨[[7]], 100, 1000⟩ [] rfl (by decide)
    cases hm
  · obtain ⟨hc, -⟩ := h (olderAfterRestart.take 4) (.verdict (some [7])) [] _ _ rfl rfl rfl
      (some [7]) rfl rfl
    obtain ⟨later, hm, hlt, -⟩ := hc [7] rfl [⟨[], 50, 2000⟩] ⟨[[7]], 100, 1000⟩ [] rfl (by decide)
    obtain rfl := mem_singleton.1 hm
    exact absurd hlt (by decide)
  · obtain ⟨-, hw⟩ := h (waitRestarted.take 3) (.verdict (some [8])) [] _ _ rfl rfl rfl
      (some [8]) rfl rfl
    exact absurd (hw 0 mem_cons_self) (by decide)

end Zecurity.CrlRevocation
