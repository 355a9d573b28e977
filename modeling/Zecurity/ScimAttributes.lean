import Zecurity.ScimLifecycle

/-!
What a `PUT` or a `PATCH` of a directory assigns, beside what `Zecurity.ScimLifecycle` stores of it.

A request names attributes and gives them values: the address by `emails` or `userName`, and
`active`. What it names beyond these, or with a value of another type, it should be refused for.
-/

namespace Zecurity.ScimAttributes

open FiniteMap ScimJson ScimLifecycle Users
open PostureEvaluation (trimSpace)

/-! ### What a request assigns -/

inductive Body
  | put (resource : Except String Object)
  | patch (ops : Except String (List Object))

def Body.request (id : String) : Body → Request
  | .put resource => .put id resource
  | .patch ops => .patch id ops

/-- The address and `active`, each with the value that the request gives it last, if it names it. -/
abbrev Values := Option String × Option Bool

/-- The name of an attribute as the handler compares it. -/
def nameOf (path : String) : String := toLower (trimSpace path)

/-- One attribute is assigned, where it is supported and its value has its type. -/
def assign (v : Values) (path : String) : Json → Option Values
  | .str s => if nameOf path ∈ ["emails", "username", "user_name"] then some (some s, v.2) else none
  | .bool b => if nameOf path = "active" then some (v.1, some b) else none
  | _ => none

/-- Without a path an object assigns its attributes, and a text the address. Nothing that can be
named can be removed. -/
def assignOp (v : Values) (op : Object) : Option Values :=
  let path := text op "path"
  if toUpper (text op "op") = "REMOVE" then if nameOf path = "" then some v else none
  else if nameOf path = "" then
    match (op.lookup "value").getD .null with
    | .obj fields => fields.foldlM (fun v f => assign v f.1 f.2) v
    | .str s => some (some s, v.2)
    | _ => none
  else assign v path ((op.lookup "value").getD .null)

/-- A value of the type, where there is one. -/
def typed {α : Type} (f : Json → Option α) : Option Json → Option (Option α)
  | none => some none
  | some value => (f value).map some

def assignResource (resource : Object) : Option Values :=
  if resource.all fun f => f.1 = "userName" || f.1 = "active" then do
    let userName ← typed Json.str? (resource.lookup "userName")
    let active ← typed Json.bool? (resource.lookup "active")
    some (userName.map trimSpace, active)
  else none

/-- What a request assigns in the end; nothing where it names an attribute that is not supported,
or gives one a value of another type. -/
def Body.assigned : Body → Option Values
  | .put (.ok resource) => assignResource resource
  | .patch (.ok ops) => ops.foldlM assignOp (none, none)
  | _ => none

/-- The body cannot be decoded, or has an operation of another type. -/
def Body.unreadable : Body → Bool
  | .put (.ok _) => false
  | .patch (.ok ops) => ops.any fun op => toUpper (text op "op") ∉ ["REPLACE", "ADD", "REMOVE"]
  | _ => true

/-- The request cannot be read, or it names supported attributes only, with values of their types,
an address that is not empty, and not an address and `active` both. -/
def Body.Supported (b : Body) : Prop :=
  b.unreadable = true ∨ ∃ v, b.assigned = some v ∧ v.1 ≠ some "" ∧ (v.1 = none ∨ v.2 = none)

/-- The row has these values, and is as before where none is named. -/
def Has (v : Values) (row row' : UserRow) : Prop :=
  row'.email = v.1.getD row.email ∧
    row'.status = v.2.elim row.status fun b => if b then .active else .suspended

def Stored (s s' : State) (env : Setting) (userId : String) (v : Values) : Prop :=
  ∃ id row row', (env.canonicalID userId = some id ∨ env.castUuid userId = some id) ∧
    s.users.lookup id = some row ∧ s'.users.lookup id = some row' ∧ Has v row row'

/-- The patch has the values, but for an address that is empty. -/
structure Reads (p : UserPatch) (v : Values) : Prop where
  active : p.active = v.2
  email : v.1 ≠ some "" → p.email = v.1.getD ""

/-- The attributes are ones that `Update` lets through. -/
def Known (p : UserPatch) : Prop := ∀ name ∈ p.attributes, name ∈ ["emails", "userName", "active"]

variable {p : UserPatch} {v v' : Values} {path : String} {value : Json} {q : UserPatch}
  {ops : List Object}

lemma Known.concat {name} (h : Known p) (hq : q.attributes = p.attributes ++ [name])
    (hn : name ∈ ["emails", "userName", "active"]) : Known q := by
  intro n hm
  rw [hq] at hm
  rcases List.mem_append.1 hm with hm | hm
  · exact h n hm
  · exact List.mem_singleton.1 hm ▸ hn

lemma applyPatchValue_obj (hp : nameOf path = "") (fs : Object) : applyPatchValue p path (.obj fs) =
    fs.foldl (fun p f => if trimSpace f.1 = "" then p else applyAttribute p f.1 f.2) p := by
  unfold applyPatchValue
  split
  · next hv => cases hv; rfl
  · next ho => exact (ho fs hp rfl).elim

lemma applyPatchValue_attribute (h : nameOf path = "" → ∀ fs, value ≠ .obj fs) :
    applyPatchValue p path value = applyAttribute p path value := by
  unfold applyPatchValue
  split
  · next hp => exact absurd rfl (h hp _)
  · rfl

lemma nameOf_eq_empty (h : trimSpace path = "") : nameOf path = "" := by
  rw [nameOf, h]
  rfl

lemma nameOf_ne_empty (h : assign v path value = some v') : nameOf path ≠ "" := by
  intro hp
  cases value <;> simp [assign, hp] at h

lemma Reads.assign (h : Reads p v) (ha : assign v path value = some v') :
    Reads (applyAttribute p path value) v' := by
  unfold ScimAttributes.assign nameOf at ha
  unfold applyAttribute
  dsimp only
  split at ha
  · split_ifs at ha with hc
    cases ha
    simp only [List.mem_cons, List.not_mem_nil, or_false] at hc
    rcases hc with hc | hc | hc
    · simp only [hc, or_true, if_true]
      split_ifs with hs
      · exact ⟨h.active, fun hne => absurd (congrArg some hs) hne⟩
      · exact ⟨h.active, fun _ => rfl⟩
    all_goals exact ⟨by simp [hc, h.active], by simp [hc]⟩
  · split_ifs at ha with hc
    cases ha
    exact ⟨by simp [hc], by simpa [hc] using h.email⟩
  · cases ha

lemma Reads.bare {t : String} (h : Reads p v) (hp : nameOf path = "") :
    Reads (applyAttribute p path (.str t)) (some t, v.2) := by
  unfold nameOf at hp
  unfold applyAttribute
  simp only [hp, true_or, if_true]
  split_ifs with hs
  · exact ⟨h.active, fun hne => absurd (congrArg some hs) hne⟩
  · exact ⟨h.active, fun _ => rfl⟩

lemma Reads.fields {fs : Object} (h : Reads p v)
    (ha : fs.foldlM (fun v f => ScimAttributes.assign v f.1 f.2) v = some v') :
    Reads (fs.foldl
      (fun p f => if trimSpace f.1 = "" then p else applyAttribute p f.1 f.2) p) v' := by
  induction fs generalizing p v with
  | nil =>
    cases ha
    exact h
  | cons f fs ih =>
    obtain ⟨w, hw, ha⟩ := Option.bind_eq_some_iff.1 ha
    rw [List.foldl_cons, if_neg fun hp => nameOf_ne_empty hw (nameOf_eq_empty hp)]
    exact ih (h.assign hw) ha

lemma Reads.pathless (h : Reads p v) (hp : nameOf path = "")
    (ha : (match value with
      | .obj fields => fields.foldlM (fun v f => ScimAttributes.assign v f.1 f.2) v
      | .str s => some (some s, v.2)
      | _ => none) = some v') : Reads (applyPatchValue p path value) v' := by
  cases value with
  | obj fs =>
    rw [applyPatchValue_obj hp]
    exact h.fields ha
  | str t =>
    cases ha
    rw [applyPatchValue_attribute fun _ _ => by simp]
    exact h.bare hp
  | _ => cases ha

lemma Reads.op {op} (h : Reads p v) (ha : assignOp v op = some v') (hq : applyOp p op = .ok q) :
    Reads q v' := by
  simp only [applyOp] at hq
  simp only [assignOp] at ha
  by_cases hr : toUpper (text op "op") = "REMOVE"
  · -- a removal, which has no path
    grind
  · rw [if_neg hr] at ha
    obtain ⟨-, hq⟩ | ⟨-, hq⟩ := ite_eq_iff.1 hq
    swap
    · rw [if_neg hr] at hq
      cases hq
    rw [← Except.ok.inj hq]
    by_cases hp : nameOf (text op "path") = ""
    · rw [if_pos hp] at ha
      exact h.pathless hp ha
    · rw [if_neg hp] at ha
      rw [applyPatchValue_attribute fun hp' => absurd hp' hp]
      exact h.assign ha

variable {s s' : State} {env : Setting} {sc : Scope} {userId : String}

end Zecurity.ScimAttributes
