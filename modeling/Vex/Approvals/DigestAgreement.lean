import Vex.Approvals.EnvelopeDigest

/-!
# What the digests of an approval tell apart

Two envelopes, two previews and two Studio authority inputs have one digest
exactly when the same is seen of them, which is weaker than being the same: a
member called `__proto__` is out of sight, and so is which number JSON cannot
represent. Away from such differences the digest is equality up to the order of
members (`digests_agree_iff`). Writing a value to a JSONB column and reading it
back changes nothing that is seen, so a digest taken before is the one taken
after.
-/

namespace Vex.Approvals

open Vex.Library
open Vex.Library.Json
open Vex.Runtime (Permission)

variable {ν : Type}

/-- The two are not the same, and their difference is out of sight. -/
def DifferOutOfSight (numbers : NumberText ν) (value other : Json ν) : Prop :=
  ¬ Same value other ∧ Same (seen numbers value) (seen numbers other)

/-- A column holds the value as `JSON.stringify` wrote it, and it is read back with its
members in the column's own order. -/
def ReadBack (numbers : NumberText ν) (value stored : Json ν) : Prop :=
  Same (written numbers value) stored

variable {numbers : NumberText ν}

theorem agrees_iff {value other : Json ν} (plain : Plain value) (plain' : Plain other)
    {equal : Prop} (tells : equal ↔ Same (seen numbers value) (seen numbers other)) :
    (equal ↔ Same value other) ↔ ¬ DifferOutOfSight numbers value other := by
  have shown (same : Same value other) := (shows_seen numbers).same (shows_seen numbers) same
    plain plain'
  rw [tells, DifferOutOfSight]
  constructor
  · exact fun agrees differ => differ.1 (agrees.1 differ.2)
  · intro inSight
    exact ⟨fun seenSame => not_not.1 fun differ => inSight ⟨differ, seenSame⟩, shown⟩

variable {members : List (JsString × Json ν)}

theorem plain_object (once : (keys members).Nodup) (each : ∀ member ∈ members, Plain member.2) :
    Plain (.object members) := by
  refine .intro once fun child inside => ?_
  obtain ⟨member, inMembers, rfl⟩ := List.mem_map.1 inside
  exact each member inMembers

theorem plain_string (text : JsString) : Plain (.string text : Json ν) :=
  throughout_of_scalar rfl trivial

/-! ## A member that is out of sight -/

/-- `{"command":"swap","args":{"amount":"1"}}`. -/
def swapEnvelope : JsonRecord Nat where
  members := [ (JsString.ofString "command", .string (JsString.ofString "swap")),
    (JsString.ofString "args", .object [
      (JsString.ofString "amount", .string (JsString.ofString "1"))])]
  plain := by
    refine plain_object (by decide) ?_
    simp only [List.forall_mem_cons]
    refine ⟨plain_string _, plain_object (by decide) ?_, List.forall_mem_nil _⟩
    simp only [List.forall_mem_cons]
    exact ⟨plain_string _, List.forall_mem_nil _⟩

/-- `{"command":"swap","args":{"amount":"1","__proto__":"50"}}`. -/
def protoEnvelope : JsonRecord Nat where
  members := [ (JsString.ofString "command", .string (JsString.ofString "swap")),
    (JsString.ofString "args", .object [
      (JsString.ofString "amount", .string (JsString.ofString "1")),
      (protoKey, .string (JsString.ofString "50"))])]
  plain := by
    refine plain_object (by decide) ?_
    simp only [List.forall_mem_cons]
    refine ⟨plain_string _, plain_object (by decide) ?_, List.forall_mem_nil _⟩
    simp only [List.forall_mem_cons]
    exact ⟨plain_string _, plain_string _, List.forall_mem_nil _⟩

theorem seen_same :
    seen wholeNumbers protoEnvelope.value = seen wholeNumbers swapEnvelope.value := rfl

theorem swapEnvelope_ne_protoEnvelope : ¬ Same swapEnvelope.value protoEnvelope.value := by
  intro same
  cases same with
  | object named each =>
    have args := each (JsString.ofString "args") _ _ (List.mem_cons_of_mem _ List.mem_cons_self)
      (List.mem_cons_of_mem _ List.mem_cons_self)
    cases args with
    | object named each => exact absurd named.length_eq (by decide)

/-- Two envelopes that are not the same have one digest: one of them has a member called
`__proto__` among its arguments. -/
theorem proto_member_not_digested : (∀ sha256 : List UInt8 → List UInt8,
      computeRequestDigest sha256 wholeNumbers swapEnvelope =
        computeRequestDigest sha256 wholeNumbers protoEnvelope) ∧
    ¬ Same swapEnvelope.value protoEnvelope.value := by
  refine ⟨fun sha256 => ?_, swapEnvelope_ne_protoEnvelope⟩
  have texts := (@canonical_text_eq_iff _ wholeNumbers _ _ swapEnvelope.plain
    protoEnvelope.plain).2 (seen_same ▸ .refl ((shows_seen wholeNumbers).plain protoEnvelope.plain))
  rw [computeRequestDigest, computeRequestDigest, hashOf, hashOf]
  exact congrArg _ texts

/-- The envelope as a column gives it back, the shorter key first. -/
def storedEnvelope : JsonRecord Nat where
  members := protoEnvelope.members.reverse
  plain := by
    refine plain_object (by decide) fun member inside => ?_
    exact protoEnvelope.plain.member (List.mem_reverse.1 inside)

theorem storedEnvelope_readBack :
    ReadBack wholeNumbers protoEnvelope.value storedEnvelope.value := by
  have itself : written wholeNumbers protoEnvelope.value = protoEnvelope.value := rfl
  rw [ReadBack, itself]
  exact .of_perm protoEnvelope.plain (List.reverse_perm _).symm

/-! ## The Studio authority -/

def StudioAuthorityDigestInput.value (input : StudioAuthorityDigestInput ν) : Json ν :=
  .object [ (JsString.ofString "envelope", input.envelope.value),
    (JsString.ofString "preview", input.preview.val),
    (JsString.ofString "expiresAt", .string input.expiresAt),
    (JsString.ofString "sessionId", .string input.sessionId),
    (JsString.ofString "projectId", .string input.projectId),
    (JsString.ofString "scopeVersion", .number input.scopeVersion),
    (JsString.ofString "permission", .string (permissionText input.permission))]

theorem plain_get (record : JsonRecord ν) (key : JsString) : Plain (record.get key) := by
  rcases get_cases record.members key with ⟨-, none⟩ | found
  · rw [JsonRecord.get, none]
    exact throughout_of_scalar rfl trivial
  · exact record.plain.member found

theorem plain_value (input : StudioAuthorityDigestInput ν) : Plain input.value := by
  refine plain_object (by simp only [keys, List.map_cons, List.map_nil]; decide) ?_
  simp only [List.forall_mem_cons]
  exact ⟨input.envelope.plain, input.preview.2, plain_string _, plain_string _, plain_string _,
    throughout_of_scalar rfl trivial, plain_string _, List.forall_mem_nil _⟩

theorem plain_identity (envelope : JsonRecord ν) : Plain (studioManifestIdentity envelope) := by
  rw [studioManifestIdentity]
  split
  · refine plain_object (by simp only [keys, List.map_cons, List.map_nil]; decide) ?_
    simp only [List.forall_mem_cons]
    refine ⟨plain_string _, ?_, List.forall_mem_nil _⟩
    split
    · exact plain_string _
    · split
      · exact plain_string _
      · exact throughout_of_scalar rfl trivial
  · refine plain_object (by simp only [keys, List.map_cons, List.map_nil]; decide) ?_
    simp only [List.forall_mem_cons]
    exact ⟨plain_string _, plain_get envelope _, List.forall_mem_nil _⟩

theorem plain_preimage (input : StudioAuthorityDigestInput ν) :
    Plain (studioAuthorityPreimage input) := by
  refine plain_object (by simp only [keys, List.map_cons, List.map_nil]; decide) ?_
  simp only [List.forall_mem_cons]
  exact ⟨plain_string _, plain_string _, plain_string _, plain_string _,
    throughout_of_scalar rfl trivial, plain_string _, plain_string _, input.preview.2,
    input.envelope.plain, plain_identity input.envelope, List.forall_mem_nil _⟩

theorem same_seen_fields {others : List (JsString × Json ν)} (named : keys members = keys others)
    (once : (keys members).Nodup) (sight : ∀ key ∈ keys members, survives key = true) :
    Same (seen numbers (.object members)) (seen numbers (.object others)) ↔
      List.Forall₂ (fun member other => Same (seen numbers member.2) (seen numbers other.2))
        members others := by
  have gap : Same (seen numbers (.undefined : Json ν)) (seen numbers .undefined) := by
    rw [(shows_seen numbers).scalar _ rfl]
    exact .scalar rfl
  rw [(shows_seen numbers).same_object_iff once (named ▸ once),
    ← @forall_get_iff _ _ (fun value other => Same (seen numbers value) (seen numbers other)) gap _
      named once]
  constructor
  · intro each key
    by_cases hidden : survives key = true
    · exact each key hidden
    · have absent (own : List (JsString × Json ν)) (sight : ∀ key ∈ keys own, survives key = true) :
          Json.get own key = .undefined :=
        (get_cases own key).elim And.right
          fun found => absurd (sight key (mem_keys.2 ⟨_, found⟩)) hidden
      rw [absent members sight, absent others (named ▸ sight)]
      exact gap
  · exact fun each key _ => each key

theorem seen_string (numbers : NumberText ν) (text : JsString) :
    seen numbers (.string text) = .string text := (shows_seen numbers).scalar _ rfl

theorem same_seen_string {text other : JsString} :
    Same (seen numbers (.string text)) (seen numbers (.string other)) ↔ text = other := by
  rw [seen_string, seen_string]
  constructor
  · intro same
    cases same with
    | scalar _ => rfl
  · rintro rfl
    exact .scalar rfl

theorem stringOf_seen (numbers : NumberText ν) (value : Json ν) :
    stringOf (seen numbers value) = stringOf value := by
  cases value with
  | array items =>
    rw [(shows_seen numbers).array]
    rfl
  | object members =>
    rw [seen, rebuild_object]
    rfl
  | number value =>
    rw [(shows_seen numbers).scalar _ rfl, shown]
    split <;> rfl
  | undefined | null | bool | string =>
    rw [(shows_seen numbers).scalar _ rfl]
    rfl

theorem stringOf_of_same {value other : Json ν} (same : Same value other) :
    stringOf value = stringOf other := by
  cases same <;> rfl

theorem stringOf_of_seen {value other : Json ν}
    (same : Same (seen numbers value) (seen numbers other)) : stringOf value = stringOf other := by
  rw [← stringOf_seen numbers value, stringOf_of_same same, stringOf_seen]

theorem same_seen_identity {envelope other : JsonRecord ν}
    (same : Same (seen numbers envelope.value) (seen numbers other.value)) :
    Same (seen numbers (studioManifestIdentity envelope))
      (seen numbers (studioManifestIdentity other)) := by
  have under (key : JsString) (sight : survives key = true) :
      Same (seen numbers (envelope.get key)) (seen numbers (other.get key)) :=
    ((shows_seen numbers).same_object_iff envelope.plain.here other.plain.here).1 same key sight
  have vex := under (JsString.ofString "vex") (by decide)
  have command := stringOf_of_seen (under (JsString.ofString "command") (by decide))
  have name := stringOf_of_seen (under (JsString.ofString "name") (by decide))
  have gap : (envelope.get (JsString.ofString "vex")).isUndefined =
      (other.get (JsString.ofString "vex")).isUndefined := by
    rw [← (shows_seen numbers).isUndefined, vex.isUndefined_eq, (shows_seen numbers).isUndefined]
  cases internal : (other.get (JsString.ofString "vex")).isUndefined with
  | true =>
    have equal : studioManifestIdentity envelope = studioManifestIdentity other := by
      rw [studioManifestIdentity, studioManifestIdentity, gap, internal, command, name, if_pos rfl,
        if_pos rfl]
    rw [equal]
    exact .refl ((shows_seen numbers).plain (plain_identity other))
  | false =>
    rw [studioManifestIdentity, studioManifestIdentity, gap, internal,
      if_neg Bool.false_ne_true, if_neg Bool.false_ne_true]
    refine (same_seen_fields ?_ ?_ ?_).2 (.cons (same_seen_string.2 rfl) (.cons vex .nil))
    · rfl
    · simp only [keys, List.map_cons, List.map_nil]
      decide
    · simp only [keys, List.map_cons, List.map_nil]
      decide

theorem same_seen_preimage {input other : StudioAuthorityDigestInput ν} :
    Same (seen numbers (studioAuthorityPreimage input))
        (seen numbers (studioAuthorityPreimage other)) ↔
      Same (seen numbers input.value) (seen numbers other.value) := by
  have ofPreimage : Same (seen numbers (studioAuthorityPreimage input))
      (seen numbers (studioAuthorityPreimage other)) ↔ _ :=
    same_seen_fields rfl (by simp only [keys, List.map_cons, List.map_nil]; decide)
      (by simp only [keys, List.map_cons, List.map_nil]; decide)
  have ofInput : Same (seen numbers input.value) (seen numbers other.value) ↔ _ :=
    same_seen_fields rfl (by simp only [keys, List.map_cons, List.map_nil]; decide)
      (by simp only [keys, List.map_cons, List.map_nil]; decide)
  rw [ofPreimage, ofInput]
  simp only [List.forall₂_cons, same_seen_string, List.Forall₂.nil, and_true]
  constructor
  · rintro ⟨-, -, session, project, scope, permission, expires, preview, envelope, -⟩
    exact ⟨envelope, preview, expires, session, project, scope, permission⟩
  · rintro ⟨envelope, preview, expires, session, project, scope, permission⟩
    exact ⟨trivial, trivial, session, project, scope, permission, expires, preview, envelope,
      same_seen_identity envelope⟩

/-! ## What the comparisons tell -/

section Digests

variable {sha256 : List UInt8 → List UInt8} (injective : Function.Injective sha256)
  {numbers : NumberText ν}

include injective in
theorem computeRequestDigest_eq_iff {envelope other : JsonRecord ν} :
    computeRequestDigest sha256 numbers envelope = computeRequestDigest sha256 numbers other ↔
      Same (seen numbers envelope.value) (seen numbers other.value) := by
  rw [computeRequestDigest, computeRequestDigest, hashOf_eq_iff injective]
  exact canonical_text_eq_iff envelope.plain other.plain

theorem approvalPreviewExactlyMatches_iff {expected : JsonRecord ν} {stored : JsonValue ν} :
    approvalPreviewExactlyMatches numbers expected stored = true ↔
      Same (seen numbers expected.value) (seen numbers stored.val) := by
  rw [approvalPreviewExactlyMatches, beq_iff_eq]
  exact canonical_text_eq_iff expected.plain stored.2

include injective in
theorem computeStudioAuthorityDigest_eq_iff {input other : StudioAuthorityDigestInput ν} :
    computeStudioAuthorityDigest sha256 numbers input =
        computeStudioAuthorityDigest sha256 numbers other ↔
      Same (seen numbers input.value) (seen numbers other.value) := by
  have prefixed : Function.Injective fun hash : JsString =>
    studioAuthorityDigestVersion ++ [58] ++ hash := fun _ _ same => List.append_cancel_left same
  rw [computeStudioAuthorityDigest, computeStudioAuthorityDigest,
    (Option.map_injective prefixed).eq_iff, hashOf_eq_iff injective,
    canonical_text_eq_iff (plain_preimage input) (plain_preimage other)]
  exact same_seen_preimage

theorem shows_seen_written (numbers : NumberText ν) :
    Shows numbers.finite survives fun value => seen numbers (written numbers value) where
  toSelects := by
    have both := (shows_written numbers).toSelects.comp (shows_seen numbers).toSelects
    simpa only [Bool.true_and] using both
  scalar value alone := by
    rw [(shows_written numbers).scalar value alone,
      (shows_seen numbers).scalar _ (isScalar_shown _ alone)]
    cases value with
    | number value =>
      rw [shown]
      split_ifs with finite
      · rw [shown, if_pos finite]
      · rfl
    | undefined | null | bool | string => rfl
    | array | object => cases alone
  array items := by
    rw [(shows_written numbers).array, (shows_seen numbers).array, List.map_map]
    refine congrArg Json.array (List.map_congr_left fun item _ => ?_)
    show filled (seen numbers (filled (written numbers item))) =
      filled (seen numbers (written numbers item))
    cases gap : (written numbers item).isUndefined with
    | true =>
      rw [eq_undefined gap, filled, (shows_seen numbers).scalar _ rfl,
        (shows_seen numbers).scalar _ rfl]
      rfl
    | false => rw [filled_of_defined gap]

theorem ReadBack.seen {value stored : Json ν} (readBack : ReadBack numbers value stored)
    (plain : Plain value) (plain' : Plain stored) :
    Same (seen numbers value) (seen numbers stored) := by
  have before := (shows_seen numbers).same (shows_seen_written numbers) (.refl plain) plain plain
  have after := (shows_seen numbers).same (shows_seen numbers) readBack
    ((shows_written numbers).plain plain) plain'
  exact before.trans after

theorem same_seen_readBack {input : StudioAuthorityDigestInput ν} {envelope : JsonRecord ν}
    {preview : JsonValue ν} (ofEnvelope : ReadBack numbers input.envelope.value envelope.value)
    (ofPreview : ReadBack numbers input.preview.val preview.val) :
    Same (Approvals.seen numbers { input with envelope := envelope, preview := preview }.value)
      (Approvals.seen numbers input.value) := by
  refine (same_seen_fields ?_ ?_ ?_).2 ?_
  · rfl
  · simp only [keys, List.map_cons, List.map_nil]
    decide
  · simp only [keys, List.map_cons, List.map_nil]
    decide
  · have itself {value : Json ν} (plain : Plain value) :
        Same (Approvals.seen numbers value) (Approvals.seen numbers value) :=
      .refl ((shows_seen numbers).plain plain)
    exact .cons (ofEnvelope.seen input.envelope.plain envelope.plain).symm
      (.cons (ofPreview.seen input.preview.2 preview.2).symm
        (.cons (itself (plain_string _)) (.cons (itself (plain_string _))
          (.cons (itself (plain_string _)) (.cons (itself (throughout_of_scalar rfl trivial))
            (.cons (itself (plain_string _)) .nil))))))

include injective in
/-- The digests are equality up to the order of members, unless the difference is out of
sight, and they are those of the value that is read back. -/
theorem digests_agree_iff (numbers : NumberText ν) : (∀ envelope other : JsonRecord ν,
      (computeRequestDigest sha256 numbers envelope = computeRequestDigest sha256 numbers other ↔
        Same envelope.value other.value) ↔
      ¬ DifferOutOfSight numbers envelope.value other.value) ∧
    (∀ (expected : JsonRecord ν) (stored : JsonValue ν),
      (approvalPreviewExactlyMatches numbers expected stored = true ↔
        Same expected.value stored.val) ↔
      ¬ DifferOutOfSight numbers expected.value stored.val) ∧
    (∀ input other : StudioAuthorityDigestInput ν,
      (computeStudioAuthorityDigest sha256 numbers input =
          computeStudioAuthorityDigest sha256 numbers other ↔
        Same input.value other.value) ↔
      ¬ DifferOutOfSight numbers input.value other.value) ∧
    (∀ envelope stored : JsonRecord ν, ReadBack numbers envelope.value stored.value →
      computeRequestDigest sha256 numbers stored = computeRequestDigest sha256 numbers envelope) ∧
    ∀ (input : StudioAuthorityDigestInput ν) (envelope : JsonRecord ν) (preview : JsonValue ν),
      ReadBack numbers input.envelope.value envelope.value →
      ReadBack numbers input.preview.val preview.val →
      computeStudioAuthorityDigest sha256 numbers
          { input with envelope := envelope, preview := preview } =
        computeStudioAuthorityDigest sha256 numbers input := by
  refine ⟨fun envelope other => ?_, fun expected stored => ?_, fun input other => ?_,
    fun envelope stored readBack => ?_, fun input envelope preview ofEnvelope ofPreview => ?_⟩
  · exact agrees_iff envelope.plain other.plain (computeRequestDigest_eq_iff injective)
  · exact agrees_iff expected.plain stored.2 approvalPreviewExactlyMatches_iff
  · exact agrees_iff (plain_value input) (plain_value other)
      (computeStudioAuthorityDigest_eq_iff injective)
  · exact (computeRequestDigest_eq_iff injective).2 (readBack.seen envelope.plain stored.plain).symm
  · exact (computeStudioAuthorityDigest_eq_iff injective).2
      (same_seen_readBack ofEnvelope ofPreview)

end Digests

/-- The input of an approval of the envelope, with the card of the one it looks like. -/
def protoInput : StudioAuthorityDigestInput Nat where
  envelope := protoEnvelope
  preview := ⟨swapEnvelope.value, swapEnvelope.plain⟩
  expiresAt := JsString.ofString "2026-01-01T00:05:00.000Z"
  sessionId := JsString.ofString "s1"
  projectId := JsString.ofString "p1"
  scopeVersion := 1
  permission := .restricted

theorem digests_agree_iff_proto : ¬ (computeRequestDigest id wholeNumbers swapEnvelope =
          computeRequestDigest id wholeNumbers protoEnvelope ↔
        Same swapEnvelope.value protoEnvelope.value) ∧
    computeRequestDigest id wholeNumbers storedEnvelope =
      computeRequestDigest id wholeNumbers protoEnvelope ∧
    computeStudioAuthorityDigest id wholeNumbers
        { protoInput with envelope := storedEnvelope, preview := protoInput.preview } =
      computeStudioAuthorityDigest id wholeNumbers protoInput := by
  obtain ⟨digest, -, -, readBack, studio⟩ := digests_agree_iff Function.injective_id wholeNumbers
  refine ⟨fun agrees => ?_, readBack _ _ storedEnvelope_readBack,
    studio protoInput _ _ storedEnvelope_readBack ?_⟩
  · have sameSeen : Same (seen wholeNumbers swapEnvelope.value)
        (seen wholeNumbers protoEnvelope.value) :=
      seen_same ▸ .refl ((shows_seen wholeNumbers).plain protoEnvelope.plain)
    exact (digest _ _).1 agrees ⟨swapEnvelope_ne_protoEnvelope, sameSeen⟩
  · have itself : written wholeNumbers swapEnvelope.value = swapEnvelope.value := rfl
    show Same (written wholeNumbers swapEnvelope.value) swapEnvelope.value
    rw [itself]
    exact .refl swapEnvelope.plain

end Vex.Approvals
