import Vex.Library.JsonText
import Vex.Library.Spelling
import Vex.Runtime.Missions

/-!
# The digests of an approval

The request digest, the comparison of previews and the authority digest of a
Studio approval all go over one canonical form: every object is rebuilt by
assigning its projected members, sorted by key, onto an object literal, and the
result is stringified. A member called `__proto__`, which `JSON.parse` creates
like any other, does not survive the assignment: the literal's setter takes it.

`seen` is what is left of a value; the canonical text shows exactly that
(`canonical_text_eq_iff`).
-/

namespace Vex.Approvals

open Vex.Library
open Vex.Library.Json
open Vex.Runtime (Permission)

variable {ν : Type}

/-! ## Values and records -/

/-- A value of the language: no object in it has a key twice. -/
abbrev JsonValue (ν : Type) := { value : Json ν // Plain value }

/-- `Record<string, unknown>`. -/
structure JsonRecord (ν : Type) where
  members : List (JsString × Json ν)
  plain : Plain (.object members)

namespace JsonRecord

def value (record : JsonRecord ν) : Json ν := .object record.members

/-- `record[key]`, for a key that is on no prototype. -/
def get (record : JsonRecord ν) (key : JsString) : Json ν := Json.get record.members key

end JsonRecord

/-! ## The canonical form -/

/-- `a < b ? -1 : a > b ? 1 : 0`. -/
def compareStrings (a b : JsString) : Int :=
  if codes a < codes b then -1 else if codes b < codes a then 1 else 0

/-- `"__proto__"`. -/
def protoKey : JsString := [95, 95, 112, 114, 111, 116, 111, 95, 95]

/-- `out[key] = value` on an object literal: the setter of `__proto__` makes no member,
a member with the key is written over, and any other is added behind the rest. -/
def assign (out : List (JsString × Json ν)) (key : JsString) (value : Json ν) :
    List (JsString × Json ν) :=
  if key = protoKey then out
  else if key ∈ keys out then
    out.map fun member => if member.1 = key then (key, value) else member
  else out ++ [(key, value)]

/-- The members of a canonical object, from the projected members of its source. -/
def canonicalMembers (projected : List (JsString × Json ν)) : List (JsString × Json ν) :=
  (sortBy (fun first second => compareStrings first.1 second.1) projected).foldl
    (fun out member => if member.2.isUndefined then out else assign out member.1 member.2) []

/-- The key-sorted projection of a value: arrays keep their order, scalars pass through,
and objects are built anew by assignment. -/
def canonicalizeJsonValue : Json ν → Json ν :=
  rebuild { scalar := id, item := id, members := canonicalMembers }

section Digests

variable (sha256 : List UInt8 → List UInt8) (numbers : NumberText ν)

/-- `createHash("sha256").update(JSON.stringify(value)).digest("hex")`; `none` where there is
no text to hash, at which `update` throws. -/
def hashOf (value : Json ν) : Option JsString :=
  (stringify numbers value).map fun text =>
    JsString.units (JsString.hexText (sha256 (JsString.encodeText text)))

def computeRequestDigest (envelope : JsonRecord ν) : Option JsString :=
  hashOf sha256 numbers (canonicalizeJsonValue envelope.value)

/-- A row from before the column carries no digest, and is not refused. -/
def approvalRequestDigestMatches (rawToolCall : JsonRecord ν) (storedDigest : Option JsString) :
    Bool :=
  storedDigest.all fun digest => computeRequestDigest sha256 numbers rawToolCall == some digest

def approvalPreviewExactlyMatches (expected : JsonRecord ν) (stored : JsonValue ν) : Bool :=
  stringify numbers (canonicalizeJsonValue expected.value) ==
    stringify numbers (canonicalizeJsonValue stored.val)

def studioAuthorityDigestVersion : JsString := JsString.ofString "studio-authority-v1"

structure StudioAuthorityDigestInput (ν : Type) where
  envelope : JsonRecord ν
  preview : JsonValue ν
  expiresAt : JsString
  sessionId : JsString
  projectId : JsString
  scopeVersion : ν
  permission : Permission

def permissionText : Permission → JsString
  | .restricted => JsString.ofString "restricted"
  | .full => JsString.ofString "full"

/-- The string a value is, where `typeof value === "string"`. -/
def stringOf : Json ν → Option JsString
  | .string value => some value
  | _ => none

/-- The tool an envelope names: its metadata block, or else its command or its name. -/
def studioManifestIdentity (envelope : JsonRecord ν) : Json ν :=
  if (envelope.get (JsString.ofString "vex")).isUndefined then
    .object [ (JsString.ofString "kind", .string (JsString.ofString "internal")),
      (JsString.ofString "command",
        match stringOf (envelope.get (JsString.ofString "command")) with
        | some command => .string command
        | none =>
          match stringOf (envelope.get (JsString.ofString "name")) with
          | some name => .string name
          | none => .null)]
  else
    .object [ (JsString.ofString "kind", .string (JsString.ofString "protocol")),
      (JsString.ofString "metadata", envelope.get (JsString.ofString "vex"))]

def studioAuthorityPreimage (input : StudioAuthorityDigestInput ν) : Json ν :=
  .object [ (JsString.ofString "version", .string studioAuthorityDigestVersion),
    (JsString.ofString "origin", .string (JsString.ofString "studio_mcp")),
    (JsString.ofString "sessionId", .string input.sessionId),
    (JsString.ofString "projectId", .string input.projectId),
    (JsString.ofString "scopeVersion", .number input.scopeVersion),
    (JsString.ofString "permission", .string (permissionText input.permission)),
    (JsString.ofString "expiresAt", .string input.expiresAt),
    (JsString.ofString "preview", input.preview.val),
    (JsString.ofString "envelope", input.envelope.value),
    (JsString.ofString "manifestIdentity", studioManifestIdentity input.envelope)]

def computeStudioAuthorityDigest (input : StudioAuthorityDigestInput ν) : Option JsString :=
  (hashOf sha256 numbers (canonicalizeJsonValue (studioAuthorityPreimage input))).map fun hash =>
    studioAuthorityDigestVersion ++ [58] ++ hash

end Digests

/-! ## What is left of a value -/

/-- A key an assignment makes a member of. -/
def survives (key : JsString) : Bool := key != protoKey

/-- The value without the members called `__proto__`, and with null for what JSON cannot
represent. -/
def seen (numbers : NumberText ν) : Json ν → Json ν :=
  rebuild {
    scalar := shown numbers.finite
    item := filled
    members := fun members => members.filter (kept survives) }

theorem shows_seen (numbers : NumberText ν) : Shows numbers.finite survives (seen numbers) where
  toSelects := selects_rebuild (fun value _ => isUndefined_shown _ value) fun _ _ =>
    List.Perm.refl _
  scalar _ alone := rebuild_scalar _ alone
  array items := rebuild_array _ items

theorem compareStrings_nonpos (a b : JsString) : compareStrings a b ≤ 0 ↔ codes a ≤ codes b := by
  rw [compareStrings]
  split_ifs with below above
  · exact iff_of_true (by decide) below.le
  · exact iff_of_false (by decide) (not_le.2 above)
  · exact iff_of_true le_rfl (not_lt.1 above)

variable {members : List (JsString × Json ν)}

theorem foldl_assign {out : List (JsString × Json ν)} (once : (keys out ++ keys members).Nodup) :
    members.foldl (fun out member =>
        if member.2.isUndefined then out else assign out member.1 member.2) out =
      out ++ members.filter (kept survives) := by
  induction members generalizing out with
  | nil => simp
  | cons member members ih =>
    obtain ⟨key, value⟩ := member
    have fresh : key ∉ keys out := fun inside =>
      (List.nodup_append.1 once).2.2 key inside key List.mem_cons_self rfl
    have rest : (keys out ++ keys members).Nodup :=
      once.sublist (List.Sublist.append_left (List.sublist_cons_self _ _) _)
    have added : (keys (out ++ [(key, value)]) ++ keys members).Nodup := by
      have moved : keys (out ++ [(key, value)]) ++ keys members =
          keys out ++ keys ((key, value) :: members) := by
        simp [keys]
      rw [moved]
      exact once
    rw [List.foldl_cons, List.filter_cons]
    cases gap : value.isUndefined with
    | true =>
      rw [if_pos rfl, ih rest, if_neg (by simp [kept, gap])]
    | false =>
      by_cases proto : key = protoKey
      · rw [if_neg Bool.false_ne_true, assign, if_pos proto, ih rest,
          if_neg (by simp [kept, survives, proto])]
      · rw [if_neg Bool.false_ne_true, assign, if_neg proto, if_neg fresh, ih added,
          if_pos (by simp [kept, survives, proto, gap]), List.append_assoc]
        rfl

theorem canonicalMembers_eq (once : (keys members).Nodup) : canonicalMembers members =
      (sortBy (fun first second => compareStrings first.1 second.1) members).filter
        (kept survives) := by
  have perm : (sortBy (fun first second => compareStrings first.1 second.1) members).Perm members :=
    List.perm_insertionSort _ _
  rw [canonicalMembers, foldl_assign, List.nil_append]
  simpa [keys] using (perm.map Prod.fst).nodup_iff.2 once

theorem selects_canonicalize : Selects survives (canonicalizeJsonValue (ν := ν)) :=
  selects_rebuild (fun _ _ => rfl) fun members once => by
    show (canonicalMembers members).Perm _
    rw [canonicalMembers_eq once]
    exact (List.perm_insertionSort _ members).filter _

theorem canonicalize_object (once : (keys members).Nodup) :
    canonicalizeJsonValue (.object members) =
      .object ((sortBy (fun first second => compareStrings first.1 second.1)
        (members.map fun member => (member.1, canonicalizeJsonValue member.2))).filter
          (kept survives)) := by
  have projectedOnce : (keys (members.map fun member =>
      (member.1, canonicalizeJsonValue member.2))).Nodup := by
    rw [keys, List.map_map]
    exact once
  rw [← canonicalMembers_eq projectedOnce]
  exact rebuild_object _ members

theorem shows_canonical (numbers : NumberText ν) :
    Shows numbers.finite survives fun value => written numbers (canonicalizeJsonValue value) where
  toSelects := by
    have both := selects_canonicalize.comp (shows_written numbers).toSelects
    simpa only [Bool.and_true] using both
  scalar value alone := by
    rw [canonicalizeJsonValue, rebuild_scalar _ alone]
    exact (shows_written numbers).scalar value alone
  array items := by
    rw [canonicalizeJsonValue, rebuild_array, (shows_written numbers).array, List.map_map]
    rfl

theorem arranged_canonical (numbers : NumberText ν) {value : Json ν} (plain : Plain value) :
    Throughout Arranged (written numbers (canonicalizeJsonValue value)) := by
  induction plain with
  | @intro value once inside ih =>
    cases alone : value.isScalar with
    | true =>
      rw [(shows_canonical numbers).scalar value alone]
      exact throughout_of_scalar (isScalar_shown _ alone) (arranged_of_scalar (isScalar_shown _ alone))
    | false =>
      cases value with
      | array items =>
        rw [(shows_canonical numbers).array]
        refine .intro trivial fun child inItems => ?_
        obtain ⟨item, member, rfl⟩ := List.mem_map.1 inItems
        exact (ih item member).filled trivial
      | object members =>
        rw [canonicalize_object once, written_object]
        have sorted : (sortBy (fun first second => compareStrings first.1 second.1)
            (members.map fun member => (member.1, canonicalizeJsonValue member.2))).Pairwise
              fun first second => codes first.1 ≤ codes second.1 :=
          sortBy_pairwise fun first _ second _ => compareStrings_nonpos first.1 second.1
        refine .intro ⟨_, ?_, rfl⟩ fun child listed => ?_
        · exact List.Pairwise.filter _ (List.pairwise_map.2 (sorted.filter _))
        · obtain ⟨member, inListed, rfl⟩ := List.mem_map.1 listed
          obtain ⟨inKept, -⟩ := List.mem_filter.1 ((enumerate_perm _).mem_iff.1 inListed)
          obtain ⟨projected, inCanonical, rfl⟩ := List.mem_map.1 inKept
          rw [List.mem_filter, mem_sortBy] at inCanonical
          obtain ⟨own, inOwn, rfl⟩ := List.mem_map.1 inCanonical.1
          exact ih own.2 (List.mem_map_of_mem (f := Prod.snd) inOwn)
      | undefined | null | bool | number | string => cases alone

variable {numbers : NumberText ν}

theorem canonical_text_eq_iff {value other : Json ν} (plain : Plain value) (plain' : Plain other) :
    stringify numbers (canonicalizeJsonValue value) =
        stringify numbers (canonicalizeJsonValue other) ↔
      Same (seen numbers value) (seen numbers other) := by
  have shows := shows_canonical numbers
  have one := (shows_seen numbers).same shows (.refl plain) plain plain
  have two := (shows_seen numbers).same shows (.refl plain') plain' plain'
  rw [stringify_eq_iff]
  constructor
  · intro equal
    rw [equal] at one
    exact one.trans two.symm
  · intro same
    exact ((one.symm.trans same).trans two).eq_of_arranged (shows.plain plain)
      (arranged_canonical numbers plain) (arranged_canonical numbers plain')

theorem hashOf_eq_iff {sha256 : List UInt8 → List UInt8} (injective : Function.Injective sha256)
    {value other : Json ν} :
    hashOf sha256 numbers value = hashOf sha256 numbers other ↔
      stringify numbers value = stringify numbers other := by
  constructor
  · intro same
    rw [hashOf, hashOf] at same
    cases one : stringify numbers value with
    | none =>
      rw [one] at same
      cases two : stringify numbers other with
      | none => rfl
      | some text => rw [two] at same; cases same
    | some text =>
      rw [one] at same
      cases two : stringify numbers other with
      | none => rw [two] at same; cases same
      | some text' =>
        rw [two, Option.map_some, Option.map_some, Option.some.injEq] at same
        have digests := congrArg JsString.scalars same
        rw [JsString.scalars_units, JsString.scalars_units] at digests
        have bytes := injective (JsString.hexText_injective digests)
        rw [JsString.encodeText_inj (isWellFormed_of_stringify one)
          (isWellFormed_of_stringify two) bytes]
  · intro same
    rw [hashOf, hashOf, same]

end Vex.Approvals
